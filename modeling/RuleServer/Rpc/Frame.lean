import RuleServer.Host.IoFault
import RuleServer.Json.Printer
import RuleServer.Text.Blank
import RuleServer.Text.Utf8

/-!
Frames on a byte stream: header lines, one of which gives the length of the payload, an empty line,
and the payload. Reading takes one frame off the front of the stream.
-/

namespace RuleServer

/-- Why bytes are not a frame. -/
inductive FrameFault
  | headerNotUtf8
  | lineTooLong
  | endedInHeader
  | missingLength
  | malformedHeader (line : String)
  | invalidLength (value : String) (fault : NumeralFault)
  | zeroLength
  | lengthTooLarge (length : Nat)
  | endedInPayload (length : Nat)
deriving DecidableEq, Repr

namespace Frame

def lineLimit : Nat := 8192

def payloadLimit : Nat := 67108864

end Frame

namespace FrameFault

def message : FrameFault → String
  | headerNotUtf8 => "header is not valid UTF-8"
  | lineTooLong => "header line exceeds " ++ decimalText Frame.lineLimit ++ " bytes"
  | endedInHeader => "stream ended inside message header"
  | missingLength => "missing Content-Length header"
  | malformedHeader line => "malformed header line: " ++ quoted line
  | invalidLength value fault => "invalid Content-Length " ++ quoted value ++ ": " ++ fault.message
  | zeroLength => "Content-Length must be positive"
  | lengthTooLarge length =>
    "Content-Length " ++ decimalText length ++ " exceeds limit of " ++
      decimalText Frame.payloadLimit ++ " bytes"
  | endedInPayload length =>
    "stream ended before " ++ decimalText length ++ " payload bytes were read"

end FrameFault

inductive ReadFault
  | framing (fault : FrameFault)
  | io (fault : IoFault)
deriving DecidableEq, Repr

/-- A stream of bytes that ends after them, or fails. -/
structure ByteStream where
  bytes : Bytes
  failure : Option IoFault := none

namespace Frame

/-- The bytes up to and with the first LF, at most `limit` of them, and the bytes after these. -/
def takeLine : (limit : Nat) → Bytes → Bytes × Bytes
  | 0, s => ([], s)
  | _, [] => ([], [])
  | limit + 1, b :: s =>
    if b = 10 then ([b], s)
    else
      let (line, rest) := takeLine limit s
      (b :: line, rest)

def isLineEnd (c : Char) : Bool :=
  c = '\r' || c = '\n'

def stripLineEnd (line : List Char) : List Char :=
  (line.reverse.dropWhile isLineEnd).reverse

/-- The key and the value of a header line: what stands before its first blank, and what stands
after it but for blanks around; neither may be empty. -/
def headerField? (line : List Char) : Option (List Char × List Char) :=
  match cutWhere? isBlank line with
  | none => none
  | some (key, value) =>
    let value := trim value
    if key = [] ∨ value = [] then none else some (key, value)

def lengthKey : List Char := "Content-Length:".toList

def payloadLength (value : List Char) : Except FrameFault Nat :=
  match readNumeral (maxUnsigned 64) value with
  | .error fault => .error (.invalidLength (String.ofList value) fault)
  | .ok n =>
    if n = 0 then .error .zeroLength
    else if payloadLimit < n then .error (.lengthTooLarge n)
    else .ok n

/-- The length known after one more header line. -/
def afterField (length : Option Nat) (line : List Char) : Except FrameFault (Option Nat) :=
  match headerField? line with
  | none => .error (.malformedHeader (String.ofList line))
  | some (key, value) => if key = lengthKey then (payloadLength value).map some else .ok length

def isWhole (line : Bytes) : Bool :=
  line.getLast? == some 10

def checkLine (line : Bytes) : Except FrameFault (List Char) :=
  match Utf8.decode? line with
  | none => .error .headerNotUtf8
  | some cs =>
    if !isWhole line && lineLimit ≤ line.length then .error .lineTooLong
    else .ok (stripLineEnd cs)

/-- The text of a header line; a line that the stream's failure cut short has none. -/
def lineText (failure : Option IoFault) (line : Bytes) : Except ReadFault (List Char) :=
  match failure with
  | some fault =>
    if !isWhole line && line.length < lineLimit then .error (.io fault)
    else (checkLine line).mapError .framing
  | none => (checkLine line).mapError .framing

/-- The header lines of a frame, through the empty line: the length of the payload and the bytes
from there on. Nothing when the stream ends before the first line. -/
def readHeader (failure : Option IoFault) :
    (fuel : Nat) → (first : Bool) → (length : Option Nat) → Bytes →
      Except ReadFault (Option (Nat × Bytes))
  | 0, _, _, _ => .error (.framing .endedInHeader)
  | _ + 1, first, _, [] =>
    match failure with
    | some fault => .error (.io fault)
    | none => if first then .ok none else .error (.framing .endedInHeader)
  | fuel + 1, _, length, b :: s =>
    let (line, rest) := takeLine lineLimit (b :: s)
    match lineText failure line with
    | .error fault => .error fault
    | .ok [] =>
      match length with
      | some n => .ok (some (n, rest))
      | none => .error (.framing .missingLength)
    | .ok text =>
      match afterField length text with
      | .error fault => .error (.framing fault)
      | .ok length => readHeader failure fuel false length rest

/-- The next payload and the rest of the stream; nothing at the end of the stream. -/
def read (stream : ByteStream) : Except ReadFault (Option (Bytes × ByteStream)) :=
  match readHeader stream.failure (stream.bytes.length + 1) true none stream.bytes with
  | .error fault => .error fault
  | .ok none => .ok none
  | .ok (some (n, s)) =>
    if s.length < n then
      match stream.failure with
      | some fault => .error (.io fault)
      | none => .error (.framing (.endedInPayload n))
    else .ok (some (s.take n, { stream with bytes := s.drop n }))

/-- How a stream of frames came to its end. -/
inductive End
  | clean
  | failed (fault : ReadFault)

def readAllFrom : (fuel : Nat) → ByteStream → List Bytes × End
  | 0, _ => ([], .clean)
  | fuel + 1, stream =>
    match read stream with
    | .error fault => ([], .failed fault)
    | .ok none => ([], .clean)
    | .ok (some (payload, rest)) =>
      let (payloads, ending) := readAllFrom fuel rest
      (payload :: payloads, ending)

def readAll (stream : ByteStream) : List Bytes × End :=
  readAllFrom (stream.bytes.length + 1) stream

def wrap (payload : Bytes) : Bytes :=
  utf8Bytes ("Content-Length: " ++ decimalText payload.length ++ "\r\n\r\n") ++ payload

def ofJson (value : Json) : Bytes :=
  wrap (Utf8.encode value.render)

end Frame

end RuleServer
