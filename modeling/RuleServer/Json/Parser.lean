import RuleServer.Json.Basic
import RuleServer.Text.Utf8
import RuleServer.Text.Numeral

/-!
JSON values from bytes. A reader gives the bytes it left over; a failure gives its cause and the
bytes that were left when it was noticed, from which its line and column follow.
-/

namespace RuleServer

/-- Why bytes are not a JSON value. -/
inductive JsonCause
  | endOfValue
  | endOfList
  | endOfObject
  | endOfString
  | expectedValue
  | expectedIdent
  | expectedColon
  | expectedListEnd
  | expectedObjectEnd
  | keyNotString
  | trailingComma
  | trailingCharacters
  | invalidNumber
  | numberOutOfRange
  | controlCharacter
  | invalidEscape
  | unfinishedSurrogate
  | loneSurrogate
  | invalidUnicode
  | tooDeep
deriving DecidableEq, Repr

namespace JsonCause

def message : JsonCause → String
  | endOfValue => "EOF while parsing a value"
  | endOfList => "EOF while parsing a list"
  | endOfObject => "EOF while parsing an object"
  | endOfString => "EOF while parsing a string"
  | expectedValue => "expected value"
  | expectedIdent => "expected ident"
  | expectedColon => "expected `:`"
  | expectedListEnd => "expected `,` or `]`"
  | expectedObjectEnd => "expected `,` or `\x7d`"
  | keyNotString => "key must be a string"
  | trailingComma => "trailing comma"
  | trailingCharacters => "trailing characters"
  | invalidNumber => "invalid number"
  | numberOutOfRange => "number out of range"
  | controlCharacter => "control character (\\u0000-\\u001F) found while parsing a string"
  | invalidEscape => "invalid escape"
  | unfinishedSurrogate => "unexpected end of hex escape"
  | loneSurrogate => "lone leading surrogate in hex escape"
  | invalidUnicode => "invalid unicode code point"
  | tooDeep => "recursion limit exceeded"

end JsonCause

/-- A failure to read JSON, with the place at which it was noticed. -/
structure JsonFault where
  cause : JsonCause
  line : Nat
  column : Nat
deriving DecidableEq, Repr

namespace JsonFault

def message (f : JsonFault) : String :=
  f.cause.message ++ " at line " ++ decimalText f.line ++ " column " ++ decimalText f.column

/-- The place after the given bytes: lines count from one, columns count the bytes of the line. -/
def after (cause : JsonCause) (consumed : Bytes) : JsonFault where
  cause := cause
  line := consumed.count 10 + 1
  column := (consumed.reverse.takeWhile (· ≠ 10)).length

end JsonFault

namespace Json.Read

/-- A cause of failure and the bytes that were left when it was noticed. -/
abbrev Stop := JsonCause × Bytes

/-- A failure noticed on looking at the next byte, which counts as read. -/
def failAt {α : Type} (cause : JsonCause) (s : Bytes) : Except Stop (α × Bytes) :=
  .error (cause, s.drop 1)

/-- A failure noticed after the byte that caused it. -/
def failAfter {α : Type} (cause : JsonCause) (rest : Bytes) : Except Stop (α × Bytes) :=
  .error (cause, rest)

def isBlankByte (b : UInt8) : Bool :=
  b = 32 || b = 10 || b = 9 || b = 13

def skipBlanks (s : Bytes) : Bytes :=
  s.dropWhile isBlankByte

def isDigitByte (b : UInt8) : Bool :=
  48 ≤ b && b ≤ 57

def ident (value : Json) : Bytes → Bytes → Except Stop (Json × Bytes)
  | [], s => .ok (value, s)
  | _ :: _, [] => failAfter .endOfValue []
  | e :: es, b :: s => if b = e then ident value es s else failAfter .expectedIdent s

def maxSignificand : Nat := maxUnsigned 64

/-- Digits appended to a significand while it has at most 64 bits. Gives the significand, how many
digits it took, how many were left out, and the rest. -/
def significand : Bytes → (value taken : Nat) → Nat × Nat × Nat × Bytes
  | [], value, taken => (value, taken, 0, [])
  | b :: s, value, taken =>
    if isDigitByte b then
      let more := value * 10 + (b.toNat - 48)
      if more ≤ maxSignificand then significand s more (taken + 1)
      else (value, taken, ((b :: s).takeWhile isDigitByte).length, (b :: s).dropWhile isDigitByte)
    else (value, taken, 0, b :: s)

def tenPower (n : Nat) : Fraction :=
  match Binary64.ofNat (tenTo n) with
  | .finite _ m e => Binary64.magnitude m e
  | _ => ⟨1, 1⟩

/-- Bring a number down by powers of ten of at most 308 places; two of these leave nothing of any
significand. -/
def scaleDown : Nat → Binary64 → Nat → Binary64
  | 0, x, _ => x
  | fuel + 1, x, places =>
    match x with
    | .finite negative m e =>
      if m = 0 then x
      else if places ≤ 308 then
        Binary64.ofFraction negative ((Binary64.magnitude m e).div (tenPower places))
      else
        scaleDown fuel
          (Binary64.ofFraction negative ((Binary64.magnitude m e).div (tenPower 308))) (places - 308)
    | _ => x

/-- The number `significand * 10 ^ exponent`, rounded once for the significand and once for the
power; nothing when it is too large. -/
def scale? (significand : Nat) (exponent : Int) : Option Binary64 :=
  let x := Binary64.ofNat significand
  match exponent with
  | .negSucc n => some (scaleDown 4 x (n + 1))
  | .ofNat n =>
    match x with
    | .finite _ m e =>
      if m = 0 then some x
      else if n ≤ 308 then
        match Binary64.ofFraction false ((Binary64.magnitude m e).mul (tenPower n)) with
        | .infinite _ => none
        | y => some y
      else none
    | _ => none

def real (negative : Bool) (significand : Nat) (exponent : Int) (rest : Bytes) : Except Stop (Json × Bytes) :=
  match scale? significand exponent with
  | some x => .ok (.number (.real (if negative then x.neg else x)), rest)
  | none => failAfter .numberOutOfRange rest

def exponentDigits (negative : Bool) (significand : Nat) (start : Int) (down : Bool) :
    Bytes → Nat → Except Stop (Json × Bytes)
  | [], n => real negative significand (if down then start - n else start + n) []
  | b :: s, n =>
    if isDigitByte b then
      let more := n * 10 + (b.toNat - 48)
      if more ≤ maxUnsigned 31 then exponentDigits negative significand start down s more
      else if significand ≠ 0 ∧ !down then failAfter .numberOutOfRange s
      else .ok (.number (.real (Binary64.zero negative)), s.dropWhile isDigitByte)
    else real negative significand (if down then start - n else start + n) (b :: s)

def exponentPart (negative : Bool) (significand : Nat) (start : Int) (s : Bytes) : Except Stop (Json × Bytes) :=
  let (down, s) := match s with
    | 43 :: r => (false, r)
    | 45 :: r => (true, r)
    | _ => (false, s)
  match s with
  | [] => failAfter .endOfValue []
  | b :: r =>
    if isDigitByte b then exponentDigits negative significand start down r (b.toNat - 48)
    else failAfter .invalidNumber r

def fractionPart (negative : Bool) (value : Nat) (start : Int) (s : Bytes) : Except Stop (Json × Bytes) :=
  match s with
  | [] => failAfter .endOfValue []
  | b :: _ =>
    if isDigitByte b then
      let (value, taken, _, rest) := significand s value 0
      let exponent := start - taken
      match rest with
      | 101 :: r | 69 :: r => exponentPart negative value exponent r
      | _ => real negative value exponent rest
    else failAt .invalidNumber s

/-- An integer with its sign: one of more than 64 bits is a real number, and so is minus zero. -/
def integer (negative : Bool) (value : Nat) : JsonNumber :=
  if negative then
    if value = 0 ∨ twoTo 63 < value then .real (Binary64.ofNat value).neg else .integer (-(value : Int))
  else .integer value

def afterInteger (negative : Bool) (value dropped : Nat) (s : Bytes) : Except Stop (Json × Bytes) :=
  match s with
  | 46 :: r => fractionPart negative value dropped r
  | 101 :: r | 69 :: r => exponentPart negative value dropped r
  | _ =>
    if dropped = 0 then .ok (.number (integer negative value), s)
    else real negative value dropped s

def number (negative : Bool) : Bytes → Except Stop (Json × Bytes)
  | [] => failAfter .endOfValue []
  | b :: s =>
    if b = 48 then
      match s with
      | d :: _ => if isDigitByte d then failAt .invalidNumber s else afterInteger negative 0 0 s
      | [] => afterInteger negative 0 0 []
    else if isDigitByte b then
      let (value, _, dropped, rest) := significand s (b.toNat - 48) 1
      afterInteger negative value dropped rest
    else failAfter .invalidNumber s

def hexValue? (b : UInt8) : Option Nat :=
  if 48 ≤ b ∧ b ≤ 57 then some (b.toNat - 48)
  else if 97 ≤ b ∧ b ≤ 102 then some (b.toNat - 87)
  else if 65 ≤ b ∧ b ≤ 70 then some (b.toNat - 55)
  else none

def hexQuad : Bytes → Except Stop (Nat × Bytes)
  | a :: b :: c :: d :: s =>
    match hexValue? a, hexValue? b, hexValue? c, hexValue? d with
    | some a, some b, some c, some d => .ok (((a * 16 + b) * 16 + c) * 16 + d, s)
    | _, _, _, _ => failAfter .invalidEscape s
  | _ => failAfter .endOfString []

def surrogateTail (high : Nat) : Bytes → Except Stop (Char × Bytes)
  | [] => failAfter .endOfString []
  | b :: s =>
    if b = 92 then
      match s with
      | [] => failAfter .endOfString []
      | u :: r =>
        if u = 117 then do
          let (low, rest) ← hexQuad r
          if 0xDC00 ≤ low ∧ low ≤ 0xDFFF then
            return (Char.ofNat (0x10000 + (high - 0xD800) * 0x400 + (low - 0xDC00)), rest)
          else failAfter .loneSurrogate rest
        else failAfter .unfinishedSurrogate r
    else failAfter .unfinishedSurrogate s

def simpleEscape? (b : UInt8) : Option Char :=
  if b = 34 then some '"'
  else if b = 92 then some '\\'
  else if b = 47 then some '/'
  else if b = 98 then some '\x08'
  else if b = 102 then some '\x0c'
  else if b = 110 then some '\n'
  else if b = 114 then some '\r'
  else if b = 116 then some '\t'
  else none

def escape : Bytes → Except Stop (Char × Bytes)
  | [] => failAfter .endOfString []
  | b :: s =>
    match simpleEscape? b with
    | some c => .ok (c, s)
    | none =>
      if b = 117 then do
        let (n, rest) ← hexQuad s
        if 0xDC00 ≤ n ∧ n ≤ 0xDFFF then failAfter .loneSurrogate rest
        else if 0xD800 ≤ n ∧ n ≤ 0xDBFF then surrogateTail n rest
        else return (Char.ofNat n, rest)
      else failAfter .invalidEscape s

def stringBytes : Nat → Bytes → Except Stop (Bytes × Bytes)
  | 0, _ => failAfter .endOfString []
  | _, [] => failAfter .endOfString []
  | fuel + 1, b :: s =>
    if b = 34 then .ok ([], s)
    else if b = 92 then do
      let (c, rest) ← escape s
      let (bytes, rest) ← stringBytes fuel rest
      return (Utf8.encodeChar c ++ bytes, rest)
    else if b < 32 then failAfter .controlCharacter s
    else do
      let (bytes, rest) ← stringBytes fuel s
      return (b :: bytes, rest)

def stringText (s : Bytes) : Except Stop (String × Bytes) := do
  let (bytes, rest) ← stringBytes s.length s
  match textOfUtf8? bytes with
  | some text => return (text, rest)
  | none => failAt .invalidUnicode (s.drop (Utf8.validLength s))

mutual

/-- A value; `depth` bounds how many more brackets may open. -/
def value : (fuel depth : Nat) → Bytes → Except Stop (Json × Bytes)
  | 0, _, s => failAfter .endOfValue s
  | fuel + 1, depth, s =>
    match skipBlanks s with
    | [] => failAfter .endOfValue []
    | b :: r =>
      if b = 110 then ident .null [117, 108, 108] r
      else if b = 116 then ident (.bool true) [114, 117, 101] r
      else if b = 102 then ident (.bool false) [97, 108, 115, 101] r
      else if b = 45 then number true r
      else if isDigitByte b then number false (b :: r)
      else if b = 34 then do
        let (text, rest) ← stringText r
        return (.string text, rest)
      else if b = 91 then
        if depth ≤ 1 then failAfter .tooDeep r
        else do
          let (list, rest) ← items fuel (depth - 1) true r
          return (.array list, rest)
      else if b = 123 then
        if depth ≤ 1 then failAfter .tooDeep r
        else do
          let (pairs, rest) ← members fuel (depth - 1) true r
          return (ofPairs pairs, rest)
      else failAt .expectedValue (b :: r)

def items : (fuel depth : Nat) → (first : Bool) → Bytes → Except Stop (List Json × Bytes)
  | 0, _, _, s => failAfter .endOfList s
  | fuel + 1, depth, first, s =>
    match skipBlanks s with
    | [] => failAfter .endOfList []
    | b :: r =>
      if b = 93 then .ok ([], r)
      else if first then do
        let (head, rest) ← value fuel depth (b :: r)
        let (tail, rest) ← items fuel depth false rest
        return (head :: tail, rest)
      else if b = 44 then
        match skipBlanks r with
        | [] => failAfter .endOfValue []
        | c :: q =>
          if c = 93 then failAt .trailingComma (c :: q)
          else do
            let (head, rest) ← value fuel depth (c :: q)
            let (tail, rest) ← items fuel depth false rest
            return (head :: tail, rest)
      else failAt .expectedListEnd (b :: r)

/-- The members of an object up to its closing brace, in the order in which they stand. -/
def members : (fuel depth : Nat) → (first : Bool) → Bytes → Except Stop (List (String × Json) × Bytes)
  | 0, _, _, s => failAfter .endOfObject s
  | fuel + 1, depth, first, s =>
    match skipBlanks s with
    | [] => failAfter .endOfObject []
    | b :: r =>
      if b = 125 then .ok ([], r)
      else if first then
        if b = 34 then member fuel depth r else failAt .keyNotString (b :: r)
      else if b = 44 then
        match skipBlanks r with
        | [] => failAfter .endOfValue []
        | c :: q =>
          if c = 34 then member fuel depth q
          else if c = 125 then failAt .trailingComma (c :: q)
          else failAt .keyNotString (c :: q)
      else failAt .expectedObjectEnd (b :: r)

def member : (fuel depth : Nat) → Bytes → Except Stop (List (String × Json) × Bytes)
  | 0, _, s => failAfter .endOfObject s
  | fuel + 1, depth, s => do
    let (name, rest) ← stringText s
    match skipBlanks rest with
    | [] => failAfter .endOfObject []
    | b :: r =>
      if b = 58 then do
        let (head, rest) ← value fuel depth r
        let (tail, rest) ← members fuel depth false rest
        return ((name, head) :: tail, rest)
      else failAt .expectedColon (b :: r)

end

/-- Values nest at most this many brackets, less one. -/
def depthLimit : Nat := 128

def document (s : Bytes) : Except Stop Json := do
  let (v, rest) ← value (2 * s.length + 2) depthLimit s
  match skipBlanks rest with
  | [] => return v
  | _ :: r => .error (.trailingCharacters, r)

end Json.Read

def Json.parse (s : Bytes) : Except JsonFault Json :=
  match Json.Read.document s with
  | .ok v => .ok v
  | .error (cause, rest) => .error (.after cause (s.take (s.length - rest.length)))

end RuleServer
