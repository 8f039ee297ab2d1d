import RuleServer.Host.Path
import RuleServer.Uri.Domain
import RuleServer.Uri.Reference

/-!
URLs and the local files that they name. Reading a URL is lenient: blanks around it, tabs and line
ends inside it, backslashes for slashes and characters that should have been encoded are accepted.
-/

namespace RuleServer

/-- A URL, as far as it matters for finding a file. -/
inductive Url
  /-- A file: its host, if it names one, and the segments of its path. -/
  | file (host : Option UrlHost) (segments : List (List Char))
  | other (scheme : String)
deriving DecidableEq, Repr

namespace Url

def isStripped (c : Char) : Bool :=
  c.toNat ≤ 32

/-- The text without control characters and spaces at its ends, and without tabs and line ends. -/
def tidy (cs : List Char) : List Char :=
  let trimmed := ((cs.dropWhile isStripped).reverse.dropWhile isStripped).reverse
  trimmed.filter fun c => c ≠ '\t' ∧ c ≠ '\n' ∧ c ≠ '\r'

def scheme? (cs : List Char) : Option (List Char × List Char) :=
  let scheme := cs.takeWhile UriReference.inScheme
  match cs.dropWhile UriReference.inScheme with
  | ':' :: rest =>
    if scheme.head?.any UriReference.isAsciiLetter then some (scheme.map Domain.lower, rest) else none
  | _ => none

def isSlash (c : Char) : Bool :=
  c = '/' || c = '\\'

def endsAuthority (special : Bool) (c : Char) : Bool :=
  c = '/' || c = '?' || c = '#' || (special && c = '\\')

def userInfo? (special : Bool) (cs : List Char) : Option (List Char × List Char) :=
  let authority := cs.takeWhile fun c => !endsAuthority special c
  let tail := cs.drop authority.length
  match cutWhere? (· = '@') authority.reverse with
  | none => none
  | some (after, before) => some (before.reverse, after.reverse ++ tail)

/-- How many characters belong to the host; colons inside brackets do. -/
def hostLength (special : Bool) : List Char → (bracketed : Bool) → Nat
  | [], _ => 0
  | c :: cs, bracketed =>
    if c = ':' && !bracketed then 0
    else if endsAuthority special c then 0
    else hostLength special cs (if c = '[' then true else if c = ']' then false else bracketed) + 1

/-- A port of at most 16 bits, which may be empty, up to the path. -/
def checkPort : List Char → Nat → Except UrlFault Unit
  | [], _ => .ok ()
  | c :: cs, n =>
    if isDigit c then
      let more := n * 10 + digitValue c
      if more ≤ maxUnsigned 16 then checkPort cs more else .error .invalidPort
    else if isSlash c || c = '?' || c = '#' then .ok ()
    else .error .invalidPort

def checkHost (special credentials : Bool) (cs : List Char) : Except UrlFault Unit := do
  let n := hostLength special cs false
  let text := cs.take n
  let rest := cs.drop n
  if special ∧ text = [] then throw .emptyHost
  let host ← if special then UrlHost.parse text else UrlHost.parseOpaque text
  if host = .domain [] ∧ rest.head? = some ':' then throw .emptyHost
  match rest with
  | ':' :: port => checkPort port 0
  | _ => pure ()
  if host = .domain [] ∧ credentials then throw .emptyHost

/-- Whether user information leaves a trace; a lone colon does not. -/
def hasCredentials (info : List Char) : Bool :=
  info ≠ [] && info ≠ [':']

def checkAuthority (special : Bool) (cs : List Char) : Except UrlFault Unit := do
  match userInfo? special cs with
  | none => checkHost special false cs
  | some (info, rest) =>
    if info = [] ∧ rest.head?.any (endsAuthority special) then throw .emptyHost
    checkHost special (hasCredentials info) rest

def isDriveLetter : List Char → Bool
  | [a, b] => UriReference.isAsciiLetter a && (b = ':' || b = '|')
  | _ => false

def isDrive : List Char → Bool
  | [a, b] => UriReference.isAsciiLetter a && b = ':'
  | _ => false

/-- A segment with its encoded dots written out, for the comparison with dot segments. -/
def plainDots : List Char → List Char
  | '%' :: '2' :: 'e' :: cs => '.' :: plainDots cs
  | '%' :: '2' :: 'E' :: cs => '.' :: plainDots cs
  | c :: cs => c :: plainDots cs
  | [] => []

/-- The path so far, from its last segment on, without the segment that a double dot removes. A
drive stays. -/
def ascend : List (List Char) → List (List Char)
  | [] => []
  | last :: before => if isDrive last then last :: before else before

/-- Resolve dot segments. `done` holds the segments so far, the last one first; the last segment of
the path is not followed by a slash. Gives the segments in reverse. -/
def resolve : (segments : List (List Char)) → (done : List (List Char)) → List (List Char)
  | [], done => done
  | [last], done =>
    if plainDots last = ['.', '.'] then [] :: ascend done
    else if plainDots last = ['.'] then [] :: done
    else last :: done
  | segment :: rest, done =>
    if plainDots segment = ['.', '.'] then resolve rest (ascend done)
    else if plainDots segment = ['.'] then resolve rest done
    else resolve rest (segment :: done)

/-- Whether a drive comes to stand at the start of the path, where it takes the place of the
host. -/
def meetsDrive : (segments : List (List Char)) → (done : List (List Char)) → Bool
  | [], _ => false
  | segment :: rest, done =>
    if plainDots segment = ['.', '.'] then meetsDrive rest (ascend done)
    else if plainDots segment = ['.'] then meetsDrive rest done
    else (done = [] && isDrive segment) || meetsDrive rest (segment :: done)

/-- The segments of the path in front of a text, after its first slash. Empty segments at the start
are dropped. -/
def fileSegments (cs : List Char) : List (List Char) :=
  let path := cs.takeWhile fun c => c ≠ '?' ∧ c ≠ '#'
  let segments := (resolve (splitWhere isSlash path) []).reverse
  match segments.dropWhile (· = []) with
  | [] => [[]]
  | kept => kept

def afterSlash : List Char → List Char
  | c :: cs => if isSlash c then cs else c :: cs
  | [] => []

def localhost : List Char := "localhost".toList

/-- The file after two slashes: a host and a path, or a path that starts with a drive. -/
def fileWithHost (cs : List Char) : Except UrlFault Url := do
  let text := cs.takeWhile fun c => !endsAuthority true c
  if isDriveLetter text then return .file none (fileSegments cs)
  let rest := afterSlash (cs.drop text.length)
  let host ← if text = [] then pure none else (UrlHost.parse text).map some
  let path := rest.takeWhile fun c => c ≠ '?' ∧ c ≠ '#'
  let hostless := host = some (.domain localhost) ∨ meetsDrive (splitWhere isSlash path) []
  return .file (if hostless then none else host) (fileSegments rest)

def afterFileScheme (cs : List Char) : Except UrlFault Url :=
  match cs with
  | a :: b :: rest =>
    if isSlash a && isSlash b then fileWithHost rest else .ok (.file none (fileSegments (afterSlash cs)))
  | _ => .ok (.file none (fileSegments (afterSlash cs)))

def specialSchemes : List (List Char) :=
  ["http", "https", "ws", "wss", "ftp"].map String.toList

def parse (s : String) : Except UrlFault Url := do
  match scheme? (tidy s.toList) with
  | none => throw .relativeWithoutBase
  | some (scheme, rest) =>
    if scheme = "file".toList then afterFileScheme rest
    else if specialSchemes.contains scheme then
      checkAuthority true (rest.dropWhile isSlash)
      return .other (String.ofList scheme)
    else
      match rest with
      | '/' :: '/' :: authority => checkAuthority false authority
      | _ => pure ()
      return .other (String.ofList scheme)

def pathBytes (segments : List (List Char)) : Bytes :=
  segments.flatMap fun segment => Path.slash :: Percent.decode (Utf8.encode segment)

def isLetterByte (b : UInt8) : Bool :=
  UriReference.isAsciiLetter (Char.ofNat b.toNat) && b < 128

/-- Whether a path ends in a drive, which has to be followed by a slash. -/
def endsInDrive (bytes : Bytes) : Bool :=
  match bytes.reverse with
  | b :: a :: _ :: _ => isLetterByte a && (b = 58 || b = 124)
  | _ => false

def localPath (segments : List (List Char)) : Path :=
  let bytes := pathBytes segments
  ⟨if endsInDrive bytes then bytes ++ [Path.slash] else bytes⟩

end Url

/-- Why a document has no local path. -/
inductive UriFault
  | malformed (uri : String) (fault : UrlFault)
  | unsupportedScheme (uri scheme : String)
  | notLocal (uri : String)
deriving DecidableEq, Repr

namespace UriFault

def message : UriFault → String
  | malformed uri fault => uri ++ ": " ++ fault.message
  | unsupportedScheme uri scheme => uri ++ ": unsupported scheme '" ++ scheme ++ "'"
  | notLocal uri => uri ++ ": not a local file path"

end UriFault

/-- The local path of the file that a URI names. -/
def localFile (uri : String) : Except UriFault Path :=
  match Url.parse uri with
  | .error fault => .error (.malformed uri fault)
  | .ok (.other scheme) => .error (.unsupportedScheme uri scheme)
  | .ok (.file (some _) _) => .error (.notLocal uri)
  | .ok (.file none segments) => .ok (Url.localPath segments)

end RuleServer
