import RuleServer.Net.Address

/-!
URI references: a scheme, an authority, a path, a query and a fragment, all but the path optional.
The check walks through these parts from the left and reports the byte at which it stops.
-/

namespace RuleServer

/-- Why a text is not a URI reference, with the index of the byte to blame. -/
inductive UriReferenceFault
  | unexpectedCharacter (index : Nat)
  | invalidOctet (index : Nat)
  | invalidIpLiteral (index : Nat)
deriving DecidableEq, Repr

namespace UriReferenceFault

def message : UriReferenceFault → String
  | unexpectedCharacter i => "unexpected character at index " ++ decimalText i
  | invalidOctet i => "invalid percent-encoded octet at index " ++ decimalText i
  | invalidIpLiteral i => "invalid IP literal at index " ++ decimalText i

end UriReferenceFault

namespace UriReference

def isAsciiLetter (c : Char) : Bool :=
  ('a' ≤ c && c ≤ 'z') || ('A' ≤ c && c ≤ 'Z')

def isUnreserved (c : Char) : Bool :=
  isAsciiLetter c || isDigit c || "-._~".toList.contains c

def isSubDelimiter (c : Char) : Bool :=
  "!$&'()*+,;=".toList.contains c

def inScheme (c : Char) : Bool :=
  isAsciiLetter c || isDigit c || "+-.".toList.contains c

def inRegName (c : Char) : Bool :=
  isUnreserved c || isSubDelimiter c

def inUserInfo (c : Char) : Bool :=
  inRegName c || c = ':'

def inSegmentWithoutColon (c : Char) : Bool :=
  inRegName c || c = '@'

def inPath (c : Char) : Bool :=
  inRegName c || c = ':' || c = '@' || c = '/'

def inQuery (c : Char) : Bool :=
  inPath c || c = '?'

/-- A place in the text: the index of its next byte and the text from there on. -/
structure Cursor where
  index : Nat
  rest : List Char

namespace Cursor

def advance (k : Cursor) (n : Nat) : Cursor :=
  ⟨k.index + (Utf8.encode (k.rest.take n)).length, k.rest.drop n⟩

def startsWith (k : Cursor) (start : List Char) : Bool :=
  start.isPrefixOf k.rest

end Cursor

def runLength (allowed : Char → Bool) : List Char → (index : Nat) → Except UriReferenceFault Nat
  | [], _ => .ok 0
  | '%' :: a :: b :: cs, index =>
    if isHexDigit a ∧ isHexDigit b then
      (runLength allowed cs (index + 3)).map (· + 3)
    else .error (.invalidOctet index)
  | c :: cs, index =>
    if c = '%' then .error (.invalidOctet index)
    else if allowed c then (runLength allowed cs (index + 1)).map (· + 1)
    else .ok 0

def skipRun (allowed : Char → Bool) (k : Cursor) : Except UriReferenceFault Cursor := do
  return k.advance (← runLength allowed k.rest k.index)

def afterPath (k : Cursor) : Except UriReferenceFault Unit := do
  let k ← if k.startsWith ['?'] then skipRun inQuery (k.advance 1) else pure k
  let k ← if k.startsWith ['#'] then skipRun inQuery (k.advance 1) else pure k
  if k.rest = [] then return () else throw (.unexpectedCharacter k.index)

def rootedPath (k : Cursor) : Except UriReferenceFault Unit := do
  let after ← skipRun inPath k
  if after.index ≠ k.index ∧ !k.startsWith ['/'] then throw (.unexpectedCharacter k.index)
  afterPath after

/-- The path of a reference without a scheme: its first segment has no colon. -/
def plainPath (start : Cursor) : Except UriReferenceFault Unit := do
  let k ← skipRun inSegmentWithoutColon start
  if k.startsWith [':'] then throw (.unexpectedCharacter k.index)
  afterPath (← skipRun inPath k)

def isFutureChar (c : Char) : Bool :=
  isUnreserved c || isSubDelimiter c || c = ':'

def futureAddress? : List Char → Option (List Char)
  | v :: cs =>
    if v = 'v' ∨ v = 'V' then
      let digits := cs.takeWhile isHexDigit
      match cs.dropWhile isHexDigit with
      | '.' :: body =>
        if digits = [] ∨ body.takeWhile isFutureChar = [] then none
        else some (body.dropWhile isFutureChar)
      | _ => none
    else none
  | [] => none

def ipLiteral (k : Cursor) : Except UriReferenceFault Cursor :=
  let inner := k.rest.drop 1
  let after? := match Ipv6.read? inner with
    | some (_, rest) => some rest
    | none => futureAddress? inner
  match after? with
  | some (']' :: rest) => .ok (k.advance (k.rest.length - rest.length))
  | _ => .error (.invalidIpLiteral k.index)

def afterHost (k : Cursor) : Except UriReferenceFault Unit :=
  let k := if k.startsWith [':'] then
      let k := k.advance 1
      k.advance (k.rest.takeWhile isDigit).length
    else k
  rootedPath k

def host (k : Cursor) : Except UriReferenceFault Unit := do
  if k.startsWith ['['] then afterHost (← ipLiteral k)
  else afterHost (← skipRun inRegName k)

/-- Where the port of a name with one colon goes wrong: at its last character that is no digit. -/
def portFault? (name : List Char) (index : Nat) : Option UriReferenceFault :=
  match name.reverse.dropWhile isDigit with
  | [] => none
  | c :: before => if c = ':' then none else some (.unexpectedCharacter (index + before.length))

def authority (k : Cursor) : Except UriReferenceFault Unit := do
  let after ← skipRun inUserInfo k
  let name := k.rest.take (after.index - k.index)
  if after.startsWith ['@'] then host (after.advance 1)
  else if name = [] then
    if k.startsWith ['['] then afterHost (← ipLiteral k) else rootedPath k
  else match name.count ':' with
    | 0 => rootedPath after
    | 1 =>
      match portFault? name k.index with
      | some fault => throw fault
      | none => rootedPath after
    | _ => throw (.unexpectedCharacter (k.index + (name.takeWhile (· ≠ ':')).length))

def check (s : List Char) : Except UriReferenceFault Unit := do
  let start : Cursor := ⟨0, s⟩
  let scheme := s.takeWhile inScheme
  let after := start.advance scheme.length
  if scheme ≠ [] ∧ after.startsWith [':'] then
    if !(scheme.head?.any isAsciiLetter) then throw (.unexpectedCharacter 0)
    let body := after.advance 1
    if body.startsWith ['/', '/'] then authority (body.advance 2)
    else afterPath (← skipRun inPath body)
  else if start.startsWith ['/', '/'] then authority (start.advance 2)
  else plainPath start

end UriReference

end RuleServer
