import RuleServer.Toml.Document
import RuleServer.Toml.Scalar

/-!
TOML documents, read as JSON values. Only whether a document is well formed matters, so a fault has
no description.
-/

namespace RuleServer

namespace Toml

def skipSpaces (cs : List Char) : List Char :=
  cs.dropWhile isSpace

def skipComment : List Char → Option (List Char)
  | '#' :: cs =>
    let rest := cs.dropWhile fun c => !isControl c
    if rest = [] ∨ (newline? rest).isSome then some rest else none
  | cs => some cs

def skipLines : (fuel : Nat) → List Char → Option (List Char)
  | 0, _ => none
  | fuel + 1, cs => do
    let rest ← skipComment (skipSpaces cs)
    match newline? rest with
    | some next => skipLines fuel next
    | none => return rest

def skipAll (cs : List Char) : Option (List Char) :=
  skipLines (cs.length + 1) cs

def endLine (cs : List Char) : Option (List Char) := do
  let rest ← skipComment (skipSpaces cs)
  if rest = [] then some [] else newline? rest

def name (cs : List Char) : Option (String × List Char) :=
  match cs with
  | '"' :: cs => (basic (cs.length + 1) cs).map fun (s, rest) => (String.ofList s, rest)
  | '\'' :: cs => (literal cs).map fun (s, rest) => (String.ofList s, rest)
  | cs =>
    let word := cs.takeWhile isBare
    if word = [] then none else some (String.ofList word, cs.dropWhile isBare)

def key : (fuel : Nat) → List Char → Option (List String × List Char)
  | 0, _ => none
  | fuel + 1, cs => do
    let (first, rest) ← name (skipSpaces cs)
    match skipSpaces rest with
    | '.' :: rest =>
      let (others, rest) ← key fuel rest
      return (first :: others, rest)
    | rest => return ([first], rest)

def readKey (cs : List Char) : Option (List String × List Char) :=
  key (cs.length + 1) cs

def isWordChar (c : Char) : Bool :=
  !(isSpace c || isControl c || c = ',' || c = ']' || c = '\x7d' || c = '#')

/-- A word. A date and a time may have a blank between them. -/
def word (cs : List Char) : List Char × List Char :=
  let first := cs.takeWhile isWordChar
  let rest := cs.dropWhile isWordChar
  match rest with
  | ' ' :: more =>
    if afterDate first == some [] && (fixedDigits 2 more).isSome then
      (first ++ ' ' :: more.takeWhile isWordChar, more.dropWhile isWordChar)
    else (first, rest)
  | _ => (first, rest)

/-- Values stand in at most this many brackets. -/
def depthLimit : Nat := 80

mutual
def value : (fuel depth : Nat) → List Char → Option (Json × List Char)
  | 0, _, _ => none
  | fuel + 1, depth, cs =>
    match cs with
    | [] => none
    | '[' :: rest =>
      match depth with
      | 0 => none
      | depth + 1 => (elements fuel depth rest).map fun (vs, rest) => (.array vs, rest)
    | '\x7b' :: rest =>
      match depth with
      | 0 => none
      | depth + 1 =>
        (pairs fuel depth .implied [] rest).map fun (t, rest) => (Table.toJson t, rest)
    | c :: _ =>
      if c = '"' ∨ c = '\'' then (string? cs).map fun (s, rest) => (.string s, rest)
      else
        let (first, rest) := word cs
        (word? first).map (·, rest)

/-- The elements of a list up to its closing bracket; a comma may follow the last. -/
def elements : (fuel depth : Nat) → List Char → Option (List Json × List Char)
  | 0, _, _ => none
  | fuel + 1, depth, cs => do
    let cs ← skipAll cs
    match cs with
    | ']' :: rest => return ([], rest)
    | cs =>
      let (v, rest) ← value fuel depth cs
      let rest ← skipAll rest
      match rest with
      | ',' :: rest =>
        let (vs, rest) ← elements fuel depth rest
        return (v :: vs, rest)
      | ']' :: rest => return ([v], rest)
      | _ => none

def pairs : (fuel depth : Nat) → Making → Table → List Char → Option (Table × List Char)
  | 0, _, _, _, _ => none
  | fuel + 1, depth, made, t, cs => do
    let cs ← skipAll cs
    match cs with
    | '\x7d' :: rest => return (t, rest)
    | cs =>
      let (path, rest) ← readKey cs
      let rest ← expect '=' (skipSpaces rest)
      let (v, rest) ← value fuel depth (skipSpaces rest)
      let (names, last) ← cutLast path
      let (made, t) ← Table.addValue names last v made t
      let rest ← skipAll rest
      match rest with
      | ',' :: rest => pairs fuel depth made t rest
      | '\x7d' :: rest => return (t, rest)
      | _ => none
end

def readValue (cs : List Char) : Option (Json × List Char) :=
  value (2 * cs.length + 2) depthLimit cs

def statement (d : Document) (cs : List Char) : Option (Document × List Char) :=
  match cs with
  | '[' :: '[' :: cs => do
    let (path, rest) ← readKey cs
    let rest ← expect ']' rest
    let rest ← expect ']' rest
    return (← d.openListed path, rest)
  | '[' :: cs => do
    let (path, rest) ← readKey cs
    let rest ← expect ']' rest
    return (← d.openTable path, rest)
  | cs => do
    let (path, rest) ← readKey cs
    let rest ← expect '=' rest
    let (v, rest) ← readValue (skipSpaces rest)
    return (← d.addValue path v, rest)

def statements : (fuel : Nat) → Document → List Char → Option Document
  | 0, _, _ => none
  | fuel + 1, d, cs => do
    let cs ← skipAll cs
    if cs = [] then return d
    let (d, rest) ← statement d cs
    statements fuel d (← endLine rest)

def skipMark : List Char → List Char
  | '\ufeff' :: cs => cs
  | cs => cs

def parse? (document : String) : Option Json :=
  let cs := skipMark document.toList
  (statements (cs.length + 1) {} cs).map fun d => d.root.toJson

end Toml

end RuleServer
