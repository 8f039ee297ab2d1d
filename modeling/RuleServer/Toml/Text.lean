import RuleServer.Text.Hexadecimal
import RuleServer.Text.Utf8

/-!
Strings of TOML documents, read from what follows their opening quote: the text and what stands
after the closing quote.
-/

namespace RuleServer

namespace Toml

def isBare (c : Char) : Bool :=
  ('a' ≤ c && c ≤ 'z') || ('A' ≤ c && c ≤ 'Z') || isDigit c || c = '_' || c = '-'

def isControl (c : Char) : Bool :=
  (c < ' ' && c ≠ '\t') || c = '\x7f'

def isSpace (c : Char) : Bool :=
  c = ' ' || c = '\t'

def newline? : List Char → Option (List Char)
  | '\n' :: cs => some cs
  | '\r' :: '\n' :: cs => some cs
  | _ => none

def scalar? (digits : List Char) : Option Char :=
  if digits.all isHexDigit then
    let n := hexValue digits
    if n.isValidChar then some (Char.ofNat n) else none
  else none

def escape? : Char → Option Char
  | 'b' => some '\x08'
  | 't' => some '\t'
  | 'n' => some '\n'
  | 'f' => some '\x0c'
  | 'r' => some '\r'
  | 'e' => some '\x1b'
  | '"' => some '"'
  | '\\' => some '\\'
  | _ => none

def readEscape : List Char → Option (Char × List Char)
  | 'u' :: a :: b :: c :: d :: cs => (scalar? [a, b, c, d]).map (·, cs)
  | 'U' :: a :: b :: c :: d :: e :: f :: g :: h :: cs =>
    (scalar? [a, b, c, d, e, f, g, h]).map (·, cs)
  | 'x' :: a :: b :: cs => (scalar? [a, b]).map (·, cs)
  | c :: cs => (escape? c).map (·, cs)
  | [] => none

def basic : (fuel : Nat) → List Char → Option (List Char × List Char)
  | 0, _ => none
  | _ + 1, [] => none
  | _ + 1, '"' :: cs => some ([], cs)
  | fuel + 1, '\\' :: cs => do
    let (c, cs) ← readEscape cs
    let (s, rest) ← basic fuel cs
    return (c :: s, rest)
  | fuel + 1, c :: cs => do
    if isControl c then none
    let (s, rest) ← basic fuel cs
    return (c :: s, rest)

def literal : List Char → Option (List Char × List Char)
  | [] => none
  | '\'' :: cs => some ([], cs)
  | c :: cs => do
    if isControl c then none
    let (s, rest) ← literal cs
    return (c :: s, rest)

/-- The quotes at the end of a string of many lines: three close it, and up to two before them
belong to it. -/
def closing? (quote : Char) (cs : List Char) : Option (List Char × List Char) :=
  let run := (cs.takeWhile (· = quote)).length
  if run < 3 then none
  else
    let n := min run 5
    some (List.replicate (n - 3) quote, cs.drop n)

/-- What follows a backslash at the end of a line: blanks and line ends up to the next character. -/
def continued? (cs : List Char) : Option (List Char) :=
  match newline? (cs.dropWhile isSpace) with
  | none => none
  | some rest => some (rest.dropWhile fun c => isSpace c || c = '\n' || c = '\r')

def basicLines : (fuel : Nat) → List Char → Option (List Char × List Char)
  | 0, _ => none
  | fuel + 1, cs =>
    match closing? '"' cs, newline? cs, cs with
    | some done, _, _ => some done
    | none, some rest, _ => (basicLines fuel rest).map fun (s, rest) => ('\n' :: s, rest)
    | none, none, '\\' :: cs =>
      match continued? cs with
      | some rest => basicLines fuel rest
      | none => do
        let (c, cs) ← readEscape cs
        let (s, rest) ← basicLines fuel cs
        return (c :: s, rest)
    | none, none, c :: cs => do
      if isControl c then none
      let (s, rest) ← basicLines fuel cs
      return (c :: s, rest)
    | none, none, [] => none

def literalLines : (fuel : Nat) → List Char → Option (List Char × List Char)
  | 0, _ => none
  | fuel + 1, cs =>
    match closing? '\'' cs, newline? cs, cs with
    | some done, _, _ => some done
    | none, some rest, _ => (literalLines fuel rest).map fun (s, rest) => ('\n' :: s, rest)
    | none, none, c :: cs => do
      if isControl c then none
      let (s, rest) ← literalLines fuel cs
      return (c :: s, rest)
    | none, none, [] => none

/-- A line end right after the opening quotes does not count. -/
def afterOpening (cs : List Char) : List Char :=
  (newline? cs).getD cs

def string? : List Char → Option (String × List Char)
  | '"' :: '"' :: '"' :: cs => (basicLines (cs.length + 1) (afterOpening cs)).map asText
  | '\'' :: '\'' :: '\'' :: cs => (literalLines (cs.length + 1) (afterOpening cs)).map asText
  | '"' :: cs => (basic (cs.length + 1) cs).map asText
  | '\'' :: cs => (literal cs).map asText
  | _ => none
where
  asText : List Char × List Char → String × List Char
    | (s, rest) => (String.ofList s, rest)

end Toml

end RuleServer
