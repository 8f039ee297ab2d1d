import RuleServer.Text.Quoted
import RuleServer.Toml.Text

/-!
Parts of TOML documents, written for people. A string is written in the simplest way that its
characters allow.
-/

namespace RuleServer

namespace Toml

def needsEscape (c : Char) : Bool :=
  (c < ' ' && c ≠ '\t' && c ≠ '\n') || c = '\x7f'

def longestRun (quote : Char) : List Char → (current best : Nat) → Nat
  | [], _, best => best
  | c :: cs, current, best =>
    let current := if c = quote then current + 1 else 0
    longestRun quote cs current (max best current)

def upperHex (n : Nat) : List Char :=
  (hexadecimal n).map Char.toUpper

def numbered (c : Char) : List Char :=
  let digits := upperHex c.toNat
  '\\' :: 'u' :: List.replicate (4 - digits.length) '0' ++ digits

/-- The text between double quotes: of the quotes in a row, `allowed` stand for themselves; so do
line ends in a string of many lines. -/
def escaped (allowed : Nat) (lines : Bool) : List Char → (run : Nat) → List Char
  | [], _ => []
  | c :: cs, run =>
    match c with
    | '"' =>
      if run < allowed then '"' :: escaped allowed lines cs (run + 1)
      else '\\' :: '"' :: escaped allowed lines cs 0
    | '\\' => '\\' :: '\\' :: escaped allowed lines cs 0
    | '\t' => '\\' :: 't' :: escaped allowed lines cs 0
    | '\x08' => '\\' :: 'b' :: escaped allowed lines cs 0
    | '\x0c' => '\\' :: 'f' :: escaped allowed lines cs 0
    | '\r' => '\\' :: 'r' :: escaped allowed lines cs 0
    | '\n' =>
      if lines then '\n' :: escaped allowed lines cs 0
      else '\\' :: 'n' :: escaped allowed lines cs 0
    | c =>
      if needsEscape c then numbered c ++ escaped allowed lines cs 0
      else c :: escaped allowed lines cs 0

def basicText (cs : List Char) : List Char :=
  '"' :: escaped 0 false cs 0 ++ ['"']

def literalText (cs : List Char) : List Char :=
  '\'' :: cs ++ ['\'']

/-- A string of many lines starts on a line of its own. -/
def opening (quotes : String) (cs : List Char) : List Char :=
  quotes.toList ++ if '\n' ∈ cs then ['\n'] else []

def basicLinesText (cs : List Char) : List Char :=
  opening "\"\"\"" cs ++ escaped 2 true cs 0 ++ "\"\"\"".toList

def literalLinesText (cs : List Char) : List Char :=
  opening "'''" cs ++ cs ++ "'''".toList

/-- A string: in double quotes when nothing in it needs an escape, else in single quotes, else in
three of either kind, else with escapes. -/
def stringText (s : String) : String :=
  let cs := s.toList
  let control := cs.any needsEscape
  let slash := cs.contains '\\'
  let broken := cs.contains '\n'
  let doubles := longestRun '"' cs 0 0
  let singles := longestRun '\'' cs 0 0
  String.ofList <|
    if !control && !slash && doubles = 0 && !broken then basicText cs
    else if !control && singles = 0 && !broken then literalText cs
    else if !control && !slash && doubles ≤ 2 then basicLinesText cs
    else if !control && singles ≤ 2 then literalLinesText cs
    else if broken then basicLinesText cs
    else basicText cs

/-- A name: bare when it can be, else in double quotes, else in single quotes, else with escapes. -/
def nameText (s : String) : String :=
  let cs := s.toList
  let control := cs.any fun c => needsEscape c || c = '\n'
  if cs ≠ [] ∧ cs.all isBare then s
  else String.ofList <|
    if !control && !cs.contains '\\' && !cs.contains '"' then basicText cs
    else if !control && !cs.contains '\'' then literalText cs
    else basicText cs

def boolText (b : Bool) : String :=
  if b then "true" else "false"

/-- A list of strings; two or more stand on lines of their own. -/
def listText : List String → String
  | [] => "[]"
  | [s] => "[" ++ stringText s ++ "]"
  | ss => "[\n" ++ String.join (ss.map fun s => "    " ++ stringText s ++ ",\n") ++ "]"

def pairLine (name value : String) : String :=
  nameText name ++ " = " ++ value ++ "\n"

def headerLine (names : List String) : String :=
  "\n[" ++ ".".intercalate (names.map nameText) ++ "]\n"

end Toml

end RuleServer
