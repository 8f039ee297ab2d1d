import RuleServer.Host.Shell.Script
import RuleServer.Text.Numeral

/-!
The shell's arithmetic: integers, names for them, and the usual operators in their order of precedence.
-/

namespace RuleServer

namespace Shell

namespace Arithmetic

/-- The operators that take two numbers, the loosest first, and of one level the longer first. -/
def levels : List (List String) :=
  [["||"], ["&&"], ["==", "!="], ["<=", ">=", "<", ">"], ["+", "-"], ["*", "/", "%"]]

def truth (b : Bool) : Int := if b then 1 else 0

/-- An operator at work; there is no quotient by zero. -/
def apply (operator : String) (a b : Int) : Option Int :=
  match operator with
  | "||" => some (truth (a ≠ 0 || b ≠ 0))
  | "&&" => some (truth (a ≠ 0 && b ≠ 0))
  | "==" => some (truth (a = b))
  | "!=" => some (truth (a ≠ b))
  | "<=" => some (truth (a ≤ b))
  | ">=" => some (truth (b ≤ a))
  | "<" => some (truth (a < b))
  | ">" => some (truth (b < a))
  | "+" => some (a + b)
  | "-" => some (a - b)
  | "*" => some (a * b)
  | "/" => if b = 0 then none else some (a.tdiv b)
  | "%" => if b = 0 then none else some (a.tmod b)
  | _ => none

def isNameChar (c : Char) : Bool :=
  c.isAlphanum || c = '_'

def skip (cs : List Char) : List Char :=
  cs.dropWhile fun c => c = ' ' || c = '\t' || c = '\n'

mutual
def operand (value : String → Int) : (fuel : Nat) → List (List String) → List Char →
    Option (Int × List Char)
  | 0, _, _ => none
  | fuel + 1, [], cs => primary value fuel (skip cs)
  | fuel + 1, operators :: levels, cs => do
    let (a, rest) ← operand value fuel levels cs
    operands value fuel operators levels a rest

def operands (value : String → Int) : (fuel : Nat) → List String → List (List String) → Int →
    List Char → Option (Int × List Char)
  | 0, _, _, _, _ => none
  | fuel + 1, operators, levels, a, cs =>
    let cs := skip cs
    match operators.findSome? fun op => (afterStart? op.toList cs).map (op, ·) with
    | none => some (a, cs)
    | some (op, rest) => do
      let (b, rest) ← operand value fuel levels rest
      operands value fuel operators levels (← apply op a b) rest

def primary (value : String → Int) : (fuel : Nat) → List Char → Option (Int × List Char)
  | 0, _ => none
  | _ + 1, [] => none
  | fuel + 1, c :: cs =>
    if c = '(' then do
      let (a, rest) ← operand value fuel levels cs
      match skip rest with
      | ')' :: rest => return (a, rest)
      | _ => none
    else if c = '-' then (primary value fuel (skip cs)).map fun (a, rest) => (-a, rest)
    else if c = '+' ∨ c = '$' then primary value fuel (skip cs)
    else if c = '!' then (primary value fuel (skip cs)).map fun (a, rest) => (truth (a = 0), rest)
    else if isDigit c then
      let digits := (c :: cs).takeWhile isDigit
      some (digits.foldl (fun n d => n * 10 + digitValue d) 0, (c :: cs).dropWhile isDigit)
    else if isNameChar c then
      some (value (String.ofList ((c :: cs).takeWhile isNameChar)), (c :: cs).dropWhile isNameChar)
    else none
end

def evaluate (value : String → Int) (cs : List Char) : Option Int :=
  if skip cs = [] then some 0
  else match operand value (8 * cs.length + 16) levels cs with
    | some (a, rest) => if skip rest = [] then some a else none
    | none => none

end Arithmetic

end Shell

end RuleServer
