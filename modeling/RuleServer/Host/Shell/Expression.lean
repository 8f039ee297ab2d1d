import RuleServer.Host.Shell.Script
import RuleServer.Text.Numeral

/-!
Basic regular expressions: characters, any character, bracket expressions, repetition, groups that
are remembered, and the two ends of a line.
-/

namespace RuleServer

namespace Shell

inductive Atom
  | char (c : Char)
  | any
  | oneOf (members : List Char) (negated : Bool)
  | start
  | stop
  /-- The start, or the end, of a group. -/
  | border (group : Nat) (isEnd : Bool)
deriving Repr

inductive Repetition
  | once
  | many
  | some
  | optional
deriving Repr

abbrev Expression := List (Atom × Repetition)

def repetition : List Char → Repetition × List Char
  | '*' :: cs => (.many, cs)
  | '\\' :: '+' :: cs => (.some, cs)
  | '\\' :: '?' :: cs => (.optional, cs)
  | cs => (.once, cs)

/-- The expression that a text spells; `first` at its start, where a star stands for itself. Groups
are counted, and the ones that are open are at hand. -/
def expression : (fuel : Nat) → (first : Bool) → (count : Nat) → (opened : List Nat) → List Char →
    Expression
  | 0, _, _, _, _ => []
  | _ + 1, _, _, _, [] => []
  | fuel + 1, first, count, opened, c :: cs =>
    let add (atom : Atom) (rest : List Char) : Expression :=
      let (r, rest) := repetition rest
      (atom, r) :: expression fuel false count opened rest
    match c, cs with
    | '^', cs =>
      if first then (.start, .once) :: expression fuel true count opened cs else add (.char c) cs
    | '$', [] => [(.stop, .once)]
    | '.', cs => add .any cs
    | '\\', '(' :: cs =>
      (.border (count + 1) false, .once) ::
        expression fuel true (count + 1) ((count + 1) :: opened) cs
    | '\\', ')' :: cs =>
      match opened with
      | group :: opened => (.border group true, .once) :: expression fuel false count opened cs
      | [] => add (.char ')') cs
    | '\\', 'n' :: cs => add (.char '\n') cs
    | '\\', 't' :: cs => add (.char '\t') cs
    | '\\', d :: cs => add (.char d) cs
    | '[', cs =>
      match bracket? (cs.map (·, false)) with
      | some (negated, members, rest) => add (.oneOf members negated) (rest.map (·.1))
      | none => add (.char c) cs
    | c, cs => add (.char c) cs

def Expression.ofText (text : List Char) : Expression :=
  expression (text.length + 1) true 0 [] text

def Atom.accepts : Atom → Char → Bool
  | .char c, d => c = d
  | .any, _ => true
  | .oneOf members negated, d => inClass members d != negated
  | _, _ => false

/-- The borders of groups that were passed, with how much of the line was left there. -/
abbrev Marks := List (Nat × Bool × Nat)

/-- What is left of a line after an expression has taken as much of it as it can. -/
def after? : (fuel : Nat) → Expression → (atStart : Bool) → List Char → Marks →
    Option (List Char × Marks)
  | 0, _, _, _, _ => none
  | _ + 1, [], _, s, marks => some (s, marks)
  | fuel + 1, (atom, r) :: e, atStart, s, marks =>
    let once :=
      match atom, s with
      | .start, s => if atStart then after? fuel e atStart s marks else none
      | .stop, s => if s = [] then after? fuel e atStart s marks else none
      | .border group isEnd, s => after? fuel e atStart s ((group, isEnd, s.length) :: marks)
      | atom, d :: s => if atom.accepts d then after? fuel e false s marks else none
      | _, [] => none
    let more (r : Repetition) :=
      match s with
      | d :: s => if atom.accepts d then after? fuel ((atom, r) :: e) false s marks else none
      | [] => none
    match r with
    | .once => once
    | .many => (more .many).or (after? fuel e atStart s marks)
    | .some => more .many
    | .optional => once.or (after? fuel e atStart s marks)

/-- A place in a line that an expression fits. -/
structure Hit where
  before : List Char
  found : List Char
  rest : List Char
  marks : Marks

namespace Hit

def markAt? (h : Hit) (group : Nat) (isEnd : Bool) : Option Nat :=
  h.marks.findSome? fun (g, e, left) => if g = group ∧ e = isEnd then some left else none

def group (h : Hit) (n : Nat) : List Char :=
  if n = 0 then h.found
  else match h.markAt? n false, h.markAt? n true with
    | some start, some stop =>
      let text := h.found ++ h.rest
      (text.drop (text.length - start)).take (start - stop)
    | _, _ => []

end Hit

def Expression.find? (e : Expression) : (atStart : Bool) → List Char → Option Hit
  | atStart, s =>
    match after? (2 * (s.length + e.length) + 2) e atStart s [], s with
    | some (rest, marks), _ => some ⟨[], s.take (s.length - rest.length), rest, marks⟩
    | none, [] => none
    | none, c :: s => (Expression.find? e false s).map fun h => { h with before := c :: h.before }

/-- What a replacement stands for: `&` is what was found, and a number a group of it. -/
def replacement (h : Hit) : List Char → List Char
  | '\\' :: 'n' :: cs => '\n' :: replacement h cs
  | '\\' :: c :: cs =>
    (if isDigit c then h.group (digitValue c) else [c]) ++ replacement h cs
  | '&' :: cs => h.found ++ replacement h cs
  | c :: cs => c :: replacement h cs
  | [] => []

def substitute (e : Expression) (by_ : List Char) (every : Bool) :
    (fuel : Nat) → (atStart : Bool) → List Char → List Char × Bool
  | 0, _, s => (s, false)
  | fuel + 1, atStart, s =>
    match e.find? atStart s with
    | none => (s, false)
    | some h =>
      let done := h.before ++ replacement h by_
      if every then
        match h.found, h.rest with
        | [], [] => (done, true)
        | [], c :: rest => (done ++ c :: (substitute e by_ every fuel false rest).1, true)
        | _ :: _, [] => (done, true)
        | _ :: _, rest => (done ++ (substitute e by_ every fuel false rest).1, true)
      else (done ++ h.rest, true)

end Shell

end RuleServer
