/-!
How alike two words are: by the letters that they share near the same place, and by how many of these
are out of order.
-/

namespace RuleServer

namespace Similar

/-- How far from its own place a letter may be found in the other word. -/
def reach (a b : List Char) : Nat :=
  max a.length b.length / 2 - 1

def findPlace (c : Char) (b : List Char) (taken : List Nat) (place span : Nat) : Option Nat :=
  (List.range (min b.length (place + span + 1))).find? fun j =>
    decide (place - span ≤ j) && b[j]? == some c && !taken.contains j

/-- The shared letters in the order of the first word, with the places that they take in the
second. -/
def shared (b : List Char) (span : Nat) : List Char → (place : Nat) → (taken : List Nat) →
    List (Char × Nat)
  | [], _, _ => []
  | c :: cs, place, taken =>
    match findPlace c b taken place span with
    | none => shared b span cs (place + 1) taken
    | some j => (c, j) :: shared b span cs (place + 1) (j :: taken)

/-- The shares of a likeness: three times the likeness is the quotient of the two numbers. -/
def likeness (a b : List Char) : Nat × Nat :=
  let pairs := shared b (reach a b) a 0 []
  let m := pairs.length
  if m = 0 then (0, 1)
  else
    let places := pairs.map (·.2)
    let inOrder := (List.range b.length).filter fun j => places.contains j
    let moved := ((pairs.map (·.1)).zip (inOrder.filterMap (b[·]?))).filter fun (c, d) => c ≠ d
    (m * m * b.length + m * m * a.length + (m - moved.length / 2) * a.length * b.length,
      a.length * b.length * m)

/-- Alike by more than seven tenths. -/
def close (p : Nat × Nat) : Bool :=
  21 * p.2 < 10 * p.1

def noLess (p q : Nat × Nat) : Bool :=
  q.1 * p.2 ≤ p.1 * q.2

end Similar

/-- The one that is most like a word, the last of several, if any is close. -/
def mostSimilar? {α : Type} (word : String) (name : α → String) (candidates : List α) : Option α :=
  let score (a : α) := Similar.likeness word.toList (name a).toList
  (candidates.filter fun a => Similar.close (score a)).foldl (fun best a =>
    match best with
    | none => some a
    | some b => if Similar.noLess (score a) (score b) then some a else some b) none

end RuleServer
