/-!
Ways to cut a list in parts.
-/

namespace RuleServer

/-- The pieces between the elements that satisfy `p`; always at least one piece. -/
def splitWhere {α : Type} (p : α → Bool) : List α → List (List α)
  | [] => [[]]
  | a :: as =>
    if p a then [] :: splitWhere p as
    else match splitWhere p as with
      | [] => [[a]]
      | w :: ws => (a :: w) :: ws

def cutWhere? {α : Type} (p : α → Bool) : List α → Option (List α × List α)
  | [] => none
  | a :: as =>
    if p a then some ([], as)
    else (cutWhere? p as).map fun (before, after) => (a :: before, after)

def afterStart? {α : Type} [DecidableEq α] : (start list : List α) → Option (List α)
  | [], list => some list
  | _ :: _, [] => none
  | s :: start, a :: list => if s = a then afterStart? start list else none

def cutAt? {α : Type} [DecidableEq α] (part : List α) : List α → Option (List α × List α)
  | [] => if part = [] then some ([], []) else none
  | a :: as =>
    match afterStart? part (a :: as) with
    | some rest => some ([], rest)
    | none => (cutAt? part as).map fun (before, after) => (a :: before, after)

/-- The list with each occurrence of a part, from the left, replaced; at most `fuel` of them. -/
def replaceFrom {α : Type} [DecidableEq α] (part other : List α) : Nat → List α → List α
  | 0, list => list
  | fuel + 1, list =>
    match cutAt? part list with
    | none => list
    | some (before, after) => before ++ other ++ replaceFrom part other fuel after

/-- The list with each occurrence of a non-empty part, from the left, replaced. -/
def replaceAll {α : Type} [DecidableEq α] (part other list : List α) : List α :=
  replaceFrom part other list.length list

end RuleServer
