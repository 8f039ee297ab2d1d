import RuleServer.Number.Binary64

/-!
JSON values. A number keeps its exact value when it is an integer of at most 64 bits. The members
of an object that was read stand in the order of their names, and each name stands once.
-/

namespace RuleServer

inductive JsonNumber
  | integer (value : Int)
  | real (value : Binary64)
deriving DecidableEq, Repr

inductive Json
  | null
  | bool (value : Bool)
  | number (value : JsonNumber)
  | string (value : String)
  | array (items : List Json)
  | object (members : List (String × Json))
deriving BEq, Repr, Inhabited

abbrev Members := List (String × Json)

namespace Members

/-- Add a member at its place in the order of names; an older one of that name gives way. -/
def insert (name : String) (value : Json) : Members → Members
  | [] => [(name, value)]
  | (n, v) :: rest =>
    if name = n then (name, value) :: rest
    else if name < n then (name, value) :: (n, v) :: rest
    else (n, v) :: insert name value rest

def ofPairs (pairs : List (String × Json)) : Members :=
  pairs.foldl (fun ms p => insert p.1 p.2 ms) []

def find? (name : String) : Members → Option Json
  | [] => none
  | (n, v) :: rest => if n = name then some v else find? name rest

end Members

namespace Json

def int (i : Int) : Json :=
  .number (.integer i)

def nat (n : Nat) : Json :=
  int n

def ofPairs (pairs : List (String × Json)) : Json :=
  .object (Members.ofPairs pairs)

/-- The object with those members that have a value, put in order. -/
def ofOptions (pairs : List (String × Option Json)) : Json :=
  ofPairs (pairs.filterMap fun p => p.2.map (p.1, ·))

def member? (value : Json) (name : String) : Option Json :=
  match value with
  | .object members => Members.find? name members
  | _ => none

def bool? : Json → Option Bool
  | .bool b => some b
  | _ => none

def string? : Json → Option String
  | .string s => some s
  | _ => none

def integer? : Json → Option Int
  | .number (.integer i) => some i
  | _ => none

def object? : Json → Option Members
  | .object members => some members
  | _ => none

/-- The value found by following names into nested objects. -/
def path? (value : Json) : List String → Option Json
  | [] => some value
  | name :: names => (value.member? name).bind (path? · names)

end Json

end RuleServer
