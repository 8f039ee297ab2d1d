import RuleServer.Json.Basic

/-!
Documents under construction. A table can be made by a header that names it, by a header that only
passes through it, or by a dotted key; how it was made decides what may still be added to it.
-/

namespace RuleServer

namespace Toml

inductive Making
  | header
  | implied
  | dotted
deriving DecidableEq, Repr

inductive Item
  | value (value : Json)
  | table (made : Making) (members : List (String × Item))
  | tables (items : List (List (String × Item)))

abbrev Table := List (String × Item)

mutual
def Item.toJson : Item → Json
  | .value v => v
  | .table _ members => .ofPairs (memberPairs members)
  | .tables items => .array (tableList items)

def memberPairs : List (String × Item) → List (String × Json)
  | [] => []
  | (name, item) :: rest => (name, item.toJson) :: memberPairs rest

def tableList : List (List (String × Item)) → List Json
  | [] => []
  | members :: rest => .ofPairs (memberPairs members) :: tableList rest
end

namespace Table

def toJson (t : Table) : Json :=
  .ofPairs (memberPairs t)

def find? (t : Table) (name : String) : Option Item :=
  t.lookup name

def put (name : String) (item : Item) : Table → Table
  | [] => [(name, item)]
  | (n, old) :: rest => if n = name then (n, item) :: rest else (n, old) :: put name item rest

def changeLast (f : Table → Option Table) : List Table → Option (List Table)
  | [] => none
  | [t] => (f t).map ([·])
  | t :: ts => (changeLast f ts).map (t :: ·)

/-- Change the table that names lead to from headers; tables on the way that are missing are
implied. -/
def descend (f : Making → Table → Option (Making × Table)) :
    List String → Making → Table → Option (Making × Table)
  | [], made, t => f made t
  | name :: names, made, t =>
    match find? t name with
    | none => do
      let (childMade, child) ← descend f names .implied []
      return (made, put name (.table childMade child) t)
    | some (.table childMade child) => do
      let (childMade, child) ← descend f names childMade child
      return (made, put name (.table childMade child) t)
    | some (.tables items) => do
      let items ← changeLast (fun child => (descend f names .header child).map (·.2)) items
      return (made, put name (.tables items) t)
    | some (.value _) => none

/-- Change the table that the names of a dotted key lead to; it may not pass through tables that a
header has made. -/
def descendDotted (f : Making → Table → Option (Making × Table)) :
    List String → Making → Table → Option (Making × Table)
  | [], made, t => f made t
  | name :: names, made, t =>
    match find? t name with
    | none => do
      let (childMade, child) ← descendDotted f names .dotted []
      return (made, put name (.table childMade child) t)
    | some (.table childMade child) => do
      if childMade = .header then none
      let (childMade, child) ← descendDotted f names childMade child
      return (made, put name (.table childMade child) t)
    | some _ => none

def insertNew (name : String) (item : Item) (t : Table) : Option Table :=
  if (find? t name).isSome then none else some (put name item t)

def addValue (names : List String) (last : String) (v : Json) (made : Making) (t : Table) :
    Option (Making × Table) :=
  descendDotted (fun made t => do
    if names ≠ [] ∧ made ≠ .dotted then none
    return (made, ← insertNew last (.value v) t)) names made t

def openTable (last : String) (made : Making) (t : Table) : Option (Making × Table) :=
  match find? t last with
  | none => some (made, put last (.table .header []) t)
  | some (.table .implied members) => some (made, put last (.table .header members) t)
  | some _ => none

def openListed (last : String) (made : Making) (t : Table) : Option (Making × Table) :=
  match find? t last with
  | none => some (made, put last (.tables [[]]) t)
  | some (.tables items) => some (made, put last (.tables (items ++ [[]])) t)
  | some _ => none

end Table

/-- A document so far, and the names of the table that is open. -/
structure Document where
  root : Table := []
  opened : List String := []

def cutLast : List String → Option (List String × String)
  | [] => none
  | names => names.getLast?.map (names.dropLast, ·)

namespace Document

def addValue (d : Document) (key : List String) (v : Json) : Option Document := do
  let (names, last) ← cutLast key
  let (_, root) ← Table.descend (Table.addValue names last v) d.opened .header d.root
  return { d with root }

def openWith (d : Document) (key : List String)
    (f : String → Making → Table → Option (Making × Table)) : Option Document := do
  let (names, last) ← cutLast key
  let (_, root) ← Table.descend (f last) names .header d.root
  return { root, opened := key }

def openTable (d : Document) (key : List String) : Option Document :=
  d.openWith key Table.openTable

def openListed (d : Document) (key : List String) : Option Document :=
  d.openWith key Table.openListed

end Document

end Toml

end RuleServer
