import RuleServer.Host.IoFault
import RuleServer.Host.Path

/-!
The files of a host: directories and regular files by the names that lead to them from the root, and
links, through which other paths lead to them. A walk along a path ends at the one place of what it
leads to.
-/

namespace RuleServer

/-- The names that lead from the root to a place. -/
abbrev Place := List Bytes

inductive Entry
  | directory
  | file (content : Bytes) (executable : Bool)
deriving DecidableEq, Repr

/-- A name under which something else is found: what a path leads to from there, or the file at
another place. -/
inductive Link
  | symbolic (target : Path)
  | hard (place : Place)
deriving DecidableEq, Repr

structure Files where
  entries : List (Place × Entry)
  links : List (Place × Link) := []
  /-- Where relative paths start. -/
  current : Place
deriving Repr

namespace Files

def nameLimit : Nat := 255

/-- A path is shorter than this many bytes. -/
def pathLimit : Nat := 4096

/-- A walk follows at most this many symbolic links. -/
def linkLimit : Nat := 40

def entry? (fs : Files) (place : Place) : Option Entry :=
  if place = [] then some .directory else fs.entries.lookup place

def link? (fs : Files) (place : Place) : Option Link :=
  if (fs.entry? place).isSome then none else fs.links.lookup place

def isTaken (fs : Files) (place : Place) : Bool :=
  (fs.entry? place).isSome || (fs.link? place).isSome

/-- One step of a walk: an empty name and `.` stay in the directory, `..` leaves it. -/
def step (fs : Files) (place : Place) (name : Bytes) : Except IoFault Place :=
  match fs.entry? place with
  | some .directory =>
    if name = [] ∨ name = Path.dot then .ok place
    else if name = Path.dotDot then .ok place.dropLast
    else if nameLimit < name.length then .error .nameTooLong
    else if fs.isTaken (place ++ [name]) then .ok (place ++ [name])
    else .error .noSuchFile
  | some (.file _ _) => .error .notDirectory
  | none => .error .noSuchFile

/-- A walk that has come to its end, or to a symbolic link with names left to go. -/
inductive Halt
  | arrived (place : Place)
  | linked (directory : Place) (target : Path) (names : List Bytes)

/-- Walk along names up to the first symbolic link. -/
def advance (fs : Files) : Place → List Bytes → Except IoFault Halt
  | place, [] => .ok (.arrived place)
  | place, name :: names =>
    match fs.step place name with
    | .error fault => .error fault
    | .ok next =>
      match fs.link? next with
      | none => fs.advance next names
      | some (.hard other) => fs.advance other names
      | some (.symbolic target) => .ok (.linked place target names)

/-- Walk along names, and follow at most so many symbolic links. -/
def walk (fs : Files) : (links : Nat) → Place → List Bytes → Except IoFault Place
  | 0, place, names =>
    match fs.advance place names with
    | .error fault => .error fault
    | .ok (.arrived last) => .ok last
    | .ok (.linked _ _ _) => .error .tooManyLinks
  | links + 1, place, names =>
    match fs.advance place names with
    | .error fault => .error fault
    | .ok (.arrived last) => .ok last
    | .ok (.linked directory target rest) =>
      fs.walk links (if target.isAbsolute then [] else directory) (target.pieces ++ rest)

def place (fs : Files) (p : Path) : Except IoFault Place :=
  if 0 ∈ p.bytes then .error .nulInPath
  else if p.bytes = [] then .error .noSuchFile
  else if pathLimit ≤ p.bytes.length then .error .nameTooLong
  else fs.walk linkLimit (if p.isAbsolute then [] else fs.current) p.pieces

def lookup (fs : Files) (p : Path) : Except IoFault Entry := do
  match fs.entry? (← fs.place p) with
  | some e => return e
  | none => throw .noSuchFile

def exists? (fs : Files) (p : Path) : Bool :=
  (fs.lookup p).toOption.isSome

def isFile (fs : Files) (p : Path) : Bool :=
  match fs.lookup p with
  | .ok (.file _ _) => true
  | _ => false

def isDirectory (fs : Files) (p : Path) : Bool :=
  match fs.lookup p with
  | .ok .directory => true
  | _ => false

def read (fs : Files) (p : Path) : Except IoFault Bytes := do
  match ← fs.lookup p with
  | .file content _ => return content
  | .directory => throw .isDirectory

def readText (fs : Files) (p : Path) : Except IoFault String := do
  match textOfUtf8? (← fs.read p) with
  | some s => return s
  | none => throw .notUtf8

/-- The proper beginnings of a place, the shortest first. -/
def ancestors (place : Place) : List Place :=
  (List.range place.length).map place.take

/-- The files with one more entry, and the directories that it needs. -/
def add (fs : Files) (place : Place) (e : Entry) : Files :=
  let missing := (ancestors place).filter fun p => (fs.entry? p).isNone
  let others := fs.entries.filter fun (p, _) => p ≠ place
  { fs with entries := others ++ missing.map (·, .directory) ++ [(place, e)] }

/-- Make an entry of a name in a directory, where there is none yet. -/
def make (fs : Files) (directory : Path) (name : String) (e : Entry) : Except IoFault Files :=
  match fs.place (directory.join (.ofText name)) with
  | .ok _ => .error .alreadyExists
  | .error .noSuchFile =>
    match fs.place directory with
    | .error fault => .error fault
    | .ok within =>
      let place := within ++ [utf8Bytes name]
      if fs.isTaken place then .error .alreadyExists
      else .ok { fs with entries := fs.entries ++ [(place, e)] }
  | .error fault => .error fault

def pathOf (place : Place) : Path :=
  if place = [] then ⟨[Path.slash]⟩ else ⟨place.flatMap fun name => Path.slash :: name⟩

def placeAt (fs : Files) (path : Path) : Place :=
  let names := path.pieces.filter (· ≠ [])
  if path.isAbsolute then names else fs.current ++ names

def placeOf (path : String) : Place :=
  (splitWhere (· = Path.slash) (utf8Bytes path)).filter (· ≠ [])

def empty : Files :=
  { entries := [], current := [] }

end Files

end RuleServer
