import RuleServer.Text.Cut
import RuleServer.Text.Utf8

/-!
Paths of files: byte strings with slashes between their components.
-/

namespace RuleServer

structure Path where
  bytes : Bytes
deriving DecidableEq, Repr

namespace Path

def slash : UInt8 := 47

def ofText (s : String) : Path :=
  ⟨utf8Bytes s⟩

def display (p : Path) : String :=
  textOfUtf8Lossy p.bytes

def isAbsolute (p : Path) : Bool :=
  p.bytes.head? == some slash

def dot : Bytes := [46]

def dotDot : Bytes := [46, 46]

def pieces (p : Path) : List Bytes :=
  splitWhere (· = slash) p.bytes

/-- The components of a path. Repeated slashes count as one, and so do inner `.` components; a
leading slash is a component of its own. -/
def components (p : Path) : List Bytes :=
  let tidy := fun (ps : List Bytes) => ps.filter fun c => c ≠ [] ∧ c ≠ dot
  if p.isAbsolute then [slash] :: tidy p.pieces
  else match p.pieces with
    | [] => []
    | first :: rest => (if first = [] then [] else [first]) ++ tidy rest

def join (dir p : Path) : Path :=
  if p.isAbsolute then p
  else if dir.bytes = [] then p
  else if dir.bytes.getLast? = some slash then ⟨dir.bytes ++ p.bytes⟩
  else ⟨dir.bytes ++ slash :: p.bytes⟩

/-- The directories of a search path, which has colons between them. -/
def searchDirectories (searchPath : Bytes) : List Path :=
  (splitWhere (· = 58) searchPath).map Path.mk

/-- The part of a path before its last component; a root has none. -/
def parent? (p : Path) : Option Path :=
  let trimmed := p.bytes.reverse.dropWhile (· = slash)
  if trimmed = [] then none
  else
    let before := trimmed.dropWhile (· ≠ slash)
    let stripped := before.dropWhile (· = slash)
    if stripped = [] ∧ before ≠ [] then some ⟨[slash]⟩ else some ⟨stripped.reverse⟩

end Path

end RuleServer
