import RuleServer.Host.Files

/-!
Programs: which files are programs, and what comes of running one.
-/

namespace RuleServer

/-- What a file holds that can be run. -/
inductive Image
  | machine
  | script (interpreter : Path)
deriving DecidableEq, Repr

namespace Image

def machineMark : Bytes := [127, 69, 76, 70]

def scriptMark : Bytes := [35, 33]

def isGap (b : UInt8) : Bool :=
  b = 32 || b = 9

def ofContent? (content : Bytes) : Option Image :=
  if machineMark.isPrefixOf content then some .machine
  else if scriptMark.isPrefixOf content then
    let line := (content.drop scriptMark.length).takeWhile (· ≠ 10)
    match (line.dropWhile isGap).takeWhile (!isGap ·) with
    | [] => none
    | interpreter => some (.script ⟨interpreter⟩)
  else none

end Image

/-- What comes of starting a program. -/
inductive Launch
  | failed (fault : IoFault)
  | endless
  | finished (output error : Bytes) (milliseconds : Nat)
deriving DecidableEq, Repr

/-- What programs do once they are started, given the files as the program sees them, its path, its
arguments and its environment. -/
abbrev Process :=
  (files : Files) → (program : Path) → (args : List String) →
    (environment : List (String × String)) → Launch

end RuleServer
