import RuleServer.Protocol.Place
import RuleServer.Text.Alphanumeric
import RuleServer.Text.Lines

/-!
Rule blocks: from a header line to the next line that is a closing brace. The block around a line
is found by walking up to its header and down to its end, and no other header or end may lie on
the way.
-/

namespace RuleServer

namespace Rule

def without? (start : String) (line : List Char) : Option (List Char) :=
  afterStart? start.toList line

/-- A line without its modifier, of which there may be one. -/
def afterModifier (line : List Char) : List Char :=
  ((without? "private " line).or (without? "global " line)).getD line

def continuesWord (c : Char) : Bool :=
  isAlphanumeric c || c = '_'

/-- Whether a line opens a rule: an optional modifier, and the whole word `rule`. -/
def isHeader (line : List Char) : Bool :=
  match without? "rule" (afterModifier line) with
  | none => false
  | some [] => true
  | some (c :: _) => !continuesWord c

def isEnd (line : List Char) : Bool :=
  line = ['\x7d']

/-- How many lines there are, from the nearest on, up to the first that is wanted; none that is barred
may stand before it. -/
def reach? (wanted barred : List Char → Bool) : List (List Char) → Option Nat
  | [] => none
  | line :: lines =>
    if wanted line then some 1
    else if barred line then none
    else (reach? wanted barred lines).map (· + 1)

/-- The header line of the block around `line`, which has the given index. -/
def start? (lines : List (List Char)) (line : List Char) (index : Nat) : Option Nat :=
  if isHeader line then some index
  else (reach? isHeader isEnd (lines.take index).reverse).map (index - ·)

/-- The index after the last line of the block around `line`, which has the given index. -/
def stop? (lines : List (List Char)) (line : List Char) (index : Nat) : Option Nat :=
  if isEnd line then some (index + 1)
  else (reach? isEnd isHeader (lines.drop (index + 1))).map (index + 1 + ·)

/-- The block around a line: the index of its header and the index after its end. -/
def block? (lines : List (List Char)) (index : Nat) : Option (Nat × Nat) := do
  let line ← lines[index]?
  let start ← start? lines line index
  let stop ← stop? lines line index
  if stop ≤ maxUnsigned 32 then return (start, stop) else none

def rangeAt? (document : String) (position : Position) : Option Range :=
  (block? ((splitLines document).map String.toList) position.line).map fun (start, stop) =>
    Range.lines start stop

end Rule

end RuleServer
