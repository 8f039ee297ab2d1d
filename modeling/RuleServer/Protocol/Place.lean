import RuleServer.Decode.Basic

/-!
Places in documents. Lines and characters are counted from zero in 32 bits.
-/

namespace RuleServer

structure Position where
  line : Nat
  character : Nat
deriving DecidableEq, Repr

structure Range where
  start : Position
  stop : Position
deriving DecidableEq, Repr

structure Location where
  uri : String
  range : Range
deriving DecidableEq, Repr

namespace Position

def toJson (p : Position) : Json :=
  .ofPairs [("line", .nat p.line), ("character", .nat p.character)]

def decode : Decoder Position :=
  (Position.mk <$> Fields.required "line" Decoder.unsigned32
    <*> Fields.required "character" Decoder.unsigned32).lenient "Position"

end Position

namespace Range

/-- Whole lines, from the start of the first to the start of the one after the last. -/
def lines (first afterLast : Nat) : Range :=
  ⟨⟨first, 0⟩, ⟨afterLast, 0⟩⟩

/-- One line, up to the start of the next; the greatest line number has no next. -/
def ofLine (line : Nat) : Range :=
  lines line (min (line + 1) (maxUnsigned 32))

def toJson (r : Range) : Json :=
  .ofPairs [("start", r.start.toJson), ("end", r.stop.toJson)]

def decode : Decoder Range :=
  (Range.mk <$> Fields.required "start" Position.decode
    <*> Fields.required "end" Position.decode).lenient "Range"

end Range

namespace Location

def toJson (l : Location) : Json :=
  .ofPairs [("uri", .string l.uri), ("range", l.range.toJson)]

end Location

end RuleServer
