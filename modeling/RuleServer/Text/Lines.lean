import RuleServer.Text.Blank
import RuleServer.Text.Utf8

/-!
Lines of text. A document ends its lines with CR LF, CR or LF; each line is cut out of it between
two offsets among its bytes. The lines that a program prints end with LF or CR LF.
-/

namespace RuleServer

/-- A part of a text, given by the offsets of its first byte and of the byte after its last. -/
structure Span where
  start : Nat
  stop : Nat
deriving DecidableEq, Repr

namespace Span

/-- The offsets are in order, and neither of them is inside a character. -/
def Fits (span : Span) (text : String) : Prop :=
  span.start ≤ span.stop ∧ String.Pos.Raw.IsValid text ⟨span.start⟩ ∧
    String.Pos.Raw.IsValid text ⟨span.stop⟩

instance (span : Span) (text : String) : Decidable (span.Fits text) :=
  inferInstanceAs (Decidable (_ ∧ _ ∧ _))

end Span

/-- The part of a text at a span; there is none where a character would be cut in two. -/
def slice? (text : String) (span : Span) : Option String :=
  if h : span.Fits text then
    some (text.extract (text.pos ⟨span.start⟩ h.2.1) (text.pos ⟨span.stop⟩ h.2.2))
  else none

/-- The spans of the lines of a document, from the line that begins at `start` on, when the bytes
before `index` have been looked at: a CR LF pair, a lone CR and a lone LF each end one line, and
what follows the last of them is a line too. -/
def lineSpans (start index : Nat) : Bytes → List Span
  | [] => [⟨start, index⟩]
  | 0x0d :: 0x0a :: bytes => ⟨start, index⟩ :: lineSpans (index + 2) (index + 2) bytes
  | b :: bytes =>
    if b = 0x0d ∨ b = 0x0a then ⟨start, index⟩ :: lineSpans (index + 1) (index + 1) bytes
    else lineSpans start (index + 1) bytes

def splitLines? (document : String) : Option (List String) :=
  (lineSpans 0 0 (utf8Bytes document)).mapM (slice? document)

def splitLines (document : String) : List String :=
  (splitLines? document).getD []

def outputLines (output : List Char) : List (List Char) :=
  splitWhere (· = '\n') output

/-- A line without the CR of the CR LF pair that ended it. -/
def dropCr (line : List Char) : List Char :=
  if line.getLast? = some '\r' then line.dropLast else line

/-- The lines that a program printed: an LF or a CR LF pair ends each of them, and the last may do
without. -/
def printedLines (output : List Char) : List (List Char) :=
  let parts := outputLines output
  parts.dropLast.map dropCr ++ parts.getLast?.toList.filter (· ≠ [])

end RuleServer
