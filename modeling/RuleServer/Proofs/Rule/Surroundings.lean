import Mathlib
import RuleServer.Proofs.Rule.Block

/-!
Blocks in larger documents. Whether lines are a block is decided by these lines alone, so a block
keeps its range, moved by the lines in front of it, whatever text is put around its document; and
how lines end makes no difference to where blocks are.
-/

namespace RuleServer

namespace Rule

/-- A block stays one wherever its lines stand and whatever stands around them. -/
theorem IsBlock.shift {lines others : List (List Char)} {start stop k : Nat}
    (h : IsBlock lines start stop)
    (hsame : ∀ i, start ≤ i → i < stop → others[i + k]? = lines[i]?) :
    IsBlock others (start + k) (stop + k) := by
  have hlt := h.start_lt
  have hheader : ∀ i, start ≤ i → i < stop → (HeaderAt others (i + k) ↔ HeaderAt lines i) := by
    intro i hi hstop
    rw [HeaderAt, HeaderAt, hsame i hi hstop]
  have hclosing : ∀ i, start ≤ i → i < stop → (ClosingAt others (i + k) ↔ ClosingAt lines i) := by
    intro i hi hstop
    rw [ClosingAt, ClosingAt, hsame i hi hstop]
  have hlast : stop + k - 1 = stop - 1 + k := by omega
  refine ⟨by omega, (hheader start le_rfl hlt).mpr h.header, ?_, fun i hi hstop hat => ?_,
    fun i hi hstop hat => ?_⟩
  · rw [hlast]
    exact (hclosing (stop - 1) (by omega) (by omega)).mpr h.closing
  · obtain ⟨j, rfl⟩ : ∃ j, i = j + k := ⟨i - k, by omega⟩
    have honly := h.only_header j (by omega) (by omega) ((hheader j (by omega) (by omega)).mp hat)
    omega
  · obtain ⟨j, rfl⟩ : ∃ j, i = j + k := ⟨i - k, by omega⟩
    have honly := h.only_closing j (by omega) (by omega) ((hclosing j (by omega) (by omega)).mp hat)
    omega

/-- The lines of a block are not the last line that a merged end takes away. -/
theorem IsBlock.lines_kept {whole lines : List (List Char)} {start stop : Nat}
    (h : IsBlock lines start stop) (hlines : lines = whole ∨ lines = whole ++ [[]]) :
    stop ≤ whole.length ∧ ∀ i < stop, lines[i]? = whole[i]? := by
  have hlt := h.start_lt
  have hstop : stop ≤ whole.length := by
    have hclosing := h.closing
    rcases hlines with rfl | rfl
    · exact h.stop_le
    · by_contra hlong
      have hle := h.stop_le
      simp only [List.length_append, List.length_singleton] at hle
      have hlast : stop - 1 = whole.length := by omega
      rw [ClosingAt, hlast, List.getElem?_concat_length] at hclosing
      simp at hclosing
  refine ⟨hstop, fun i hi => ?_⟩
  rcases hlines with rfl | rfl
  · rfl
  · exact List.getElem?_append_left (by omega)

theorem rangeAt?_surrounded {before document after : String} {lines : List (List Char)}
    {ends : List LineEnd} {line start stop : Nat}
    (hbefore : before = "" ∨ ∃ text, before = text ++ "\n")
    (hlined : Lined before.toList lines ends)
    (hblock : IsBlock (documentLines document.toList) start stop) (hstart : start ≤ line)
    (hstop : line < stop) (hlimit : stop + ends.length ≤ maxUnsigned 32) (column : Nat) :
    rangeAt? (before ++ document ++ "\n" ++ after) ⟨line + ends.length, column⟩ =
      some (.lines (start + ends.length) (stop + ends.length)) := by
  have hend : before.toList = [] ∨ ∃ text, before.toList = text ++ ['\n'] := by
    rcases hbefore with rfl | ⟨text, rfl⟩
    · exact .inl rfl
    · exact .inr ⟨text.toList, String.toList_append⟩
  obtain ⟨ownEnds, hown⟩ := exists_lined document.toList
  obtain ⟨whole, hwhole, hkept⟩ := hown.append_lf
  obtain ⟨front, hfront, hcount⟩ :=
    hlined.documentLines_append hend (document.toList ++ '\n' :: after.toList)
  have htext : (before ++ document ++ "\n" ++ after).toList =
      before.toList ++ (document.toList ++ '\n' :: after.toList) := by simp
  have hall : documentLines (before ++ document ++ "\n" ++ after).toList =
      front ++ (whole ++ documentLines after.toList) := by
    rw [htext, hfront, hwhole]
  obtain ⟨hle, hsame⟩ := hblock.lines_kept hkept
  have hmoved : IsBlock (documentLines (before ++ document ++ "\n" ++ after).toList)
      (start + ends.length) (stop + ends.length) := by
    refine hblock.shift fun i hi histop => ?_
    rw [hall, ← hcount, List.getElem?_append_right (by omega), Nat.add_sub_cancel,
      List.getElem?_append_left (by omega), hsame i histop]
  refine rangeAt?_eq_some_iff.mpr ⟨_, _, rfl, ?_, ?_, hlimit, hmoved⟩
  · exact Nat.add_le_add_right hstart _
  · exact Nat.add_lt_add_right hstop _

/-- The block around a line keeps its range, moved by the number of line ends in front of its
document, whatever stands before the document and after it; and documents with the same lines have
the same ranges, whatever ends these lines. -/
theorem range_in_surroundings :
    (∀ (before document after : String) (lines : List (List Char)) (ends : List LineEnd)
        (line start stop column column' : Nat),
      before = "" ∨ (∃ text, before = text ++ "\n") → Lined before.toList lines ends →
      rangeAt? document ⟨line, column⟩ = some (.lines start stop) →
      stop + ends.length ≤ maxUnsigned 32 →
        rangeAt? (before ++ document ++ "\n" ++ after) ⟨line + ends.length, column'⟩ =
          some (.lines (start + ends.length) (stop + ends.length))) ∧
    ∀ (document other : String) (lines : List (List Char)) (ends ends' : List LineEnd)
        (cursor : Position),
      Lined document.toList lines ends → Lined other.toList lines ends' →
        rangeAt? document cursor = rangeAt? other cursor := by
  refine ⟨fun before document after lines ends line start stop column column' hbefore hlined hrange
    hlimit => ?_, fun document other lines ends ends' cursor h h' => ?_⟩
  · obtain ⟨s, e, hlines, hstart, hstop, -, hblock⟩ := rangeAt?_eq_some_iff.mp hrange
    obtain ⟨rfl, rfl⟩ : start = s ∧ stop = e := by simpa [Range.lines] using hlines
    exact rangeAt?_surrounded hbefore hlined hblock hstart hstop hlimit column'
  · rw [rangeAt?_eq, rangeAt?_eq, h.documentLines_eq, h'.documentLines_eq]

/-- Stray lines in front, a last CR that becomes part of a pair, and a stray brace behind. -/
theorem range_in_surroundings_stray :
    rangeAt? "rule a\n\x7d\r" ⟨1, 0⟩ = some (.lines 0 2) ∧
      rangeAt? ("\x7d\r\nrule x\n" ++ "rule a\n\x7d\r" ++ "\n" ++ "\x7d") ⟨3, 7⟩ =
        some (.lines 2 4) ∧
      rangeAt? "rule a\r\n\x7d" ⟨1, 0⟩ = rangeAt? "rule a\r\x7d" ⟨1, 0⟩ := by
  have hrange : rangeAt? "rule a\n\x7d\r" ⟨1, 0⟩ = some (.lines 0 2) := by
    rw [rangeAt?_eq]
    rfl
  have hstray : Unbroken "rule x".toList := ⟨by decide, by decide⟩
  have hheader : Unbroken "rule a".toList := ⟨by decide, by decide⟩
  have hbrace : Unbroken "\x7d".toList := ⟨by decide, by decide⟩
  have hnext : "\x7d".toList.head? ≠ some '\n' := by decide
  have hfront : Lined "\x7d\r\nrule x\n".toList ["\x7d".toList, "rule x".toList, []] [.crlf, .lf] :=
    .next .crlf hbrace (by simp) (.next .lf hstray (by simp) (.last unbroken_nil))
  have hpair : Lined "rule a\r\n\x7d".toList ["rule a".toList, "\x7d".toList] [.crlf] :=
    .next .crlf hheader (by simp) (.last hbrace)
  have hlone : Lined "rule a\r\x7d".toList ["rule a".toList, "\x7d".toList] [.cr] :=
    .next .cr hheader (fun _ => hnext) (.last hbrace)
  refine ⟨hrange, ?_, ?_⟩
  · have hend : "\x7d\r\nrule x\n" = "\x7d\r\nrule x" ++ "\n" := by decide
    exact range_in_surroundings.1 "\x7d\r\nrule x\n" "rule a\n\x7d\r" "\x7d" _ [.crlf, .lf]
      1 0 2 0 7 (.inr ⟨_, hend⟩) hfront hrange (by decide)
  · exact range_in_surroundings.2 _ _ _ _ _ ⟨1, 0⟩ hpair hlone

end Rule

end RuleServer
