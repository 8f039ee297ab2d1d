import Mathlib
import RuleServer.Proofs.Text.Cut
import RuleServer.Proofs.Text.Utf8
import RuleServer.Text.Lines

/-!
The lines of a document. A document can be read in one way only as lines with ends between them, if
no CR LF pair is taken for two ends. The scan over its bytes finds these lines, and every part that
it cuts out consists of whole characters.
-/

namespace RuleServer

/-- What ends a line. -/
inductive LineEnd
  | crlf
  | cr
  | lf

def LineEnd.text : LineEnd → List Char
  | crlf => ['\r', '\n']
  | cr => ['\r']
  | lf => ['\n']

/-- Text in which no line ends. -/
def Unbroken (line : List Char) : Prop :=
  '\r' ∉ line ∧ '\n' ∉ line

/-- A document is made of lines with an end after each of them but the last. An end that is a lone
CR has no LF after it in the document. -/
inductive Lined :
    (document : List Char) → (lines : List (List Char)) → (ends : List LineEnd) → Prop
  | last {line : List Char} (hline : Unbroken line) : Lined line [line] []
  | next {line rest : List Char} {lines : List (List Char)} {ends : List LineEnd} (e : LineEnd)
      (hline : Unbroken line) (hpair : e = .cr → rest.head? ≠ some '\n')
      (hrest : Lined rest lines ends) :
      Lined (line ++ e.text ++ rest) (line :: lines) (e :: ends)

/-- The lines of a document, read off its characters: a CR LF pair, a lone CR and a lone LF each end
one line, and what follows the last of them is a line too. -/
def documentLines : List Char → List (List Char)
  | [] => [[]]
  | '\r' :: '\n' :: cs => [] :: documentLines cs
  | c :: cs =>
    if c = '\r' ∨ c = '\n' then [] :: documentLines cs
    else match documentLines cs with
      | [] => [[c]]
      | l :: ls => (c :: l) :: ls

theorem unbroken_nil : Unbroken [] := by simp [Unbroken]

theorem unbroken_cons {c : Char} {line : List Char} :
    Unbroken (c :: line) ↔ (c ≠ '\r' ∧ c ≠ '\n') ∧ Unbroken line := by
  simp only [Unbroken, List.mem_cons, not_or, ne_comm]
  tauto

section

variable {document line rest : List Char} {lines : List (List Char)} {ends : List LineEnd}

theorem Lined.length_eq (h : Lined document lines ends) : lines.length = ends.length + 1 := by
  induction h with
  | last => rfl
  | next e hline hpair hrest ih => simp [ih]

theorem Lined.cons {c : Char} (hc : c ≠ '\r' ∧ c ≠ '\n')
    (h : Lined document (line :: lines) ends) :
    Lined (c :: document) ((c :: line) :: lines) ends := by
  cases h with
  | last hline => exact .last (unbroken_cons.mpr ⟨hc, hline⟩)
  | next e hline hpair hrest => exact .next e (unbroken_cons.mpr ⟨hc, hline⟩) hpair hrest

theorem documentLines_ne_nil (cs : List Char) : documentLines cs ≠ [] := by
  fun_cases documentLines cs <;> simp_all

theorem exists_lined (document : List Char) :
    ∃ ends, Lined document (documentLines document) ends := by
  fun_induction documentLines document with
  | case1 => exact ⟨[], .last unbroken_nil⟩
  | case2 cs ih =>
    obtain ⟨ends, h⟩ := ih
    exact ⟨_, .next .crlf unbroken_nil (by simp) h⟩
  | case3 c cs hpair hend ih =>
    obtain ⟨ends, h⟩ := ih
    rcases hend with rfl | rfl
    · have hcr : cs.head? ≠ some '\n' := by
        intro hhead
        obtain ⟨tail, rfl⟩ := List.head?_eq_some_iff.mp hhead
        exact hpair tail rfl rfl
      exact ⟨_, .next .cr unbroken_nil (fun _ => hcr) h⟩
    · exact ⟨_, .next .lf unbroken_nil (by simp) h⟩
  | case4 c cs hpair hend hnil ih => exact absurd hnil (documentLines_ne_nil cs)
  | case5 c cs hpair hend line lines hlines ih =>
    obtain ⟨ends, h⟩ := ih
    rw [hlines] at h
    exact ⟨ends, h.cons (not_or.mp hend)⟩

theorem documentLines_end (e : LineEnd) (hpair : e = .cr → rest.head? ≠ some '\n') :
    documentLines (e.text ++ rest) = [] :: documentLines rest := by
  cases e with
  | crlf => rfl
  | lf => simp [LineEnd.text, documentLines]
  | cr =>
    cases rest with
    | nil => rfl
    | cons c rest =>
      have hc : c ≠ '\n' := fun h => hpair rfl (by rw [h]; rfl)
      simp [LineEnd.text, documentLines, hc]

theorem documentLines_append {first : List Char} (hline : Unbroken line)
    (hrest : documentLines rest = first :: lines) :
    documentLines (line ++ rest) = (line ++ first) :: lines := by
  induction line with
  | nil => exact hrest
  | cons c line ih =>
    obtain ⟨hc, hline⟩ := unbroken_cons.mp hline
    simp [documentLines, hc, ih hline]

theorem documentLines_next (e : LineEnd) (hline : Unbroken line)
    (hpair : e = .cr → rest.head? ≠ some '\n') :
    documentLines (line ++ e.text ++ rest) = line :: documentLines rest := by
  rw [List.append_assoc, documentLines_append hline (documentLines_end e hpair), List.append_nil]

/-- A document has no other reading. -/
theorem Lined.documentLines_eq (h : Lined document lines ends) :
    documentLines document = lines := by
  induction h with
  | @last line hline =>
    have hlast : documentLines (line ++ []) = [line ++ []] := documentLines_append hline rfl
    simpa using hlast
  | next e hline hpair hrest ih => rw [documentLines_next e hline hpair, ih]

/-- The lines before an LF are the same whatever follows it. They are those of the text before it;
only where that text ends with a CR, which forms a pair with the LF, its last line is gone. -/
theorem Lined.append_lf (h : Lined document lines ends) :
    ∃ whole, (∀ rest, documentLines (document ++ '\n' :: rest) = whole ++ documentLines rest) ∧
      (lines = whole ∨ lines = whole ++ [[]]) := by
  induction h with
  | @last line hline =>
    refine ⟨[line], fun rest => ?_, .inl rfl⟩
    have htext : line ++ '\n' :: rest = line ++ LineEnd.lf.text ++ rest := by simp [LineEnd.text]
    rw [htext, documentLines_next .lf hline (by simp)]
    rfl
  | @next line text lines ends e hline hpair hrest ih =>
    by_cases hseam : e = .cr ∧ text = []
    · obtain ⟨rfl, rfl⟩ := hseam
      obtain rfl : [[]] = lines := hrest.documentLines_eq
      refine ⟨[line], fun rest => ?_, .inr rfl⟩
      have htext : line ++ LineEnd.cr.text ++ [] ++ '\n' :: rest =
          line ++ LineEnd.crlf.text ++ rest := by simp [LineEnd.text]
      rw [htext, documentLines_next .crlf hline (by simp)]
      rfl
    · obtain ⟨whole, hwhole, hlines⟩ := ih
      refine ⟨line :: whole, fun rest => ?_, hlines.imp (congrArg _) (congrArg _)⟩
      have hhead : e = .cr → (text ++ '\n' :: rest).head? ≠ some '\n' := by
        intro he
        obtain ⟨c, text, rfl⟩ := List.exists_cons_of_ne_nil fun h => hseam ⟨he, h⟩
        exact hpair he
      rw [List.append_assoc, documentLines_next e hline hhead, hwhole]
      rfl

theorem Lined.documentLines_append (h : Lined document lines ends)
    (hend : document = [] ∨ ∃ start, document = start ++ ['\n']) (rest : List Char) :
    ∃ whole, documentLines (document ++ rest) = whole ++ documentLines rest ∧
      whole.length = ends.length := by
  have hlength := h.length_eq
  rcases hend with rfl | ⟨start, rfl⟩
  · obtain rfl : [[]] = lines := h.documentLines_eq
    exact ⟨[], rfl, Nat.succ.inj hlength⟩
  · obtain ⟨startEnds, hstart⟩ := exists_lined start
    obtain ⟨whole, hwhole, -⟩ := hstart.append_lf
    have hlines : whole ++ [[]] = lines := (hwhole []).symm.trans h.documentLines_eq
    refine ⟨whole, ?_, ?_⟩
    · rw [List.append_assoc]
      exact hwhole rest
    · rw [← hlines, List.length_append] at hlength
      exact Nat.succ.inj hlength

/-- The document with an LF for every end: first for the pairs, then for each CR that is left. -/
def unifyEnds (document : List Char) : List Char :=
  replaceAll ['\r'] ['\n'] (replaceAll ['\r', '\n'] ['\n'] document)

theorem unifyEnds_nil : unifyEnds [] = [] := rfl

theorem unifyEnds_cons {c : Char} (hc : c ≠ '\r') (cs : List Char) :
    unifyEnds (c :: cs) = c :: unifyEnds cs := by
  have hpair : ¬ ['\r', '\n'] <+: c :: cs := by simp [hc.symm]
  rw [unifyEnds, replaceAll_cons (by simp) hpair, replaceAll_cons (by simp) (by simp [hc.symm])]
  rfl

theorem unifyEnds_append (hline : Unbroken line) (rest : List Char) :
    unifyEnds (line ++ rest) = line ++ unifyEnds rest := by
  induction line with
  | nil => rfl
  | cons c line ih =>
    obtain ⟨hc, hline⟩ := unbroken_cons.mp hline
    rw [List.cons_append, unifyEnds_cons hc.1, ih hline, List.cons_append]

theorem unifyEnds_end (e : LineEnd) (hpair : e = .cr → rest.head? ≠ some '\n') :
    unifyEnds (e.text ++ rest) = '\n' :: unifyEnds rest := by
  cases e with
  | crlf =>
    rw [unifyEnds, LineEnd.text, replaceAll_append (by simp)]
    exact replaceAll_cons (by simp) (by simp)
  | lf => exact unifyEnds_cons (by decide) rest
  | cr =>
    have hlone : ¬ ['\r', '\n'] <+: '\r' :: rest := by
      rw [List.cons_prefix_cons, not_and]
      rintro - ⟨tail, rfl⟩
      exact hpair rfl rfl
    rw [unifyEnds, LineEnd.text, List.singleton_append, replaceAll_cons (by simp) hlone]
    exact replaceAll_append (by simp) _

theorem splitWhere_of_unbroken (hline : Unbroken line) :
    splitWhere (· = '\n') line = [line] := by
  refine splitWhere_of_forall_not fun c hc => decide_eq_false ?_
  rintro rfl
  exact hline.2 hc

theorem Lined.splitWhere_unifyEnds (h : Lined document lines ends) :
    splitWhere (· = '\n') (unifyEnds document) = lines := by
  induction h with
  | @last line hline =>
    have hlast := unifyEnds_append hline []
    rw [unifyEnds_nil, List.append_nil] at hlast
    rw [hlast, splitWhere_of_unbroken hline]
  | next e hline hpair hrest ih =>
    rw [List.append_assoc, unifyEnds_append hline, unifyEnds_end e hpair,
      splitWhere_append_cons (by simp), splitWhere_of_unbroken hline, ih]
    rfl

theorem slice?_append (before part after : List Char) :
    slice? (.ofList (before ++ part ++ after))
        ⟨(Utf8.encode before).length, (Utf8.encode (before ++ part)).length⟩ =
      some (.ofList part) := by
  have hstart := Utf8.isValid_length_encode before (part ++ after)
  rw [← List.append_assoc] at hstart
  have hfits : Span.Fits ⟨(Utf8.encode before).length, (Utf8.encode (before ++ part)).length⟩
      (.ofList (before ++ part ++ after)) :=
    ⟨by simp, hstart, Utf8.isValid_length_encode (before ++ part) after⟩
  rw [slice?, dif_pos hfits, Option.some.injEq, ← String.toByteArray_inj]
  simp only [String.toByteArray_extract, String.offset_pos, String.toByteArray_ofList,
    Utf8.length_encode, List.utf8Encode_append, ByteArray.size_append]
  rw [ByteArray.append_assoc]
  calc
    _ = (part.utf8Encode ++ after.utf8Encode).extract 0 part.utf8Encode.size :=
      ByteArray.extract_append_size_add
    _ = part.utf8Encode := ByteArray.extract_append_eq_left rfl

theorem lineSpans_cons {b : UInt8} (h : b ≠ 0x0d ∧ b ≠ 0x0a) (start index : Nat) (bytes : Bytes) :
    lineSpans start index (b :: bytes) = lineSpans start (index + 1) bytes := by
  simp [lineSpans, h]

theorem lineSpans_append {bytes : Bytes} (h : ∀ b ∈ bytes, b ≠ 0x0d ∧ b ≠ 0x0a)
    (start index : Nat) (rest : Bytes) :
    lineSpans start index (bytes ++ rest) = lineSpans start (index + bytes.length) rest := by
  induction bytes generalizing index with
  | nil => rfl
  | cons b bytes ih =>
    rw [List.forall_mem_cons] at h
    rw [List.cons_append, lineSpans_cons h.1, ih h.2, List.length_cons, Nat.add_right_comm,
      Nat.add_assoc]

theorem lineSpans_cr {bytes : Bytes} (h : ∀ rest, bytes ≠ 0x0a :: rest) (start index : Nat) :
    lineSpans start index (0x0d :: bytes) =
      ⟨start, index⟩ :: lineSpans (index + 1) (index + 1) bytes := by
  simp [lineSpans, h]

theorem ne_of_mem_encode (hline : Unbroken line) :
    ∀ b ∈ Utf8.encode line, b ≠ 0x0d ∧ b ≠ 0x0a := by
  intro b hb
  obtain ⟨c, hc, hbc⟩ := List.mem_flatMap.mp hb
  constructor
  · rintro rfl
    have hcr : c = '\r' := Utf8.eq_of_mem_encodeChar (by decide) hbc
    exact hline.1 (hcr ▸ hc)
  · rintro rfl
    have hlf : c = '\n' := Utf8.eq_of_mem_encodeChar (by decide) hbc
    exact hline.2 (hlf ▸ hc)

theorem head?_of_head?_encode {cs : List Char} (h : (Utf8.encode cs).head? = some 0x0a) :
    cs.head? = some '\n' := by
  cases cs with
  | nil => cases h
  | cons c cs =>
    obtain ⟨a, tail, hc, -⟩ := Utf8.unit_encodeChar c []
    rw [Utf8.encode_cons, hc] at h
    obtain rfl : a = 0x0a := by simpa using h
    have hlf : c = '\n' := Utf8.eq_of_mem_encodeChar (by decide) (hc ▸ List.mem_cons_self)
    rw [hlf]
    rfl

theorem lineSpans_end (e : LineEnd) (hpair : e = .cr → rest.head? ≠ some '\n')
    (start index : Nat) :
    lineSpans start index (Utf8.encode e.text ++ Utf8.encode rest) =
      ⟨start, index⟩ :: lineSpans (index + (Utf8.encode e.text).length)
        (index + (Utf8.encode e.text).length) (Utf8.encode rest) := by
  cases e with
  | crlf => rfl
  | lf => rfl
  | cr =>
    have hlone : ∀ bytes, Utf8.encode rest ≠ 0x0a :: bytes := fun bytes h =>
      hpair rfl (head?_of_head?_encode (by rw [h]; rfl))
    exact lineSpans_cr hlone start index

/-- Behind any other text, the scan cuts out the lines of a reading one by one. -/
theorem Lined.mapM_slice? (h : Lined document lines ends) (before : List Char) :
    (lineSpans (Utf8.encode before).length (Utf8.encode before).length
        (Utf8.encode document)).mapM (slice? (.ofList (before ++ document))) =
      some (lines.map String.ofList) := by
  induction h generalizing before with
  | @last line hline =>
    have hslice := slice?_append before line []
    have hspans := lineSpans_append (ne_of_mem_encode hline) (Utf8.encode before).length
      (Utf8.encode before).length []
    simp only [List.append_nil, Utf8.encode_append, List.length_append] at hslice hspans
    rw [hspans, lineSpans, List.mapM_cons, hslice]
    rfl
  | @next line rest lines ends e hline hpair hrest ih =>
    have hslice := slice?_append before line (e.text ++ rest)
    have hnext := ih (before ++ line ++ e.text)
    simp only [List.append_assoc, Utf8.encode_append, List.length_append] at hslice hnext ⊢
    rw [lineSpans_append (ne_of_mem_encode hline), lineSpans_end e hpair, List.mapM_cons, hslice,
      Nat.add_assoc, hnext]
    rfl

end

theorem splitLines?_of_lined {document : String} {lines : List (List Char)} {ends : List LineEnd}
    (h : Lined document.toList lines ends) :
    splitLines? document = some (lines.map String.ofList) := by
  have hscan := h.mapM_slice? []
  rw [List.nil_append, String.ofList_toList] at hscan
  exact hscan

theorem splitLines_eq (document : String) :
    splitLines document = (documentLines document.toList).map String.ofList := by
  obtain ⟨ends, h⟩ := exists_lined document.toList
  rw [splitLines, splitLines?_of_lined h]
  rfl

theorem map_toList_splitLines (document : String) :
    (splitLines document).map String.toList = documentLines document.toList := by
  rw [splitLines_eq, List.map_map]
  simp [Function.comp_def]

theorem fits_of_slice? {text part : String} {span : Span} (h : slice? text span = some part) :
    span.Fits text := by
  unfold slice? at h
  split_ifs at h with hfits
  exact hfits

theorem forall_of_mapM {α β : Type} {f : α → Option β} {as : List α} {bs : List β}
    (h : as.mapM f = some bs) : ∀ a ∈ as, ∃ b, f a = some b := by
  induction as generalizing bs with
  | nil => simp
  | cons a as ih =>
    simp only [List.mapM_cons, Option.bind_eq_bind, Option.bind_eq_some_iff] at h
    obtain ⟨b, hb, bs', hbs, -⟩ := h
    exact List.forall_mem_cons.mpr ⟨⟨b, hb⟩, ih hbs⟩

/-- All lines of a document can be cut out of it, since no span of a line begins or ends inside a
character. The lines are those of the only reading of the document, and what is between the LFs once
every CR LF pair and then every CR is replaced by one. -/
theorem splitLines_only_reading (document : String) :
    splitLines? document = some (splitLines document) ∧
    (∀ span ∈ lineSpans 0 0 (utf8Bytes document), span.Fits document) ∧
    (∀ lines : List String, splitLines document = lines ↔
      ∃ ends, Lined document.toList (lines.map String.toList) ends) ∧
    (splitLines document).map String.toList =
      splitWhere (· = '\n')
        (replaceAll "\r".toList "\n".toList
          (replaceAll "\r\n".toList "\n".toList document.toList)) := by
  obtain ⟨ends, hlined⟩ := exists_lined document.toList
  have hscan := splitLines?_of_lined hlined
  refine ⟨?_, fun span hspan => ?_, fun lines => ⟨?_, ?_⟩, ?_⟩
  · rw [hscan, splitLines_eq]
  · obtain ⟨part, hpart⟩ := forall_of_mapM hscan span hspan
    exact fits_of_slice? hpart
  · rintro rfl
    rw [map_toList_splitLines]
    exact ⟨ends, hlined⟩
  · rintro ⟨ends', h⟩
    rw [splitLines_eq, h.documentLines_eq, List.map_map]
    simp [Function.comp_def]
  · rw [map_toList_splitLines]
    exact hlined.splitWhere_unifyEnds.symm

end RuleServer
