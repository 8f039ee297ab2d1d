import Mathlib
import RuleServer.Proofs.Text.Lines
import RuleServer.Rule.Block

/-!
The blocks of a document. A block is a run of lines with one header, which is its first line, and
one closing brace, which is its last. The walks up and down from a line find the block around it,
and no two blocks overlap.
-/

namespace RuleServer

namespace Rule

/-- A line that opens a rule: at most one modifier, then `rule`, and then the end of the line or a
character that does not go on with the word. -/
def IsHeaderLine (line : List Char) : Prop :=
  ∃ modifier ∈ ["", "private ", "global "], ∃ tail,
    line = modifier.toList ++ "rule".toList ++ tail ∧
      ∀ c ∈ tail.head?, isAlphanumeric c = false ∧ c ≠ '_'

theorem without?_eq_some_iff {start : String} {line rest : List Char} :
    without? start line = some rest ↔ line = start.toList ++ rest :=
  afterStart?_eq_some_iff

theorem isHeader_iff_tail {line : List Char} :
    isHeader line ↔ ∃ tail, afterModifier line = "rule".toList ++ tail ∧
      ∀ c ∈ tail.head?, isAlphanumeric c = false ∧ c ≠ '_' := by
  simp only [← without?_eq_some_iff]
  unfold isHeader
  split
  · simp_all
  · simp_all
  · simp_all [continuesWord]

theorem exists_modifier (line : List Char) :
    ∃ modifier ∈ ["", "private ", "global "], line = modifier.toList ++ afterModifier line := by
  unfold afterModifier
  cases hprivate : without? "private " line with
  | some rest =>
    exact ⟨"private ", by simp, without?_eq_some_iff.mp hprivate⟩
  | none =>
    cases hglobal : without? "global " line with
    | some rest => exact ⟨"global ", by simp, without?_eq_some_iff.mp hglobal⟩
    | none => exact ⟨"", by simp, rfl⟩

theorem afterModifier_append {modifier : String} (h : modifier ∈ ["", "private ", "global "])
    (tail : List Char) :
    afterModifier (modifier.toList ++ "rule".toList ++ tail) = "rule".toList ++ tail := by
  simp only [List.mem_cons, List.not_mem_nil, or_false] at h
  obtain rfl | rfl | rfl := h
  · rfl
  · rfl
  · rfl

theorem isHeader_iff {line : List Char} : isHeader line ↔ IsHeaderLine line := by
  rw [isHeader_iff_tail]
  constructor
  · rintro ⟨tail, htail, hend⟩
    obtain ⟨modifier, hmem, hline⟩ := exists_modifier line
    rw [htail, ← List.append_assoc] at hline
    exact ⟨modifier, hmem, tail, hline, hend⟩
  · rintro ⟨modifier, hmem, tail, rfl, hend⟩
    exact ⟨tail, afterModifier_append hmem tail, hend⟩

theorem isEnd_iff {line : List Char} : isEnd line ↔ line = ['\x7d'] := by
  simp [isEnd]

theorem not_isHeader_of_isEnd {line : List Char} (h : isEnd line) : isHeader line = false := by
  rw [isEnd_iff.mp h]
  rfl

/-- The line of this index is a header. -/
def HeaderAt (lines : List (List Char)) (i : Nat) : Prop :=
  ∃ line, lines[i]? = some line ∧ IsHeaderLine line

/-- The line of this index is a closing brace and nothing else. -/
def ClosingAt (lines : List (List Char)) (i : Nat) : Prop :=
  lines[i]? = some ['\x7d']

variable {lines : List (List Char)}

theorem any_isHeader_iff {i : Nat} : lines[i]?.any isHeader ↔ HeaderAt lines i := by
  cases h : lines[i]? <;> simp [HeaderAt, h, isHeader_iff]

theorem any_isEnd_iff {i : Nat} : lines[i]?.any isEnd ↔ ClosingAt lines i := by
  cases h : lines[i]? <;> simp [ClosingAt, h, isEnd_iff]

theorem HeaderAt.not_closingAt {i : Nat} (h : HeaderAt lines i) : ¬ ClosingAt lines i := by
  intro hclosing
  obtain ⟨line, hline, hheader⟩ := h
  have hbrace : line = ['\x7d'] := Option.some.inj (hline.symm.trans hclosing)
  have h := not_isHeader_of_isEnd (isEnd_iff.mpr hbrace)
  rw [isHeader_iff.mpr hheader] at h
  cases h

theorem ClosingAt.lt_length {i : Nat} (h : ClosingAt lines i) : i < lines.length :=
  (List.getElem?_eq_some_iff.mp h).1

theorem reach?_eq_some_iff {wanted barred : List Char → Bool} {n : Nat} :
    reach? wanted barred lines = some n ↔
      ∃ k, n = k + 1 ∧ lines[k]?.any wanted ∧
        ∀ j < k, lines[j]?.any wanted = false ∧ lines[j]?.any barred = false := by
  induction lines generalizing n with
  | nil => simp [reach?]
  | cons line lines ih =>
    simp only [reach?]
    split_ifs with hwanted hbarred
    · constructor
      · rintro h
        cases h
        exact ⟨0, rfl, hwanted, by simp⟩
      · rintro ⟨k, rfl, hk, hbefore⟩
        cases k with
        | zero => rfl
        | succ k =>
          have h := (hbefore 0 (by omega)).1
          simp [hwanted] at h
    · constructor
      · rintro h
        cases h
      · rintro ⟨k, rfl, hk, hbefore⟩
        cases k with
        | zero => simp [hwanted] at hk
        | succ k =>
          have h := (hbefore 0 (by omega)).2
          simp [hbarred] at h
    · rw [Option.map_eq_some_iff]
      constructor
      · rintro ⟨m, hm, rfl⟩
        obtain ⟨k, rfl, hk, hbefore⟩ := ih.mp hm
        refine ⟨k + 1, rfl, by simpa using hk, fun j hj => ?_⟩
        cases j with
        | zero => simp [hwanted, hbarred]
        | succ j => simpa using hbefore j (by omega)
      · rintro ⟨k, rfl, hk, hbefore⟩
        cases k with
        | zero => simp [hwanted] at hk
        | succ k =>
          refine ⟨k + 1, ih.mpr ⟨k, rfl, by simpa using hk, fun j hj => ?_⟩, rfl⟩
          simpa using hbefore (j + 1) (by omega)

/-- How far the first wanted line is from a given one, which may itself be barred. -/
def distance? (wanted barred : List Char → Bool) (line : List Char) (lines : List (List Char)) :
    Option Nat :=
  if wanted line then some 0 else reach? wanted barred lines

theorem distance?_eq_some_iff {wanted barred : List Char → Bool} {line : List Char} {d : Nat} :
    distance? wanted barred line lines = some d ↔
      (line :: lines)[d]?.any wanted ∧
        ∀ j < d, (line :: lines)[j]?.any wanted = false ∧
          (0 < j → (line :: lines)[j]?.any barred = false) := by
  unfold distance?
  split_ifs with hwanted
  · constructor
    · rintro h
      cases h
      exact ⟨hwanted, by simp⟩
    · rintro ⟨-, hbefore⟩
      by_contra hd
      have h := (hbefore 0 (Nat.pos_of_ne_zero fun h => hd (by rw [h]))).1
      simp [hwanted] at h
  · rw [reach?_eq_some_iff]
    constructor
    · rintro ⟨k, rfl, hk, hbefore⟩
      refine ⟨by simpa using hk, fun j hj => ?_⟩
      cases j with
      | zero => simp [hwanted]
      | succ j => simpa using hbefore j (by omega)
    · rintro ⟨hd, hbefore⟩
      cases d with
      | zero => simp [hwanted] at hd
      | succ k =>
        refine ⟨k, rfl, by simpa using hd, fun j hj => ?_⟩
        simpa using hbefore (j + 1) (by omega)

theorem lt_of_any {p : List Char → Bool} {i : Nat} (h : lines[i]?.any p) : i < lines.length := by
  by_contra hi
  rw [List.getElem?_eq_none (by omega)] at h
  cases h

section Around

variable {line : List Char} {index : Nat}

theorem getElem?_above (hline : lines[index]? = some line) {d : Nat} (hd : d ≤ index) :
    (line :: (lines.take index).reverse)[d]? = lines[index - d]? := by
  have hlength : index < lines.length := (List.getElem?_eq_some_iff.mp hline).1
  have hupwards : line :: (lines.take index).reverse = (lines.take (index + 1)).reverse := by
    rw [List.take_add_one, hline, List.reverse_append]
    rfl
  have htake : (lines.take (index + 1)).length = index + 1 := by
    rw [List.length_take]
    omega
  rw [hupwards, List.getElem?_reverse (by omega), htake, List.getElem?_take_of_lt (by omega)]
  congr 1

theorem getElem?_below (hline : lines[index]? = some line) (d : Nat) :
    (line :: lines.drop (index + 1))[d]? = lines[index + d]? := by
  obtain ⟨hlength, rfl⟩ := List.getElem?_eq_some_iff.mp hline
  rw [← List.drop_eq_getElem_cons hlength, List.getElem?_drop]

/-- The header above a line, on the way to which there is no other header and, above the line
itself, no closing brace. -/
theorem start?_eq_some_iff (hline : lines[index]? = some line) {start : Nat} :
    start? lines line index = some start ↔
      start ≤ index ∧ HeaderAt lines start ∧
        ∀ j, start < j → j ≤ index →
          ¬ HeaderAt lines j ∧ (j < index → ¬ ClosingAt lines j) := by
  have hstart : start? lines line index =
      (distance? isHeader isEnd line (lines.take index).reverse).map (index - ·) := by
    rw [start?, distance?]
    split_ifs <;> rfl
  simp only [← any_isHeader_iff, ← any_isEnd_iff, Bool.not_eq_true, hstart,
    Option.map_eq_some_iff, distance?_eq_some_iff]
  constructor
  · rintro ⟨d, ⟨hd, hbefore⟩, rfl⟩
    have hdi : d ≤ index := by
      have h := lt_of_any hd
      simp only [List.length_cons, List.length_reverse, List.length_take] at h
      omega
    rw [getElem?_above hline hdi] at hd
    refine ⟨by omega, hd, fun j hj hji => ?_⟩
    have h := hbefore (index - j) (by omega)
    rw [getElem?_above hline (by omega), Nat.sub_sub_self hji] at h
    exact ⟨h.1, fun hlt => h.2 (by omega)⟩
  · rintro ⟨hle, hs, hbetween⟩
    refine ⟨index - start, ⟨?_, fun j hj => ?_⟩, Nat.sub_sub_self hle⟩
    · rwa [getElem?_above hline (by omega), Nat.sub_sub_self hle]
    · have h := hbetween (index - j) (by omega) (by omega)
      rw [getElem?_above hline (by omega)]
      exact ⟨h.1, fun hpos => h.2 (by omega)⟩

/-- The closing brace below a line, on the way to which there is no other one and, below the line
itself, no header. -/
theorem stop?_eq_some_iff (hline : lines[index]? = some line) {stop : Nat} :
    stop? lines line index = some stop ↔
      index < stop ∧ ClosingAt lines (stop - 1) ∧
        ∀ j, index ≤ j → j + 1 < stop →
          ¬ ClosingAt lines j ∧ (index < j → ¬ HeaderAt lines j) := by
  have hstop : stop? lines line index =
      (distance? isEnd isHeader line (lines.drop (index + 1))).map (index + 1 + ·) := by
    rw [stop?, distance?]
    split_ifs <;> rfl
  simp only [← any_isHeader_iff, ← any_isEnd_iff, Bool.not_eq_true, hstop,
    Option.map_eq_some_iff, distance?_eq_some_iff, getElem?_below hline]
  constructor
  · rintro ⟨d, ⟨hd, hbefore⟩, rfl⟩
    have hlast : index + 1 + d - 1 = index + d := by omega
    refine ⟨by omega, by rwa [hlast], fun j hj hjs => ?_⟩
    have h := hbefore (j - index) (by omega)
    rw [Nat.add_sub_of_le hj] at h
    exact ⟨h.1, fun hlt => h.2 (by omega)⟩
  · rintro ⟨hlt, hs, hbetween⟩
    have hlast : index + (stop - (index + 1)) = stop - 1 := by omega
    refine ⟨stop - (index + 1), ⟨by rwa [hlast], fun j hj => ?_⟩, by omega⟩
    have h := hbetween (index + j) (by omega) (by omega)
    exact ⟨h.1, fun hpos => h.2 (by omega)⟩

end Around

/-- The lines from `start` on, before `stop`, are those of one rule: the first is the only header
among them, and the last is the only closing brace. -/
structure IsBlock (lines : List (List Char)) (start stop : Nat) : Prop where
  start_lt : start < stop
  header : HeaderAt lines start
  closing : ClosingAt lines (stop - 1)
  only_header : ∀ i, start ≤ i → i < stop → HeaderAt lines i → i = start
  only_closing : ∀ i, start ≤ i → i < stop → ClosingAt lines i → i = stop - 1

theorem IsBlock.stop_le {start stop : Nat} (h : IsBlock lines start stop) :
    stop ≤ lines.length := by
  have hclosing := h.closing.lt_length
  omega

theorem IsBlock.eq_of_overlap {s e s' e' : Nat} (h : IsBlock lines s e) (h' : IsBlock lines s' e')
    (hs : s < e') (hs' : s' < e) : s = s' ∧ e = e' := by
  have hstart : s = s' := by
    rcases le_total s s' with hle | hle
    · exact (h.only_header s' hle hs' h'.header).symm
    · exact h'.only_header s hle hs h.header
  have hlt := h.start_lt
  have hlt' := h'.start_lt
  refine ⟨hstart, ?_⟩
  rcases le_total e e' with hle | hle
  · have hlast := h'.only_closing (e - 1) (by omega) (by omega) h.closing
    omega
  · have hlast := h.only_closing (e' - 1) (by omega) (by omega) h'.closing
    omega

theorem block?_eq_some_iff {index start stop : Nat} :
    block? lines index = some (start, stop) ↔
      start ≤ index ∧ index < stop ∧ stop ≤ maxUnsigned 32 ∧ IsBlock lines start stop := by
  have hwalks : block? lines index = some (start, stop) ↔
      ∃ line, lines[index]? = some line ∧ start? lines line index = some start ∧
        stop? lines line index = some stop ∧ stop ≤ maxUnsigned 32 := by
    simp only [block?, Option.bind_eq_bind, Option.bind_eq_some_iff, Option.ite_none_right_eq_some]
    constructor
    · rintro ⟨line, hline, s, hs, e, he, hlimit, h⟩
      cases h
      exact ⟨line, hline, hs, he, hlimit⟩
    · rintro ⟨line, hline, hs, he, hlimit⟩
      exact ⟨line, hline, start, hs, stop, he, hlimit, rfl⟩
  rw [hwalks]
  constructor
  · rintro ⟨line, hline, hs, he, hlimit⟩
    obtain ⟨hsle, hheader, habove⟩ := (start?_eq_some_iff hline).mp hs
    obtain ⟨hlt, hclosing, hbelow⟩ := (stop?_eq_some_iff hline).mp he
    refine ⟨hsle, hlt, hlimit, by omega, hheader, hclosing, fun i hi hie hat => ?_,
      fun i hi hie hat => ?_⟩
    · by_contra hne
      by_cases hiindex : i ≤ index
      · exact (habove i (by omega) hiindex).1 hat
      · by_cases hlast : i = stop - 1
        · exact hat.not_closingAt (hlast ▸ hclosing)
        · exact (hbelow i (by omega) (by omega)).2 (by omega) hat
    · by_contra hne
      by_cases hiindex : index ≤ i
      · exact (hbelow i hiindex (by omega)).1 hat
      · by_cases hfirst : i = start
        · exact hheader.not_closingAt (hfirst ▸ hat)
        · exact (habove i (by omega) (by omega)).2 (by omega) hat
  · rintro ⟨hsle, hlt, hlimit, hblock⟩
    have hlength := hblock.stop_le
    obtain ⟨line, hline⟩ : ∃ line, lines[index]? = some line :=
      ⟨_, List.getElem?_eq_getElem (by omega)⟩
    have hs : start? lines line index = some start := by
      refine (start?_eq_some_iff hline).mpr
        ⟨hsle, hblock.header, fun j hj hji => ⟨fun hat => ?_, fun hjlt hat => ?_⟩⟩
      · have h := hblock.only_header j (by omega) (by omega) hat
        omega
      · have h := hblock.only_closing j (by omega) (by omega) hat
        omega
    have he : stop? lines line index = some stop := by
      refine (stop?_eq_some_iff hline).mpr
        ⟨hlt, hblock.closing, fun j hj hje => ⟨fun hat => ?_, fun hjlt hat => ?_⟩⟩
      · have h := hblock.only_closing j (by omega) (by omega) hat
        omega
      · have h := hblock.only_header j (by omega) (by omega) hat
        omega
    exact ⟨line, hline, hs, he, hlimit⟩

theorem rangeAt?_eq (document : String) (cursor : Position) :
    rangeAt? document cursor = (block? (documentLines document.toList) cursor.line).map
      fun (start, stop) => Range.lines start stop := by
  rw [rangeAt?, map_toList_splitLines]

theorem rangeAt?_eq_some_iff {document : String} {cursor : Position} {range : Range} :
    rangeAt? document cursor = some range ↔
      ∃ start stop, range = .lines start stop ∧ start ≤ cursor.line ∧ cursor.line < stop ∧
        stop ≤ maxUnsigned 32 ∧ IsBlock (documentLines document.toList) start stop := by
  rw [rangeAt?_eq, Option.map_eq_some_iff]
  constructor
  · rintro ⟨⟨start, stop⟩, h, rfl⟩
    exact ⟨start, stop, rfl, block?_eq_some_iff.mp h⟩
  · rintro ⟨start, stop, rfl, h⟩
    exact ⟨(start, stop), block?_eq_some_iff.mpr h, rfl⟩

/-- The range around a cursor is that of the block that its line is in, and there is none outside of
blocks. The character makes no difference, all lines of a block have the same range, and different
ranges have no line in common. -/
theorem range_of_block (document : String) :
    let lines := documentLines document.toList
    (∀ (cursor : Position) (range : Range),
      rangeAt? document cursor = some range ↔
        ∃ start stop, range = .lines start stop ∧ start ≤ cursor.line ∧ cursor.line < stop ∧
          stop ≤ lines.length ∧ stop ≤ maxUnsigned 32 ∧ IsBlock lines start stop) ∧
    (∀ line a b : Nat, rangeAt? document ⟨line, a⟩ = rangeAt? document ⟨line, b⟩) ∧
    (∀ (cursor other : Position) (range : Range), rangeAt? document cursor = some range →
      range.start.line ≤ other.line → other.line < range.stop.line →
        rangeAt? document other = some range) ∧
    ∀ (cursor other : Position) (range range' : Range), rangeAt? document cursor = some range →
      rangeAt? document other = some range' →
        range = range' ∨ range.stop.line ≤ range'.start.line ∨
          range'.stop.line ≤ range.start.line := by
  intro lines
  refine ⟨fun cursor range => ?_, fun line a b => rfl, fun cursor other range h hstart hstop => ?_,
    fun cursor other range range' h h' => ?_⟩
  · rw [rangeAt?_eq_some_iff]
    constructor
    · rintro ⟨start, stop, hrange, hle, hlt, hlimit, hblock⟩
      exact ⟨start, stop, hrange, hle, hlt, hblock.stop_le, hlimit, hblock⟩
    · rintro ⟨start, stop, hrange, hle, hlt, -, hlimit, hblock⟩
      exact ⟨start, stop, hrange, hle, hlt, hlimit, hblock⟩
  · obtain ⟨start, stop, rfl, -, -, hlimit, hblock⟩ := rangeAt?_eq_some_iff.mp h
    exact rangeAt?_eq_some_iff.mpr ⟨start, stop, rfl, hstart, hstop, hlimit, hblock⟩
  · obtain ⟨s, e, rfl, -, -, -, hblock⟩ := rangeAt?_eq_some_iff.mp h
    obtain ⟨s', e', rfl, -, -, -, hblock'⟩ := rangeAt?_eq_some_iff.mp h'
    by_cases hoverlap : s < e' ∧ s' < e
    · obtain ⟨rfl, rfl⟩ := hblock.eq_of_overlap hblock' hoverlap.1 hoverlap.2
      exact .inl rfl
    · simp only [Range.lines]
      omega

end Rule

end RuleServer
