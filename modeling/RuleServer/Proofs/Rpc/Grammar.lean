import Mathlib
import RuleServer.Proofs.Text.Blank
import RuleServer.Proofs.Text.Cut
import RuleServer.Proofs.Text.Numeral
import RuleServer.Proofs.Text.Utf8
import RuleServer.Rpc.Frame

/-!
The grammar of frames, and that reading accepts exactly it. A stream that starts with a frame is
read as that frame whatever follows, and in one way only; any other stream but the empty one is
refused as badly framed.
-/

namespace RuleServer

namespace Frame

/-- A line ends at its first LF and is no longer than allowed. -/
def IsLine (line : Bytes) : Prop :=
  ∃ body, line = body ++ [10] ∧ 10 ∉ body ∧ line.length ≤ lineLimit

/-- The line that ends a header: any number of CR, then LF. -/
def IsBlankLine (line : Bytes) : Prop :=
  ∃ n, line = List.replicate n 13 ++ [10] ∧ line.length ≤ lineLimit

/-- A header line, with the key and the value that it is taken for. -/
structure Field where
  line : Bytes
  key : List Char
  value : List Char

/-- The line of a field is UTF-8. Without the CR and LF at its end it is the key up to the first
blank, and from there on the value with blanks around it; neither is empty. Where the key is that of
the payload's length, the value is a length that a payload may have. -/
structure Field.WellFormed (f : Field) : Prop where
  isLine : IsLine f.line
  parts : ∃ cs gap rest, f.line = Utf8.encode cs ∧ stripLineEnd cs = f.key ++ gap :: rest ∧
    isBlank gap ∧ (∀ c ∈ f.key, isBlank c = false) ∧ f.value = trim rest
  key_ne_nil : f.key ≠ []
  value_ne_nil : f.value ≠ []
  length_allowed : f.key = lengthKey → ∃ n, IsNumeral f.value n ∧ 1 ≤ n ∧ n ≤ payloadLimit

def headerBytes (fields : List Field) : Bytes :=
  fields.flatMap Field.line

/-- The last of the fields with the key of the payload's length has this value. -/
def GivesLength (fields : List Field) (n : Nat) : Prop :=
  ∃ before f after, fields = before ++ f :: after ∧ f.key = lengthKey ∧ IsNumeral f.value n ∧
    ∀ g ∈ after, g.key ≠ lengthKey

/-- The parts of a frame. -/
structure IsFrame (fields : List Field) (blank payload : Bytes) : Prop where
  wellFormed : ∀ f ∈ fields, f.WellFormed
  isBlankLine : IsBlankLine blank
  givesLength : GivesLength fields payload.length

theorem takeLine_of_body {body rest : Bytes} {limit : Nat} (h : 10 ∉ body)
    (hl : body.length < limit) : takeLine limit (body ++ 10 :: rest) = (body ++ [10], rest) := by
  induction body generalizing limit with
  | nil =>
    obtain _ | limit := limit
    · simp at hl
    · simp [takeLine]
  | cons b body ih =>
    obtain _ | limit := limit
    · simp at hl
    · simp only [List.mem_cons, not_or] at h
      simp only [List.length_cons] at hl
      have hb : b ≠ 10 := fun he => h.1 he.symm
      have hbody : takeLine limit (body ++ 10 :: rest) = (body ++ [10], rest) :=
        ih h.2 (by omega)
      simp [takeLine, hb, hbody]

theorem takeLine_isLine {line : Bytes} (h : IsLine line) (rest : Bytes) :
    takeLine lineLimit (line ++ rest) = (line, rest) := by
  obtain ⟨body, rfl, hb, hl⟩ := h
  simp only [List.length_append, List.length_singleton] at hl
  rw [List.append_assoc]
  exact takeLine_of_body hb (by omega)

theorem takeLine_cases (limit : Nat) (s : Bytes) :
    (takeLine limit s).1 ++ (takeLine limit s).2 = s ∧
      ((∃ body, (takeLine limit s).1 = body ++ [10] ∧ 10 ∉ body ∧
          (takeLine limit s).1.length ≤ limit) ∨
        (10 ∉ (takeLine limit s).1 ∧
          ((takeLine limit s).2 = [] ∨ (takeLine limit s).1.length = limit))) := by
  induction s generalizing limit with
  | nil => cases limit <;> simp [takeLine]
  | cons b s ih =>
    obtain _ | limit := limit
    · simp [takeLine]
    · by_cases hb : b = 10
      · subst hb
        refine ⟨by simp [takeLine], .inl ⟨[], ?_⟩⟩
        simp [takeLine]
      · obtain ⟨happ, hcase⟩ := ih limit
        simp only [takeLine, hb, if_false, List.cons_append, happ, true_and]
        rcases hcase with ⟨body, hbody, hmem, hlen⟩ | ⟨hmem, hend⟩
        · refine .inl ⟨b :: body, by simp [hbody], ?_, by simpa using hlen⟩
          simp only [List.mem_cons, not_or]
          exact ⟨fun he => hb he.symm, hmem⟩
        · refine .inr ⟨?_, by simpa using hend⟩
          simp only [List.mem_cons, not_or]
          exact ⟨fun he => hb he.symm, hmem⟩

theorem isWhole_of_isLine {line : Bytes} (h : IsLine line) : isWhole line = true := by
  obtain ⟨body, rfl, -, -⟩ := h
  simp [isWhole]

theorem isWhole_of_not_mem {line : Bytes} (h : 10 ∉ line) : isWhole line = false := by
  rw [isWhole, beq_eq_false_iff_ne]
  exact fun he => h (List.mem_of_getLast? he)

theorem lineText_of_isLine {line : Bytes} (h : IsLine line) (failure : Option IoFault) :
    lineText failure line = (checkLine line).mapError .framing := by
  cases failure <;> simp [lineText, isWhole_of_isLine h]

theorem checkLine_of_isLine {line : Bytes} (h : IsLine line) {cs : List Char}
    (hcs : line = Utf8.encode cs) : checkLine line = .ok (stripLineEnd cs) := by
  simp [checkLine, Utf8.decode?_eq_some_iff.mpr hcs, isWhole_of_isLine h]

theorem encode_of_lineText {line : Bytes} {text : List Char} (h : IsLine line)
    (ht : lineText none line = .ok text) :
    ∃ cs, line = Utf8.encode cs ∧ stripLineEnd cs = text := by
  rw [lineText_of_isLine h] at ht
  cases hd : Utf8.decode? line with
  | none => simp [checkLine, hd, Except.mapError] at ht
  | some cs =>
    have hcs := Utf8.decode?_eq_some_iff.mp hd
    rw [checkLine_of_isLine h hcs] at ht
    exact ⟨cs, hcs, by simpa [Except.mapError] using ht⟩

theorem stripLineEnd_eq_nil_iff {cs : List Char} :
    stripLineEnd cs = [] ↔ ∀ c ∈ cs, isLineEnd c := by
  simp [stripLineEnd, List.dropWhile_eq_nil_iff]

theorem encodeChar_lineEnd {c : Char} (h : isLineEnd c) :
    Utf8.encodeChar c = [13] ∨ Utf8.encodeChar c = [10] := by
  simp only [isLineEnd, Bool.or_eq_true, decide_eq_true_eq] at h
  rcases h with rfl | rfl
  · exact .inl (by decide)
  · exact .inr (by decide)

theorem encode_blankLine (n : Nat) :
    Utf8.encode (List.replicate n '\r' ++ ['\n']) = List.replicate n 13 ++ [10] := by
  induction n with
  | zero => decide
  | succ n ih =>
    rw [List.replicate_succ, List.cons_append, Utf8.encode_cons, ih]
    rfl

theorem IsBlankLine.isLine {line : Bytes} (h : IsBlankLine line) : IsLine line := by
  obtain ⟨n, rfl, hl⟩ := h
  refine ⟨List.replicate n 13, rfl, ?_, hl⟩
  intro hm
  exact absurd (List.eq_of_mem_replicate hm) (by decide)

theorem checkLine_blankLine {line : Bytes} (h : IsBlankLine line) : checkLine line = .ok [] := by
  have hline := h.isLine
  obtain ⟨n, hn, -⟩ := h
  rw [checkLine_of_isLine hline (hn.trans (encode_blankLine n).symm), stripLineEnd_eq_nil_iff.mpr]
  intro c hc
  simp only [List.mem_append, List.mem_replicate, List.mem_singleton] at hc
  rcases hc with ⟨-, rfl⟩ | rfl <;> decide

/-- A line of nothing but CR and LF is blank: its only LF is the last byte. -/
theorem isBlankLine_of_strip {line : Bytes} {cs : List Char} (h : IsLine line)
    (hcs : line = Utf8.encode cs) (hs : stripLineEnd cs = []) : IsBlankLine line := by
  obtain ⟨body, rfl, hbody, hl⟩ := h
  have hbytes : ∀ b ∈ body ++ [10], b = 13 ∨ b = 10 := by
    intro b hb
    rw [hcs, Utf8.encode, List.mem_flatMap] at hb
    obtain ⟨c, hc, hb⟩ := hb
    rcases encodeChar_lineEnd (stripLineEnd_eq_nil_iff.mp hs c hc) with he | he
    · exact .inl (by simpa [he] using hb)
    · exact .inr (by simpa [he] using hb)
  have hcr : body = List.replicate body.length 13 := by
    refine List.eq_replicate_iff.mpr ⟨rfl, fun b hb => ?_⟩
    rcases hbytes b (by simp [hb]) with he | he
    · exact he
    · exact absurd (he ▸ hb) hbody
  exact ⟨body.length, by rw [← hcr], hl⟩

theorem headerField?_eq_some_iff {text key value : List Char} :
    headerField? text = some (key, value) ↔
      (∃ gap rest, text = key ++ gap :: rest ∧ isBlank gap ∧ (∀ c ∈ key, isBlank c = false) ∧
        value = trim rest) ∧ key ≠ [] ∧ value ≠ [] := by
  unfold headerField?
  constructor
  · intro h
    split at h
    · simp at h
    · rename_i k rest hcut
      obtain ⟨gap, ht, hg, hk⟩ := cutWhere?_eq_some_iff.mp hcut
      simp only at h
      split_ifs at h with hne
      simp only [Option.some.injEq, Prod.mk.injEq] at h
      obtain ⟨rfl, rfl⟩ := h
      exact ⟨⟨gap, rest, ht, hg, hk, rfl⟩, fun he => hne (.inl he), fun he => hne (.inr he)⟩
  · rintro ⟨⟨gap, rest, ht, hg, hk, rfl⟩, hkey, hvalue⟩
    rw [cutWhere?_eq_some_iff.mpr ⟨gap, ht, hg, hk⟩]
    simp [hkey, hvalue]

theorem payloadLimit_le : payloadLimit ≤ maxUnsigned 64 := by
  decide

theorem payloadLength_eq_ok_iff {value : List Char} {n : Nat} :
    payloadLength value = .ok n ↔ IsNumeral value n ∧ 1 ≤ n ∧ n ≤ payloadLimit := by
  have hlimit := payloadLimit_le
  unfold payloadLength
  split
  · rename_i fault h
    simp only [reduceCtorEq, false_iff]
    rintro ⟨hn, -, hle⟩
    rw [readNumeral_eq_ok_iff.mpr ⟨hn, by omega⟩] at h
    simp at h
  · rename_i m h
    obtain ⟨hm, hmax⟩ := readNumeral_eq_ok_iff.mp h
    have huniq : IsNumeral value n → n ≤ maxUnsigned 64 → n = m := by
      intro hn hle
      rw [readNumeral_eq_ok_iff.mpr ⟨hn, hle⟩] at h
      exact Except.ok.inj h
    split_ifs with h0 hlarge
    · simp only [false_iff]
      rintro ⟨hn, h1, hle⟩
      have := huniq hn (by omega)
      omega
    · simp only [false_iff]
      rintro ⟨hn, h1, hle⟩
      have := huniq hn (by omega)
      omega
    · constructor
      · intro he
        obtain rfl := Except.ok.inj he
        exact ⟨hm, by omega, by omega⟩
      · rintro ⟨hn, h1, hle⟩
        rw [huniq hn (by omega)]

theorem afterField_eq_ok_iff {text : List Char} {length length' : Option Nat} :
    afterField length text = .ok length' ↔
      ∃ key value, headerField? text = some (key, value) ∧
        if key = lengthKey then
          ∃ n, IsNumeral value n ∧ (1 ≤ n ∧ n ≤ payloadLimit) ∧ length' = some n
        else length' = length := by
  unfold afterField
  split
  · rename_i h
    simp [h]
  · rename_i key value h
    simp only [h, Option.some.injEq, Prod.mk.injEq]
    constructor
    · intro he
      refine ⟨key, value, ⟨rfl, rfl⟩, ?_⟩
      split_ifs at he ⊢ with hk
      · cases hp : payloadLength value with
        | error fault => simp [hp, Except.map] at he
        | ok n =>
          obtain ⟨hn, hr⟩ := payloadLength_eq_ok_iff.mp hp
          simp only [hp, Except.map, Except.ok.injEq] at he
          exact ⟨n, hn, hr, he.symm⟩
      · exact (Except.ok.inj he).symm
    · rintro ⟨key', value', ⟨rfl, rfl⟩, he⟩
      split_ifs at he ⊢ with hk
      · obtain ⟨n, hn, hr, rfl⟩ := he
        rw [payloadLength_eq_ok_iff.mpr ⟨hn, hr⟩]
        rfl
      · rw [he]

theorem Field.WellFormed.text {f : Field} (h : f.WellFormed) (failure : Option IoFault) :
    ∃ text, text ≠ [] ∧ lineText failure f.line = .ok text ∧
      headerField? text = some (f.key, f.value) := by
  obtain ⟨cs, gap, rest, hcs, ht, hg, hk, hv⟩ := h.parts
  refine ⟨stripLineEnd cs, by simp [ht], ?_, ?_⟩
  · rw [lineText_of_isLine h.isLine, checkLine_of_isLine h.isLine hcs]
    rfl
  · exact headerField?_eq_some_iff.mpr ⟨⟨gap, rest, ht, hg, hk, hv⟩, h.key_ne_nil, h.value_ne_nil⟩

theorem Field.wellFormed_of_text {line : Bytes} {text : List Char} {length length' : Option Nat}
    (hline : IsLine line) (ht : lineText none line = .ok text)
    (hf : afterField length text = .ok length') :
    ∃ f : Field, f.line = line ∧ f.WellFormed ∧
      if f.key = lengthKey then ∃ n, IsNumeral f.value n ∧ length' = some n
      else length' = length := by
  obtain ⟨key, value, hfield, hlength⟩ := afterField_eq_ok_iff.mp hf
  obtain ⟨⟨gap, rest, hparts, hg, hk, hv⟩, hkey, hvalue⟩ := headerField?_eq_some_iff.mp hfield
  obtain ⟨cs, hcs, hstrip⟩ := encode_of_lineText hline ht
  refine ⟨⟨line, key, value⟩, rfl, ?_, ?_⟩
  · refine ⟨hline, ⟨cs, gap, rest, hcs, hstrip.trans hparts, hg, hk, hv⟩, hkey, hvalue, ?_⟩
    intro hlk
    rw [if_pos hlk] at hlength
    obtain ⟨n, hn, hr, -⟩ := hlength
    exact ⟨n, hn, hr⟩
  · simp only
    split_ifs at hlength ⊢
    · obtain ⟨n, hn, -, he⟩ := hlength
      exact ⟨n, hn, he⟩
    · exact hlength

/-- The length that is known after fields, when `start` is known before. -/
def LengthAfter (start : Option Nat) (fields : List Field) (n : Nat) : Prop :=
  GivesLength fields n ∨ start = some n ∧ ∀ g ∈ fields, g.key ≠ lengthKey

theorem givesLength_cons {f : Field} {fields : List Field} {n : Nat} :
    GivesLength (f :: fields) n ↔
      (f.key = lengthKey ∧ IsNumeral f.value n ∧ ∀ g ∈ fields, g.key ≠ lengthKey) ∨
        GivesLength fields n := by
  constructor
  · rintro ⟨before, g, after, h, hk, hn, hafter⟩
    cases before with
    | nil =>
      simp only [List.nil_append, List.cons.injEq] at h
      obtain ⟨rfl, rfl⟩ := h
      exact .inl ⟨hk, hn, hafter⟩
    | cons f' before =>
      simp only [List.cons_append, List.cons.injEq] at h
      obtain ⟨rfl, rfl⟩ := h
      exact .inr ⟨before, g, after, rfl, hk, hn, hafter⟩
  · rintro (⟨hk, hn, hafter⟩ | ⟨before, g, after, rfl, hk, hn, hafter⟩)
    · exact ⟨[], f, fields, rfl, hk, hn, hafter⟩
    · exact ⟨f :: before, g, after, rfl, hk, hn, hafter⟩

theorem lengthAfter_cons {f : Field} {fields : List Field} {start next : Option Nat} {n : Nat}
    (h : if f.key = lengthKey then ∃ m, IsNumeral f.value m ∧ next = some m else next = start) :
    LengthAfter start (f :: fields) n ↔ LengthAfter next fields n := by
  simp only [LengthAfter, givesLength_cons, List.forall_mem_cons]
  split_ifs at h with hk
  · obtain ⟨m, hm, rfl⟩ := h
    have hnm : IsNumeral f.value n ↔ some m = some n := by
      constructor
      · exact fun hn => by rw [hm.unique hn]
      · intro he
        exact Option.some.inj he ▸ hm
    simp only [hk, hnm, true_and, ne_eq, not_true, false_and, and_false, or_false]
    tauto
  · subst h
    simp only [hk, false_and, false_or, ne_eq, not_false_iff, true_and]

/-- What a header line can lead to: it cannot be read, it ends the header, it is refused as a field,
or it is a field and the header goes on. -/
theorem readHeader_cons (failure : Option IoFault) (fuel : Nat) (first : Bool)
    (length : Option Nat) (b : UInt8) (s : Bytes) :
    ∃ line rest, takeLine lineLimit (b :: s) = (line, rest) ∧
      ((∃ fault, lineText failure line = .error fault ∧
          readHeader failure (fuel + 1) first length (b :: s) = .error fault) ∨
        (lineText failure line = .ok [] ∧ length = none ∧
          readHeader failure (fuel + 1) first length (b :: s) = .error (.framing .missingLength)) ∨
        (∃ n, lineText failure line = .ok [] ∧ length = some n ∧
          readHeader failure (fuel + 1) first length (b :: s) = .ok (some (n, rest))) ∨
        (∃ text fault, lineText failure line = .ok text ∧ text ≠ [] ∧
          afterField length text = .error fault ∧
          readHeader failure (fuel + 1) first length (b :: s) = .error (.framing fault)) ∨
        ∃ text next, lineText failure line = .ok text ∧ text ≠ [] ∧
          afterField length text = .ok next ∧
          readHeader failure (fuel + 1) first length (b :: s) =
            readHeader failure fuel false next rest) := by
  rcases htake : takeLine lineLimit (b :: s) with ⟨line, rest⟩
  refine ⟨line, rest, rfl, ?_⟩
  simp only [readHeader, htake]
  cases ht : lineText failure line with
  | error fault => exact .inl ⟨fault, rfl, rfl⟩
  | ok text =>
    obtain _ | ⟨c, cs⟩ := text
    · cases length with
      | none => exact .inr (.inl ⟨rfl, rfl, rfl⟩)
      | some n => exact .inr (.inr (.inl ⟨n, rfl, rfl, rfl⟩))
    · cases hf : afterField length (c :: cs) with
      | error fault =>
        exact .inr (.inr (.inr (.inl ⟨c :: cs, fault, rfl, by simp, hf, by simp only [hf]⟩)))
      | ok next =>
        exact .inr (.inr (.inr (.inr ⟨c :: cs, next, rfl, by simp, hf, by simp only [hf]⟩)))

theorem readHeader_blank {blank : Bytes} (h : IsBlankLine blank) (failure : Option IoFault)
    (fuel : Nat) (first : Bool) (n : Nat) (rest : Bytes) :
    readHeader failure (fuel + 1) first (some n) (blank ++ rest) = .ok (some (n, rest)) := by
  have htake := takeLine_isLine h.isLine rest
  have htext : lineText failure blank = .ok [] := by
    rw [lineText_of_isLine h.isLine, checkLine_blankLine h]
    rfl
  cases hb : blank ++ rest with
  | nil =>
    obtain ⟨k, rfl, -⟩ := h
    simp at hb
  | cons b s => simp only [readHeader, ← hb, htake, htext]

theorem readHeader_field {f : Field} (h : f.WellFormed) (failure : Option IoFault) (fuel : Nat)
    (first : Bool) {length next : Option Nat}
    (hnext : if f.key = lengthKey then ∃ m, IsNumeral f.value m ∧ next = some m
      else next = length) (rest : Bytes) :
    readHeader failure (fuel + 1) first length (f.line ++ rest) =
      readHeader failure fuel false next rest := by
  have htake := takeLine_isLine h.isLine rest
  obtain ⟨text, hne, htext, hfield⟩ := h.text failure
  have hafter : afterField length text = .ok next := by
    refine afterField_eq_ok_iff.mpr ⟨f.key, f.value, hfield, ?_⟩
    split_ifs at hnext ⊢ with hk
    · obtain ⟨m, hm, he⟩ := hnext
      obtain ⟨n, hn, hr⟩ := h.length_allowed hk
      exact ⟨m, hm, hm.unique hn ▸ hr, he⟩
    · exact hnext
  cases hb : f.line ++ rest with
  | nil =>
    obtain ⟨body, hline, -, -⟩ := h.isLine
    simp [hline] at hb
  | cons b s =>
    obtain _ | ⟨c, cs⟩ := text
    · exact absurd rfl hne
    · simp only [readHeader, ← hb, htake, htext, hafter]

theorem readHeader_fields {fields : List Field} {blank : Bytes}
    (hwf : ∀ f ∈ fields, f.WellFormed) (hblank : IsBlankLine blank) (failure : Option IoFault)
    {fuel : Nat} (hfuel : fields.length < fuel) (first : Bool) {length : Option Nat} {n : Nat}
    (hlength : LengthAfter length fields n) (rest : Bytes) :
    readHeader failure fuel first length (headerBytes fields ++ (blank ++ rest)) =
      .ok (some (n, rest)) := by
  induction fields generalizing fuel first length with
  | nil =>
    obtain ⟨fuel, rfl⟩ : ∃ k, fuel = k + 1 := ⟨fuel - 1, by simp at hfuel; omega⟩
    have hl : length = some n := by simpa [LengthAfter, GivesLength] using hlength
    subst hl
    exact readHeader_blank hblank failure fuel first n rest
  | cons f fields ih =>
    simp only [List.length_cons] at hfuel
    obtain ⟨fuel, rfl⟩ : ∃ k, fuel = k + 1 := ⟨fuel - 1, by omega⟩
    have hf := hwf f (by simp)
    have hrest := fun g hg => hwf g (List.mem_cons_of_mem f hg)
    obtain ⟨next, hnext⟩ : ∃ next,
        if f.key = lengthKey then ∃ m, IsNumeral f.value m ∧ next = some m else next = length := by
      by_cases hk : f.key = lengthKey
      · obtain ⟨m, hm, -⟩ := hf.length_allowed hk
        exact ⟨some m, by simpa [hk] using hm⟩
      · exact ⟨length, by simp [hk]⟩
    have hstep := readHeader_field hf failure fuel first hnext (headerBytes fields ++ (blank ++ rest))
    rw [headerBytes, List.flatMap_cons, List.append_assoc]
    exact hstep.trans (ih hrest (by omega) false ((lengthAfter_cons hnext).mp hlength))

/-- A line that was read, with bytes left after it, is one of the grammar: a line without an end is
taken only where the stream ends. -/
theorem isLine_of_takeLine {s line rest : Bytes} {text : List Char}
    (htake : takeLine lineLimit s = (line, rest)) (ht : lineText none line = .ok text)
    (hrest : rest ≠ []) : IsLine line := by
  have hcase := (takeLine_cases lineLimit s).2
  rw [htake] at hcase
  rcases hcase with hline | ⟨hmem, hend | hlen⟩
  · exact hline
  · exact absurd hend hrest
  · simp only [lineText, checkLine] at ht
    split at ht
    · simp [Except.mapError] at ht
    · simp [Except.mapError, isWhole_of_not_mem hmem, hlen] at ht

/-- A header that was read, with bytes left after it, is one of the grammar. -/
theorem fields_of_readHeader {fuel : Nat} {first : Bool} {length : Option Nat} {s rest : Bytes}
    {n : Nat} (h : readHeader none fuel first length s = .ok (some (n, rest))) (hrest : rest ≠ []) :
    ∃ fields blank, (∀ f ∈ fields, f.WellFormed) ∧ IsBlankLine blank ∧
      LengthAfter length fields n ∧ s = headerBytes fields ++ (blank ++ rest) := by
  induction fuel generalizing first length s with
  | zero => simp [readHeader] at h
  | succ fuel ih =>
    cases s with
    | nil => cases first <;> simp [readHeader] at h
    | cons b s =>
      obtain ⟨line, after, htake, hcases⟩ := readHeader_cons none fuel first length b s
      have happ : line ++ after = b :: s := by
        have := (takeLine_cases lineLimit (b :: s)).1
        rwa [htake] at this
      rw [h] at hcases
      obtain ⟨_, _, he⟩ | ⟨_, _, he⟩ | ⟨m, ht, rfl, he⟩ | ⟨_, _, _, _, _, he⟩ |
        ⟨text, next, ht, -, hnext, he⟩ := hcases
      · simp at he
      · simp at he
      · simp only [Except.ok.injEq, Option.some.injEq, Prod.mk.injEq] at he
        obtain ⟨rfl, rfl⟩ := he
        have hline := isLine_of_takeLine htake ht hrest
        obtain ⟨cs, hcs, hstrip⟩ := encode_of_lineText hline ht
        have hblank := isBlankLine_of_strip hline hcs hstrip
        exact ⟨[], line, by simp, hblank, .inr ⟨rfl, by simp⟩, happ.symm⟩
      · simp at he
      · -- the bytes left at the end are already left after this line
        have hafter : after ≠ [] := by
          rintro rfl
          cases fuel <;> simp [readHeader] at he
        have hline := isLine_of_takeLine htake ht hafter
        obtain ⟨f, rfl, hf, hlength⟩ := Field.wellFormed_of_text hline ht hnext
        obtain ⟨fields, blank, hwf, hblank, hl, rfl⟩ := ih he.symm
        refine ⟨f :: fields, blank, ?_, hblank, (lengthAfter_cons hlength).mpr hl, ?_⟩
        · simpa using ⟨hf, hwf⟩
        · rw [← happ, headerBytes, headerBytes, List.flatMap_cons, List.append_assoc]

theorem framing_of_lineText {line : Bytes} {fault : ReadFault}
    (h : lineText none line = .error fault) : ∃ f, fault = .framing f := by
  cases hc : checkLine line with
  | error f => exact ⟨f, by simpa [lineText, hc, Except.mapError, eq_comm] using h⟩
  | ok text => simp [lineText, hc, Except.mapError] at h

theorem framing_of_readHeader {fuel : Nat} {first : Bool} {length : Option Nat} {s : Bytes}
    {fault : ReadFault} (h : readHeader none fuel first length s = .error fault) :
    ∃ f, fault = .framing f := by
  induction fuel generalizing first length s with
  | zero => exact ⟨_, (Except.error.inj h).symm⟩
  | succ fuel ih =>
    cases s with
    | nil =>
      cases first
      · exact ⟨_, (Except.error.inj h).symm⟩
      · simp [readHeader] at h
    | cons b s =>
      obtain ⟨line, rest, -, hcases⟩ := readHeader_cons none fuel first length b s
      rw [h] at hcases
      obtain ⟨fault', ht, he⟩ | ⟨_, _, he⟩ | ⟨_, _, _, he⟩ | ⟨_, fault', _, _, _, he⟩ |
        ⟨_, _, _, _, _, he⟩ := hcases
      · exact framing_of_lineText (Except.error.inj he ▸ ht)
      · exact ⟨_, Except.error.inj he⟩
      · simp at he
      · exact ⟨_, Except.error.inj he⟩
      · exact ih he.symm

theorem nil_of_readHeader {failure : Option IoFault} {fuel : Nat} {first : Bool}
    {length : Option Nat} {s : Bytes} (h : readHeader failure fuel first length s = .ok none) :
    s = [] ∧ first = true := by
  induction fuel generalizing first length s with
  | zero => simp [readHeader] at h
  | succ fuel ih =>
    cases s with
    | nil =>
      cases failure with
      | none => cases first <;> simp [readHeader] at h ⊢
      | some fault => simp [readHeader] at h
    | cons b s =>
      obtain ⟨line, rest, -, hcases⟩ := readHeader_cons failure fuel first length b s
      rw [h] at hcases
      obtain ⟨_, _, he⟩ | ⟨_, _, he⟩ | ⟨_, _, _, he⟩ | ⟨_, _, _, _, _, he⟩ |
        ⟨_, _, _, _, _, he⟩ := hcases
      · simp at he
      · simp at he
      · simp at he
      · simp at he
      · simpa using (ih he.symm).2

theorem one_le_of_readHeader {fuel : Nat} {first : Bool} {length : Option Nat} {s rest : Bytes}
    {n : Nat} (h : readHeader none fuel first length s = .ok (some (n, rest)))
    (hlength : ∀ m, length = some m → 1 ≤ m) : 1 ≤ n := by
  induction fuel generalizing first length s with
  | zero => simp [readHeader] at h
  | succ fuel ih =>
    cases s with
    | nil => cases first <;> simp [readHeader] at h
    | cons b s =>
      obtain ⟨line, after, -, hcases⟩ := readHeader_cons none fuel first length b s
      rw [h] at hcases
      obtain ⟨_, _, he⟩ | ⟨_, _, he⟩ | ⟨m, _, hm, he⟩ | ⟨_, _, _, _, _, he⟩ |
        ⟨text, next, _, _, hnext, he⟩ := hcases
      · simp at he
      · simp at he
      · obtain ⟨rfl, -⟩ := Prod.mk.inj (Option.some.inj (Except.ok.inj he))
        exact hlength n hm
      · simp at he
      · refine ih he.symm ?_
        obtain ⟨key, value, -, hkey⟩ := afterField_eq_ok_iff.mp hnext
        split_ifs at hkey
        · obtain ⟨m, -, ⟨hm, -⟩, rfl⟩ := hkey
          rintro k hk
          exact Option.some.inj hk ▸ hm
        · exact hkey ▸ hlength

theorem length_le_headerBytes {fields : List Field} (h : ∀ f ∈ fields, f.WellFormed) :
    fields.length ≤ (headerBytes fields).length := by
  induction fields with
  | nil => simp
  | cons f fields ih =>
    obtain ⟨body, hline, -, -⟩ := (h f (by simp)).isLine
    have hrest := ih fun g hg => h g (List.mem_cons_of_mem f hg)
    simp only [headerBytes, List.flatMap_cons, List.length_append, List.length_cons, hline,
      List.length_nil] at hrest ⊢
    omega

theorem read_of_isFrame {fields : List Field} {blank payload : Bytes}
    (h : IsFrame fields blank payload) (rest : Bytes) (failure : Option IoFault) :
    read ⟨headerBytes fields ++ (blank ++ (payload ++ rest)), failure⟩ =
      .ok (some (payload, ⟨rest, failure⟩)) := by
  have hfuel := length_le_headerBytes h.wellFormed
  have hheader : readHeader failure
      ((headerBytes fields ++ (blank ++ (payload ++ rest))).length + 1) true none
      (headerBytes fields ++ (blank ++ (payload ++ rest))) =
        .ok (some (payload.length, payload ++ rest)) :=
    readHeader_fields h.wellFormed h.isBlankLine failure
      (by simp only [List.length_append]; omega) true (.inl h.givesLength) (payload ++ rest)
  simp only [read, hheader]
  simp

/-- What is read as a frame is one. Its payload is not empty, so that its header was complete. -/
theorem isFrame_of_read {s payload : Bytes} {rest : ByteStream}
    (h : read ⟨s, none⟩ = .ok (some (payload, rest))) :
    rest.failure = none ∧ ∃ fields blank, IsFrame fields blank payload ∧
      s = headerBytes fields ++ (blank ++ (payload ++ rest.bytes)) := by
  simp only [read] at h
  split at h
  · simp at h
  · simp at h
  · rename_i n after hheader
    split_ifs at h with hlen
    obtain ⟨rfl, rfl⟩ := Prod.mk.inj (Option.some.inj (Except.ok.inj h))
    have hn : 1 ≤ n := one_le_of_readHeader hheader (by simp)
    have hafter : after ≠ [] := by
      rintro rfl
      simp at hlen
      omega
    obtain ⟨fields, blank, hwf, hblank, hlength, rfl⟩ := fields_of_readHeader hheader hafter
    have hgives : GivesLength fields n := by simpa [LengthAfter] using hlength
    refine ⟨rfl, fields, blank, ⟨hwf, hblank, ?_⟩, by simp⟩
    rwa [List.length_take, Nat.min_eq_left (by omega)]

theorem framing_of_read {s : Bytes} {fault : ReadFault} (h : read ⟨s, none⟩ = .error fault) :
    ∃ f, fault = .framing f := by
  simp only [read] at h
  split at h
  · rename_i fault' hheader
    obtain rfl := Except.error.inj h
    exact framing_of_readHeader hheader
  · simp at h
  · split_ifs at h with hlen
    exact ⟨_, (Except.error.inj h).symm⟩

theorem read_eq_none_iff {s : Bytes} : read ⟨s, none⟩ = .ok none ↔ s = [] := by
  constructor
  · intro h
    simp only [read] at h
    split at h
    · simp at h
    · rename_i hheader
      exact (nil_of_readHeader hheader).1
    · split_ifs at h
      simp at h
  · rintro rfl
    rfl

theorem IsLine.append_inj {line line' s s' : Bytes} (h : IsLine line) (h' : IsLine line')
    (he : line ++ s = line' ++ s') : line = line' ∧ s = s' := by
  have ht := takeLine_isLine h s
  rw [he, takeLine_isLine h' s'] at ht
  exact ⟨(Prod.mk.inj ht).1.symm, (Prod.mk.inj ht).2.symm⟩

theorem Field.WellFormed.ext {f g : Field} (hf : f.WellFormed) (hg : g.WellFormed)
    (h : f.line = g.line) : f = g := by
  obtain ⟨text, -, ht, hkv⟩ := hf.text none
  obtain ⟨text', -, ht', hkv'⟩ := hg.text none
  rw [h, ht'] at ht
  obtain rfl := Except.ok.inj ht
  rw [hkv] at hkv'
  obtain ⟨hk, hv⟩ := Prod.mk.inj (Option.some.inj hkv')
  cases f
  cases g
  simp_all

theorem Field.WellFormed.not_isBlankLine {f : Field} (h : f.WellFormed) :
    ¬ IsBlankLine f.line := by
  intro hb
  obtain ⟨text, hne, ht, -⟩ := h.text none
  rw [lineText_of_isLine h.isLine, checkLine_blankLine hb] at ht
  exact hne (Except.ok.inj ht).symm

theorem fields_unique {fields fields' : List Field} {blank blank' s s' : Bytes}
    (hwf : ∀ f ∈ fields, f.WellFormed) (hwf' : ∀ f ∈ fields', f.WellFormed)
    (hb : IsBlankLine blank) (hb' : IsBlankLine blank')
    (h : headerBytes fields ++ (blank ++ s) = headerBytes fields' ++ (blank' ++ s')) :
    fields = fields' ∧ blank = blank' ∧ s = s' := by
  induction fields generalizing fields' with
  | nil =>
    cases fields' with
    | nil => exact ⟨rfl, hb.isLine.append_inj hb'.isLine h⟩
    | cons g fields' =>
      have hg := hwf' g (by simp)
      simp only [headerBytes, List.flatMap_nil, List.nil_append, List.flatMap_cons,
        List.append_assoc] at h
      obtain ⟨rfl, -⟩ := hb.isLine.append_inj hg.isLine h
      exact absurd hb hg.not_isBlankLine
  | cons f fields ih =>
    have hf := hwf f (by simp)
    cases fields' with
    | nil =>
      simp only [headerBytes, List.flatMap_nil, List.nil_append, List.flatMap_cons,
        List.append_assoc] at h
      obtain ⟨he, -⟩ := hf.isLine.append_inj hb'.isLine h
      exact absurd (he ▸ hb') hf.not_isBlankLine
    | cons g fields' =>
      have hg := hwf' g (by simp)
      simp only [headerBytes, List.flatMap_cons, List.append_assoc] at h
      obtain ⟨hline, hrest⟩ := hf.isLine.append_inj hg.isLine h
      obtain rfl := hf.ext hg hline
      obtain ⟨rfl, hbs⟩ := ih (fun x hx => hwf x (List.mem_cons_of_mem _ hx))
        (fun x hx => hwf' x (List.mem_cons_of_mem _ hx)) hrest
      exact ⟨rfl, hbs⟩

/-- The parts of a frame, and the rest after it, are determined by the bytes. -/
theorem isFrame_unique {fields fields' : List Field} {blank blank' payload payload' : Bytes}
    {rest rest' : Bytes} (h : IsFrame fields blank payload) (h' : IsFrame fields' blank' payload')
    (he : headerBytes fields ++ (blank ++ (payload ++ rest)) =
      headerBytes fields' ++ (blank' ++ (payload' ++ rest'))) :
    fields = fields' ∧ blank = blank' ∧ payload = payload' ∧ rest = rest' := by
  obtain ⟨hfields, hblank, -⟩ :=
    fields_unique h.wellFormed h'.wellFormed h.isBlankLine h'.isBlankLine he
  have hread := read_of_isFrame h rest none
  rw [he, read_of_isFrame h' rest' none] at hread
  simp only [Except.ok.injEq, Option.some.injEq, Prod.mk.injEq, ByteStream.mk.injEq] at hread
  exact ⟨hfields, hblank, hread.1.symm, hread.2.1.symm⟩

/-- Reading takes a payload off a stream exactly when the stream starts with a frame, and the frame
is determined by the stream. The empty stream is at its end, and every other stream is refused for
its framing. -/
theorem read_exactly_frames (s : Bytes) :
    (read ⟨s, none⟩ = .ok none ↔ s = []) ∧
    (∀ payload rest, read ⟨s, none⟩ = .ok (some (payload, rest)) ↔
      rest.failure = none ∧ ∃ fields blank, IsFrame fields blank payload ∧
        s = headerBytes fields ++ (blank ++ (payload ++ rest.bytes))) ∧
    ((∃ fault, read ⟨s, none⟩ = .error (.framing fault)) ↔
      s ≠ [] ∧ ¬ ∃ fields blank payload rest, IsFrame fields blank payload ∧
        s = headerBytes fields ++ (blank ++ (payload ++ rest))) ∧
    (∀ fault, read ⟨s, none⟩ ≠ .error (.io fault)) ∧
    ∀ fields fields' blank blank' payload payload' rest rest',
      IsFrame fields blank payload → IsFrame fields' blank' payload' →
      s = headerBytes fields ++ (blank ++ (payload ++ rest)) →
      s = headerBytes fields' ++ (blank' ++ (payload' ++ rest')) →
      fields = fields' ∧ blank = blank' ∧ payload = payload' ∧ rest = rest' := by
  refine ⟨read_eq_none_iff, ?_, ?_, ?_, ?_⟩
  · intro payload rest
    constructor
    · exact isFrame_of_read
    · rintro ⟨hrest, fields, blank, hframe, rfl⟩
      obtain ⟨rest, failure⟩ := rest
      obtain rfl : failure = none := hrest
      exact read_of_isFrame hframe rest none
  · constructor
    · rintro ⟨fault, h⟩
      constructor
      · rintro rfl
        rw [read_eq_none_iff.mpr rfl] at h
        simp at h
      · rintro ⟨fields, blank, payload, rest, hframe, rfl⟩
        rw [read_of_isFrame hframe rest none] at h
        simp at h
    · rintro ⟨hne, hno⟩
      cases h : read ⟨s, none⟩ with
      | error fault =>
        obtain ⟨f, rfl⟩ := framing_of_read h
        exact ⟨f, rfl⟩
      | ok result =>
        obtain _ | ⟨payload, rest⟩ := result
        · exact absurd (read_eq_none_iff.mp h) hne
        · obtain ⟨-, fields, blank, hframe, he⟩ := isFrame_of_read h
          exact absurd ⟨fields, blank, payload, rest.bytes, hframe, he⟩ hno
  · intro fault h
    obtain ⟨f, hf⟩ := framing_of_read h
    exact ReadFault.noConfusion hf
  · intro fields fields' blank blank' payload payload' rest rest' h h' he he'
    exact isFrame_unique h h' (he.symm.trans he')

end Frame

end RuleServer
