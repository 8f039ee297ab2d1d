import Mathlib
import RuleServer.Json.Parser
import RuleServer.Json.Printer
import RuleServer.Proofs.Text.Numeral
import RuleServer.Proofs.Text.Utf8

/-!
Strings and integers as they are printed are read back, with whatever follows them left over.
-/

namespace RuleServer

namespace Json

namespace Read

/-- The bytes that stand for themselves in a string. -/
def IsPlainByte (b : UInt8) : Prop :=
  b ≠ 34 ∧ b ≠ 92 ∧ ¬ b < 32

/-- A result of reading with bytes put before those that were read. -/
def prepend (bytes : Bytes) (result : Except Stop (Bytes × Bytes)) : Except Stop (Bytes × Bytes) :=
  result.map fun (more, rest) => (bytes ++ more, rest)

theorem stringBytes_plain {b : UInt8} (h : IsPlainByte b) (fuel : Nat) (s : Bytes) :
    stringBytes (fuel + 1) (b :: s) = prepend [b] (stringBytes fuel s) := by
  obtain ⟨h34, h92, h32⟩ := h
  simp only [stringBytes, h34, h92, h32, if_false]
  cases stringBytes fuel s <;> rfl

theorem stringBytes_plains {bytes : Bytes} (h : ∀ b ∈ bytes, IsPlainByte b) (fuel : Nat)
    (s : Bytes) :
    stringBytes (fuel + bytes.length) (bytes ++ s) = prepend bytes (stringBytes fuel s) := by
  induction bytes with
  | nil => cases hs : stringBytes fuel s <;> simp [prepend, hs, Except.map]
  | cons b bytes ih =>
    have hb := stringBytes_plain (h b (by simp)) (fuel + bytes.length) (bytes ++ s)
    rw [ih fun x hx => h x (by simp [hx])] at hb
    rw [List.length_cons, ← Nat.add_assoc, List.cons_append, hb]
    cases stringBytes fuel s <;> rfl

theorem stringBytes_escape {c : Char} {s rest : Bytes} (h : escape s = .ok (c, rest)) (fuel : Nat) :
    stringBytes (fuel + 1) (92 :: s) = prepend (Utf8.encodeChar c) (stringBytes fuel rest) := by
  rw [stringBytes, if_neg (by decide), if_pos rfl, h]
  simp only [bind, Except.bind]
  cases stringBytes fuel rest <;> rfl

theorem hexValue?_hexDigit {n : Nat} (h : n < 16) :
    hexValue? (asciiByte (hexDigit n)) = some n := by
  interval_cases n <;> decide

theorem escape_control {c : Char} (h : c.toNat < 0x20) (s : Bytes) :
    escape (117 :: 48 :: 48 :: asciiByte (hexDigit (c.toNat / 16)) ::
      asciiByte (hexDigit (c.toNat % 16)) :: s) = .ok (c, s) := by
  have h1 : c.toNat / 16 < 16 := by omega
  have h2 : c.toNat % 16 < 16 := by omega
  have hq : hexQuad (48 :: 48 :: asciiByte (hexDigit (c.toNat / 16)) ::
      asciiByte (hexDigit (c.toNat % 16)) :: s) = .ok (c.toNat, s) := by
    have h0 : hexValue? 48 = some 0 := by decide
    simp only [hexQuad, h0, hexValue?_hexDigit h1, hexValue?_hexDigit h2]
    rw [show ((0 * 16 + 0) * 16 + c.toNat / 16) * 16 + c.toNat % 16 = c.toNat by omega]
  have hs : simpleEscape? 117 = none := by decide
  simp only [escape, hs, if_true, hq]
  simp only [bind, Except.bind]
  rw [if_neg (by omega), if_neg (by omega), Char.ofNat_toNat]
  rfl

theorem isPlainByte_of_mem {c : Char} (h34 : c ≠ '"') (h92 : c ≠ '\\') (h32 : ¬ c.toNat < 0x20)
    {b : UInt8} (hb : b ∈ Utf8.encodeChar c) : IsPlainByte b := by
  by_cases hc : c.toNat < 0x80
  · rw [Utf8.encodeChar_ascii hc, List.mem_singleton] at hb
    have hv : b.toNat = c.toNat := by rw [hb, Utf8.toNat_toUInt8 (by omega)]
    refine ⟨?_, ?_, ?_⟩
    · rintro rfl
      exact h34 (Char.toNat_inj.mp hv.symm)
    · rintro rfl
      exact h92 (Char.toNat_inj.mp hv.symm)
    · rw [UInt8.lt_iff_toNat_lt, hv]
      exact h32
  · have hv := Utf8.le_of_mem_encodeChar hc hb
    refine ⟨?_, ?_, ?_⟩
    · rintro rfl
      exact absurd hv (by decide)
    · rintro rfl
      exact absurd hv (by decide)
    · rw [UInt8.lt_iff_toNat_lt]
      have h : (32 : UInt8).toNat = 32 := rfl
      omega

theorem exists_stringBytes_escape {c : Char} (bytes : Bytes) {s : Bytes} {fuel : Nat}
    (he : escape (bytes ++ s) = .ok (c, s)) (h : (92 :: bytes).length ≤ fuel) :
    ∃ left, fuel ≤ left + (92 :: bytes).length ∧
      stringBytes fuel (92 :: bytes ++ s) = prepend (Utf8.encodeChar c) (stringBytes left s) := by
  simp only [List.length_cons] at h ⊢
  obtain ⟨left, rfl⟩ : ∃ left, fuel = left + 1 := ⟨fuel - 1, by omega⟩
  exact ⟨left, by omega, stringBytes_escape he left⟩

theorem hexDigit_ascii {n : Nat} (h : n < 16) : (hexDigit n).toNat < 0x80 := by
  interval_cases n <;> decide

/-- A printed character is read back; no step takes more fuel than bytes. -/
theorem stringBytes_escapeChar (c : Char) {fuel : Nat} (s : Bytes)
    (h : (Utf8.encode (escapeChar c)).length ≤ fuel) :
    ∃ left, fuel ≤ left + (Utf8.encode (escapeChar c)).length ∧
      stringBytes fuel (Utf8.encode (escapeChar c) ++ s) =
        prepend (Utf8.encodeChar c) (stringBytes left s) := by
  unfold escapeChar at h ⊢
  split at h
  · exact exists_stringBytes_escape [34] rfl h
  · exact exists_stringBytes_escape [92] rfl h
  · exact exists_stringBytes_escape [98] rfl h
  · exact exists_stringBytes_escape [102] rfl h
  · exact exists_stringBytes_escape [110] rfl h
  · exact exists_stringBytes_escape [114] rfl h
  · exact exists_stringBytes_escape [116] rfl h
  · rename_i h34 h92 _ _ _ _ _
    by_cases hc : c.toNat < 0x20
    · have hn : c.toNat / 16 < 16 ∧ c.toNat % 16 < 16 := by omega
      have he : Utf8.encode ['\\', 'u', '0', '0', hexDigit (c.toNat / 16), hexDigit (c.toNat % 16)] =
          92 :: [117, 48, 48, asciiByte (hexDigit (c.toNat / 16)),
            asciiByte (hexDigit (c.toNat % 16))] := by
        rw [Utf8.encode_ascii]
        · rfl
        · simp [hexDigit_ascii hn.1, hexDigit_ascii hn.2]
      rw [if_pos hc, he] at h ⊢
      exact exists_stringBytes_escape _ (escape_control hc s) h
    · rw [if_neg hc] at h ⊢
      have he : Utf8.encode [c] = Utf8.encodeChar c := by simp
      rw [he] at h ⊢
      refine ⟨fuel - (Utf8.encodeChar c).length, by omega, ?_⟩
      have hp := stringBytes_plains (fun b => isPlainByte_of_mem h34 h92 hc)
        (fuel - (Utf8.encodeChar c).length) s
      rwa [Nat.sub_add_cancel h] at hp

theorem stringBytes_escapeChars (cs : List Char) {fuel : Nat} (rest : Bytes)
    (h : (Utf8.encode (cs.flatMap escapeChar)).length < fuel) :
    stringBytes fuel (Utf8.encode (cs.flatMap escapeChar) ++ 34 :: rest) =
      .ok (Utf8.encode cs, rest) := by
  induction cs generalizing fuel with
  | nil =>
    obtain ⟨left, rfl⟩ : ∃ left, fuel = left + 1 := ⟨fuel - 1, by simp at h; omega⟩
    simp [stringBytes]
  | cons c cs ih =>
    simp only [List.flatMap_cons, Utf8.encode_append, List.length_append] at h
    have hc : (Utf8.encode (escapeChar c)).length ≤ fuel := by omega
    obtain ⟨left, hleft, hstep⟩ :=
      stringBytes_escapeChar c (Utf8.encode (cs.flatMap escapeChar) ++ 34 :: rest) hc
    rw [List.flatMap_cons, Utf8.encode_append, List.append_assoc, hstep, ih (by omega)]
    rfl

theorem stringText_render (s : String) (rest : Bytes) :
    stringText (Utf8.encode (s.toList.flatMap escapeChar) ++ 34 :: rest) = .ok (s, rest) := by
  have hlen : (Utf8.encode (s.toList.flatMap escapeChar)).length <
      (Utf8.encode (s.toList.flatMap escapeChar) ++ 34 :: rest).length := by simp
  have h := stringBytes_escapeChars s.toList rest hlen
  have ht : textOfUtf8? (Utf8.encode s.toList) = some s := by
    simp [textOfUtf8?, Utf8.decode?_encode]
  simp only [stringText, h, bind, Except.bind, ht]
  rfl

theorem isDigitByte_iff {b : UInt8} : isDigitByte b ↔ 48 ≤ b.toNat ∧ b.toNat ≤ 57 := by
  simp only [isDigitByte, Bool.and_eq_true, decide_eq_true_eq]
  rfl

theorem isDigitByte_asciiByte {c : Char} (h : isDigit c) : isDigitByte (asciiByte c) := by
  have hc := isDigit_iff.mp h
  rw [isDigitByte_iff, toNat_asciiByte (by omega)]
  exact hc

/-- What may follow an integer so that it ends there. -/
def EndsNumber (rest : Bytes) : Prop :=
  ∀ b ∈ rest.head?, isDigitByte b = false ∧ b ≠ 46 ∧ b ≠ 101 ∧ b ≠ 69

theorem significand_digits {cs : List Char} (h : ∀ c ∈ cs, isDigit c) {value : Nat} (taken : Nat)
    (hmax : Nat.ofDigitChars 10 cs value ≤ maxSignificand) {rest : Bytes} (hrest : EndsNumber rest) :
    significand (cs.map asciiByte ++ rest) value taken =
      (Nat.ofDigitChars 10 cs value, taken + cs.length, 0, rest) := by
  induction cs generalizing value taken with
  | nil =>
    cases rest with
    | nil => rfl
    | cons b rest =>
      have hb := (hrest b rfl).1
      simp [significand, hb]
  | cons c cs ih =>
    have hc := h c (by simp)
    have hlt := isDigit_iff.mp hc
    have hv : value * 10 + ((asciiByte c).toNat - 48) = 10 * value + (c.toNat - '0'.toNat) := by
      rw [toNat_asciiByte (by omega), Nat.mul_comm]
      rfl
    rw [Nat.ofDigitChars_cons] at hmax ⊢
    have hle := le_ofDigitChars cs (10 * value + (c.toNat - '0'.toNat))
    simp only [List.map_cons, List.cons_append, significand, isDigitByte_asciiByte hc, if_true, hv]
    rw [if_pos (by omega), ih (fun d hd => h d (by simp [hd])) _ hmax, List.length_cons]
    rw [Nat.add_right_comm, Nat.add_assoc]

theorem afterInteger_ends {rest : Bytes} (h : EndsNumber rest) (negative : Bool) (n : Nat) :
    afterInteger negative n 0 rest = .ok (.number (integer negative n), rest) := by
  cases rest with
  | nil => rfl
  | cons b rest =>
    obtain ⟨-, h46, h101, h69⟩ := h b rfl
    simp [afterInteger, h46, h101, h69]

theorem number_decimal (negative : Bool) {n : Nat} (hn : n ≤ maxSignificand) {rest : Bytes}
    (h : EndsNumber rest) :
    number negative ((decimal n).map asciiByte ++ rest) =
      .ok (.number (integer negative n), rest) := by
  obtain rfl | hpos := Nat.eq_zero_or_pos n
  · have h0 : (decimal 0).map asciiByte = [48] := by simp [decimal_zero]; decide
    rw [h0, List.singleton_append]
    cases rest with
    | nil => exact afterInteger_ends h negative 0
    | cons b rest =>
      have hb := (h b rfl).1
      simp [number, hb, afterInteger_ends h]
  · obtain ⟨c, cs, hcs, h0⟩ := decimal_head hpos
    have hdigits : ∀ d ∈ c :: cs, isDigit d := fun d hd => isDigit_of_mem_decimal (hcs ▸ hd)
    have hc := hdigits c (by simp)
    have hlt := isDigit_iff.mp hc
    have hne : asciiByte c ≠ 48 := by
      intro he
      have hv := toNat_asciiByte (c := c) (by omega)
      rw [he] at hv
      exact h0 (Char.toNat_inj.mp hv.symm)
    have hv : Nat.ofDigitChars 10 cs ((asciiByte c).toNat - 48) = n := by
      have hd := ofDigitChars_decimal n
      rw [hcs, Nat.ofDigitChars_cons, Nat.mul_zero, Nat.zero_add] at hd
      rw [toNat_asciiByte (by omega)]
      exact hd
    have htail : ∀ d ∈ cs, isDigit d := fun d hd => hdigits d (by simp [hd])
    have hs := significand_digits htail 1 (hv.trans_le hn) h
    simp only [hcs, List.map_cons, List.cons_append, number, if_neg hne,
      isDigitByte_asciiByte hc, if_true, hs, hv]
    exact afterInteger_ends h negative n

end Read

end Json

end RuleServer
