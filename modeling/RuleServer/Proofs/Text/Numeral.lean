import Mathlib
import RuleServer.Text.Numeral

/-!
What numerals denote. A numeral is read exactly when it is made of digits, behind at most one plus
sign, that denote a number within the limit; the decimal digits of a number denote it.
-/

namespace RuleServer

/-- Digits, behind at most one plus sign, that denote a number. -/
def IsNumeral (cs : List Char) (n : Nat) : Prop :=
  ∃ digits, (cs = digits ∨ cs = '+' :: digits) ∧ digits ≠ [] ∧ (∀ c ∈ digits, isDigit c) ∧
    Nat.ofDigitChars 10 digits 0 = n

theorem isDigit_iff {c : Char} : isDigit c ↔ 48 ≤ c.toNat ∧ c.toNat ≤ 57 := by
  simp only [isDigit, Bool.and_eq_true, decide_eq_true_eq]
  rfl

theorem le_ofDigitChars (cs : List Char) (n : Nat) : n ≤ Nat.ofDigitChars 10 cs n := by
  induction cs generalizing n with
  | nil => simp
  | cons c cs ih =>
    rw [Nat.ofDigitChars_cons]
    have h := ih (10 * n + (c.toNat - '0'.toNat))
    omega

theorem readDigits_eq_ok_iff {limit : Nat} {overflow : NumeralFault} {cs : List Char} {n m : Nat}
    (hn : n ≤ limit) :
    readDigits limit overflow cs n = .ok m ↔
      (∀ c ∈ cs, isDigit c) ∧ Nat.ofDigitChars 10 cs n = m ∧ m ≤ limit := by
  induction cs generalizing n with
  | nil =>
    simp only [readDigits, Except.ok.injEq, Nat.ofDigitChars_nil]
    constructor
    · rintro rfl
      exact ⟨by simp, rfl, hn⟩
    · exact fun h => h.2.1
  | cons c cs ih =>
    have hv : n * 10 + digitValue c = 10 * n + (c.toNat - '0'.toNat) := by
      rw [Nat.mul_comm, digitValue]
    simp only [readDigits, List.forall_mem_cons, Nat.ofDigitChars_cons, hv]
    by_cases hc : isDigit c
    · simp only [hc, if_true, true_and]
      split_ifs with hl
      · exact ih hl
      · -- what is read so far is at most what all digits denote
        have hm := le_ofDigitChars cs (10 * n + (c.toNat - '0'.toNat))
        simp only [false_iff]
        omega
    · simp [hc]

theorem isNumeral_plus {cs : List Char} {n : Nat} :
    IsNumeral ('+' :: cs) n ↔
      cs ≠ [] ∧ (∀ c ∈ cs, isDigit c) ∧ Nat.ofDigitChars 10 cs 0 = n := by
  constructor
  · rintro ⟨digits, rfl | h, hne, hd, hv⟩
    · exact absurd (hd '+' (by simp)) (by decide)
    · obtain ⟨-, rfl⟩ := List.cons.inj h
      exact ⟨hne, hd, hv⟩
  · rintro ⟨hne, hd, hv⟩
    exact ⟨cs, .inr rfl, hne, hd, hv⟩

theorem isNumeral_of_ne_plus {c : Char} {cs : List Char} {n : Nat} (hc : c ≠ '+') :
    IsNumeral (c :: cs) n ↔
      (∀ d ∈ c :: cs, isDigit d) ∧ Nat.ofDigitChars 10 (c :: cs) 0 = n := by
  constructor
  · rintro ⟨digits, rfl | h, hne, hd, hv⟩
    · exact ⟨hd, hv⟩
    · exact absurd (List.cons.inj h).1 hc
  · rintro ⟨hd, hv⟩
    exact ⟨c :: cs, .inl rfl, by simp, hd, hv⟩

theorem readNumeral_eq_ok_iff {limit : Nat} {cs : List Char} {n : Nat} :
    readNumeral limit cs = .ok n ↔ IsNumeral cs n ∧ n ≤ limit := by
  unfold readNumeral
  split
  · simp [IsNumeral]
  · rename_i cs
    rw [readSignedDigits, isNumeral_plus]
    split_ifs with h
    · simp [h]
    · rw [readDigits_eq_ok_iff (by omega)]
      simp [h, and_assoc]
  · rename_i hne hplus
    obtain _ | ⟨c, cs⟩ := cs
    · exact absurd rfl hne
    · have hc : c ≠ '+' := fun h => hplus cs (by rw [h])
      rw [readDigits_eq_ok_iff (by omega), isNumeral_of_ne_plus hc, and_assoc]

theorem IsNumeral.unique {cs : List Char} {n m : Nat} (hn : IsNumeral cs n)
    (hm : IsNumeral cs m) : n = m := by
  have h : readNumeral (max n m) cs = .ok n := readNumeral_eq_ok_iff.mpr ⟨hn, by omega⟩
  rw [readNumeral_eq_ok_iff.mpr ⟨hm, by omega⟩] at h
  exact (Except.ok.inj h).symm

theorem IsNumeral.digit_or_plus {cs : List Char} {n : Nat} (h : IsNumeral cs n) {c : Char}
    (hc : c ∈ cs) : isDigit c ∨ c = '+' := by
  obtain ⟨digits, rfl | rfl, -, hdigits, -⟩ := h
  · exact .inl (hdigits c hc)
  · rcases List.mem_cons.mp hc with rfl | hmem
    · exact .inr rfl
    · exact .inl (hdigits c hmem)

theorem isDigit_of_mem_decimal {c : Char} {n : Nat} (h : c ∈ decimal n) : isDigit c := by
  have hd := Nat.isDigit_of_mem_toDigits (by decide) (by decide) h
  simp only [Char.isDigit, Bool.and_eq_true, decide_eq_true_eq] at hd
  exact isDigit_iff.mpr hd

theorem decimal_visible (n : Nat) : ∀ c ∈ decimal n, 33 ≤ c.toNat ∧ c.toNat < 0x80 := by
  intro c hc
  have h := isDigit_iff.mp (isDigit_of_mem_decimal hc)
  omega

@[simp] theorem decimal_ne_nil (n : Nat) : decimal n ≠ [] := Nat.toDigits_ne_nil

@[simp] theorem ofDigitChars_decimal (n : Nat) : Nat.ofDigitChars 10 (decimal n) 0 = n :=
  Nat.ofDigitChars_ten_toDigits

theorem isNumeral_decimal (n : Nat) : IsNumeral (decimal n) n :=
  ⟨decimal n, .inl rfl, decimal_ne_nil n, fun _ h => isDigit_of_mem_decimal h, ofDigitChars_decimal n⟩

theorem decimal_zero : decimal 0 = ['0'] := by
  simp [decimal]

theorem decimal_head {n : Nat} (hn : 0 < n) : ∃ c cs, decimal n = c :: cs ∧ c ≠ '0' := by
  unfold decimal
  induction n using Nat.strong_induction_on with
  | _ n ih =>
    by_cases h : n < 10
    · refine ⟨n.digitChar, [], Nat.toDigits_of_lt_base h, ?_⟩
      intro h0
      have hv := Nat.toNat_digitChar_of_lt_ten h
      rw [h0] at hv
      simp at hv
      omega
    · obtain ⟨c, cs, hc, h0⟩ := ih (n / 10) (by omega) (by omega)
      rw [Nat.toDigits_of_base_le (by decide) (by omega), hc]
      exact ⟨c, cs ++ [Nat.digitChar (n % 10)], rfl, h0⟩

end RuleServer
