import Mathlib
import RuleServer.Text.Utf8

/-!
Characters and their bytes determine each other: strict reading accepts exactly the byte strings
that characters are written with.
-/

namespace RuleServer

def asciiByte (c : Char) : UInt8 :=
  c.toNat.toUInt8

namespace Utf8

theorem toNat_toUInt8 {n : Nat} (h : n < 256) : n.toUInt8.toNat = n := by
  simp [Nat.toUInt8, UInt8.toNat_ofNat', Nat.mod_eq_of_lt h]

theorem toUInt8_eq {n : Nat} {b : UInt8} (h : n = b.toNat) : n.toUInt8 = b := by
  subst h
  simp [Nat.toUInt8]

theorem toNat_isValidChar (c : Char) : c.toNat.isValidChar := by
  have h := c.valid
  simpa [UInt32.isValidChar] using h

theorem toNat_ofNat {n : Nat} (h : n.isValidChar) : (Char.ofNat n).toNat = n := by
  rw [Char.toNat_ofNat, if_pos h]

/-- The first byte `a` of a character of several bytes, with its share `v` of the code point, the
number of bytes `need` after it and the first of these, `x`. No character takes more bytes than it
must, is a surrogate or lies beyond the last code point. -/
def Starts (a v need x : Nat) : Prop :=
  (0x80 ≤ x ∧ x < 0xC0) ∧
    (need = 1 ∧ a = 0xC0 + v ∧ 2 ≤ v ∧ v < 0x20 ∨
      need = 2 ∧ a = 0xE0 + v ∧ v < 0x10 ∧ 0x20 ≤ v * 0x40 + (x - 0x80) ∧
        (v * 0x40 + (x - 0x80)) / 0x20 ≠ 0x1B ∨
      need = 3 ∧ a = 0xF0 + v ∧ 0x10 ≤ v * 0x40 + (x - 0x80) ∧ v * 0x40 + (x - 0x80) < 0x110)

theorem lead?_iff {a v need x : Nat} :
    (∃ lo hi, lead? a = some (v, need, lo, hi) ∧ lo ≤ x ∧ x ≤ hi) ↔ Starts a v need x := by
  constructor
  · rintro ⟨lo, hi, h, hx⟩
    simp only [lead?] at h
    unfold Starts
    split_ifs at h <;> simp only [Option.some.injEq, Prod.mk.injEq] at h <;> omega
  · rintro ⟨hx, ⟨rfl, rfl, h⟩ | ⟨rfl, rfl, h⟩ | ⟨rfl, rfl, h⟩⟩
    · refine ⟨0x80, 0xBF, ?_, by omega, by omega⟩
      rw [lead?, if_pos (by omega)]
      simp
    · simp only [lead?]
      split_ifs <;> simp <;> omega
    · simp only [lead?]
      split_ifs <;> simp <;> omega

theorem lead?_need_pos {a v need lo hi : Nat} (h : lead? a = some (v, need, lo, hi)) :
    0 < need := by
  simp only [lead?] at h
  split_ifs at h <;> simp only [Option.some.injEq, Prod.mk.injEq] at h <;> omega

theorem follow_cons {v need lo hi : Nat} {x : UInt8} {bs : Bytes}
    (hx : lo ≤ x.toNat ∧ x.toNat ≤ hi) :
    follow v (need + 1) lo hi (x :: bs) =
      ((follow (v * 0x40 + (x.toNat - 0x80)) need 0x80 0xBF bs).1,
        (follow (v * 0x40 + (x.toNat - 0x80)) need 0x80 0xBF bs).2 + 1) := by
  simp [follow, hx]

theorem follow_zero (v lo hi : Nat) (bs : Bytes) :
    follow v 0 lo hi bs = (some (Char.ofNat v), 0) := by
  rw [follow]

theorem toNat_continuation (n : Nat) : (0x80 + n % 0x40).toUInt8.toNat = 0x80 + n % 0x40 :=
  toNat_toUInt8 (by omega)

theorem follow_continuation (v need n : Nat) (bs : Bytes) :
    follow v (need + 1) 0x80 0xBF ((0x80 + n % 0x40).toUInt8 :: bs) =
      ((follow (v * 0x40 + n % 0x40) need 0x80 0xBF bs).1,
        (follow (v * 0x40 + n % 0x40) need 0x80 0xBF bs).2 + 1) := by
  have hx : 0x80 ≤ (0x80 + n % 0x40).toUInt8.toNat ∧ (0x80 + n % 0x40).toUInt8.toNat ≤ 0xBF := by
    rw [toNat_continuation]
    omega
  rw [follow_cons hx, toNat_continuation, Nat.add_sub_cancel_left]

theorem follow_inv {v need lo hi n : Nat} {c : Char} {bs : Bytes}
    (h : follow v (need + 1) lo hi bs = (some c, n)) :
    ∃ x rest m, bs = x :: rest ∧ (lo ≤ x.toNat ∧ x.toNat ≤ hi) ∧ n = m + 1 ∧
      follow (v * 0x40 + (x.toNat - 0x80)) need 0x80 0xBF rest = (some c, m) := by
  cases bs with
  | nil => simp [follow] at h
  | cons x rest =>
    by_cases hx : lo ≤ x.toNat ∧ x.toNat ≤ hi
    · rw [follow_cons hx] at h
      simp only [Prod.mk.injEq] at h
      exact ⟨x, rest, _, rfl, hx, h.2.symm, Prod.ext h.1 rfl⟩
    · simp [follow, hx] at h

theorem unit_of_starts {a x : UInt8} {v need : Nat} {bs : Bytes}
    (h : Starts a.toNat v (need + 1) x.toNat) :
    unit a (x :: bs) =
      ((follow (v * 0x40 + (x.toNat - 0x80)) need 0x80 0xBF bs).1,
        (follow (v * 0x40 + (x.toNat - 0x80)) need 0x80 0xBF bs).2 + 1) := by
  obtain ⟨lo, hi, hl, hx⟩ := lead?_iff.mpr h
  have ha : ¬ a.toNat < 0x80 := by have := h.2; omega
  simp only [unit, ha, if_false, hl, follow_cons hx]

/-- Reading takes exactly the bytes that a character is written with, whatever follows. -/
theorem unit_encodeChar (c : Char) (bs : Bytes) :
    ∃ a tail, encodeChar c = a :: tail ∧ unit a (tail ++ bs) = (some c, tail.length) := by
  have hc := toNat_isValidChar c
  have hn : Char.ofNat c.toNat = c := Char.ofNat_toNat c
  simp only [Nat.isValidChar] at hc
  simp only [encodeChar]
  split_ifs with h1 h2 h3
  · refine ⟨_, [], rfl, ?_⟩
    rw [unit, toNat_toUInt8 (by omega), if_pos h1, hn]
    rfl
  · have hs : Starts (0xC0 + c.toNat / 0x40).toUInt8.toNat (c.toNat / 0x40) 1
        (0x80 + c.toNat % 0x40).toUInt8.toNat := by
      rw [toNat_toUInt8 (by omega), toNat_continuation]
      unfold Starts
      omega
    have hv : c.toNat / 0x40 * 0x40 + c.toNat % 0x40 = c.toNat := by omega
    refine ⟨_, _, rfl, ?_⟩
    simp only [List.cons_append, List.nil_append, unit_of_starts hs, toNat_continuation,
      Nat.add_sub_cancel_left, hv, follow_zero, hn]
    rfl
  · have hs : Starts (0xE0 + c.toNat / 0x1000).toUInt8.toNat (c.toNat / 0x1000) 2
        (0x80 + c.toNat / 0x40 % 0x40).toUInt8.toNat := by
      rw [toNat_toUInt8 (by omega), toNat_continuation]
      unfold Starts
      omega
    have hv : (c.toNat / 0x1000 * 0x40 + c.toNat / 0x40 % 0x40) * 0x40 + c.toNat % 0x40 =
        c.toNat := by omega
    refine ⟨_, _, rfl, ?_⟩
    simp only [List.cons_append, List.nil_append, unit_of_starts hs, toNat_continuation,
      Nat.add_sub_cancel_left, follow_continuation, hv, follow_zero, hn]
    rfl
  · have hs : Starts (0xF0 + c.toNat / 0x40000).toUInt8.toNat (c.toNat / 0x40000) 3
        (0x80 + c.toNat / 0x1000 % 0x40).toUInt8.toNat := by
      rw [toNat_toUInt8 (by omega), toNat_continuation]
      unfold Starts
      omega
    have hv : ((c.toNat / 0x40000 * 0x40 + c.toNat / 0x1000 % 0x40) * 0x40 +
        c.toNat / 0x40 % 0x40) * 0x40 + c.toNat % 0x40 = c.toNat := by omega
    refine ⟨_, _, rfl, ?_⟩
    simp only [List.cons_append, List.nil_append, unit_of_starts hs, toNat_continuation,
      Nat.add_sub_cancel_left, follow_continuation, hv, follow_zero, hn]
    rfl

theorem encodeChar_ofNat {n : Nat} (h : n.isValidChar) :
    encodeChar (Char.ofNat n) =
      if n < 0x80 then [n.toUInt8]
      else if n < 0x800 then [(0xC0 + n / 0x40).toUInt8, (0x80 + n % 0x40).toUInt8]
      else if n < 0x10000 then
        [(0xE0 + n / 0x1000).toUInt8, (0x80 + n / 0x40 % 0x40).toUInt8, (0x80 + n % 0x40).toUInt8]
      else
        [(0xF0 + n / 0x40000).toUInt8, (0x80 + n / 0x1000 % 0x40).toUInt8,
          (0x80 + n / 0x40 % 0x40).toUInt8, (0x80 + n % 0x40).toUInt8] := by
  simp only [encodeChar, toNat_ofNat h]

/-- A well-formed unit is what its character is written with. -/
theorem encodeChar_of_unit {a : UInt8} {rest : Bytes} {c : Char} {n : Nat}
    (h : unit a rest = (some c, n)) : encodeChar c = a :: rest.take n ∧ n ≤ rest.length := by
  unfold unit at h
  split_ifs at h with ha
  · simp only [Prod.mk.injEq, Option.some.injEq] at h
    obtain ⟨rfl, rfl⟩ := h
    have hv : a.toNat.isValidChar := by simp only [Nat.isValidChar]; omega
    simp [encodeChar_ofNat hv, ha, Nat.toUInt8]
  · split at h
    · simp at h
    · rename_i v need lo hi hl
      obtain ⟨need, rfl⟩ : ∃ m, need = m + 1 := ⟨need - 1, by have := lead?_need_pos hl; omega⟩
      obtain ⟨x, rest, m, rfl, hx, rfl, h1⟩ := follow_inv h
      clear h
      obtain ⟨hx', ⟨hneed, hs⟩ | ⟨hneed, hs⟩ | ⟨hneed, hs⟩⟩ := lead?_iff.mp ⟨lo, hi, hl, hx⟩
      · obtain rfl : need = 0 := by omega
        simp only [follow_zero, Prod.mk.injEq, Option.some.injEq] at h1
        obtain ⟨rfl, rfl⟩ := h1
        rw [encodeChar_ofNat (by simp only [Nat.isValidChar]; omega), if_neg (by omega),
          if_pos (by omega), toUInt8_eq (b := a) (by omega), toUInt8_eq (b := x) (by omega)]
        simp
      · obtain rfl : need = 1 := by omega
        obtain ⟨y, rest, m, rfl, hy, rfl, h2⟩ := follow_inv h1
        clear h1
        simp only [follow_zero, Prod.mk.injEq, Option.some.injEq] at h2
        obtain ⟨rfl, rfl⟩ := h2
        rw [encodeChar_ofNat (by simp only [Nat.isValidChar]; omega), if_neg (by omega),
          if_neg (by omega), if_pos (by omega), toUInt8_eq (b := a) (by omega),
          toUInt8_eq (b := x) (by omega), toUInt8_eq (b := y) (by omega)]
        simp
      · obtain rfl : need = 2 := by omega
        obtain ⟨y, rest, m, rfl, hy, rfl, h2⟩ := follow_inv h1
        obtain ⟨z, rest, m, rfl, hz, rfl, h3⟩ := follow_inv h2
        clear h1 h2
        simp only [follow_zero, Prod.mk.injEq, Option.some.injEq] at h3
        obtain ⟨rfl, rfl⟩ := h3
        rw [encodeChar_ofNat (by simp only [Nat.isValidChar]; omega), if_neg (by omega),
          if_neg (by omega), if_neg (by omega), toUInt8_eq (b := a) (by omega),
          toUInt8_eq (b := x) (by omega), toUInt8_eq (b := y) (by omega),
          toUInt8_eq (b := z) (by omega)]
        simp

theorem unitsFrom_fuel {fuel : Nat} {bs : Bytes} (h : bs.length ≤ fuel) :
    unitsFrom fuel bs = units bs := by
  unfold units
  induction fuel using Nat.strong_induction_on generalizing bs with
  | _ fuel ih =>
    cases bs with
    | nil => cases fuel <;> simp [unitsFrom]
    | cons a rest =>
      obtain _ | fuel := fuel
      · simp at h
      · simp only [List.length_cons] at h ⊢
        simp only [unitsFrom]
        congr 1
        rw [ih fuel (by omega) (by simp; omega), ih rest.length (by omega) (by simp)]

@[simp] theorem decode?_nil : decode? [] = some [] := rfl

theorem decode?_cons (a : UInt8) (rest : Bytes) :
    decode? (a :: rest) =
      (unit a rest).1.bind fun c => (decode? (rest.drop (unit a rest).2)).map (c :: ·) := by
  have hu : units (a :: rest) = unit a rest :: units (rest.drop (unit a rest).2) := by
    rw [units, List.length_cons, unitsFrom, unitsFrom_fuel (by simp)]
  simp only [decode?, hu, List.mapM_cons]
  cases (unit a rest).1 with
  | none => rfl
  | some c => cases List.mapM (·.1) (units (rest.drop (unit a rest).2)) <;> rfl

theorem decode?_encodeChar_append (c : Char) (bs : Bytes) :
    decode? (encodeChar c ++ bs) = (decode? bs).map (c :: ·) := by
  obtain ⟨a, tail, hc, hu⟩ := unit_encodeChar c bs
  rw [hc, List.cons_append, decode?_cons, hu]
  simp

@[simp] theorem encode_nil : encode [] = [] := rfl

@[simp] theorem encode_cons (c : Char) (cs : List Char) :
    encode (c :: cs) = encodeChar c ++ encode cs := rfl

@[simp] theorem encode_append (cs ds : List Char) : encode (cs ++ ds) = encode cs ++ encode ds := by
  simp [encode]

theorem decode?_encode (cs : List Char) : decode? (encode cs) = some cs := by
  induction cs with
  | nil => simp
  | cons c cs ih => rw [encode_cons, decode?_encodeChar_append, ih, Option.map_some]

theorem encode_of_decode? {bs : Bytes} {cs : List Char} (h : decode? bs = some cs) :
    encode cs = bs := by
  induction hn : bs.length using Nat.strong_induction_on generalizing bs cs with
  | _ n ih =>
    cases bs with
    | nil =>
      simp only [decode?_nil, Option.some.injEq] at h
      simp [← h]
    | cons a rest =>
      rw [decode?_cons] at h
      obtain ⟨c, hc, h⟩ := Option.bind_eq_some_iff.mp h
      obtain ⟨ds, hd, rfl⟩ := Option.map_eq_some_iff.mp h
      obtain ⟨he, hl⟩ := encodeChar_of_unit (Prod.ext hc rfl)
      simp only [List.length_cons] at hn
      rw [encode_cons, he, ih _ (by simp; omega) hd rfl]
      simp

theorem decode?_eq_some_iff {bs : Bytes} {cs : List Char} :
    decode? bs = some cs ↔ bs = encode cs :=
  ⟨fun h => (encode_of_decode? h).symm, fun h => h ▸ decode?_encode cs⟩

theorem encode_injective {cs ds : List Char} (h : encode cs = encode ds) : cs = ds := by
  have hd := decode?_encode ds
  rw [← h, decode?_encode] at hd
  exact Option.some.inj hd

theorem encodeChar_ascii {c : Char} (h : c.toNat < 0x80) : encodeChar c = [c.toNat.toUInt8] := by
  simp [encodeChar, h]

theorem encode_ascii {cs : List Char} (h : ∀ c ∈ cs, c.toNat < 0x80) :
    encode cs = cs.map asciiByte := by
  induction cs with
  | nil => rfl
  | cons c cs ih =>
    rw [encode_cons, encodeChar_ascii (h c (by simp)), ih fun d hd => h d (by simp [hd])]
    rfl

theorem le_of_mem_encodeChar {c : Char} {b : UInt8} (h : ¬ c.toNat < 0x80)
    (hb : b ∈ encodeChar c) : 0x80 ≤ b.toNat := by
  have hc := toNat_isValidChar c
  simp only [Nat.isValidChar] at hc
  simp only [encodeChar, h, if_false] at hb
  split_ifs at hb <;> simp only [List.mem_cons, List.not_mem_nil, or_false] at hb
  · rcases hb with rfl | rfl <;> rw [toNat_toUInt8 (by omega)] <;> omega
  · rcases hb with rfl | rfl | rfl <;> rw [toNat_toUInt8 (by omega)] <;> omega
  · rcases hb with rfl | rfl | rfl | rfl <;> rw [toNat_toUInt8 (by omega)] <;> omega

theorem eq_of_mem_encodeChar {c d : Char} (hd : d.toNat < 0x80)
    (h : d.toNat.toUInt8 ∈ encodeChar c) : c = d := by
  by_cases hc : c.toNat < 0x80
  · rw [encodeChar_ascii hc, List.mem_singleton] at h
    have hnat := congrArg UInt8.toNat h
    rw [toNat_toUInt8 (by omega), toNat_toUInt8 (by omega)] at hnat
    exact Char.toNat_inj.mp hnat.symm
  · have hle := le_of_mem_encodeChar hc h
    rw [toNat_toUInt8 (by omega)] at hle
    omega

theorem length_encodeChar (c : Char) : (encodeChar c).length = c.utf8Size := by
  have hval : c.val.toNat = c.toNat := rfl
  simp only [encodeChar, Char.utf8Size, UInt32.le_iff_toNat_le, UInt32.toNat_ofNatLT, hval]
  by_cases h1 : c.toNat < 0x80
  · rw [if_pos h1, if_pos (by omega)]
    rfl
  by_cases h2 : c.toNat < 0x800
  · rw [if_neg h1, if_pos h2, if_neg (by omega), if_pos (by omega)]
    rfl
  by_cases h3 : c.toNat < 0x10000
  · rw [if_neg h1, if_neg h2, if_pos h3, if_neg (by omega), if_neg (by omega), if_pos (by omega)]
    rfl
  · rw [if_neg h1, if_neg h2, if_neg h3, if_neg (by omega), if_neg (by omega), if_neg (by omega)]
    rfl

theorem length_encode (cs : List Char) : (encode cs).length = cs.utf8Encode.size := by
  induction cs with
  | nil => rfl
  | cons c cs ih =>
    rw [encode_cons, List.length_append, ih, length_encodeChar, List.utf8Encode_cons,
      ByteArray.size_append, List.utf8Encode_singleton, List.size_toByteArray,
      String.length_utf8EncodeChar]

theorem length_le_encode (cs : List Char) : cs.length ≤ (encode cs).length := by
  induction cs with
  | nil => simp
  | cons c cs ih =>
    have hc : 0 < (encodeChar c).length := by
      rw [length_encodeChar]
      exact c.utf8Size_pos
    rw [encode_cons, List.length_append, List.length_cons]
    omega

theorem isValid_length_encode (before after : List Char) :
    String.Pos.Raw.IsValid (.ofList (before ++ after)) ⟨(encode before).length⟩ := by
  rw [String.Pos.Raw.isValid_iff_exists_append]
  refine ⟨.ofList before, .ofList after, String.ofList_append, ?_⟩
  rw [length_encode, ← String.toByteArray_ofList, String.size_toByteArray]
  rfl

end Utf8

theorem toNat_asciiByte {c : Char} (h : c.toNat < 0x80) : (asciiByte c).toNat = c.toNat :=
  Utf8.toNat_toUInt8 (by omega)

end RuleServer
