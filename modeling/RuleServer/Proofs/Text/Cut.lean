import Mathlib
import RuleServer.Text.Cut

/-!
Where lists are cut. A cut at an element or at a part stands at its first occurrence, a list is
split on both sides of a separator alike, and replacing a part goes through the list from the left.
-/

namespace RuleServer

variable {α : Type}

theorem cutWhere?_eq_some_iff {p : α → Bool} {list before after : List α} :
    cutWhere? p list = some (before, after) ↔
      ∃ a, list = before ++ a :: after ∧ p a ∧ ∀ b ∈ before, p b = false := by
  induction list generalizing before with
  | nil => simp [cutWhere?]
  | cons x list ih =>
    simp only [cutWhere?]
    split_ifs with hx
    · constructor
      · intro h
        simp only [Option.some.injEq, Prod.mk.injEq] at h
        obtain ⟨rfl, rfl⟩ := h
        exact ⟨x, rfl, hx, by simp⟩
      · rintro ⟨a, h, ha, hb⟩
        cases before with
        | nil => simp_all
        | cons b before =>
          simp only [List.cons_append, List.cons.injEq] at h
          have := hb b (by simp)
          simp_all
    · rw [Option.map_eq_some_iff]
      constructor
      · rintro ⟨⟨before', after'⟩, h, he⟩
        simp only [Prod.mk.injEq] at he
        obtain ⟨rfl, rfl⟩ := he
        obtain ⟨a, rfl, ha, hb⟩ := ih.mp h
        exact ⟨a, rfl, ha, by simpa [hx] using hb⟩
      · rintro ⟨a, h, ha, hb⟩
        cases before with
        | nil => simp_all
        | cons b before =>
          simp only [List.cons_append, List.cons.injEq] at h
          obtain ⟨rfl, rfl⟩ := h
          exact ⟨(before, after), ih.mpr ⟨a, rfl, ha, fun c hc => hb c (by simp [hc])⟩, rfl⟩

theorem cutWhere?_append (p : α → Bool) (as bs : List α) :
    cutWhere? p (as ++ bs) =
      ((cutWhere? p as).map fun (before, after) => (before, after ++ bs)).or
        ((cutWhere? p bs).map fun (before, after) => (as ++ before, after)) := by
  induction as with
  | nil => simp [cutWhere?]
  | cons a as ih =>
    by_cases ha : p a
    · simp [cutWhere?, ha]
    · rw [List.cons_append, cutWhere?, if_neg ha, ih, cutWhere?, if_neg ha]
      cases cutWhere? p as <;> cases cutWhere? p bs <;> simp

theorem splitWhere_ne_nil (p : α → Bool) (list : List α) : splitWhere p list ≠ [] := by
  cases list with
  | nil => simp [splitWhere]
  | cons a list =>
    rw [splitWhere]
    split_ifs
    · simp
    · split <;> simp

theorem splitWhere_of_forall_not {p : α → Bool} {list : List α}
    (h : ∀ a ∈ list, p a = false) :
    splitWhere p list = [list] := by
  induction list with
  | nil => rfl
  | cons a list ih =>
    rw [List.forall_mem_cons] at h
    simp [splitWhere, h.1, ih h.2]

theorem splitWhere_append_cons {p : α → Bool} {x : α} (hx : p x) (as bs : List α) :
    splitWhere p (as ++ x :: bs) = splitWhere p as ++ splitWhere p bs := by
  induction as with
  | nil => simp [splitWhere, hx]
  | cons a as ih =>
    by_cases ha : p a
    · simp [splitWhere, ha, ih]
    · obtain ⟨piece, pieces, h⟩ := List.exists_cons_of_ne_nil (splitWhere_ne_nil p as)
      simp [splitWhere, ha, ih, h]

theorem prefix_of_prefix_append_cons {part as bs : List α} {c : α} (hc : c ∉ part)
    (h : part <+: as ++ c :: bs) : part <+: as := by
  have has : as ++ [c] <+: as ++ c :: bs := ⟨bs, by simp⟩
  rcases List.prefix_or_prefix_of_prefix h has with hpart | hlong
  · rcases List.prefix_concat_iff.mp hpart with rfl | hshort
    · simp at hc
    · exact hshort
  · exact absurd (hlong.subset (by simp)) hc

theorem infix_append_cons_iff {part as bs : List α} {c : α} (hc : c ∉ part) :
    part <:+: as ++ c :: bs ↔ part <:+: as ∨ part <:+: bs := by
  constructor
  · intro h
    induction as with
    | nil =>
      rcases List.infix_cons_iff.mp h with hstart | hrest
      · have hnil : part <+: [] := prefix_of_prefix_append_cons hc hstart
        exact .inl hnil.isInfix
      · exact .inr hrest
    | cons a as ih =>
      rcases List.infix_cons_iff.mp h with hstart | hrest
      · have has : part <+: a :: as := prefix_of_prefix_append_cons hc hstart
        exact .inl has.isInfix
      · exact (ih hrest).imp_left fun h => h.trans (List.suffix_cons a as).isInfix
  · rintro (h | h)
    · exact h.trans (List.prefix_append as (c :: bs)).isInfix
    · exact h.trans ((List.suffix_cons c bs).trans (List.suffix_append as (c :: bs))).isInfix

theorem infix_of_infix_append {a : α} {part as bs : List α} (ha : a ∉ as)
    (h : a :: part <:+: as ++ bs) : a :: part <:+: bs := by
  induction as with
  | nil => exact h
  | cons b as ih =>
    rcases List.infix_cons_iff.mp h with hstart | hrest
    · exact absurd (List.cons_prefix_cons.mp hstart).1 (by simp_all)
    · exact ih (by simp_all) hrest

variable [DecidableEq α]

theorem afterStart?_eq_some_iff {start list rest : List α} :
    afterStart? start list = some rest ↔ list = start ++ rest := by
  induction start generalizing list with
  | nil => simp [afterStart?]
  | cons s start ih =>
    cases list with
    | nil => simp [afterStart?]
    | cons a list =>
      by_cases hs : s = a
      · simp [afterStart?, hs, ih]
      · simp [afterStart?, hs, Ne.symm hs]

theorem afterStart?_eq_none_iff {start list : List α} :
    afterStart? start list = none ↔ ¬ start <+: list := by
  rw [Option.eq_none_iff_forall_ne_some]
  constructor
  · rintro h ⟨rest, rfl⟩
    exact h rest (afterStart?_eq_some_iff.mpr rfl)
  · intro h rest hrest
    exact h ⟨rest, (afterStart?_eq_some_iff.mp hrest).symm⟩

theorem cutAt?_append {part : List α} (hpart : part ≠ []) (rest : List α) :
    cutAt? part (part ++ rest) = some ([], rest) := by
  obtain ⟨a, part, rfl⟩ := List.exists_cons_of_ne_nil hpart
  have hstart : afterStart? (a :: part) (a :: (part ++ rest)) = some rest :=
    afterStart?_eq_some_iff.mpr rfl
  simp [cutAt?, hstart]

theorem cutAt?_cons {part list : List α} {a : α} (h : ¬ part <+: a :: list) :
    cutAt? part (a :: list) =
      (cutAt? part list).map fun (before, after) => (a :: before, after) := by
  rw [cutAt?, afterStart?_eq_none_iff.mpr h]

theorem cutAt?_eq_none_iff {part list : List α} (hpart : part ≠ []) :
    cutAt? part list = none ↔ ¬ part <:+: list := by
  induction list with
  | nil => simp [cutAt?, hpart]
  | cons a list ih =>
    rw [List.infix_cons_iff]
    by_cases hstart : part <+: a :: list
    · obtain ⟨rest, hrest⟩ := hstart
      rw [← hrest, cutAt?_append hpart]
      simp
    · rw [cutAt?_cons hstart, Option.map_eq_none_iff, ih]
      simp [hstart]

theorem eq_of_cutAt? {part list before after : List α} (hpart : part ≠ [])
    (h : cutAt? part list = some (before, after)) :
    list = before ++ part ++ after ∧ ¬ part <:+: before := by
  induction list generalizing before with
  | nil => simp [cutAt?, hpart] at h
  | cons a list ih =>
    by_cases hstart : part <+: a :: list
    · obtain ⟨rest, hrest⟩ := hstart
      rw [← hrest, cutAt?_append hpart] at h
      cases h
      exact ⟨hrest.symm, by simpa using hpart⟩
    · rw [cutAt?_cons hstart, Option.map_eq_some_iff] at h
      obtain ⟨⟨before', after'⟩, hcut, he⟩ := h
      cases he
      obtain ⟨rfl, hnone⟩ := ih hcut
      refine ⟨rfl, fun hinfix => ?_⟩
      rcases List.infix_cons_iff.mp hinfix with hfront | hrest
      · exact hstart (hfront.trans ⟨part ++ after, by simp⟩)
      · exact hnone hrest

/-- Where the first element of a part does not come again in it, occurrences cannot overlap, so any
occurrence with no other before it is the one found. -/
theorem cutAt?_eq_some_iff {a : α} {part list before after : List α} (ha : a ∉ part) :
    cutAt? (a :: part) list = some (before, after) ↔
      list = before ++ a :: part ++ after ∧ ¬ a :: part <:+: before := by
  refine ⟨eq_of_cutAt? (by simp), ?_⟩
  rintro ⟨rfl, hnone⟩
  induction before with
  | nil => exact cutAt?_append (by simp) after
  | cons b before ih =>
    rw [List.infix_cons_iff] at hnone
    have hstart : ¬ a :: part <+: b :: (before ++ a :: part ++ after) := by
      rintro ⟨rest, hrest⟩
      obtain ⟨rfl, htail⟩ := List.cons.inj hrest
      -- the part would begin with what stands before it, and go on into itself
      have hfront : part <+: before ++ a :: (part ++ after) := ⟨rest, by simpa using htail⟩
      exact hnone (.inl (List.cons_prefix_cons.mpr
        ⟨rfl, prefix_of_prefix_append_cons ha hfront⟩))
    rw [List.cons_append, List.cons_append, cutAt?_cons hstart, ih (fun h => hnone (.inr h))]
    rfl

theorem length_after_lt {part list before after : List α} (hpart : part ≠ [])
    (h : cutAt? part list = some (before, after)) : after.length < list.length := by
  obtain ⟨rfl, -⟩ := eq_of_cutAt? hpart h
  have hlength := List.length_pos_iff.mpr hpart
  simp only [List.length_append]
  omega

theorem replaceFrom_fuel {part other list : List α} {fuel : Nat} (hpart : part ≠ [])
    (h : list.length ≤ fuel) : replaceFrom part other fuel list = replaceAll part other list := by
  unfold replaceAll
  induction fuel using Nat.strong_induction_on generalizing list with
  | _ fuel ih =>
    cases hcut : cutAt? part list with
    | none => cases fuel <;> cases list <;> simp [replaceFrom, hcut]
    | some cut =>
      obtain ⟨before, after⟩ := cut
      have hlength := length_after_lt hpart hcut
      obtain ⟨n, hn⟩ : ∃ n, list.length = n + 1 := ⟨list.length - 1, by omega⟩
      obtain ⟨m, rfl⟩ : ∃ m, fuel = m + 1 := ⟨fuel - 1, by omega⟩
      rw [hn]
      simp only [replaceFrom, hcut]
      rw [ih m (by omega) (by omega), ih n (by omega) (by omega)]

theorem replaceAll_of_cutAt? {part other list before after : List α} (hpart : part ≠ [])
    (h : cutAt? part list = some (before, after)) :
    replaceAll part other list = before ++ other ++ replaceAll part other after := by
  have hlength := length_after_lt hpart h
  obtain ⟨n, hn⟩ : ∃ n, list.length = n + 1 := ⟨list.length - 1, by omega⟩
  rw [replaceAll, hn]
  simp only [replaceFrom, h]
  rw [replaceFrom_fuel hpart (by omega)]

theorem replaceAll_of_absent {part other list : List α} (hpart : part ≠ [])
    (h : ¬ part <:+: list) : replaceAll part other list = list := by
  have hcut := (cutAt?_eq_none_iff hpart).mpr h
  unfold replaceAll
  cases list.length <;> simp [replaceFrom, hcut]

theorem replaceAll_append {part other : List α} (hpart : part ≠ []) (rest : List α) :
    replaceAll part other (part ++ rest) = other ++ replaceAll part other rest :=
  replaceAll_of_cutAt? hpart (cutAt?_append hpart rest)

theorem replaceAll_cons {part other list : List α} {a : α} (hpart : part ≠ [])
    (h : ¬ part <+: a :: list) :
    replaceAll part other (a :: list) = a :: replaceAll part other list := by
  cases hcut : cutAt? part list with
  | none =>
    have hnone := (cutAt?_eq_none_iff hpart).mp hcut
    rw [replaceAll_of_absent hpart hnone,
      replaceAll_of_absent hpart (by simp [List.infix_cons_iff, h, hnone])]
  | some cut =>
    obtain ⟨before, after⟩ := cut
    have hcons : cutAt? part (a :: list) = some (a :: before, after) := by
      rw [cutAt?_cons h, hcut]
      rfl
    rw [replaceAll_of_cutAt? hpart hcut, replaceAll_of_cutAt? hpart hcons]
    rfl

end RuleServer
