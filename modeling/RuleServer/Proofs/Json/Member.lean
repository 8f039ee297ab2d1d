import Mathlib
import RuleServer.Json.Basic

/-!
The members of an object, looked up by their names.
-/

namespace RuleServer

namespace Members

theorem find?_insert (name : String) (v : Json) (members : Members) (wanted : String) :
    find? wanted (insert name v members) =
      if name = wanted then some v else find? wanted members := by
  induction members with
  | nil => rfl
  | cons entry members ih =>
    obtain ⟨n, u⟩ := entry
    rw [insert]
    by_cases hsame : name = n
    · subst hsame
      by_cases hwanted : name = wanted <;> simp [find?, hwanted]
    · by_cases hless : name < n
      · simp [hsame, hless, find?]
      · simp only [hsame, hless, if_false, find?, ih]
        by_cases hwanted : name = wanted
        · have hn : n ≠ wanted := fun h => hsame (hwanted.trans h.symm)
          simp [hwanted, hn]
        · simp [hwanted]

theorem mem_of_find? {name : String} {v : Json} {members : Members}
    (h : find? name members = some v) : (name, v) ∈ members := by
  induction members with
  | nil => cases h
  | cons entry members ih =>
    obtain ⟨n, u⟩ := entry
    rw [find?] at h
    split_ifs at h with hn
    · simp_all
    · exact List.mem_cons_of_mem _ (ih h)

theorem find?_of_mem {members : Members} (h : (members.map Prod.fst).Nodup) {p : String × Json}
    (hp : p ∈ members) : find? p.1 members = some p.2 := by
  induction members with
  | nil => simp at hp
  | cons q members ih =>
    rw [List.map_cons, List.nodup_cons] at h
    rcases List.mem_cons.mp hp with rfl | hp
    · simp [find?]
    · have hne : q.1 ≠ p.1 := fun heq => h.1 (List.mem_map.mpr ⟨p, hp, heq.symm⟩)
      rw [find?, if_neg hne, ih h.2 hp]

theorem find?_append (name : String) (members others : Members) :
    find? name (members ++ others) = (find? name members).or (find? name others) := by
  induction members with
  | nil => rfl
  | cons p members ih =>
    obtain ⟨n, v⟩ := p
    by_cases hn : n = name <;> simp [find?, hn, ih]

/-- Putting members in order changes none of them. -/
theorem find?_ofPairs {pairs : Members} (h : (pairs.map Prod.fst).Nodup) (name : String) :
    find? name (ofPairs pairs) = find? name pairs := by
  -- the pairs are added from left to right, so the last one is the last to be added
  induction pairs using List.reverseRecOn with
  | nil => rfl
  | append_singleton pairs p ih =>
    obtain ⟨n, v⟩ := p
    rw [List.map_append, List.nodup_append] at h
    obtain ⟨hpairs, -, hlast⟩ := h
    have hinsert : ofPairs (pairs ++ [(n, v)]) = insert n v (ofPairs pairs) := by
      simp [ofPairs]
    rw [hinsert, find?_insert, find?_append, ih hpairs]
    by_cases hn : n = name
    · have hnone : find? name pairs = none := by
        rw [Option.eq_none_iff_forall_ne_some]
        intro w hw
        exact hlast name (List.mem_map.mpr ⟨_, mem_of_find? hw, rfl⟩) n (by simp) hn.symm
      simp [find?, hn, hnone]
    · simp [find?, hn]

theorem find?_map (f : Json → Json) (name : String) (members : Members) :
    find? name (members.map fun p => (p.1, f p.2)) = (find? name members).map f := by
  induction members with
  | nil => rfl
  | cons p members ih =>
    obtain ⟨n, v⟩ := p
    by_cases hn : n = name <;> simp [find?, hn, ih]

end Members

namespace Json

theorem member?_ofPairs (pairs : List (String × Json)) (name : String) :
    (ofPairs pairs).member? name = (pairs.reverse.find? (·.1 = name)).map (·.2) := by
  simp only [ofPairs, member?, Members.ofPairs]
  induction pairs using List.reverseRecOn with
  | nil => rfl
  | append_singleton pairs p ih =>
    rw [List.foldl_concat, Members.find?_insert]
    by_cases hname : p.1 = name <;> simp [hname, ih]

theorem names_present_sublist (pairs : List (String × Option Json)) :
    ((pairs.filterMap fun p => p.2.map (p.1, ·)).map Prod.fst).Sublist (pairs.map Prod.fst) := by
  induction pairs with
  | nil => exact List.Sublist.refl _
  | cons p pairs ih =>
    obtain ⟨n, value⟩ := p
    cases value with
    | none => exact ih.trans (List.sublist_cons_self _ _)
    | some v => exact ih.cons_cons n

theorem member?_ofOptions {pairs : List (String × Option Json)} (h : (pairs.map Prod.fst).Nodup)
    (name : String) : (ofOptions pairs).member? name = (pairs.lookup name).join := by
  rw [ofOptions, ofPairs, member?, Members.find?_ofPairs ((names_present_sublist pairs).nodup h)]
  induction pairs with
  | nil => rfl
  | cons p pairs ih =>
    obtain ⟨n, value⟩ := p
    rw [List.map_cons, List.nodup_cons] at h
    by_cases hn : n = name
    · subst hn
      have hrest : pairs.lookup n = none := by
        rw [List.lookup_eq_none_iff]
        intro q hq
        rw [bne_iff_ne]
        exact fun he => h.1 (List.mem_map.mpr ⟨q, hq, he.symm⟩)
      cases value with
      | none => simpa [List.lookup_cons, hrest] using ih h.2
      | some v => simp [Members.find?]
    · have hne : (name == n) = false := beq_eq_false_iff_ne.mpr (Ne.symm hn)
      cases value with
      | none => simpa [List.lookup_cons, hne] using ih h.2
      | some v => simpa [List.lookup_cons, hne, Members.find?, hn] using ih h.2

theorem bool?_eq_some_iff {v : Json} {b : Bool} : v.bool? = some b ↔ v = .bool b := by
  cases v <;> simp [bool?]

theorem string?_eq_some_iff {v : Json} {s : String} : v.string? = some s ↔ v = .string s := by
  cases v <;> simp [string?]

theorem nat_injective : Function.Injective nat := by
  intro m n h
  simpa [nat, int] using h

end Json

end RuleServer
