import Mathlib
import RuleServer.Proofs.Json.Member

/-!
JSON values as trees: what holds throughout a value, how deep it nests, and the order in which the
members of its objects stand.
-/

namespace RuleServer

namespace Json

/-- A property of the items of an array and of the values in an object passes to these. -/
@[elab_as_elim]
theorem induct {motive : Json → Prop} (null : motive .null) (bool : ∀ b, motive (.bool b))
    (number : ∀ n, motive (.number n)) (string : ∀ s, motive (.string s))
    (array : ∀ items, (∀ v ∈ items, motive v) → motive (.array items))
    (object : ∀ members, (∀ p ∈ members, motive p.2) → motive (.object members))
    (v : Json) : motive v :=
  match v with
  | .null => null
  | .bool b => bool b
  | .number n => number n
  | .string s => string s
  | .array items =>
    array items fun w _ => induct null bool number string array object w
  | .object members =>
    object members fun p _ => induct null bool number string array object p.2
termination_by sizeOf v
decreasing_by
  · have := List.sizeOf_lt_of_mem ‹w ∈ items›
    simp only [Json.array.sizeOf_spec]
    omega
  · have hp := List.sizeOf_lt_of_mem ‹p ∈ members›
    have hv : sizeOf p.2 < sizeOf p := by
      cases p
      simp only [Prod.mk.sizeOf_spec]
      omega
    simp only [Json.object.sizeOf_spec]
    omega

mutual

/-- The property holds of a value and of every value inside it. -/
def All (p : Json → Prop) : Json → Prop
  | .array items => p (.array items) ∧ AllItems p items
  | .object members => p (.object members) ∧ AllMembers p members
  | v => p v

def AllItems (p : Json → Prop) : List Json → Prop
  | [] => True
  | v :: items => All p v ∧ AllItems p items

def AllMembers (p : Json → Prop) : List (String × Json) → Prop
  | [] => True
  | (_, v) :: members => All p v ∧ AllMembers p members

end

theorem allItems_iff {p : Json → Prop} {items : List Json} :
    AllItems p items ↔ ∀ v ∈ items, All p v := by
  induction items with
  | nil => simp [AllItems]
  | cons v items ih => simp [AllItems, ih]

theorem allMembers_iff {p : Json → Prop} {members : Members} :
    AllMembers p members ↔ ∀ q ∈ members, All p q.2 := by
  induction members with
  | nil => simp [AllMembers]
  | cons q members ih =>
    obtain ⟨name, v⟩ := q
    simp [AllMembers, ih]

mutual

/-- How many brackets stand open at once. -/
def depth : Json → Nat
  | .array items => itemsDepth items + 1
  | .object members => membersDepth members + 1
  | _ => 0

def itemsDepth : List Json → Nat
  | [] => 0
  | v :: items => max (depth v) (itemsDepth items)

def membersDepth : List (String × Json) → Nat
  | [] => 0
  | (_, v) :: members => max (depth v) (membersDepth members)

end

theorem depth_le_itemsDepth {v : Json} {items : List Json} (h : v ∈ items) :
    v.depth ≤ itemsDepth items := by
  induction items with
  | nil => simp at h
  | cons w items ih =>
    rw [itemsDepth]
    rcases List.mem_cons.mp h with rfl | h
    · exact Nat.le_max_left _ _
    · exact (ih h).trans (Nat.le_max_right _ _)

theorem depth_le_membersDepth {p : String × Json} {members : Members} (h : p ∈ members) :
    p.2.depth ≤ membersDepth members := by
  induction members with
  | nil => simp at h
  | cons q members ih =>
    obtain ⟨name, w⟩ := q
    rw [membersDepth]
    rcases List.mem_cons.mp h with rfl | h
    · exact Nat.le_max_left _ _
    · exact (ih h).trans (Nat.le_max_right _ _)

mutual

/-- The value with the members of each object put in order, where the last of a name counts. -/
def arrange : Json → Json
  | .array items => .array (arrangeItems items)
  | .object members => .ofPairs (arrangeMembers members)
  | v => v

def arrangeItems : List Json → List Json
  | [] => []
  | v :: items => arrange v :: arrangeItems items

def arrangeMembers : List (String × Json) → List (String × Json)
  | [] => []
  | (name, v) :: members => (name, arrange v) :: arrangeMembers members

end

theorem arrangeItems_eq (items : List Json) : arrangeItems items = items.map arrange := by
  induction items with
  | nil => rfl
  | cons v items ih => rw [arrangeItems, ih, List.map_cons]

theorem arrangeMembers_eq (members : Members) :
    arrangeMembers members = members.map fun p => (p.1, p.2.arrange) := by
  induction members with
  | nil => rfl
  | cons p members ih => rw [arrangeMembers, ih, List.map_cons]

/-- An object names its members in order, each once. -/
def namesAscend : Json → Prop
  | .object members => (members.map Prod.fst).Pairwise (· < ·)
  | _ => True

/-- Every object in a value names its members in order. -/
def InOrder (v : Json) : Prop :=
  v.All namesAscend

end Json

namespace Members

theorem insert_last {name : String} {members : Members} (h : ∀ n ∈ members.map Prod.fst, n < name)
    (v : Json) : insert name v members = members ++ [(name, v)] := by
  induction members with
  | nil => rfl
  | cons p members ih =>
    obtain ⟨n, w⟩ := p
    have hn : n < name := h n (by simp)
    rw [insert, if_neg (ne_of_gt hn), if_neg (lt_asymm hn), ih fun m hm => h m (by simp [hm])]
    rfl

theorem foldl_insert {members pairs : Members}
    (h : ((members ++ pairs).map Prod.fst).Pairwise (· < ·)) :
    pairs.foldl (fun ms p => insert p.1 p.2 ms) members = members ++ pairs := by
  induction pairs generalizing members with
  | nil => simp
  | cons p pairs ih =>
    have hlast : ∀ n ∈ members.map Prod.fst, n < p.1 := by
      rw [List.map_append, List.pairwise_append] at h
      exact fun n hn => h.2.2 n hn p.1 (by simp)
    have hassoc : members ++ p :: pairs = (members ++ [(p.1, p.2)]) ++ pairs := by simp
    rw [List.foldl_cons, insert_last hlast, hassoc]
    exact ih (hassoc ▸ h)

theorem ofPairs_of_ascending {pairs : Members} (h : (pairs.map Prod.fst).Pairwise (· < ·)) :
    ofPairs pairs = pairs :=
  foldl_insert h

theorem mem_map_insert {name n : String} {v : Json} {members : Members} :
    n ∈ (insert name v members).map Prod.fst ↔ n = name ∨ n ∈ members.map Prod.fst := by
  induction members with
  | nil => simp [insert]
  | cons p members ih =>
    obtain ⟨m, w⟩ := p
    rw [insert]
    split_ifs with hsame hless
    · subst hsame
      simp
    · simp
    · rw [List.map_cons, List.mem_cons, ih, List.map_cons, List.mem_cons]
      tauto

theorem ascending_insert {members : Members} (h : (members.map Prod.fst).Pairwise (· < ·))
    (name : String) (v : Json) : ((insert name v members).map Prod.fst).Pairwise (· < ·) := by
  induction members with
  | nil => simp [insert]
  | cons p members ih =>
    obtain ⟨n, w⟩ := p
    rw [List.map_cons, List.pairwise_cons] at h
    rw [insert]
    split_ifs with hsame hless
    · subst hsame
      exact List.pairwise_cons.mpr h
    · refine List.pairwise_cons.mpr ⟨fun m hm => ?_, List.pairwise_cons.mpr h⟩
      rcases List.mem_cons.mp hm with rfl | hm
      · exact hless
      · exact hless.trans (h.1 m hm)
    · refine List.pairwise_cons.mpr ⟨fun m hm => ?_, ih h.2⟩
      rcases mem_map_insert.mp hm with rfl | hm
      · exact lt_of_le_of_ne (not_lt.mp hless) (Ne.symm hsame)
      · exact h.1 m hm

theorem insert_perm {name : String} {members : Members} (h : name ∉ members.map Prod.fst)
    (v : Json) : (insert name v members).Perm ((name, v) :: members) := by
  induction members with
  | nil => exact List.Perm.refl _
  | cons p members ih =>
    obtain ⟨n, w⟩ := p
    rw [List.map_cons, List.mem_cons, not_or] at h
    rw [insert, if_neg h.1]
    split_ifs
    · exact List.Perm.refl _
    · exact ((ih h.2).cons _).trans (List.Perm.swap _ _ _)

theorem ascending_ofPairs (pairs : Members) :
    ((ofPairs pairs).map Prod.fst).Pairwise (· < ·) := by
  induction pairs using List.reverseRecOn with
  | nil => exact List.Pairwise.nil
  | append_singleton pairs p ih =>
    rw [ofPairs, List.foldl_concat]
    exact ascending_insert ih p.1 p.2

theorem ofPairs_perm {pairs : Members} (h : (pairs.map Prod.fst).Nodup) :
    (ofPairs pairs).Perm pairs := by
  induction pairs using List.reverseRecOn with
  | nil => exact List.Perm.refl _
  | append_singleton pairs p ih =>
    rw [List.map_append, List.nodup_append] at h
    obtain ⟨hpairs, -, hlast⟩ := h
    have hnew : p.1 ∉ (ofPairs pairs).map Prod.fst := fun hmem =>
      hlast p.1 (((ih hpairs).map Prod.fst).mem_iff.mp hmem) p.1 (by simp) rfl
    rw [ofPairs, List.foldl_concat]
    exact ((insert_perm hnew p.2).trans ((ih hpairs).cons p)).trans
      (List.perm_append_singleton p pairs).symm

theorem ofPairs_of_perm {pairs ordered : Members} (h : pairs.Perm ordered)
    (hordered : (ordered.map Prod.fst).Pairwise (· < ·)) : ofPairs pairs = ordered := by
  have hnodup : (pairs.map Prod.fst).Nodup :=
    (h.map Prod.fst).nodup_iff.mpr (hordered.imp ne_of_lt)
  exact ((ofPairs_perm hnodup).trans h).eq_of_pairwise
    (fun p q _ _ hpq hqp => absurd hqp (lt_asymm hpq))
    (List.pairwise_map.mp (ascending_ofPairs pairs)) (List.pairwise_map.mp hordered)

end Members

namespace Json

theorem arrange_of_inOrder {v : Json} (h : v.InOrder) : v.arrange = v := by
  induction v using induct with
  | null | bool | number | string => rfl
  | array items ih =>
    have hitems : ∀ v ∈ items, v.arrange = v := fun v hv => ih v hv (allItems_iff.mp h.2 v hv)
    rw [arrange, arrangeItems_eq, List.map_congr_left hitems, List.map_id']
  | object members ih =>
    have hmembers : ∀ p ∈ members, (p.1, p.2.arrange) = p :=
      fun p hp => Prod.ext rfl (ih p hp (allMembers_iff.mp h.2 p hp))
    rw [arrange, arrangeMembers_eq, List.map_congr_left hmembers, List.map_id', ofPairs,
      Members.ofPairs_of_ascending h.1]

/-- A value that is read has the members that were written, each as it is read. -/
theorem member?_arrange {members : Members} (h : (members.map Prod.fst).Nodup) (name : String) :
    (Json.object members).arrange.member? name = (Members.find? name members).map arrange := by
  have hnames : ((members.map fun p => (p.1, p.2.arrange)).map Prod.fst).Nodup := by
    simpa [List.map_map, Function.comp_def] using h
  rw [arrange, arrangeMembers_eq, ofPairs, member?, Members.find?_ofPairs hnames,
    Members.find?_map]

end Json

end RuleServer
