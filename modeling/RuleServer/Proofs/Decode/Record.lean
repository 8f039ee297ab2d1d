import Mathlib
import RuleServer.Decode.Basic
import RuleServer.Proofs.Json.Shape

/-!
When a value has the wanted form. A record is read from an object exactly when every member that
has a field's name fits the field and the required fields are there; a list has to give every field
in its place.
-/

namespace RuleServer

theorem map_eq_ok_iff {ε α β : Type} {f : α → β} {x : Except ε α} {b : β} :
    x.map f = .ok b ↔ ∃ a, x = .ok a ∧ f a = b := by
  cases x <;> simp [Except.map]

theorem bind_eq_ok_iff {ε α β : Type} {x : Except ε α} {f : α → Except ε β} {b : β} :
    x >>= f = .ok b ↔ ∃ a, x = .ok a ∧ f a = .ok b := by
  cases x <;> simp [bind, Except.bind]

theorem bind_eq_error_iff {ε α β : Type} {x : Except ε α} {f : α → Except ε β} {e : ε} :
    x >>= f = .error e ↔ x = .error e ∨ ∃ a, x = .ok a ∧ f a = .error e := by
  cases x <;> simp [bind, Except.bind]

theorem toOption_eq_some_iff {ε α : Type} {x : Except ε α} {a : α} :
    x.toOption = some a ↔ x = .ok a := by
  cases x <;> simp [Except.toOption]

def FitsSigned (bits : Nat) (i : Int) : Prop :=
  -(twoTo (bits - 1) : Int) ≤ i ∧ i < twoTo (bits - 1)

instance (bits : Nat) (i : Int) : Decidable (FitsSigned bits i) :=
  inferInstanceAs (Decidable (_ ∧ _))

/-- A value, where null stands for none. -/
def Json.present? : Json → Option Json
  | .null => none
  | v => some v

namespace Decoder

variable {source : Source} {v : Json}

theorem string_eq_ok_iff {s : String} : string source v = .ok s ↔ v = .string s := by
  cases v <;> simp [string, fail]

theorem bounded_eq_ok_iff {low high : Int} (hlow : -(twoTo 63 : Int) ≤ low)
    (hhigh : high < twoTo 64) {name : String} {i : Int} :
    bounded low high name source v = .ok i ↔ v = .int i ∧ low ≤ i ∧ i ≤ high := by
  cases v with
  | number n =>
    cases n with
    | integer j =>
      have hint : Json.number (.integer j) = .int i ↔ j = i := by simp [Json.int]
      simp only [hint, bounded, Source.found]
      by_cases hword : -(twoTo 63 : Int) ≤ j ∧ j < twoTo 64
      · simp only [hword, and_self, if_true]
        split_ifs with hbounds
        · rw [Except.ok.injEq]
          exact ⟨fun h => ⟨h, h ▸ hbounds⟩, And.left⟩
        · constructor
          · intro h
            cases h
          · rintro ⟨rfl, h⟩
            exact absurd h hbounds
      · simp only [hword, if_false, fail]
        constructor
        · intro h
          cases h
        · rintro ⟨rfl, h⟩
          omega
    | real x => simp [bounded, Source.found, fail, Json.int]
  | _ => simp [bounded, Source.found, fail, Json.int]

theorem signed32_eq_ok_iff {i : Int} :
    signed32 source v = .ok i ↔ v = .int i ∧ FitsSigned 32 i := by
  have hbounds : FitsSigned 32 i ↔ -(twoTo 31 : Int) ≤ i ∧ i ≤ maxUnsigned 31 := by
    have hmax : (twoTo 31 : Int) = maxUnsigned 31 + 1 := by decide
    simp only [FitsSigned, Nat.reduceSub]
    omega
  rw [hbounds]
  exact bounded_eq_ok_iff (by decide) (by decide)

theorem unsigned_nat (source : Source) {bits n : Nat} (hbits : maxUnsigned bits < twoTo 64) (hn : n ≤ maxUnsigned bits)
    (name : String) : unsigned bits name source (.nat n) = .ok n := by
  have hbounded : bounded 0 (maxUnsigned bits) name source (.nat n) = .ok (n : Int) :=
    (bounded_eq_ok_iff (by decide) (by exact_mod_cast hbits)).mpr
      ⟨rfl, Int.natCast_nonneg n, by exact_mod_cast hn⟩
  exact map_eq_ok_iff.mpr ⟨n, hbounded, Int.toNat_natCast n⟩

theorem list_string (source : Source) (ss : List String) :
    string.list source (.array (ss.map .string)) = .ok ss := by
  change (ss.map Json.string).mapM (string source) = .ok ss
  induction ss with
  | nil => rfl
  | cons s ss ih =>
    rw [List.map_cons, List.mapM_cons, ih]
    rfl

theorem map_string (source : Source) (env : List (String × String)) :
    string.map source (.object (env.map fun p => (p.1, .string p.2))) = .ok env := by
  simp only [Decoder.map]
  induction env with
  | nil => rfl
  | cons p env ih =>
    rw [List.map_cons, List.mapM_cons, ih]
    rfl

theorem nullable_any : any.nullable source v = .ok v.present? := by
  cases v <;> rfl

end Decoder

namespace Fields

variable {α β : Type} {source : Source} {members : Members}

theorem lookup_eq_some_iff {checks : List (String × β)} (h : (checks.map Prod.fst).Nodup)
    {name : String} {check : β} : checks.lookup name = some check ↔ (name, check) ∈ checks := by
  induction checks with
  | nil => simp
  | cons q checks ih =>
    obtain ⟨n, c⟩ := q
    rw [List.map_cons, List.nodup_cons] at h
    rw [List.lookup_cons, List.mem_cons, Prod.mk.injEq]
    by_cases hname : name = n
    · subst hname
      have hother : (name, check) ∉ checks := fun hmem => h.1 (List.mem_map.mpr ⟨_, hmem, rfl⟩)
      simp [hother, eq_comm]
    · have hbeq : (name == n) = false := by simpa using hname
      simp [hname, hbeq, ih h.2]

/-- Every member that has a field's name fits the field; other members do not matter where they are
not refused. -/
theorem visit_eq_ok_iff {fields : Fields α} (hnames : fields.names.Nodup) :
    fields.visit false source members = .ok () ↔
      ∀ q ∈ fields.checks, ∀ v, (q.1, v) ∈ members → q.2 source v = .ok () := by
  induction members with
  | nil => simp [visit]
  | cons p members ih =>
    obtain ⟨name, v⟩ := p
    have hsplit : fields.visit false source ((name, v) :: members) = .ok () ↔
        (∀ check, fields.checks.lookup name = some check → check source v = .ok ()) ∧
          fields.visit false source members = .ok () := by
      rw [visit]
      cases fields.checks.lookup name with
      | none => simp
      | some check =>
        rw [bind_eq_ok_iff]
        simp only [Option.some.injEq, forall_eq']
        exact ⟨fun ⟨_, hcheck, hrest⟩ => ⟨hcheck, hrest⟩,
          fun ⟨hcheck, hrest⟩ => ⟨(), hcheck, hrest⟩⟩
    rw [hsplit, ih]
    simp only [lookup_eq_some_iff hnames, List.mem_cons, Prod.mk.injEq]
    constructor
    · rintro ⟨hcheck, hrest⟩ ⟨n, check⟩ hq w (⟨rfl, rfl⟩ | hw)
      · exact hcheck check hq
      · exact hrest _ hq w hw
    · intro h
      exact ⟨fun check hq => h _ hq v (.inl ⟨rfl, rfl⟩), fun q hq w hw => h q hq w (.inr hw)⟩

theorem ofMembers_map_eq_ok_iff {f : α → β} {fields : Fields α} {b : β} :
    (f <$> fields).ofMembers source members = .ok b ↔
      ∃ a, fields.ofMembers source members = .ok a ∧ f a = b :=
  map_eq_ok_iff

theorem ofMembers_seq_eq_ok_iff {fs : Fields (α → β)} {as : Fields α} {b : β} :
    (fs <*> as).ofMembers source members = .ok b ↔
      ∃ f a, fs.ofMembers source members = .ok f ∧ as.ofMembers source members = .ok a ∧
        f a = b := by
  change (do
    let f ← fs.ofMembers source members
    let a ← as.ofMembers source members
    return f a) = .ok b ↔ _
  simp only [bind_eq_ok_iff, pure, Except.pure, Except.ok.injEq]
  constructor
  · rintro ⟨f, hf, a, ha, h⟩
    exact ⟨f, a, hf, ha, h⟩
  · rintro ⟨f, a, hf, ha, h⟩
    exact ⟨f, hf, a, ha, h⟩

theorem ofMembers_required_eq_ok_iff {name : String} {decode : Decoder α} {a : α} :
    (required name decode).ofMembers source members = .ok a ↔
      ∃ v, Members.find? name members = some v ∧ decode source v = .ok a := by
  simp only [required, field]
  cases Members.find? name members <;> simp

theorem ofMembers_optional_eq_ok_iff {name : String} {decode : Decoder α} {a : Option α} :
    (optional name decode).ofMembers source members = .ok a ↔
      (Members.find? name members = Option.none ∧ a = Option.none) ∨
        ∃ v, Members.find? name members = some v ∧ decode.nullable source v = .ok a := by
  simp only [optional, field]
  cases Members.find? name members <;> simp [eq_comm]

theorem ofMembers_defaulted_eq_ok_iff {name : String} {decode : Decoder α} {default a : α} :
    (defaulted name decode default).ofMembers source members = .ok a ↔
      (Members.find? name members = Option.none ∧ a = default) ∨
        ∃ v, Members.find? name members = some v ∧ decode source v = .ok a := by
  simp only [defaulted, field]
  cases Members.find? name members <;> simp [eq_comm]

variable {short : Nat → DecodeFault} {index next : Nat} {items rest : List Json}

theorem ofItems_map_eq_ok_iff {f : α → β} {fields : Fields α} {b : β} :
    (f <$> fields).ofItems source short index items = .ok (b, next, rest) ↔
      ∃ a, fields.ofItems source short index items = .ok (a, next, rest) ∧ f a = b := by
  change (fields.ofItems source short index items).map _ = _ ↔ _
  rw [map_eq_ok_iff]
  constructor
  · rintro ⟨⟨a, next', rest'⟩, h, heq⟩
    simp only [Prod.mk.injEq] at heq
    obtain ⟨hb, rfl, rfl⟩ := heq
    exact ⟨a, h, hb⟩
  · rintro ⟨a, h, rfl⟩
    exact ⟨(a, next, rest), h, rfl⟩

theorem ofItems_seq_eq_ok_iff {fs : Fields (α → β)} {as : Fields α} {b : β} :
    (fs <*> as).ofItems source short index items = .ok (b, next, rest) ↔
      ∃ f a mid middle, fs.ofItems source short index items = .ok (f, mid, middle) ∧
        as.ofItems source short mid middle = .ok (a, next, rest) ∧ f a = b := by
  change (fs.ofItems source short index items >>= _) = _ ↔ _
  rw [bind_eq_ok_iff]
  constructor
  · rintro ⟨⟨f, mid, middle⟩, hf, h⟩
    obtain ⟨⟨a, next', rest'⟩, ha, h⟩ := bind_eq_ok_iff.mp h
    simp only [pure, Except.pure, Except.ok.injEq, Prod.mk.injEq] at h
    obtain ⟨hb, rfl, rfl⟩ := h
    exact ⟨f, a, mid, middle, hf, ha, hb⟩
  · rintro ⟨f, a, mid, middle, hf, ha, rfl⟩
    exact ⟨(f, mid, middle), hf, bind_eq_ok_iff.mpr ⟨(a, next, rest), ha, rfl⟩⟩

theorem ofItems_field_eq_ok_iff {name : String} {decode : Decoder α} {absent : Option α} {a : α} :
    (field name decode absent Option.none).ofItems source short index items = .ok (a, next, rest) ↔
      ∃ v, items = v :: rest ∧ decode source v = .ok a ∧ next = index + 1 := by
  cases items with
  | nil => simp [field]
  | cons v items =>
    simp only [field, map_eq_ok_iff, Prod.mk.injEq, List.cons.injEq]
    constructor
    · rintro ⟨a', h, rfl, rfl, rfl⟩
      exact ⟨v, ⟨rfl, rfl⟩, h, rfl⟩
    · rintro ⟨_, ⟨rfl, rfl⟩, h, rfl⟩
      exact ⟨a, h, rfl, rfl, rfl⟩

/-- The fault of a list that ends before the field of a given index. -/
def tooShort (fields : Fields α) (name : String) (index : Nat) : DecodeFault :=
  .wrongLength index
    ("struct " ++ name ++ " with " ++ Source.counted fields.checks.length "element")

/-- A record in a message is an object that passes the tests of its fields, or a list of exactly its
fields. -/
theorem lenient_eq_ok_iff {fields : Fields α} {name : String} {v : Json} {a : α} :
    fields.lenient name .message v = .ok a ↔
      (∃ members, v = .object members ∧ fields.visit false .message members = .ok () ∧
          fields.ofMembers .message members = .ok a) ∨
        ∃ items next, v = .array items ∧
          fields.ofItems .message (fields.tooShort name) 0 items = .ok (a, next, []) := by
  cases v with
  | object members =>
    simp only [lenient, record, ofObject, bind_eq_ok_iff, Json.object.injEq, reduceCtorEq,
      false_and, exists_const, or_false, exists_eq_left']
    exact ⟨fun ⟨_, hvisit, h⟩ => ⟨hvisit, h⟩, fun ⟨hvisit, h⟩ => ⟨(), hvisit, h⟩⟩
  | array items =>
    simp only [lenient, record, bind_eq_ok_iff, Json.array.injEq, reduceCtorEq, false_and,
      exists_const, false_or]
    constructor
    · rintro ⟨⟨b, next, rest⟩, h, hrest⟩
      cases rest with
      | nil =>
        simp only [pure, Except.pure, Except.ok.injEq] at hrest
        exact ⟨items, next, rfl, hrest ▸ h⟩
      | cons w rest => cases hrest
    · rintro ⟨_, next, rfl, h⟩
      exact ⟨(a, next, []), h, rfl⟩
  | _ => simp [lenient, record, Decoder.fail]

/-- The tests of the fields ask no more than reading them does. -/
def Tested (fields : Fields α) : Prop :=
  ∀ source members a, fields.ofMembers source members = .ok a →
    ∀ q ∈ fields.checks, ∀ v, Members.find? q.1 members = some v → q.2 source v = .ok ()

theorem tested_field (name : String) (decode : Decoder α) (absent listEnd : Option α) :
    (field name decode absent listEnd).Tested := by
  intro source members a h q hq v hv
  obtain rfl := List.mem_singleton.mp hq
  simp only [field, hv] at h
  exact map_eq_ok_iff.mpr ⟨a, h, rfl⟩

theorem Tested.map {fields : Fields α} (h : fields.Tested) (f : α → β) : (f <$> fields).Tested := by
  intro source members b hb
  obtain ⟨a, ha, -⟩ := ofMembers_map_eq_ok_iff.mp hb
  exact h source members a ha

theorem Tested.seq {fs : Fields (α → β)} {as : Fields α} (hfs : fs.Tested) (has : as.Tested) :
    (fs <*> as).Tested := by
  intro source members b hb q hq
  obtain ⟨f, a, hf, ha, -⟩ := ofMembers_seq_eq_ok_iff.mp hb
  rcases List.mem_append.mp hq with hq | hq
  · exact hfs source members f hf q hq
  · exact has source members a ha q hq

theorem visit_strict {fields : Fields α} (h : ∀ p ∈ members, ∃ check,
    fields.checks.lookup p.1 = some check ∧ check source p.2 = .ok ()) :
    fields.visit true source members = .ok () := by
  induction members with
  | nil => rfl
  | cons p members ih =>
    obtain ⟨name, v⟩ := p
    obtain ⟨check, hlookup, hcheck⟩ := h (name, v) (by simp)
    simp only [visit, hlookup, hcheck]
    exact ih fun p hp => h p (by simp [hp])

theorem strict_ofPairs {fields : Fields α} (htested : fields.Tested)
    (hnames : fields.names.Nodup) {pairs : Members} (hpairs : (pairs.map Prod.fst).Nodup) (hknown : ∀ n ∈ pairs.map Prod.fst, n ∈ fields.names)
    {a : α} (h : fields.ofMembers source (Members.ofPairs pairs) = .ok a) (name : String) :
    fields.strict name source (.ofPairs pairs) = .ok a := by
  have hvisit : fields.visit true source (Members.ofPairs pairs) = .ok () := by
    refine visit_strict fun p hp => ?_
    have hordered := Members.ascending_ofPairs pairs
    have hname : p.1 ∈ fields.names :=
      hknown p.1 (List.mem_map.mpr ⟨p, (Members.ofPairs_perm hpairs).mem_iff.mp hp, rfl⟩)
    obtain ⟨q, hq, hqp⟩ := List.mem_map.mp hname
    have hv := Members.find?_of_mem (hordered.imp ne_of_lt) hp
    rw [← hqp] at hv ⊢
    exact ⟨q.2, (lookup_eq_some_iff hnames).mpr hq, htested source _ a h q hq p.2 hv⟩
  change (fields.visit true source (Members.ofPairs pairs) >>= _) = _
  rw [hvisit]
  exact h

section

variable {pairs : Members} {decode : Decoder α}

theorem defaulted_found (name : String) (hpairs : (pairs.map Prod.fst).Nodup) {v : Json}
    (hfind : Members.find? name pairs = some v) {a : α} (h : decode source v = .ok a) (default : α) :
    (defaulted name decode default).ofMembers source (Members.ofPairs pairs) = .ok a :=
  ofMembers_defaulted_eq_ok_iff.mpr (.inr ⟨v, by rw [Members.find?_ofPairs hpairs, hfind], h⟩)

theorem defaulted_absent (name : String) (hpairs : (pairs.map Prod.fst).Nodup)
    (hfind : Members.find? name pairs = Option.none) (default : α) :
    (defaulted name decode default).ofMembers source (Members.ofPairs pairs) = .ok default :=
  ofMembers_defaulted_eq_ok_iff.mpr (.inl ⟨by rw [Members.find?_ofPairs hpairs, hfind], rfl⟩)

theorem make_ok {β : Type} (f : α → β) {fields : Fields α} {a : α}
    (h : fields.ofMembers source pairs = .ok a) :
    (f <$> fields).ofMembers source pairs = .ok (f a) :=
  ofMembers_map_eq_ok_iff.mpr ⟨a, h, rfl⟩

theorem seq_ok {β : Type} {fs : Fields (α → β)} {as : Fields α} {f : α → β} {a : α}
    (hf : fs.ofMembers source pairs = .ok f) (ha : as.ofMembers source pairs = .ok a) :
    (fs <*> as).ofMembers source pairs = .ok (f a) :=
  ofMembers_seq_eq_ok_iff.mpr ⟨f, a, hf, ha, rfl⟩

theorem required_found (name : String) (hpairs : (pairs.map Prod.fst).Nodup) {v : Json}
    (hfind : Members.find? name pairs = some v) {a : α} (h : decode source v = .ok a) :
    (required name decode).ofMembers source (Members.ofPairs pairs) = .ok a :=
  ofMembers_required_eq_ok_iff.mpr ⟨v, by rw [Members.find?_ofPairs hpairs, hfind], h⟩

end

end Fields

end RuleServer
