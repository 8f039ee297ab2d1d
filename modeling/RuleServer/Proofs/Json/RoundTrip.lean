import Mathlib
import RuleServer.Proofs.Json.Scalar
import RuleServer.Proofs.Json.Shape

/-!
What is printed is read back. A reader needs no more fuel than the text has bytes, and it opens as
many brackets as the value is deep.
-/

namespace RuleServer

theorem RealFormat.write_ne_nil (f : RealFormat) (x : Binary64) : (f.write x).toList ≠ [] := by
  cases x with
  | nan => simp [write]
  | infinite negative => cases negative <;> simp [write]
  | finite negative m e =>
    have hfixed : ∀ (n : Nat) (point : Int), fixed (decimal n) point ≠ [] := by
      intro n point
      simp only [fixed]
      split_ifs <;> simp
    have hscientific : ∀ (n : Nat) (point : Int), scientific (decimal n) point ≠ [] := by
      intro n point
      simp [scientific]
    simp only [write, String.toList_ofList]
    split_ifs <;> simp [hfixed, hscientific]

/-- The integers of 64 bits, with or without a sign. -/
def JsonNumber.IsWord : JsonNumber → Prop
  | .integer i => -(twoTo 63 : Int) ≤ i ∧ i < twoTo 64
  | .real _ => False

namespace Json

def numberIsWord : Json → Prop
  | .number n => n.IsWord
  | _ => True

/-- Every number in a value is an integer of 64 bits. -/
def Exact (v : Json) : Prop :=
  v.All numberIsWord

@[simp] theorem exact_string (s : String) : (Json.string s).Exact := by
  simp [Exact, All, numberIsWord]

theorem exact_object_iff {members : Members} :
    (Json.object members).Exact ↔ ∀ p ∈ members, p.2.Exact := by
  simp [Exact, All, allMembers_iff, numberIsWord]

theorem encode_decimal (n : Nat) : Utf8.encode (decimal n) = (decimal n).map asciiByte := by
  refine Utf8.encode_ascii fun c hc => ?_
  have h := isDigit_iff.mp (isDigit_of_mem_decimal hc)
  omega

theorem encode_render_ofNat (n : Nat) :
    Utf8.encode (render (.number (.integer (.ofNat n)))) = (decimal n).map asciiByte := by
  rw [← encode_decimal]
  simp [render, JsonNumber.render, integerText, decimalText]

theorem encode_render_negSucc (n : Nat) :
    Utf8.encode (render (.number (.integer (.negSucc n)))) =
      45 :: (decimal (n + 1)).map asciiByte := by
  rw [← encode_decimal]
  simp only [render, JsonNumber.render, integerText, String.toList_ofList, Utf8.encode_cons]
  rfl

theorem encode_renderString (s : String) :
    Utf8.encode (renderString s) = 34 :: (Utf8.encode (s.toList.flatMap escapeChar) ++ [34]) := by
  simp only [renderString, List.cons_append, Utf8.encode_cons, Utf8.encode_append]
  rfl

theorem encode_renderItems_cons (v : Json) (items : List Json) :
    Utf8.encode (renderItems (v :: items)) =
      44 :: (Utf8.encode v.render ++ Utf8.encode (renderItems items)) := by
  simp only [renderItems, List.cons_append, Utf8.encode_cons, Utf8.encode_append]
  rfl

theorem encode_render_array_cons (v : Json) (items : List Json) :
    Utf8.encode (render (.array (v :: items))) =
      91 :: (Utf8.encode v.render ++ (Utf8.encode (renderItems items) ++ [93])) := by
  simp only [render, List.cons_append, List.append_assoc, Utf8.encode_cons, Utf8.encode_append]
  rfl

theorem encode_renderMembers_cons (name : String) (v : Json) (members : Members) :
    Utf8.encode (renderMembers ((name, v) :: members)) =
      44 :: 34 :: (Utf8.encode (name.toList.flatMap escapeChar) ++
        34 :: 58 :: (Utf8.encode v.render ++ Utf8.encode (renderMembers members))) := by
  simp only [renderMembers, renderString, List.cons_append, List.append_assoc, Utf8.encode_cons,
    Utf8.encode_append]
  rfl

theorem encode_render_object_cons (name : String) (v : Json) (members : Members) :
    Utf8.encode (render (.object ((name, v) :: members))) =
      123 :: 34 :: (Utf8.encode (name.toList.flatMap escapeChar) ++
        34 :: 58 :: (Utf8.encode v.render ++ (Utf8.encode (renderMembers members) ++ [125]))) := by
  simp only [render, renderString, List.cons_append, List.append_assoc, Utf8.encode_cons,
    Utf8.encode_append]
  rfl

theorem render_ne_nil (v : Json) : v.render ≠ [] := by
  cases v with
  | null => simp [render]
  | bool b => cases b <;> simp [render]
  | number n =>
    cases n with
    | integer i => cases i <;> simp [render, JsonNumber.render, integerText, decimalText]
    | real x =>
      rw [render, JsonNumber.render]
      exact RealFormat.write_ne_nil _ x
  | string s => simp [render, renderString]
  | array items => cases items <;> simp [render]
  | object members => cases members <;> simp [render]

theorem encode_render_ne_nil (v : Json) : Utf8.encode v.render ≠ [] := by
  intro h
  exact v.render_ne_nil (Utf8.encode_injective (h.trans Utf8.encode_nil.symm))

namespace Read

theorem skipBlanks_cons {b : UInt8} (h : isBlankByte b = false) (s : Bytes) :
    skipBlanks (b :: s) = b :: s := by
  simp [skipBlanks, h]

theorem ne_of_isDigitByte {b n : UInt8} (h : isDigitByte b) (hn : isDigitByte n = false) :
    b ≠ n := by
  rintro rfl
  rw [h] at hn
  exact absurd hn (by decide)

theorem isBlankByte_of_digit {b : UInt8} (h : isDigitByte b) : isBlankByte b = false := by
  have hne := fun n => ne_of_isDigitByte (n := n) h
  simp [isBlankByte, hne 32 rfl, hne 10 rfl, hne 9 rfl, hne 13 rfl]

theorem value_digit {b : UInt8} (h : isDigitByte b) (fuel depth : Nat) (s : Bytes) :
    value (fuel + 1) depth (b :: s) = number false (b :: s) := by
  have hne := fun n => ne_of_isDigitByte (n := n) h
  rw [value, skipBlanks_cons (isBlankByte_of_digit h)]
  simp only [hne 110 rfl, hne 116 rfl, hne 102 rfl, hne 45 rfl, h, if_false, if_true]

theorem value_minus (fuel depth : Nat) (s : Bytes) :
    value (fuel + 1) depth (45 :: s) = number true s := by
  rw [value, skipBlanks_cons rfl]
  rfl

theorem exists_digit (n : Nat) :
    ∃ b s, (decimal n).map asciiByte = b :: s ∧ isDigitByte b := by
  obtain ⟨c, cs, hc⟩ := List.exists_cons_of_ne_nil (decimal_ne_nil n)
  have hmem : c ∈ decimal n := hc ▸ List.mem_cons_self
  exact ⟨asciiByte c, cs.map asciiByte, by rw [hc, List.map_cons],
    isDigitByte_asciiByte (isDigit_of_mem_decimal hmem)⟩

theorem value_integer {i : Int} (h : (JsonNumber.integer i).IsWord) (fuel depth : Nat)
    {rest : Bytes} (hrest : EndsNumber rest) :
    value (fuel + 1) depth (Utf8.encode (render (.number (.integer i))) ++ rest) =
      .ok (.number (.integer i), rest) := by
  have hmax : maxSignificand = twoTo 64 - 1 := rfl
  have hhalf : twoTo 63 ≤ twoTo 64 - 1 := by decide
  obtain ⟨hlo, hhi⟩ := h
  cases i with
  | ofNat n =>
    have hn : n ≤ maxSignificand := by
      simp only [Int.ofNat_eq_natCast, Nat.cast_lt] at hhi
      omega
    obtain ⟨b, s, hs, hb⟩ := exists_digit n
    have hdigits := number_decimal false hn hrest
    rw [encode_render_ofNat]
    rw [hs, List.cons_append] at hdigits ⊢
    rw [value_digit hb, hdigits]
    rfl
  | negSucc n =>
    have hn : n + 1 ≤ twoTo 63 := by omega
    have hdigits := number_decimal true (show n + 1 ≤ maxSignificand by omega) hrest
    rw [encode_render_negSucc, List.cons_append, value_minus, hdigits, integer, if_pos rfl,
      if_neg (by omega)]
    rfl

/-- A value may begin here, even where a list could end. -/
def Begins (s : Bytes) : Prop :=
  ∃ b r, s = b :: r ∧ isBlankByte b = false ∧ b ≠ 93

theorem Begins.append {s : Bytes} (h : Begins s) (rest : Bytes) : Begins (s ++ rest) := by
  obtain ⟨b, r, rfl, hb⟩ := h
  exact ⟨b, r ++ rest, rfl, hb⟩

theorem begins_integer (i : Int) : Begins (Utf8.encode (render (.number (.integer i)))) := by
  cases i with
  | ofNat n =>
    obtain ⟨b, s, hs, hb⟩ := exists_digit n
    exact ⟨b, s, (encode_render_ofNat n).trans hs, isBlankByte_of_digit hb,
      ne_of_isDigitByte hb rfl⟩
  | negSucc n => exact ⟨45, _, encode_render_negSucc n, rfl, by decide⟩

theorem begins_render {v : Json} (h : v.Exact) : Begins (Utf8.encode v.render) := by
  cases v with
  | null => exact ⟨110, [117, 108, 108], rfl, rfl, by decide⟩
  | bool b =>
    cases b with
    | true => exact ⟨116, [114, 117, 101], rfl, rfl, by decide⟩
    | false => exact ⟨102, [97, 108, 115, 101], rfl, rfl, by decide⟩
  | number n =>
    cases n with
    | integer i => exact begins_integer i
    | real x => exact absurd h id
  | string s => exact ⟨34, _, encode_renderString s, rfl, by decide⟩
  | array items =>
    cases items with
    | nil => exact ⟨91, [93], rfl, rfl, by decide⟩
    | cons v items => exact ⟨91, _, encode_render_array_cons v items, rfl, by decide⟩
  | object members =>
    cases members with
    | nil => exact ⟨123, [125], rfl, rfl, by decide⟩
    | cons p members => exact ⟨123, _, encode_render_object_cons p.1 p.2 members, rfl, by decide⟩

/-- An item and the items after it are read the same way at the front of a list and behind a
comma. -/
theorem items_cons {fuel depth : Nat} {v : Json} {vs : List Json} {s rest rest' : Bytes}
    (hs : Begins s) (hv : value fuel depth s = .ok (v, rest))
    (hvs : items fuel depth false rest = .ok (vs, rest')) :
    items (fuel + 1) depth true s = .ok (v :: vs, rest') ∧
      items (fuel + 1) depth false (44 :: s) = .ok (v :: vs, rest') := by
  obtain ⟨b, r, rfl, hb, h93⟩ := hs
  constructor
  · rw [items, skipBlanks_cons hb]
    simp only [h93, if_false, if_true, hv, hvs, bind, Except.bind]
    rfl
  · rw [items, skipBlanks_cons rfl]
    have h44 : ¬ (44 : UInt8) = 93 := by decide
    simp only [h44, if_false, if_true, skipBlanks_cons hb, h93, hv, hvs, bind, Except.bind]
    rfl

theorem items_end (fuel depth : Nat) (first : Bool) (rest : Bytes) :
    items (fuel + 1) depth first (93 :: rest) = .ok ([], rest) := by
  rw [items, skipBlanks_cons rfl]
  rfl

theorem members_cons {fuel depth : Nat} (name : String) {v : Json} {ms : Members}
    {s rest rest' : Bytes} (hv : value fuel depth s = .ok (v, rest))
    (hms : members fuel depth false rest = .ok (ms, rest')) :
    members (fuel + 2) depth true
        (34 :: (Utf8.encode (name.toList.flatMap escapeChar) ++ 34 :: 58 :: s)) =
          .ok ((name, v) :: ms, rest') ∧
      members (fuel + 2) depth false
        (44 :: 34 :: (Utf8.encode (name.toList.flatMap escapeChar) ++ 34 :: 58 :: s)) =
          .ok ((name, v) :: ms, rest') := by
  have hmember : member (fuel + 1) depth
      (Utf8.encode (name.toList.flatMap escapeChar) ++ 34 :: 58 :: s) =
        .ok ((name, v) :: ms, rest') := by
    rw [member, stringText_render]
    simp only [bind, Except.bind, skipBlanks_cons (show isBlankByte 58 = false from rfl), if_true,
      hv, hms]
    rfl
  constructor
  · rw [members, skipBlanks_cons rfl]
    exact hmember
  · rw [members, skipBlanks_cons rfl]
    exact hmember

theorem members_end (fuel depth : Nat) (first : Bool) (rest : Bytes) :
    members (fuel + 1) depth first (125 :: rest) = .ok ([], rest) := by
  rw [members, skipBlanks_cons rfl]
  rfl

theorem value_array {fuel depth : Nat} {vs : List Json} {s rest : Bytes} (hdepth : 1 < depth)
    (h : items fuel (depth - 1) true s = .ok (vs, rest)) :
    value (fuel + 1) depth (91 :: s) = .ok (.array vs, rest) := by
  have hd : ¬ depth ≤ 1 := by omega
  rw [value, skipBlanks_cons rfl]
  simp only [hd, if_false, h, bind, Except.bind]
  rfl

theorem value_object {fuel depth : Nat} {ms : Members} {s rest : Bytes} (hdepth : 1 < depth)
    (h : members fuel (depth - 1) true s = .ok (ms, rest)) :
    value (fuel + 1) depth (123 :: s) = .ok (.ofPairs ms, rest) := by
  have hd : ¬ depth ≤ 1 := by omega
  rw [value, skipBlanks_cons rfl]
  simp only [hd, if_false, h, bind, Except.bind]
  rfl

theorem value_string (fuel depth : Nat) (s : String) (rest : Bytes) :
    value (fuel + 1) depth (Utf8.encode (renderString s) ++ rest) = .ok (.string s, rest) := by
  rw [encode_renderString, List.cons_append, List.append_assoc, List.singleton_append, value,
    skipBlanks_cons rfl]
  have h := stringText_render s rest
  simp only [h, bind, Except.bind]
  rfl

/-- The text of a value is read back, whatever follows it that could not belong to a number. -/
def ReadsBack (v : Json) : Prop :=
  ∀ (fuel depth : Nat) (rest : Bytes), v.depth < depth → (Utf8.encode v.render).length ≤ fuel →
    EndsNumber rest → value fuel depth (Utf8.encode v.render ++ rest) = .ok (v.arrange, rest)

theorem endsNumber_cons {b : UInt8} (h : isDigitByte b = false ∧ b ≠ 46 ∧ b ≠ 101 ∧ b ≠ 69)
    (rest : Bytes) : EndsNumber (b :: rest) := by
  intro c hc
  cases hc
  exact h

theorem endsNumber_renderItems (vs : List Json) (rest : Bytes) :
    EndsNumber (Utf8.encode (renderItems vs) ++ 93 :: rest) := by
  cases vs with
  | nil => exact endsNumber_cons (by decide) _
  | cons v vs =>
    rw [encode_renderItems_cons]
    exact endsNumber_cons (by decide) _

theorem endsNumber_renderMembers (ms : Members) (rest : Bytes) :
    EndsNumber (Utf8.encode (renderMembers ms) ++ 125 :: rest) := by
  cases ms with
  | nil => exact endsNumber_cons (by decide) _
  | cons p ms =>
    rw [encode_renderMembers_cons]
    exact endsNumber_cons (by decide) _

theorem items_renderItems {vs : List Json} (hvs : ∀ v ∈ vs, v.Exact ∧ ReadsBack v)
    {fuel depth : Nat} (rest : Bytes) (hdepth : ∀ v ∈ vs, v.depth < depth)
    (hfuel : (Utf8.encode (renderItems vs)).length < fuel) :
    items fuel depth false (Utf8.encode (renderItems vs) ++ 93 :: rest) =
      .ok (vs.map arrange, rest) := by
  induction vs generalizing fuel with
  | nil =>
    obtain ⟨left, rfl⟩ := Nat.exists_eq_add_of_lt hfuel
    exact items_end _ _ _ _
  | cons v vs ih =>
    obtain ⟨⟨hexact, hv⟩, hvs⟩ := List.forall_mem_cons.mp hvs
    obtain ⟨hdv, hdvs⟩ := List.forall_mem_cons.mp hdepth
    simp only [encode_renderItems_cons, List.length_cons, List.length_append] at hfuel
    obtain ⟨left, rfl⟩ : ∃ left, fuel = left + 1 := ⟨fuel - 1, by omega⟩
    have hhead := hv left depth _ hdv (by omega) (endsNumber_renderItems vs rest)
    have htail := ih hvs hdvs (show _ < left by omega)
    simp only [encode_renderItems_cons, List.cons_append, List.append_assoc]
    exact (items_cons ((begins_render hexact).append _) hhead htail).2

theorem members_renderMembers {ms : Members} (hms : ∀ p ∈ ms, ReadsBack p.2)
    {fuel depth : Nat} (rest : Bytes) (hdepth : ∀ p ∈ ms, p.2.depth < depth)
    (hfuel : (Utf8.encode (renderMembers ms)).length < fuel) :
    members fuel depth false (Utf8.encode (renderMembers ms) ++ 125 :: rest) =
      .ok (ms.map fun p => (p.1, p.2.arrange), rest) := by
  induction ms generalizing fuel with
  | nil =>
    obtain ⟨left, rfl⟩ := Nat.exists_eq_add_of_lt hfuel
    exact members_end _ _ _ _
  | cons p ms ih =>
    obtain ⟨name, v⟩ := p
    obtain ⟨hv, hms⟩ := List.forall_mem_cons.mp hms
    obtain ⟨hdv, hdms⟩ := List.forall_mem_cons.mp hdepth
    simp only [encode_renderMembers_cons, List.length_cons, List.length_append] at hfuel
    obtain ⟨left, rfl⟩ : ∃ left, fuel = left + 2 := ⟨fuel - 2, by omega⟩
    have hlen : (Utf8.encode v.render).length ≤ left := by omega
    have hhead := hv left depth _ hdv hlen (endsNumber_renderMembers ms rest)
    have htail := ih hms hdms (show _ < left by omega)
    simp only [encode_renderMembers_cons, List.cons_append, List.append_assoc]
    exact (members_cons name hhead htail).2

theorem readsBack_array {vs : List Json} (hvs : ∀ v ∈ vs, v.Exact ∧ ReadsBack v) :
    ReadsBack (.array vs) := by
  intro fuel depth rest hdepth hfuel _
  rw [Json.depth] at hdepth
  have hitems : ∀ v ∈ vs, v.depth < depth - 1 := by
    intro v hv
    have := depth_le_itemsDepth hv
    omega
  rw [arrange, arrangeItems_eq]
  cases vs with
  | nil =>
    change 2 ≤ fuel at hfuel
    obtain ⟨left, rfl⟩ : ∃ left, fuel = left + 2 := ⟨fuel - 2, by omega⟩
    exact value_array (by omega) (items_end _ _ _ _)
  | cons v vs =>
    obtain ⟨⟨hexact, hv⟩, hvs⟩ := List.forall_mem_cons.mp hvs
    obtain ⟨hdv, hdvs⟩ := List.forall_mem_cons.mp hitems
    have hbegins := begins_render hexact
    have hpos : 0 < (Utf8.encode v.render).length := by
      obtain ⟨b, r, hr, -⟩ := hbegins
      simp [hr]
    simp only [encode_render_array_cons, List.length_cons, List.length_append] at hfuel
    obtain ⟨left, rfl⟩ : ∃ left, fuel = left + 2 := ⟨fuel - 2, by omega⟩
    have hhead := hv left (depth - 1) _ hdv (by omega) (endsNumber_renderItems vs rest)
    have htail := items_renderItems hvs rest hdvs (show _ < left by omega)
    simp only [encode_render_array_cons, List.cons_append, List.append_assoc, List.nil_append]
    exact value_array (by omega) (items_cons (hbegins.append _) hhead htail).1

theorem readsBack_object {ms : Members} (hms : ∀ p ∈ ms, ReadsBack p.2) :
    ReadsBack (.object ms) := by
  intro fuel depth rest hdepth hfuel _
  rw [Json.depth] at hdepth
  have hmembers : ∀ p ∈ ms, p.2.depth < depth - 1 := by
    intro p hp
    have := depth_le_membersDepth hp
    omega
  rw [arrange, arrangeMembers_eq]
  cases ms with
  | nil =>
    change 2 ≤ fuel at hfuel
    obtain ⟨left, rfl⟩ : ∃ left, fuel = left + 2 := ⟨fuel - 2, by omega⟩
    exact value_object (by omega) (members_end _ _ _ _)
  | cons p ms =>
    obtain ⟨name, v⟩ := p
    obtain ⟨hv, hms⟩ := List.forall_mem_cons.mp hms
    obtain ⟨hdv, hdms⟩ := List.forall_mem_cons.mp hmembers
    simp only [encode_render_object_cons, List.length_cons, List.length_append] at hfuel
    obtain ⟨left, rfl⟩ : ∃ left, fuel = left + 3 := ⟨fuel - 3, by omega⟩
    have hlen : (Utf8.encode v.render).length ≤ left := by omega
    have hhead := hv left (depth - 1) _ hdv hlen (endsNumber_renderMembers ms rest)
    have htail := members_renderMembers hms rest hdms (show _ < left by omega)
    simp only [encode_render_object_cons, List.cons_append, List.append_assoc, List.nil_append]
    exact value_object (by omega) (members_cons name hhead htail).1

theorem readsBack_leaf {v : Json} (hv : v.Exact) (hleaf : v.arrange = v)
    (h : ∀ fuel depth rest, EndsNumber rest →
      value (fuel + 1) depth (Utf8.encode v.render ++ rest) = .ok (v, rest)) : ReadsBack v := by
  intro fuel depth rest _ hfuel hrest
  obtain ⟨b, r, hr, -⟩ := begins_render hv
  rw [hr, List.length_cons] at hfuel
  obtain ⟨left, rfl⟩ : ∃ left, fuel = left + 1 := ⟨fuel - 1, by omega⟩
  rw [hleaf]
  exact h left depth rest hrest

theorem readsBack {v : Json} (h : v.Exact) : ReadsBack v := by
  induction v using Json.induct with
  | null => exact readsBack_leaf h rfl fun fuel depth rest _ => by rw [value]; rfl
  | bool b =>
    cases b with
    | true => exact readsBack_leaf h rfl fun fuel depth rest _ => by rw [value]; rfl
    | false => exact readsBack_leaf h rfl fun fuel depth rest _ => by rw [value]; rfl
  | number n =>
    cases n with
    | integer i =>
      exact readsBack_leaf h rfl fun fuel depth rest hrest => value_integer h fuel depth hrest
    | real x => exact absurd h id
  | string s =>
    exact readsBack_leaf h rfl fun fuel depth rest _ => value_string fuel depth s rest
  | array items ih =>
    have hitems := allItems_iff.mp h.2
    exact readsBack_array fun v hv => ⟨hitems v hv, ih v hv (hitems v hv)⟩
  | object members ih =>
    exact readsBack_object fun p hp => ih p hp (allMembers_iff.mp h.2 p hp)

end Read

theorem parse_render {v : Json} (h : v.Exact) (hdepth : v.depth < Read.depthLimit) :
    parse (Utf8.encode v.render) = .ok v.arrange := by
  have hends : Read.EndsNumber [] := fun b hb => by cases hb
  have hv := Read.readsBack h (2 * (Utf8.encode v.render).length + 2) Read.depthLimit [] hdepth
    (by omega) hends
  rw [List.append_nil] at hv
  have hdocument : Read.document (Utf8.encode v.render) = .ok v.arrange := by
    simp only [Read.document, hv, bind, Except.bind]
    rfl
  rw [parse, hdocument]

end Json

end RuleServer
