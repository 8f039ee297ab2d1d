import Mathlib
import RuleServer.Proofs.Decode.Record
import RuleServer.Proofs.Json.Member
import RuleServer.Rpc.Message

/-!
What a value is as a message. Each kind of message is a condition on six members of an object, and
what is of no kind is malformed, under its id where it has one that can be answered.
-/

namespace RuleServer

namespace RequestId

def IsWord : RequestId → Prop
  | .number i => FitsSigned 64 i
  | .text _ => True

theorem ofJson?_eq_some_iff {v : Json} {id : RequestId} :
    ofJson? v = some id ↔ v = id.toJson ∧ id.IsWord := by
  cases v with
  | number n =>
    cases n with
    | integer i =>
      simp only [ofJson?, Option.ite_none_right_eq_some, Option.some.injEq]
      cases id with
      | number j =>
        simp only [RequestId.number.injEq, toJson, Json.int, Json.number.injEq,
          JsonNumber.integer.injEq, IsWord]
        constructor
        · rintro ⟨hword, rfl⟩
          exact ⟨rfl, hword⟩
        · rintro ⟨rfl, hword⟩
          exact ⟨hword, rfl⟩
      | text s => simp [toJson]
    | real x => cases id <;> simp [ofJson?, toJson, Json.int]
  | string s => cases id <;> simp [ofJson?, toJson, IsWord, Json.int]
  | _ => cases id <;> simp [ofJson?, toJson, Json.int]

theorem toJson_ne_null (id : RequestId) : id.toJson ≠ .null := by
  cases id <;> simp [toJson, Json.int]

theorem toJson_injective : Function.Injective toJson := by
  intro a b h
  cases a <;> cases b <;> simp_all [toJson, Json.int]

end RequestId

namespace Json

variable {v : Json}

/-- The value has an id that can be answered. -/
def HasId (v : Json) (id : RequestId) : Prop :=
  v.member? "id" = some id.toJson ∧ id.IsWord

/-- The value has no id; null stands for none. -/
def LacksId (v : Json) : Prop :=
  v.member? "id" = none ∨ v.member? "id" = some .null

/-- The id of a value as far as there is one. -/
def IdIs (v : Json) : Option RequestId → Prop
  | some id => v.HasId id
  | none => v.LacksId

theorem HasId.not_lacksId {id : RequestId} (h : v.HasId id) : ¬ v.LacksId := by
  rintro (hnone | hnull)
  · rw [h.1] at hnone
    cases hnone
  · rw [h.1] at hnull
    exact id.toJson_ne_null (Option.some.inj hnull)

theorem IdIs.unique {a b : Option RequestId} (ha : v.IdIs a) (hb : v.IdIs b) : a = b := by
  cases a with
  | none =>
    cases b with
    | none => rfl
    | some j => exact absurd ha (HasId.not_lacksId hb)
  | some i =>
    cases b with
    | none => exact absurd hb (HasId.not_lacksId ha)
    | some j =>
      have hsame : some i.toJson = some j.toJson := ha.1.symm.trans hb.1
      rw [RequestId.toJson_injective (Option.some.inj hsame)]

theorem IdIs.eq_some_iff {id : Option RequestId} (h : v.IdIs id) {i : RequestId} :
    id = some i ↔ v.HasId i := by
  constructor
  · rintro rfl
    exact h
  · intro hi
    exact h.unique (b := some i) hi

end Json

namespace RpcError

/-- The values that an error is read from: an object with its fields, or the list of the three. Null
stands for no data. Where an object repeats a name, the first counts, but each must fit. -/
inductive WrittenAs (e : RpcError) : Json → Prop
  | object {members : Members} (code : Members.find? "code" members = some (.int e.code))
    (message : Members.find? "message" members = some (.string e.message))
    (data : (Members.find? "data" members).bind Json.present? = e.data)
    (codes : ∀ v, ("code", v) ∈ members → ∃ i, v = .int i ∧ FitsSigned 32 i)
    (messages : ∀ v, ("message", v) ∈ members → ∃ s, v = .string s) : WrittenAs e (.object members)
  | list {data : Json} (code : FitsSigned 32 e.code) (data_eq : data.present? = e.data) :
    WrittenAs e (.array [.int e.code, .string e.message, data])

theorem nodup_names : fields.names.Nodup := by
  have hnames : fields.names = ["code", "message", "data"] := rfl
  simp [hnames]

theorem visit_fields_iff {members : Members} :
    fields.visit false .message members = .ok () ↔
      (∀ v, ("code", v) ∈ members → ∃ i, v = .int i ∧ FitsSigned 32 i) ∧
        ∀ v, ("message", v) ∈ members → ∃ s, v = .string s := by
  have hchecks : fields.checks = [
      ("code", fun source v => (Decoder.signed32 source v).map fun _ => ()),
      ("message", fun source v => (Decoder.string source v).map fun _ => ()),
      ("data", fun source v => (Decoder.any.nullable source v).map fun _ => ())] := rfl
  rw [Fields.visit_eq_ok_iff nodup_names, hchecks]
  simp [map_eq_ok_iff, Decoder.signed32_eq_ok_iff, Decoder.string_eq_ok_iff, Decoder.nullable_any]

theorem ofMembers_fields_iff {members : Members} {e : RpcError} :
    fields.ofMembers .message members = .ok e ↔
      (Members.find? "code" members = some (.int e.code) ∧ FitsSigned 32 e.code) ∧
        Members.find? "message" members = some (.string e.message) ∧
        (Members.find? "data" members).bind Json.present? = e.data := by
  simp only [fields, Fields.ofMembers_seq_eq_ok_iff, Fields.ofMembers_map_eq_ok_iff,
    Fields.ofMembers_required_eq_ok_iff, Fields.ofMembers_optional_eq_ok_iff,
    Decoder.signed32_eq_ok_iff, Decoder.string_eq_ok_iff, Decoder.nullable_any]
  constructor
  · rintro ⟨_, data, ⟨_, message, ⟨code, ⟨_, hcode, rfl, hfits⟩, rfl⟩, ⟨_, hmessage, rfl⟩, rfl⟩,
      hdata, rfl⟩
    refine ⟨⟨hcode, hfits⟩, hmessage, ?_⟩
    obtain ⟨hnone, rfl⟩ | ⟨v, hsome, h⟩ := hdata
    · rw [hnone, Option.bind_none]
    · rw [hsome, Option.bind_some]
      exact Except.ok.inj h
  · rintro ⟨⟨hcode, hfits⟩, hmessage, hdata⟩
    refine ⟨_, e.data, ⟨_, e.message, ⟨e.code, ⟨_, hcode, rfl, hfits⟩, rfl⟩,
      ⟨_, hmessage, rfl⟩, rfl⟩, ?_, rfl⟩
    cases h : Members.find? "data" members with
    | none =>
      rw [h, Option.bind_none] at hdata
      exact .inl ⟨rfl, hdata.symm⟩
    | some v =>
      rw [h, Option.bind_some] at hdata
      exact .inr ⟨v, rfl, congrArg Except.ok hdata⟩

theorem ofItems_fields_iff {short : Nat → DecodeFault} {items : List Json} {e : RpcError} :
    (∃ next, fields.ofItems .message short 0 items = .ok (e, next, [])) ↔
      ∃ data, items = [.int e.code, .string e.message, data] ∧ FitsSigned 32 e.code ∧
        data.present? = e.data := by
  simp only [fields, Fields.required, Fields.optional, Fields.ofItems_seq_eq_ok_iff,
    Fields.ofItems_map_eq_ok_iff, Fields.ofItems_field_eq_ok_iff, Decoder.signed32_eq_ok_iff,
    Decoder.string_eq_ok_iff, Decoder.nullable_any]
  constructor
  · rintro ⟨_, _, data, _, _, ⟨_, message, _, _, ⟨code, ⟨_, rfl, ⟨rfl, hfits⟩, rfl⟩, rfl⟩,
      ⟨_, rfl, rfl, rfl⟩, rfl⟩, ⟨v, rfl, hdata, rfl⟩, rfl⟩
    exact ⟨v, rfl, hfits, Except.ok.inj hdata⟩
  · rintro ⟨v, rfl, hfits, hdata⟩
    exact ⟨_, _, e.data, _, _, ⟨_, e.message, _, _, ⟨e.code, ⟨_, rfl, ⟨rfl, hfits⟩, rfl⟩, rfl⟩,
      ⟨_, rfl, rfl, rfl⟩, rfl⟩, ⟨v, rfl, congrArg Except.ok hdata, rfl⟩, rfl⟩

theorem ofJson?_eq_some_iff {v : Json} {e : RpcError} : ofJson? v = some e ↔ e.WrittenAs v := by
  rw [ofJson?, toOption_eq_some_iff, Fields.lenient_eq_ok_iff]
  constructor
  · rintro (⟨members, rfl, hvisit, h⟩ | ⟨items, next, rfl, h⟩)
    · obtain ⟨hcodes, hmessages⟩ := visit_fields_iff.mp hvisit
      obtain ⟨⟨hcode, -⟩, hmessage, hdata⟩ := ofMembers_fields_iff.mp h
      exact .object hcode hmessage hdata hcodes hmessages
    · obtain ⟨data, rfl, hfits, hdata⟩ := ofItems_fields_iff.mp ⟨next, h⟩
      exact .list hfits hdata
  · intro h
    cases h with
    | object code message data codes messages =>
      have hfits : FitsSigned 32 e.code := by
        obtain ⟨i, hi, hfits⟩ := codes _ (Members.mem_of_find? code)
        cases hi
        exact hfits
      exact .inl ⟨_, rfl, visit_fields_iff.mpr ⟨codes, messages⟩,
        ofMembers_fields_iff.mpr ⟨⟨code, hfits⟩, message, data⟩⟩
    | list code data_eq =>
      obtain ⟨next, h⟩ := ofItems_fields_iff.mpr ⟨_, rfl, code, data_eq⟩
      exact .inr ⟨_, next, rfl, h⟩

end RpcError

/-- A request has the version, an id and the name of a method. -/
structure Request.WrittenAs (r : Request) (v : Json) : Prop where
  version : v.member? "jsonrpc" = some (.string "2.0")
  id : v.HasId r.id
  method : v.member? "method" = some (.string r.method)
  params : v.member? "params" = r.params

/-- A notification has the version and the name of a method, but no id. -/
structure Notification.WrittenAs (n : Notification) (v : Json) : Prop where
  version : v.member? "jsonrpc" = some (.string "2.0")
  id : v.LacksId
  method : v.member? "method" = some (.string n.method)
  params : v.member? "params" = n.params

/-- A response has the version and no method, but a result or an error. -/
structure Response.WrittenAs (r : Response) (v : Json) : Prop where
  version : v.member? "jsonrpc" = some (.string "2.0")
  id : v.IdIs r.id
  method : v.member? "method" = none
  result : v.member? "result" = r.result
  error : Option.Rel RpcError.WrittenAs r.error (v.member? "error")
  outcome : r.result.isSome ∨ r.error.isSome

namespace Message

/-- The values that a message is read from. -/
def WrittenAs (m : Message) (v : Json) : Prop :=
  match m with
  | .request r => r.WrittenAs v
  | .notification n => n.WrittenAs v
  | .response r => r.WrittenAs v
  | .malformed _ _ => False

/-- The answer to a value that is no message: an error, under the id where the value has one. -/
def Refuses (v : Json) (m : Message) : Prop :=
  ∃ id text, m = invalid id text ∧ ∀ i, id = some i ↔ v.HasId i

theorem refuses_of_idIs {v : Json} {id : Option RequestId} (h : v.IdIs id) (text : String) :
    Refuses v (invalid id text) :=
  ⟨id, text, rfl, fun _ => h.eq_some_iff⟩

variable {members : Members}

theorem readId_eq_ok_iff {id : Option RequestId} :
    readId members = .ok id ↔ (Json.object members).IdIs id := by
  have hmember : (Json.object members).member? "id" = Members.find? "id" members := rfl
  constructor
  · intro h
    unfold readId at h
    split at h
    · rename_i hfind
      cases h
      exact .inl (hmember.trans hfind)
    · rename_i hfind
      cases h
      exact .inr (hmember.trans hfind)
    · rename_i v _ hfind
      split at h
      · rename_i i hi
        cases h
        obtain ⟨rfl, hword⟩ := RequestId.ofJson?_eq_some_iff.mp hi
        exact ⟨hmember.trans hfind, hword⟩
      · cases h
  · intro h
    cases id with
    | none =>
      obtain hfind | hfind := h
      · rw [readId, hmember.symm.trans hfind]
      · rw [readId, hmember.symm.trans hfind]
    | some i =>
      obtain ⟨hfind, hword⟩ := h
      rw [hmember] at hfind
      unfold readId
      split
      · simp_all
      · rename_i hnull
        rw [hfind] at hnull
        exact absurd (Option.some.inj hnull) i.toJson_ne_null
      · rename_i v _ hv
        obtain rfl : v = i.toJson := Option.some.inj (hv.symm.trans hfind)
        rw [RequestId.ofJson?_eq_some_iff.mpr ⟨rfl, hword⟩]

theorem refuses_of_readId {m : Message} (h : readId members = .error m) :
    Refuses (.object members) m := by
  have hnone : ∀ i, ¬ (Json.object members).HasId i := by
    intro i hi
    have hok : readId members = .ok (some i) := readId_eq_ok_iff.mpr hi
    rw [hok] at h
    cases h
  have hm : ∃ text, m = invalid none text := by
    unfold readId at h
    split at h
    · cases h
    · cases h
    · split at h
      · cases h
      · cases h
        exact ⟨_, rfl⟩
  obtain ⟨text, rfl⟩ := hm
  exact ⟨none, text, rfl, fun i => by simp [hnone i]⟩

theorem checkVersion_eq_ok_iff {id : Option RequestId} {u : Unit} :
    checkVersion id members = .ok u ↔
      Members.find? "jsonrpc" members = some (.string "2.0") := by
  unfold checkVersion
  split
  · split_ifs <;> simp_all
  · rename_i h
    simpa using h "2.0"

theorem exists_invalid_of_checkVersion {id : Option RequestId} {m : Message}
    (h : checkVersion id members = .error m) : ∃ text, m = invalid id text := by
  unfold checkVersion at h
  split at h
  · split_ifs at h
    cases h
    exact ⟨_, rfl⟩
  · cases h
    exact ⟨_, rfl⟩

theorem readResponse_eq_ok_iff {id : Option RequestId} {m : Message} :
    readResponse id members = .ok m ↔
      ∃ r, m = .response r ∧ r.id = id ∧ Members.find? "result" members = r.result ∧
        Option.Rel RpcError.WrittenAs r.error (Members.find? "error" members) ∧
        (r.result.isSome ∨ r.error.isSome) := by
  simp only [readResponse]
  constructor
  · intro h
    split at h
    · rename_i herror
      split_ifs at h with hresult
      cases h
      exact ⟨_, rfl, rfl, rfl, herror ▸ .none, .inl hresult⟩
    · rename_i v herror
      split at h
      · rename_i e he
        cases h
        exact ⟨_, rfl, rfl, rfl, herror ▸ .some (RpcError.ofJson?_eq_some_iff.mp he), .inr rfl⟩
      · cases h
  · rintro ⟨⟨_, result, error⟩, rfl, rfl, hresult, hrel, houtcome⟩
    dsimp only at hresult hrel houtcome ⊢
    rw [hresult]
    split
    · rename_i herror
      rw [herror] at hrel
      cases hrel
      have hsome : result.isSome := by simpa using houtcome
      rw [if_pos hsome]
    · rename_i v herror
      rw [herror] at hrel
      cases hrel with
      | some he => rw [RpcError.ofJson?_eq_some_iff.mpr he]

theorem exists_invalid_of_readResponse {id : Option RequestId} {m : Message}
    (h : readResponse id members = .error m) : ∃ text, m = invalid id text := by
  simp only [readResponse] at h
  split at h
  · split_ifs at h
    cases h
    exact ⟨_, rfl⟩
  · split at h
    · cases h
    · cases h
      exact ⟨_, rfl⟩

theorem readMembers_eq_ok_iff {m : Message} :
    readMembers members = .ok m ↔ m.WrittenAs (.object members) := by
  simp only [readMembers, bind_eq_ok_iff, readId_eq_ok_iff, checkVersion_eq_ok_iff]
  constructor
  · rintro ⟨id, hid, _, hversion, h⟩
    split at h
    · rename_i method i hmethod
      cases h
      exact ⟨hversion, hid, hmethod, rfl⟩
    · rename_i method hmethod
      cases h
      exact ⟨hversion, hid, hmethod, rfl⟩
    · cases h
    · rename_i hmethod
      obtain ⟨r, rfl, rfl, hresult, herror, houtcome⟩ := readResponse_eq_ok_iff.mp h
      exact ⟨hversion, hid, hmethod, hresult, herror, houtcome⟩
  · intro h
    cases m with
    | request r =>
      have hmethod : Members.find? "method" members = some (.string r.method) := h.method
      have hparams : Members.find? "params" members = r.params := h.params
      refine ⟨some r.id, h.id, (), h.version, ?_⟩
      rw [hmethod, hparams]
      rfl
    | notification n =>
      have hmethod : Members.find? "method" members = some (.string n.method) := h.method
      have hparams : Members.find? "params" members = n.params := h.params
      refine ⟨none, h.id, (), h.version, ?_⟩
      rw [hmethod, hparams]
      rfl
    | response r =>
      have hmethod : Members.find? "method" members = none := h.method
      refine ⟨r.id, h.id, (), h.version, ?_⟩
      rw [hmethod]
      exact readResponse_eq_ok_iff.mpr ⟨r, rfl, rfl, h.result, h.error, h.outcome⟩
    | malformed id e => exact h.elim

theorem refuses_of_readMembers {m : Message} (h : readMembers members = .error m) :
    Refuses (.object members) m := by
  simp only [readMembers, bind_eq_error_iff, readId_eq_ok_iff] at h
  obtain h | ⟨id, hid, h | ⟨_, -, h⟩⟩ := h
  · exact refuses_of_readId h
  · obtain ⟨text, rfl⟩ := exists_invalid_of_checkVersion h
    exact refuses_of_idIs hid text
  · split at h
    · cases h
    · cases h
    · cases h
      exact refuses_of_idIs hid _
    · obtain ⟨text, rfl⟩ := exists_invalid_of_readResponse h
      exact refuses_of_idIs hid text

theorem ofJson_of_writtenAs {m : Message} {v : Json} (h : m.WrittenAs v) : ofJson v = m := by
  cases v with
  | object members =>
    rw [ofJson, readMembers_eq_ok_iff.mpr h]
  | _ =>
    -- only an object has the version
    exfalso
    cases m with
    | request r => cases h.version
    | notification n => cases h.version
    | response r => cases h.version
    | malformed id e => exact h

theorem ofJson_cases (v : Json) : (ofJson v).WrittenAs v ∨ Refuses v (ofJson v) := by
  cases v with
  | object members =>
    rw [ofJson]
    cases h : readMembers members with
    | ok m => exact .inl (readMembers_eq_ok_iff.mp h)
    | error m => exact .inr (refuses_of_readMembers h)
  | _ => exact .inr ⟨none, _, rfl, fun i => by simp [Json.HasId, Json.member?]⟩

theorem ofJson_eq_iff {m : Message} {v : Json} (hm : ∀ id e, m ≠ .malformed id e) :
    ofJson v = m ↔ m.WrittenAs v := by
  constructor
  · rintro rfl
    obtain h | ⟨id, text, h, -⟩ := ofJson_cases v
    · exact h
    · exact absurd h (hm _ _)
  · exact ofJson_of_writtenAs

def memberNames : List String :=
  ["jsonrpc", "id", "method", "params", "result", "error"]

theorem readMembers_congr {members others : Members}
    (h : ∀ name ∈ memberNames, Members.find? name members = Members.find? name others) :
    readMembers members = readMembers others := by
  simp only [memberNames, List.forall_mem_cons] at h
  obtain ⟨hversion, hid, hmethod, hparams, hresult, herror, -⟩ := h
  have hreadId : readId members = readId others := by
    rw [readId, hid, ← readId]
  have hcheck : ∀ id, checkVersion id members = checkVersion id others := by
    intro id
    rw [checkVersion, hversion, ← checkVersion]
  have hresponse : ∀ id, readResponse id members = readResponse id others := by
    intro id
    rw [readResponse, hresult, herror, ← readResponse]
  simp only [readMembers, hreadId, hcheck, hparams, hmethod, hresponse]

/-- A value is a request, a notification or a response exactly when it is written as one, with the
members taken over as they are, and it is malformed otherwise; then it is refused under its id where
it has one that can be answered. Members with other names make no difference. The message in a
payload is that of the value in it, and there is another error where it holds no value. -/
theorem classification_exact :
    (∀ v : Json,
      (∀ r, ofJson v = .request r ↔ r.WrittenAs v) ∧
      (∀ n, ofJson v = .notification n ↔ n.WrittenAs v) ∧
      (∀ r, ofJson v = .response r ↔ r.WrittenAs v) ∧
      ((∀ m : Message, ¬ m.WrittenAs v) ↔
        ∃ id text, ofJson v = .malformed id ⟨-32600, text, none⟩ ∧
          ∀ i, id = some i ↔ v.HasId i)) ∧
    (∀ members others : Members,
      (∀ name ∈ memberNames, Members.find? name members = Members.find? name others) →
        ofJson (.object members) = ofJson (.object others)) ∧
    ∀ payload : Bytes,
      (∀ v, Json.parse payload = .ok v → ofBytes payload = ofJson v) ∧
      ((∃ text, ofBytes payload = .malformed none ⟨-32700, text, none⟩) ↔
        ∀ v, Json.parse payload ≠ .ok v) := by
  refine ⟨fun v => ⟨fun r => ?_, fun n => ?_, fun r => ?_, ?_⟩, fun members others h => ?_,
    fun payload => ⟨fun v h => ?_, ?_⟩⟩
  · exact ofJson_eq_iff (m := .request r) (by simp)
  · exact ofJson_eq_iff (m := .notification n) (by simp)
  · exact ofJson_eq_iff (m := .response r) (by simp)
  · constructor
    · intro hnone
      obtain h | h := ofJson_cases v
      · exact absurd h (hnone _)
      · exact h
    · rintro ⟨id, text, hv, -⟩ m hm
      rw [ofJson_of_writtenAs hm] at hv
      rw [hv] at hm
      exact hm
  · rw [ofJson, ofJson, readMembers_congr h]
  · rw [ofBytes, h]
  · constructor
    · rintro ⟨text, h⟩ v hv
      rw [ofBytes, hv] at h
      dsimp only at h
      obtain hwritten | ⟨id, other, hrefused, -⟩ := ofJson_cases v
      · rw [h] at hwritten
        exact hwritten
      · rw [h] at hrefused
        cases hrefused
    · intro h
      rw [ofBytes]
      cases hparse : Json.parse payload with
      | ok v => exact absurd hparse (h v)
      | error fault => exact ⟨_, rfl⟩

end Message

end RuleServer
