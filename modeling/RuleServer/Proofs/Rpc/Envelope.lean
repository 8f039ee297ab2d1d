import Mathlib
import RuleServer.Proofs.Rpc.Classification
import RuleServer.Proofs.Rpc.RoundTrip

/-!
Messages as they are sent. A peer that reads what was written for a request, a notification or a
response gets the same message back, also where a result or parameters are null, where there is no
id and where members are left out.
-/

namespace RuleServer

/-- A value as it stands in a message: its numbers are integers of 64 bits, and the members of its
objects are in order. -/
structure Json.Carried (v : Json) : Prop where
  exact : v.Exact
  inOrder : v.InOrder

theorem Json.Carried.arrange_eq {v : Json} (h : v.Carried) : v.arrange = v :=
  arrange_of_inOrder h.inOrder

theorem map_arrange_of_carried {value : Option Json} (h : ∀ v ∈ value, v.Carried) :
    value.map Json.arrange = value := by
  cases value with
  | none => rfl
  | some v => rw [Option.map_some, (h v rfl).arrange_eq]

theorem mem_optionalMember {name : String} {value : Option Json} {p : String × Json} :
    p ∈ optionalMember name value ↔ ∃ v ∈ value, p = (name, v) := by
  cases value <;> simp [optionalMember]

theorem find?_optionalMember (name wanted : String) (value : Option Json) :
    Members.find? wanted (optionalMember name value) = if name = wanted then value else none := by
  cases value <;> simp [optionalMember, Members.find?]

theorem Json.exact_int {bits : Nat} (hbits : bits ≤ 64) {i : Int} (h : FitsSigned bits i) :
    (Json.int i).Exact := by
  have hhalf : twoTo (bits - 1) ≤ twoTo 63 := Nat.pow_le_pow_right (by decide) (by omega)
  have h64 : twoTo 63 ≤ twoTo 64 := by decide
  simp only [FitsSigned] at h
  simp only [Exact, int, All, numberIsWord, JsonNumber.IsWord]
  omega

namespace RequestId

theorem exact_toJson {id : RequestId} (h : id.IsWord) : id.toJson.Exact := by
  cases id with
  | number i => exact Json.exact_int (by decide) h
  | text s => exact Json.exact_string s

theorem arrange_toJson (id : RequestId) : id.toJson.arrange = id.toJson := by
  cases id <;> rfl

end RequestId

namespace Request

theorem member?_arrange (r : Request) (name : String) :
    r.toJson.arrange.member? name = (r.toJson.member? name).map Json.arrange := by
  refine Json.member?_arrange ?_ name
  cases r.params <;> simp [optionalMember]

theorem writtenAs_arrange {r : Request} (hid : r.id.IsWord)
    (hparams : ∀ v ∈ r.params, v.Carried) : r.WrittenAs r.toJson.arrange where
  version := member?_arrange r "jsonrpc"
  id := ⟨(member?_arrange r "id").trans (congrArg some r.id.arrange_toJson), hid⟩
  method := member?_arrange r "method"
  params := by
    rw [member?_arrange]
    simp [toJson, Json.member?, Members.find?, find?_optionalMember,
      map_arrange_of_carried hparams]

end Request

namespace Notification

theorem member?_arrange (n : Notification) (name : String) :
    n.toJson.arrange.member? name = (n.toJson.member? name).map Json.arrange := by
  refine Json.member?_arrange ?_ name
  cases n.params <;> simp [optionalMember]

theorem writtenAs_arrange {n : Notification} (hparams : ∀ v ∈ n.params, v.Carried) :
    n.WrittenAs n.toJson.arrange where
  version := member?_arrange n "jsonrpc"
  id := by
    left
    rw [member?_arrange]
    simp [toJson, Json.member?, Members.find?, find?_optionalMember]
  method := member?_arrange n "method"
  params := by
    rw [member?_arrange]
    simp [toJson, Json.member?, Members.find?, find?_optionalMember,
      map_arrange_of_carried hparams]

end Notification

theorem RpcError.writtenAs_arrange {code : Int} {message : String} (hcode : FitsSigned 32 code) :
    (RpcError.mk code message none).WrittenAs (RpcError.mk code message none).toJson.arrange := by
  have hinOrder : (RpcError.mk code message none).toJson.InOrder := by
    have hnames : ["code", "message"].Pairwise (· < ·) := by decide
    exact ⟨hnames, trivial, trivial, trivial⟩
  rw [Json.arrange_of_inOrder hinOrder]
  refine .object rfl rfl rfl (fun v hv => ⟨code, ?_, hcode⟩) (fun v hv => ⟨message, ?_⟩)
  · simpa using hv
  · simpa using hv

namespace Response

theorem exact_idJson {id : Option RequestId} (h : ∀ i ∈ id, i.IsWord) : (idJson id).Exact := by
  cases id with
  | none => exact trivial
  | some i => exact i.exact_toJson (h i rfl)

theorem member?_arrange (r : Response) (name : String) :
    r.toJson.arrange.member? name = (r.toJson.member? name).map Json.arrange := by
  refine Json.member?_arrange ?_ name
  cases r.result <;> cases r.error <;> simp [optionalMember]

theorem writtenAs_arrange {r : Response} (hid : ∀ i ∈ r.id, i.IsWord)
    (hresult : ∀ v ∈ r.result, v.Carried)
    (herror : ∀ e ∈ r.error, e.WrittenAs e.toJson.arrange)
    (houtcome : r.result.isSome ∨ r.error.isSome) : r.WrittenAs r.toJson.arrange where
  version := member?_arrange r "jsonrpc"
  id := by
    have hmember : r.toJson.arrange.member? "id" = some (idJson r.id).arrange :=
      member?_arrange r "id"
    cases hr : r.id with
    | none =>
      rw [hr] at hmember
      exact .inr hmember
    | some i =>
      rw [hr] at hmember
      exact ⟨hmember.trans (congrArg some i.arrange_toJson), hid i hr⟩
  method := by
    rw [member?_arrange]
    simp [toJson, Json.member?, Members.find?, find?_optionalMember, Members.find?_append]
  result := by
    rw [member?_arrange]
    simp [toJson, Json.member?, Members.find?, find?_optionalMember, Members.find?_append,
      map_arrange_of_carried hresult]
  error := by
    have hmember : r.toJson.arrange.member? "error" =
        (r.error.map RpcError.toJson).map Json.arrange := by
      rw [member?_arrange]
      simp [toJson, Json.member?, Members.find?, find?_optionalMember, Members.find?_append]
    rw [hmember]
    cases hr : r.error with
    | none => exact .none
    | some e => exact .some (herror e hr)
  outcome := houtcome

end Response

namespace Message

/-- The messages that are sent, with the values that they are written as: a response with a result
or with an error that has no data, a notification with parameters, and a request with or without. -/
inductive Sent : Message → Json → Prop
  | success {id : RequestId} {result : Json} (hid : id.IsWord) (hresult : result.Carried) :
    Sent (.response (.success id result)) (Response.success id result).toJson
  | failure {id : Option RequestId} {code : Int} {message : String} (hid : ∀ i ∈ id, i.IsWord)
    (hcode : FitsSigned 32 code) :
    Sent (.response (.failure id ⟨code, message, none⟩))
      (Response.failure id ⟨code, message, none⟩).toJson
  | notification {method : String} {params : Json} (hparams : params.Carried) :
    Sent (.notification ⟨method, some params⟩) (Notification.mk method (some params)).toJson
  | request {r : Request} (hid : r.id.IsWord) (hparams : ∀ v ∈ r.params, v.Carried) :
    Sent (.request r) r.toJson

theorem Sent.exact {m : Message} {v : Json} (h : Sent m v) : v.Exact := by
  cases h with
  | success hid hresult =>
    simp [Response.success, Response.toJson, Response.idJson, version, optionalMember,
      Json.exact_object_iff, RequestId.exact_toJson hid, hresult.exact]
  | @failure id code message hid hcode =>
    have hcode : (Json.int code).Exact := Json.exact_int (by decide) hcode
    simp [Response.failure, Response.toJson, RpcError.toJson, version, optionalMember,
      Json.exact_object_iff, Response.exact_idJson hid, hcode]
  | notification hparams =>
    simp [Notification.toJson, version, optionalMember, Json.exact_object_iff, hparams.exact]
  | @request r hid hparams =>
    have hparams : ∀ p ∈ optionalMember "params" r.params, p.2.Exact := by
      intro p hp
      obtain ⟨v, hv, rfl⟩ := mem_optionalMember.mp hp
      exact (hparams v hv).exact
    simpa [Request.toJson, version, Json.exact_object_iff, RequestId.exact_toJson hid] using hparams

theorem Sent.writtenAs {m : Message} {v : Json} (h : Sent m v) : m.WrittenAs v.arrange := by
  cases h with
  | success hid hresult =>
    refine Response.writtenAs_arrange ?_ ?_ ?_ (.inl rfl)
    · simpa [Response.success] using hid
    · simpa [Response.success] using hresult
    · simp [Response.success]
  | failure hid hcode =>
    refine Response.writtenAs_arrange hid ?_ ?_ (.inr rfl)
    · simp [Response.failure]
    · simpa [Response.failure] using RpcError.writtenAs_arrange hcode
  | notification hparams => exact Notification.writtenAs_arrange (by simpa using hparams)
  | request hid hparams => exact Request.writtenAs_arrange hid hparams

/-- A message that was sent is read back as it was, unless it nests deeper than a reader goes. -/
theorem sent_message_read_back {m : Message} {v : Json} (h : Sent m v) (hdepth : v.depth ≤ 127) :
    ofBytes (Utf8.encode v.render) = m := by
  rw [ofBytes_render h.exact (Nat.lt_succ_of_le hdepth)]
  exact ofJson_of_writtenAs h.writtenAs

/-- An error under no id, and a request whose parameters are null, with the least code and the least
id. -/
theorem sent_message_read_back_null :
    let response := Response.failure none ⟨-2147483648, "\"\\\né", none⟩
    let request : Request := ⟨.number (-9223372036854775808), "", some .null⟩
    (Sent (.response response) response.toJson ∧ response.toJson.depth ≤ 127 ∧
        ofBytes (Utf8.encode response.toJson.render) = .response response) ∧
      Sent (.request request) request.toJson ∧ request.toJson.depth ≤ 127 ∧
        ofBytes (Utf8.encode request.toJson.render) = .request request := by
  intro response request
  have hresponse : Sent (.response response) response.toJson := .failure (by simp) (by decide)
  have hnull : Json.null.Carried := ⟨trivial, trivial⟩
  have hid : request.id.IsWord := by
    change FitsSigned 64 _
    decide
  have hrequest : Sent (.request request) request.toJson :=
    .request hid (by simpa [request] using hnull)
  have hshallow : response.toJson.depth ≤ 127 ∧ request.toJson.depth ≤ 127 := by decide
  exact ⟨⟨hresponse, hshallow.1, sent_message_read_back hresponse hshallow.1⟩, hrequest,
    hshallow.2, sent_message_read_back hrequest hshallow.2⟩

end Message

end RuleServer
