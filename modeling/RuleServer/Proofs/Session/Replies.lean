import Mathlib
import RuleServer.Proofs.Rpc.RoundTrip
import RuleServer.Proofs.Session.History

/-!
Who is answered, and in which order. Every message that waits for a response gets exactly one, no
other message gets any, and the notifications that a message gives rise to come after its response
and before whatever the next message causes.
-/

namespace RuleServer

namespace Message

/-- The id of the response that a message waits for. -/
def replyId? : Message → Option (Option RequestId)
  | .request q => some (some q.id)
  | .malformed id _ => some id
  | .notification _ => none
  | .response _ => none

end Message

namespace Response

/-- A value that goes to the client is a response when it names no method. -/
def isResponse (v : Json) : Bool :=
  (v.member? "method").isNone

/-- A response under the given id, which is null when there is none, with either a result or an
error. -/
structure AnswersTo (id : Option RequestId) (v : Json) : Prop where
  idMember : v.member? "id" = some (idJson id)
  null_iff : v.member? "id" = some .null ↔ id = none
  oneOutcome : (v.member? "result").isSome ↔ ¬ (v.member? "error").isSome

theorem isResponse_toJson (response : Response) : isResponse response.toJson = true := by
  obtain ⟨id, result, error⟩ := response
  cases result <;> cases error <;>
    simp [isResponse, toJson, Json.member?, Members.find?, optionalMember]

theorem idJson_eq_null {id : Option RequestId} : idJson id = .null ↔ id = none := by
  obtain _ | id := id
  · simp [idJson]
  · cases id <;> simp [idJson, RequestId.toJson, Json.int]

theorem answersTo_success (id : RequestId) (result : Json) :
    AnswersTo (some id) (success id result).toJson where
  idMember := by simp [success, toJson, Json.member?, Members.find?]
  null_iff := by simp [success, toJson, Json.member?, Members.find?, idJson_eq_null]
  oneOutcome := by simp [success, toJson, Json.member?, Members.find?, optionalMember]

theorem answersTo_failure (id : Option RequestId) (error : RpcError) :
    AnswersTo id (failure id error).toJson where
  idMember := by simp [failure, toJson, Json.member?, Members.find?]
  null_iff := by simp [failure, toJson, Json.member?, Members.find?, idJson_eq_null]
  oneOutcome := by simp [failure, toJson, Json.member?, Members.find?, optionalMember]

end Response

theorem Notification.isResponse_toJson (n : Notification) :
    Response.isResponse n.toJson = false := by
  simp [Response.isResponse, toJson, Json.member?, Members.find?]

namespace Exchange

/-- Among the values of an exchange, the responses are those that the message waits for. -/
def Answers (e : Exchange) (message : Message) : Prop :=
  List.Forall₂ Response.AnswersTo message.replyId?.toList (e.values.filter Response.isResponse)

theorem filter_values (e : Exchange) :
    e.values.filter Response.isResponse = (e.response.map Response.toJson).toList := by
  have hresponse : ∀ v ∈ (e.response.map Response.toJson).toList, Response.isResponse v := by
    intro v hv
    simp only [Option.mem_toList, Option.map_eq_some_iff] at hv
    obtain ⟨response, -, rfl⟩ := hv
    exact response.isResponse_toJson
  have hnotifications : ∀ v ∈ e.notifications.map Notification.toJson,
      ¬ Response.isResponse v := by
    intro v hv
    obtain ⟨n, -, rfl⟩ := List.mem_map.mp hv
    simp [n.isResponse_toJson]
  rw [values, List.filter_append, List.filter_eq_self.mpr hresponse,
    List.filter_eq_nil_iff.mpr hnotifications, List.append_nil]

end Exchange

namespace Context

theorem answersTo_answerRequest (r : Resources) (c : Context) (q : Request) :
    Response.AnswersTo (some q.id) (c.answerRequest r q).result.toJson := by
  unfold answerRequest
  dsimp only
  split
  · exact Response.answersTo_success _ _
  · exact Response.answersTo_failure _ _

end Context

theorem Visit.exchange_answers (v : Visit) : v.exchange.Answers v.message := by
  obtain ⟨⟨r, message⟩, x⟩ := v
  rw [Exchange.Answers, Exchange.filter_values]
  cases message with
  | request q => exact .cons (Context.answersTo_answerRequest r x.context q) .nil
  | notification n => exact .nil
  | response _ => exact .nil
  | malformed id e => exact .cons (Response.answersTo_failure id e) .nil

theorem Session.visits_answer (x : Session) (occasions : List Occasion) :
    List.Forall₂ Exchange.Answers ((x.visits occasions).map Visit.exchange)
      (occasions.map Occasion.message) := by
  induction occasions generalizing x with
  | nil => exact .nil
  | cons o occasions ih => exact .cons (Visit.exchange_answers ⟨o, x⟩) (ih _)

theorem Exchange.answers_flatMap {exchanges : List Exchange} {messages : List Message}
    (h : List.Forall₂ Answers exchanges messages) :
    List.Forall₂ Response.AnswersTo (messages.filterMap Message.replyId?)
      ((exchanges.flatMap values).filter Response.isResponse) := by
  induction h with
  | nil => exact .nil
  | @cons e message exchanges messages hhead _ ih =>
    have hids : (message :: messages).filterMap Message.replyId? =
        message.replyId?.toList ++ messages.filterMap Message.replyId? := by
      cases hm : message.replyId? <;> simp [hm]
    rw [hids, List.flatMap_cons, List.filter_append]
    exact List.rel_append hhead ih

namespace Session

theorem carries_attend (settingsKey : String) (occasions : List Occasion) :
    Frame.Carries ((fresh settingsKey).attend occasions).wire.written
      (((fresh settingsKey).visits occasions).flatMap fun v => v.exchange.values) := by
  rw [(attend_open (fresh_open settingsKey) rfl occasions).2.2]
  exact Frame.carries_ofJson _

/-- Messages that a fresh session handles one after another, each with the providers and the files
of its time, are answered in their order, each that waits for a response exactly once. What message
`k` causes is written at once, its response first, and nothing stays queued; a client finds in what
was written the values of all the exchanges so far, and nothing else. -/
theorem replies_in_order (settingsKey : String) (occasions : List Occasion) :
    let x := fresh settingsKey
    let messages := occasions.map Occasion.message
    let exchanges := (x.visits occasions).map Visit.exchange
    List.Forall₂ Exchange.Answers exchanges messages ∧
    List.Forall₂ Response.AnswersTo (messages.filterMap Message.replyId?)
      ((exchanges.flatMap Exchange.values).filter Response.isResponse) ∧
    ∀ k,
      let y := x.attend (occasions.take k)
      y.context.outbox = [] ∧
      Frame.Carries y.wire.written ((exchanges.take k).flatMap Exchange.values) ∧
      (∀ o, occasions[k]? = some o →
        (y.handle o.resources o.message).result = .ok () ∧
        exchanges[k]? = some ⟨(y.context.accept o.resources o.message).result,
          (y.context.accept o.resources o.message).context.outbox⟩) := by
  intro x messages exchanges
  have hanswers : List.Forall₂ Exchange.Answers exchanges messages := x.visits_answer occasions
  refine ⟨hanswers, Exchange.answers_flatMap hanswers, fun k => ?_⟩
  obtain ⟨houtbox, hopen, -⟩ := attend_open (fresh_open settingsKey) rfl (occasions.take k)
  refine ⟨houtbox, ?_, fun o ho => ⟨(Visit.done_open ⟨o, _⟩ hopen).1, ?_⟩⟩
  · rw [← List.map_take, ← visits_take, List.flatMap_map]
    exact carries_attend settingsKey _
  · simp only [exchanges, List.getElem?_map, visits_getElem?, ho, Option.map_some]
    rfl

end Session

end RuleServer
