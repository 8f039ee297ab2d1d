import Mathlib
import RuleServer.Proofs.Protocol.Diagnostic
import RuleServer.Proofs.Session.Diagnosis
import RuleServer.Proofs.Session.Replies
import RuleServer.Proofs.Session.States

/-!
What a session tells its client without being asked. A client that says it is initialized is
greeted, and what the provider of diagnostics has to give is published; each of these notices goes
out with the message that gave rise to it, and there are no others.
-/

namespace RuleServer

open Event (diagnoses)

def Message.isInitialized : Message → Bool
  | .notification n => n.method = "initialized"
  | _ => false

theorem Message.isInitialized_iff {m : Message} :
    m.isInitialized ↔ m.method? = some (.notification .initialized) := by
  rw [method?_eq_notification_iff]
  cases m <;> simp [isInitialized, NotificationMethod.name]

/-- What a session tells its client without being asked. -/
inductive Notice
  | greeting
  | publication (uri : String) (diagnostics : List Diagnostic)

namespace Notice

/-- A client that reads the value learns the notice from it: by the method that the value names, and
by the members of its parameters. -/
def IsShownAs : Notice → Json → Prop
  | greeting, v =>
    v.member? "method" = some (.string "window/showMessage") ∧
      ∃ params, v.member? "params" = some params ∧ params.member? "type" = some (.nat 3) ∧
        params.member? "message" = some (.string "Successfully connected")
  | publication uri diagnostics, v =>
    v.member? "method" = some (.string "textDocument/publishDiagnostics") ∧
      ∃ params items, v.member? "params" = some params ∧
        params.member? "uri" = some (.string uri) ∧
        params.member? "diagnostics" = some (.array items) ∧
        List.Forall₂ Diagnostic.IsShownAs diagnostics items

/-- The notification that the session queues for it. -/
def notification : Notice → Notification
  | greeting =>
    { method := "window/showMessage"
      params := some
        (.ofPairs [("type", .nat 3), ("message", .string "Successfully connected")]) }
  | publication uri diagnostics =>
    { method := "textDocument/publishDiagnostics"
      params := some (.ofPairs [("uri", .string uri),
        ("diagnostics", .array (diagnostics.map Diagnostic.toJson))]) }

theorem isShownAs_notification (n : Notice) : n.IsShownAs n.notification.toJson := by
  cases n with
  | greeting => exact ⟨rfl, _, rfl, rfl, rfl⟩
  | publication uri diagnostics =>
    refine ⟨rfl, _, diagnostics.map Diagnostic.toJson, rfl, by simp [Json.member?_ofPairs],
      by simp [Json.member?_ofPairs], List.forall₂_map_right_iff.mpr ?_⟩
    exact List.forall₂_same.mpr fun d _ => d.isShownAs_toJson

theorem IsShownAs.unique {n n' : Notice} {v : Json} (h : n.IsShownAs v) (h' : n'.IsShownAs v) :
    n = n' := by
  cases n with
  | greeting =>
    cases n' with
    | greeting => rfl
    | publication _ _ => simpa using h.1.symm.trans h'.1
  | publication uri diagnostics =>
    cases n' with
    | greeting => simpa using h.1.symm.trans h'.1
    | publication uri' diagnostics' =>
      obtain ⟨-, params, items, hparams, huri, hitems, hshown⟩ := h
      obtain ⟨-, params', items', hparams', huri', hitems', hshown'⟩ := h'
      obtain rfl := Option.some.inj (hparams.symm.trans hparams')
      obtain rfl : items = items' := by simpa using hitems.symm.trans hitems'
      obtain rfl : uri = uri' := by simpa using huri.symm.trans huri'
      have hunique : Relator.LeftUnique Diagnostic.IsShownAs := fun _ _ _ hd hd' => hd.unique hd'
      obtain rfl := List.left_unique_forall₂' hunique hshown hshown'
      rfl

end Notice

/-- The publication of what a diagnosis gave, unless it failed. -/
def Diagnosis.publication? (d : Diagnosis) : Option Notice :=
  d.result.toOption.map (.publication d.uri)

namespace Effect

def notices : Effect → List Notice
  | welcome => [.greeting]
  | publish uri diagnostics => [.publication uri diagnostics]
  | _ => []

theorem apply_outbox (e : Effect) (c : Context) :
    (e.apply c).outbox = c.outbox ++ e.notices.map Notice.notification := by
  cases e with
  | welcome => rfl
  | publish uri diagnostics => rfl
  | _ => exact (List.append_nil _).symm

theorem ofDocument_notices (r : Resources) (document? : Option (String × String)) :
    (ofDocument r document?).notices =
      (Context.asks r document?).filterMap Diagnosis.publication? := by
  obtain _ | ⟨uri, text⟩ := document?
  · rfl
  · simp only [ofDocument, ofDiagnosis, Context.asks, Diagnosis.ask, Diagnosis.publication?,
      Option.map_some, Option.toList_some, List.filterMap_cons]
    cases (r.diagnostics.diagnose uri text).result <;> rfl

end Effect

theorem Exchange.filter_not_isResponse (e : Exchange) :
    e.values.filter (fun v => !Response.isResponse v) = e.notifications.map Notification.toJson := by
  have hresponse : (e.response.map Response.toJson).toList.filter
      (fun v => !Response.isResponse v) = [] := by
    cases e.response <;> simp [Response.isResponse_toJson]
  have hnotifications : ∀ v ∈ e.notifications.map Notification.toJson,
      !Response.isResponse v := by
    simp [Notification.isResponse_toJson]
  rw [values, List.filter_append, hresponse, List.filter_eq_self.mpr hnotifications,
    List.nil_append]

namespace Context

variable {r : Resources} {c : Context}

theorem callEffect_notices (v : Json) (k : Method) :
    (c.callEffect r v k).notices =
      (if k = .notification .initialized then [.greeting] else []) ++
        (asks r (c.document? r v k)).filterMap Diagnosis.publication? := by
  obtain k | k := k
  · cases k with
    | start =>
      simp only [callEffect]
      cases workspaceRoot v <;> rfl
    | executeCommand => exact Effect.ofDocument_notices r _
    | _ => rfl
  · cases k with
    | didOpen => exact Effect.ofDocument_notices r _
    | didSave => exact Effect.ofDocument_notices r _
    | _ => rfl

theorem accept_outbox (m : Message) :
    (c.accept r m).context.outbox = c.outbox ++ List.map Notice.notification
      ((if c.state = .initialized ∧ m.isInitialized then [.greeting] else []) ++
        (diagnoses (c.accept r m).events).filterMap Diagnosis.publication?) := by
  have hnote : (c.note m).outbox = c.outbox := by cases m <;> rfl
  have hgreets : c.call? m = some (.notification .initialized) ↔
      c.state = .initialized ∧ m.isInitialized := by
    rw [call?_eq_some_iff rfl, Message.isInitialized_iff]
  rw [accept_context, Effect.apply_outbox, hnote, accept_diagnoses, asked?, effect]
  simp only [← hgreets]
  cases c.call? m with
  | none => rfl
  | some k => simp only [callEffect_notices, Option.some.injEq, Option.bind_some]

end Context

namespace Visit

def diagnoses (v : Visit) : List Diagnosis :=
  Event.diagnoses v.done.events

/-- The notices that are due because of the message. -/
def notices (v : Visit) : List Notice :=
  (if v.session.context.state = .initialized ∧ v.message.isInitialized then [.greeting] else []) ++
    v.diagnoses.filterMap Diagnosis.publication?

theorem exchange_notifications (v : Visit) (h : v.session.context.outbox = []) :
    v.exchange.notifications = v.notices.map Notice.notification := by
  rw [exchange, Context.accept_outbox, h, List.nil_append, notices, diagnoses, done,
    Session.handle_events]

/-- The message is about a document that is to be diagnosed, and comes at the right time. -/
def Asks (v : Visit) (uri text : String) : Prop :=
  v.session.context.state = .initialized ∧ v.session.context.Wants v.resources v.message uri text

theorem diagnoses_eq (v : Visit) :
    v.diagnoses =
      Context.asks v.resources (v.session.context.asked? v.resources v.message) := by
  rw [diagnoses, done, Session.handle_events, Context.accept_diagnoses]

theorem asked?_eq_some_iff (v : Visit) {uri text : String} :
    v.session.context.asked? v.resources v.message = some (uri, text) ↔ v.Asks uri text :=
  Context.asked?_eq_some_iff

theorem diagnoses_cases (v : Visit) :
    (v.diagnoses = [] ∧ ∀ uri text, ¬ v.Asks uri text) ∨
      ∃ uri text, v.Asks uri text ∧ v.diagnoses = [.ask v.resources uri text] := by
  rw [diagnoses_eq]
  cases hasked : v.session.context.asked? v.resources v.message with
  | none =>
    refine .inl ⟨rfl, fun uri text hasks => ?_⟩
    rw [v.asked?_eq_some_iff.mpr hasks] at hasked
    simp at hasked
  | some document => exact .inr ⟨_, _, v.asked?_eq_some_iff.mp hasked, rfl⟩

theorem handle_of_agrees (v : Visit) {p : DiagnosticsProvider}
    (h : ∀ uri text, v.Asks uri text →
      p.diagnose uri text = v.resources.diagnostics.diagnose uri text) :
    v.session.handle { v.resources with diagnostics := p } v.message = v.done := by
  have hagrees : Context.Agrees v.resources p
      (v.session.context.asked? v.resources v.message) :=
    fun uri text hasked => h uri text (v.asked?_eq_some_iff.mp hasked)
  simp only [done, Session.handle, Context.accept_of_agrees hagrees]

end Visit

namespace Session

theorem outbox_of_mem_visits {x : Session} (h : x.wire.Open) (houtbox : x.context.outbox = [])
    {occasions : List Occasion} {v : Visit} (hv : v ∈ x.visits occasions) :
    v.session.context.outbox = [] := by
  obtain ⟨k, hk⟩ := List.mem_iff_getElem?.mp hv
  rw [visits_getElem?, Option.map_eq_some_iff] at hk
  obtain ⟨o, -, rfl⟩ := hk
  exact (attend_open h houtbox (occasions.take k)).1

/-- Among the values that a fresh session writes, those that are no responses are the notices of its
messages in turn. -/
theorem filter_values_visits (settingsKey : String) (occasions : List Occasion) :
    (((fresh settingsKey).visits occasions).flatMap fun v => v.exchange.values).filter
        (fun value => !Response.isResponse value) =
      (((fresh settingsKey).visits occasions).flatMap Visit.notices).map
        fun n => n.notification.toJson := by
  rw [List.filter_flatMap, List.map_flatMap]
  refine List.flatMap_congr fun v hv => ?_
  have houtbox := outbox_of_mem_visits (fresh_open settingsKey) rfl hv
  rw [Exchange.filter_not_isResponse, v.exchange_notifications houtbox, List.map_map]
  rfl

/-- Messages that a fresh session handles one after another have it write their responses and the
notices that are due because of them, in the order of the messages: a greeting for each client's word
that it is initialized, if that comes in time, and a publication for each diagnosis that gives
something. A client can tell from each value which notice it is, and for which document and
diagnostics. A message asks for one diagnosis, of the document that it is about, or for none, and
what the provider would say about anything else makes no difference. -/
theorem notifications_accounted (settingsKey : String) (occasions : List Occasion) :
    let x := fresh settingsKey
    let visits := x.visits occasions
    let values := visits.flatMap fun v => v.exchange.values
    Frame.Carries (x.attend occasions).wire.written values ∧
    List.Forall₂ Notice.IsShownAs (visits.flatMap Visit.notices)
      (values.filter fun value => !Response.isResponse value) ∧
    (∀ (n n' : Notice) (value : Json), n.IsShownAs value → n'.IsShownAs value → n = n') ∧
    ∀ v : Visit,
      ((v.diagnoses = [] ∧ ∀ uri text, ¬ v.Asks uri text) ∨
        ∃ uri text, v.Asks uri text ∧ v.diagnoses = [.ask v.resources uri text]) ∧
      ∀ p : DiagnosticsProvider,
        (∀ uri text, v.Asks uri text →
          p.diagnose uri text = v.resources.diagnostics.diagnose uri text) →
        v.session.handle { v.resources with diagnostics := p } v.message = v.done := by
  intro x visits values
  refine ⟨carries_attend settingsKey occasions, ?_, fun _ _ _ => Notice.IsShownAs.unique,
    fun v => ⟨v.diagnoses_cases, fun p => v.handle_of_agrees⟩⟩
  rw [show values.filter _ = _ from filter_values_visits settingsKey occasions]
  exact List.forall₂_map_right_iff.mpr (List.forall₂_same.mpr fun n _ => n.isShownAs_notification)

end Session

end RuleServer
