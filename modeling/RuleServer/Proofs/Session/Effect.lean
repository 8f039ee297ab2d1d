import Mathlib
import RuleServer.Session.Dispatch

/-!
What a message does to a session. Whatever is answered and logged, a message has one effect, and the
context after it is the context before, with the id of a request noted and the effect applied. A
message that calls no method has no effect, and neither has one whose call fails.
-/

namespace RuleServer

namespace Method

theorem ofName?_name (k : Method) : ofName? k.name = some k := by
  obtain k | k := k <;> cases k <;> rfl

theorem ofName?_eq_some_iff {name : String} {k : Method} :
    ofName? name = some k ↔ name = k.name := by
  constructor
  · intro h
    have hname : k.name = name := by simpa using List.find?_some h
    exact hname.symm
  · rintro rfl
    exact ofName?_name k

end Method

namespace Message

/-- The method that a message names, if the server knows it and the message is of its kind. -/
def method? : Message → Option Method
  | .request q =>
    match Method.ofName? q.method with
    | some (.request k) => some (.request k)
    | _ => none
  | .notification n =>
    match Method.ofName? n.method with
    | some (.notification k) => some (.notification k)
    | _ => none
  | _ => none

def params : Message → Json
  | .request q => q.params.getD .null
  | .notification n => n.params.getD .null
  | _ => .null

theorem method?_eq_request_iff {m : Message} {k : RequestMethod} :
    m.method? = some (.request k) ↔ ∃ q, m = .request q ∧ q.method = k.name := by
  cases m with
  | request q =>
    have hname : Method.ofName? q.method = some (.request k) ↔ q.method = k.name :=
      Method.ofName?_eq_some_iff
    simp only [method?, Message.request.injEq, exists_eq_left', ← hname]
    cases Method.ofName? q.method with
    | none => simp
    | some k' => cases k' <;> simp
  | notification n =>
    simp only [method?, reduceCtorEq, false_and, exists_false, iff_false]
    split <;> simp
  | response _ => simp [method?]
  | malformed _ _ => simp [method?]

theorem method?_eq_notification_iff {m : Message} {k : NotificationMethod} :
    m.method? = some (.notification k) ↔ ∃ n, m = .notification n ∧ n.method = k.name := by
  cases m with
  | request q =>
    simp only [method?, reduceCtorEq, false_and, exists_false, iff_false]
    split <;> simp
  | notification n =>
    have hname : Method.ofName? n.method = some (.notification k) ↔ n.method = k.name :=
      Method.ofName?_eq_some_iff
    simp only [method?, Message.notification.injEq, exists_eq_left', ← hname]
    cases Method.ofName? n.method with
    | none => simp
    | some k' => cases k' <;> simp
  | response _ => simp [method?]
  | malformed _ _ => simp [method?]

end Message

/-- What a message can do to a session. -/
inductive Effect
  | nothing
  | start (root : Option Path)
  | shutdown
  | welcome
  | exit
  | configure (config : Members)
  | publish (uri : String) (diagnostics : List Diagnostic)

namespace Effect

def apply (c : Context) : Effect → Context
  | nothing => c
  | start root => { c with root, state := .initialized }
  | shutdown => { c with state := .shutdownRequested }
  | welcome => { c with handshake := true }.notify "window/showMessage" Context.greeting
  | exit => { c with exitCode := some (Context.exitCodeOf c.state), state := .exited }
  | configure config => { c with config }
  | publish uri diagnostics =>
    c.notify Context.publishMethod (Context.publishParams uri diagnostics)

/-- The state that an effect leads to, if it changes the state. -/
def target? : Effect → Option SessionState
  | start _ => some .initialized
  | shutdown => some .shutdownRequested
  | exit => some .exited
  | _ => none

theorem apply_state (e : Effect) (c : Context) : (e.apply c).state = e.target?.getD c.state := by
  cases e <;> rfl

/-- Diagnostics are published where the provider has some to give. -/
def ofDiagnosis (r : Resources) (uri text : String) : Effect :=
  match (r.diagnostics.diagnose uri text).result with
  | .ok diagnostics => publish uri diagnostics
  | .error _ => nothing

theorem ofDiagnosis_target? (r : Resources) (uri text : String) :
    (ofDiagnosis r uri text).target? = none := by
  unfold ofDiagnosis
  split <;> rfl

def ofDocument (r : Resources) : Option (String × String) → Effect
  | some (uri, text) => ofDiagnosis r uri text
  | none => nothing

theorem ofDocument_target? (r : Resources) (document? : Option (String × String)) :
    (ofDocument r document?).target? = none := by
  cases document? with
  | none => rfl
  | some document => exact ofDiagnosis_target? r _ _

end Effect

namespace Context

/-- The document that a call has diagnosed, by its URI and its text. -/
def document? (r : Resources) (c : Context) (v : Json) : Method → Option (String × String)
  | .request .executeCommand =>
    (commandDocument r v).toOption.map fun (uri, _, text) => (uri, text)
  | .notification .didOpen =>
    (OpenedDocument.decode .message v).toOption.map fun document => (document.uri, document.text)
  | .notification .didSave =>
    (SavedDocument.decode .message v).toOption.bind fun document =>
      if c.settings.compileOnSave then
        (savedText r document).toOption.map fun text => (document.uri, text)
      else none
  | _ => none

/-- The effect of a call with its parameters. -/
def callEffect (r : Resources) (c : Context) (v : Json) : Method → Effect
  | .request .start =>
    match workspaceRoot v with
    | .ok root => .start root
    | .error _ => .nothing
  | .request .shutdown => .shutdown
  | .notification .initialized => .welcome
  | .notification .exit => .exit
  | .notification .didChangeConfiguration => .configure (configOf c.settingsKey v)
  | k => .ofDocument r (c.document? r v k)

/-- The method that a message calls: the one that it names, where the state permits it. -/
def call? (c : Context) (m : Message) : Option Method :=
  m.method?.filter (·.precondition.permits c.state)

/-- The context in which a message is handled: the id of a request is noted at once. -/
def note (c : Context) : Message → Context
  | .request q => { c with lastId := some q.id }
  | _ => c

def effect (r : Resources) (c : Context) (m : Message) : Effect :=
  match c.call? m with
  | some k => (c.note m).callEffect r m.params k
  | none => .nothing

/-- The state that a call leads to, if it changes the state; no provider has a say in it. -/
def callTarget? (v : Json) : Method → Option SessionState
  | .request .start => if (workspaceRoot v).isOk then some .initialized else none
  | .request .shutdown => some .shutdownRequested
  | .notification .exit => some .exited
  | _ => none

theorem callEffect_target? (r : Resources) (c : Context) (v : Json) (k : Method) :
    (c.callEffect r v k).target? = callTarget? v k := by
  obtain k | k := k
  · cases k with
    | start =>
      simp only [callEffect, callTarget?]
      cases workspaceRoot v <;> rfl
    | executeCommand => exact Effect.ofDocument_target? r _
    | _ => rfl
  · cases k with
    | didOpen => exact Effect.ofDocument_target? r _
    | didSave => exact Effect.ofDocument_target? r _
    | _ => rfl

@[simp] theorem note_state (c : Context) (m : Message) : (c.note m).state = c.state := by
  cases m <;> rfl

theorem effect_target? (r : Resources) (c : Context) (m : Message) :
    (c.effect r m).target? = (c.call? m).bind (callTarget? m.params) := by
  unfold effect
  cases c.call? m with
  | none => rfl
  | some k => exact callEffect_target? r (c.note m) m.params k

theorem permits_of_call? {c : Context} {m : Message} {k : Method} (h : c.call? m = some k) :
    k.precondition.permits c.state :=
  (Option.filter_eq_some_iff.mp h).2

theorem publish_context (r : Resources) (c : Context) (uri text : String) :
    (c.publish r uri text).context = (Effect.ofDiagnosis r uri text).apply c := by
  simp only [publish]
  split <;> rename_i hreply <;> simp only [Effect.ofDiagnosis, hreply, Effect.apply]

theorem askSymbols_context {α : Type} (c : Context) (decode : Decoder α)
    (ask : α → Reply (Option Json)) (v : Json) : (c.askSymbols decode ask v).context = c := by
  unfold askSymbols
  split <;> rfl

theorem request_context (r : Resources) (c : Context) (k : RequestMethod) (v : Json) :
    (c.request r k v).context = (c.callEffect r v (.request k)).apply c := by
  cases k with
  | start =>
    simp only [request, start, callEffect]
    cases workspaceRoot v <;> rfl
  | shutdown => rfl
  | executeCommand =>
    simp only [request, executeCommand, callEffect, document?]
    cases commandDocument r v with
    | error e => rfl
    | ok document => exact publish_context r c _ _
  | _ => exact askSymbols_context c _ _ v

theorem notification_context (r : Resources) (c : Context) (k : NotificationMethod) (v : Json) :
    (c.notification r k v).context = (c.callEffect r v (.notification k)).apply c := by
  cases k with
  | didOpen =>
    simp only [notification, opened, callEffect, document?]
    cases OpenedDocument.decode .message v with
    | error fault => rfl
    | ok document => exact publish_context r c _ _
  | didSave =>
    simp only [notification, saved, callEffect, document?]
    cases SavedDocument.decode .message v with
    | error fault => rfl
    | ok document =>
      cases c.settings.compileOnSave with
      | false => rfl
      | true =>
        simp only [Except.toOption, Option.bind_some, if_true]
        cases savedText r document with
        | error fault => rfl
        | ok text => exact publish_context r c _ _
  | _ => rfl

theorem answer_cases (r : Resources) (c : Context) (q : Request) :
    (c.call? (.request q) = none ∧ ∃ e, (c.note (.request q)).answer r q.method q.params =
        { context := c.note (.request q), result := .error e }) ∨
      ∃ k, c.call? (.request q) = some (.request k) ∧
        (c.note (.request q)).answer r q.method q.params =
          (c.note (.request q)).request r k (Message.request q).params := by
  simp only [answer, call?, Message.method?]
  cases hname : Method.ofName? q.method with
  | none => exact .inl ⟨rfl, _, rfl⟩
  | some k =>
    cases k with
    | notification k => exact .inl ⟨rfl, _, rfl⟩
    | request k =>
      by_cases hpermits : k.precondition.permits c.state
      · exact .inr ⟨k, if_pos hpermits, if_pos hpermits⟩
      · exact .inl ⟨if_neg hpermits, _, if_neg hpermits⟩

theorem receive_cases (r : Resources) (c : Context) (n : Notification) :
    (c.call? (.notification n) = none ∧ (c.receive r n).context = c ∧
        ((c.receive r n).events = [] ∨ ∃ remark, remark.toList.head? = some 'd' ∧
          (c.receive r n).events = [.debug remark])) ∨
      ∃ k, c.call? (.notification n) = some (.notification k) ∧
        let turn := c.notification r k (Message.notification n).params
        (c.receive r n).context = turn.context ∧
        ((c.receive r n).events = turn.events ∨ ∃ remark, remark.toList.head? = some 'h' ∧
          (c.receive r n).events = turn.events ++ [.warn remark]) := by
  simp only [receive, call?, Message.method?]
  cases hname : Method.ofName? n.method with
  | none =>
    refine .inl ⟨rfl, ?_⟩
    dsimp only
    split_ifs
    · exact ⟨rfl, .inl rfl⟩
    · exact ⟨rfl, .inr ⟨_, by simp, rfl⟩⟩
  | some k =>
    cases k with
    | request k => exact .inl ⟨rfl, rfl, .inr ⟨_, by simp, rfl⟩⟩
    | notification k =>
      by_cases hpermits : k.precondition.permits c.state
      · refine .inr ⟨k, if_pos hpermits, ?_⟩
        simp only [hpermits, if_true]
        split
        · exact ⟨rfl, .inl rfl⟩
        · exact ⟨rfl, .inr ⟨_, by simp, rfl⟩⟩
      · refine .inl ⟨if_neg hpermits, ?_⟩
        simp only [hpermits]
        exact ⟨rfl, .inr ⟨_, by simp, rfl⟩⟩

theorem answerRequest_context (r : Resources) (c : Context) (q : Request) :
    (c.answerRequest r q).context =
      ((c.note (.request q)).answer r q.method q.params).context := by
  unfold answerRequest
  dsimp only
  split <;> rfl

theorem accept_request_result (r : Resources) (c : Context) (q : Request) :
    (c.accept r (.request q)).result =
      some (match ((c.note (.request q)).answer r q.method q.params).result with
        | .ok v => .success q.id v
        | .error e => .failure (some q.id) e) := by
  change some (c.answerRequest r q).result = _
  simp only [answerRequest, note]
  cases (({ c with lastId := some q.id } : Context).answer r q.method q.params).result <;> rfl

/-- A message goes the same way where the handler that it calls does. -/
theorem accept_congr {r r' : Resources} {c : Context} {m : Message}
    (hrequest : ∀ k, c.call? m = some (.request k) →
      (c.note m).request r k m.params = (c.note m).request r' k m.params)
    (hnotification : ∀ k, c.call? m = some (.notification k) →
      c.notification r k m.params = c.notification r' k m.params) :
    c.accept r m = c.accept r' m := by
  cases m with
  | request q =>
    have hanswer : (c.note (.request q)).answer r q.method q.params =
        (c.note (.request q)).answer r' q.method q.params := by
      simp only [answer]
      cases hname : Method.ofName? q.method with
      | none => rfl
      | some k =>
        cases k with
        | notification k => rfl
        | request k =>
          by_cases hpermits : k.precondition.permits c.state
          · have hcall : c.call? (.request q) = some (.request k) := by
              simp [call?, Message.method?, hname, Method.precondition, hpermits]
            simp only [note_state, hpermits, if_true]
            exact hrequest k hcall
          · simp only [note_state, hpermits, Bool.false_eq_true, if_false]
    simp only [note] at hanswer
    simp only [accept, answerRequest, hanswer]
  | notification n =>
    have hreceive : c.receive r n = c.receive r' n := by
      simp only [receive]
      cases hname : Method.ofName? n.method with
      | none => rfl
      | some k =>
        cases k with
        | request k => rfl
        | notification k =>
          by_cases hpermits : k.precondition.permits c.state
          · have hcall : c.call? (.notification n) = some (.notification k) := by
              simp [call?, Message.method?, hname, Method.precondition, hpermits]
            have hsame : c.notification r k (n.params.getD .null) =
                c.notification r' k (n.params.getD .null) := hnotification k hcall
            simp only [hsame]
          · simp only [hpermits, Bool.false_eq_true, if_false]
    simp only [accept, hreceive]
  | response _ => rfl
  | malformed _ _ => rfl

/-- What a message leaves behind is its effect, and the id of a request. -/
theorem accept_context (r : Resources) (c : Context) (m : Message) :
    (c.accept r m).context = (c.effect r m).apply (c.note m) := by
  cases m with
  | request q =>
    refine (answerRequest_context r c q).trans ?_
    obtain ⟨hcall, e, hanswer⟩ | ⟨k, hcall, hanswer⟩ := c.answer_cases r q
    · simp only [hanswer, effect, hcall, Effect.apply]
    · simp only [hanswer, effect, hcall, request_context]
  | notification n =>
    change (c.receive r n).context = _
    obtain ⟨hcall, hcontext, -⟩ | ⟨k, hcall, hcontext, -⟩ := c.receive_cases r n
    · simp only [hcontext, effect, hcall, Effect.apply, note]
    · simp only [hcontext, effect, hcall, notification_context, note]
  | response _ => rfl
  | malformed _ _ => rfl

theorem accept_state (r : Resources) (c : Context) (m : Message) :
    (c.accept r m).context.state = ((c.call? m).bind (callTarget? m.params)).getD c.state := by
  rw [accept_context, Effect.apply_state, effect_target?, note_state]

end Context

end RuleServer
