import Mathlib
import RuleServer.Proofs.Session.Effect
import RuleServer.Proofs.Session.History

/-!
The state of a session, as its messages decide it. No provider and no file has a say in it: what
counts is which messages ask to start, to shut down and to exit, and in which order.
-/

namespace RuleServer

namespace Context

theorem workspaceRoot_isOk (v : Json) : (workspaceRoot v).isOk =
    ((v.member? "rootUri").bind Json.string?).all fun uri => (localFile uri).isOk := by
  unfold workspaceRoot
  cases (v.member? "rootUri").bind Json.string? with
  | none => rfl
  | some uri =>
    simp only [Option.all_some]
    cases localFile uri <;> rfl

end Context

namespace Message

def isExit : Message → Bool
  | .notification n => n.method = "exit"
  | _ => false

def isShutdown : Message → Bool
  | .request q => q.method = "shutdown"
  | _ => false

/-- A request to start that names no workspace folder by its URI, or one that is a local file. -/
def opens : Message → Bool
  | .request q =>
    q.method = "initialize" &&
      (((q.params.getD .null).member? "rootUri").bind Json.string?).all fun uri =>
        (localFile uri).isOk
  | _ => false

theorem isExit_iff {m : Message} : m.isExit ↔ m.method? = some (.notification .exit) := by
  rw [method?_eq_notification_iff]
  cases m <;> simp [isExit, NotificationMethod.name]

theorem isShutdown_iff {m : Message} : m.isShutdown ↔ m.method? = some (.request .shutdown) := by
  rw [method?_eq_request_iff]
  cases m <;> simp [isShutdown, RequestMethod.name]

theorem opens_iff {m : Message} :
    m.opens ↔ m.method? = some (.request .start) ∧ (Context.workspaceRoot m.params).isOk := by
  rw [method?_eq_request_iff]
  cases m with
  | request q => simp [opens, RequestMethod.name, params, Context.workspaceRoot_isOk]
  | _ => simp [opens]

end Message

namespace SessionState

/-- The state after a message, as the message alone decides it. -/
def next (s : SessionState) (m : Message) : SessionState :=
  if m.isExit then exited
  else match s with
    | uninitialized => if m.opens then initialized else uninitialized
    | initialized => if m.isShutdown then shutdownRequested else initialized
    | s => s

end SessionState

namespace Context

theorem accept_state_eq_next (r : Resources) (c : Context) (m : Message) :
    (c.accept r m).context.state = c.state.next m := by
  simp only [accept_state, call?, SessionState.next, Message.isExit_iff, Message.isShutdown_iff,
    Message.opens_iff]
  cases m.method? with
  | none => cases c.state <;> rfl
  | some k =>
    obtain k | k := k
    · cases k with
      | start =>
        simp only [true_and]
        cases c.state with
        | uninitialized =>
          change (if (workspaceRoot m.params).isOk then some SessionState.initialized else none).getD
            .uninitialized = if (workspaceRoot m.params).isOk then .initialized else .uninitialized
          split_ifs <;> rfl
        | _ => rfl
      | _ => cases c.state <;> rfl
    · cases k <;> cases c.state <;> rfl

end Context

namespace SessionState

def after (s : SessionState) (messages : List Message) : SessionState :=
  messages.foldl next s

@[simp] theorem after_nil (s : SessionState) : s.after [] = s := rfl

@[simp] theorem after_cons (s : SessionState) (m : Message) (messages : List Message) :
    s.after (m :: messages) = (s.next m).after messages := rfl

theorem next_exited (m : Message) : exited.next m = exited := by
  simp [next]

theorem next_of_isExit {m : Message} (h : m.isExit) (s : SessionState) : s.next m = exited := by
  simp [next, h]

theorem next_eq_exited_iff {s : SessionState} (h : s ≠ exited) {m : Message} :
    s.next m = exited ↔ m.isExit := by
  by_cases hexit : m.isExit
  · simp [next_of_isExit hexit, hexit]
  · cases s with
    | uninitialized => by_cases hopens : m.opens <;> simp [next, hexit, hopens]
    | initialized => by_cases hshutdown : m.isShutdown <;> simp [next, hexit, hshutdown]
    | shutdownRequested => simp [next, hexit]
    | exited => exact absurd rfl h

theorem after_ne_exited {s : SessionState} (h : s ≠ exited) {messages : List Message}
    (hno : ∀ m ∈ messages, ¬ m.isExit) : s.after messages ≠ exited := by
  induction messages generalizing s with
  | nil => exact h
  | cons m messages ih =>
    obtain ⟨hm, hmessages⟩ := List.forall_mem_cons.mp hno
    exact ih (mt (next_eq_exited_iff h).mp hm) hmessages

theorem after_shutdownRequested {messages : List Message} (hno : ∀ m ∈ messages, ¬ m.isExit) :
    shutdownRequested.after messages = shutdownRequested := by
  induction messages with
  | nil => rfl
  | cons m messages ih =>
    obtain ⟨hm, hmessages⟩ := List.forall_mem_cons.mp hno
    simpa [next, hm] using ih hmessages

theorem after_initialized_iff {messages : List Message} (hno : ∀ m ∈ messages, ¬ m.isExit) :
    initialized.after messages = shutdownRequested ↔ messages.any Message.isShutdown := by
  induction messages with
  | nil => simp
  | cons m messages ih =>
    obtain ⟨hm, hmessages⟩ := List.forall_mem_cons.mp hno
    by_cases hshutdown : m.isShutdown
    · simp [next, hm, hshutdown, after_shutdownRequested hmessages]
    · simpa [next, hm, hshutdown] using ih hmessages

/-- Without an exit, a session has been asked to shut down exactly when a request to start was
granted, and later one to shut down. -/
theorem after_uninitialized_iff {messages : List Message} (hno : ∀ m ∈ messages, ¬ m.isExit) :
    uninitialized.after messages = shutdownRequested ↔
      ∃ i j : Nat, i < j ∧ messages[i]?.any Message.opens ∧
        messages[j]?.any Message.isShutdown := by
  induction messages with
  | nil => simp
  | cons m messages ih =>
    obtain ⟨hm, hmessages⟩ := List.forall_mem_cons.mp hno
    by_cases hopens : m.opens
    · have hnext : uninitialized.next m = initialized := by simp [next, hm, hopens]
      rw [after_cons, hnext, after_initialized_iff hmessages]
      constructor
      · intro hany
        obtain ⟨m', hmem, hshutdown⟩ := List.any_eq_true.mp hany
        obtain ⟨j, hj⟩ := List.mem_iff_getElem?.mp hmem
        exact ⟨0, j + 1, Nat.succ_pos j, by simpa using hopens, by simpa [hj] using hshutdown⟩
      · rintro ⟨i, j, hij, -, hshutdown⟩
        obtain ⟨j, rfl⟩ : ∃ j', j = j' + 1 := ⟨j - 1, by omega⟩
        obtain ⟨m', hj, hshutdown⟩ := (Option.any_eq_true _ _).mp hshutdown
        exact List.any_eq_true.mpr ⟨m', List.mem_of_getElem? hj, hshutdown⟩
    · have hnext : uninitialized.next m = uninitialized := by simp [next, hm, hopens]
      rw [after_cons, hnext, ih hmessages]
      constructor
      · rintro ⟨i, j, hij, hfirst, hsecond⟩
        exact ⟨i + 1, j + 1, Nat.succ_lt_succ hij, hfirst, hsecond⟩
      · rintro ⟨i, j, hij, hfirst, hsecond⟩
        obtain ⟨j, rfl⟩ : ∃ j', j = j' + 1 := ⟨j - 1, by omega⟩
        cases i with
        | zero => exact absurd (by simpa using hfirst) hopens
        | succ i => exact ⟨i, j, Nat.lt_of_succ_lt_succ hij, hfirst, hsecond⟩

end SessionState

theorem Effect.apply_exitCode (e : Effect) (c : Context) : (e.apply c).exitCode =
    if e.target? = some .exited then some (Context.exitCodeOf c.state) else c.exitCode := by
  cases e <;> rfl

namespace Context

variable {r : Resources} {c : Context}

theorem callTarget?_eq_exited_iff {v : Json} {k : Method} :
    callTarget? v k = some .exited ↔ k = .notification .exit := by
  obtain k | k := k
  · cases k with
    | start => by_cases hroot : (workspaceRoot v).isOk <;> simp [callTarget?, hroot]
    | _ => simp [callTarget?]
  · cases k <;> simp [callTarget?]

theorem permits_exit_iff {s : SessionState} :
    (Method.notification .exit).precondition.permits s ↔ s ≠ .exited := by
  simp [Method.precondition, NotificationMethod.precondition, Precondition.permits,
    SessionState.isExited]

theorem moves_to_exited_iff {m : Message} :
    (c.call? m).bind (callTarget? m.params) = some .exited ↔ m.isExit ∧ c.state ≠ .exited := by
  simp only [Option.bind_eq_some_iff, callTarget?_eq_exited_iff, exists_eq_right, call?,
    Option.filter_eq_some_iff, Message.isExit_iff, permits_exit_iff]

theorem effect_of_isExit {m : Message} (h : m.isExit) (hstate : c.state ≠ .exited) :
    c.effect r m = .exit := by
  have hcall : c.call? m = some (.notification .exit) := by
    rw [call?, Message.isExit_iff.mp h, Option.filter_eq_some_iff]
    exact ⟨rfl, permits_exit_iff.mpr hstate⟩
  rw [effect, hcall]
  rfl

theorem accept_exitCode (m : Message) : (c.accept r m).context.exitCode =
    if m.isExit ∧ c.state ≠ .exited then some (exitCodeOf c.state) else c.exitCode := by
  have hnote : (c.note m).exitCode = c.exitCode := by cases m <;> rfl
  simp only [accept_context, Effect.apply_exitCode, effect_target?, moves_to_exited_iff, note_state,
    hnote]

/-- The message is a request of that name, and the answer to it is a result. -/
def Grants (r : Resources) (name : String) (c : Context) (m : Message) : Prop :=
  ∃ q v, m = .request q ∧ q.method = name ∧ (c.accept r m).result = some (.success q.id v)

/-- The message is an exit that counts. -/
def Leaves (c : Context) (m : Message) : Prop :=
  ∃ n, m = .notification n ∧ n.method = "exit" ∧ c.state ≠ .exited

theorem answered_iff {q : Request} {v : Json} :
    (c.accept r (.request q)).result = some (.success q.id v) ↔
      ((c.note (.request q)).answer r q.method q.params).result = .ok v := by
  rw [accept_request_result]
  split <;> rename_i hanswer <;> simp [hanswer, Response.success, Response.failure]

theorem method?_of_call? {m : Message} {k : Method} (h : c.call? m = some k) :
    m.method? = some k :=
  (Option.filter_eq_some_iff.mp h).1

theorem grants_iff {k : RequestMethod} {m : Message} :
    c.Grants r k.name m ↔
      c.call? m = some (.request k) ∧ ∃ v, ((c.note m).request r k m.params).result = .ok v := by
  constructor
  · rintro ⟨q, v, rfl, hname, hresult⟩
    rw [answered_iff] at hresult
    obtain ⟨-, e, hanswer⟩ | ⟨k', hcall, hanswer⟩ := c.answer_cases r q
    · simp [hanswer] at hresult
    · have hmethod := Message.method?_eq_request_iff.mpr ⟨q, rfl, hname⟩
      rw [method?_of_call? hcall] at hmethod
      obtain rfl : k' = k := by simpa using hmethod
      exact ⟨hcall, v, hanswer ▸ hresult⟩
  · rintro ⟨hcall, v, hresult⟩
    obtain ⟨q, rfl, hname⟩ := Message.method?_eq_request_iff.mp (method?_of_call? hcall)
    refine ⟨q, v, rfl, hname, answered_iff.mpr ?_⟩
    obtain ⟨hno, -⟩ | ⟨k', hcall', hanswer⟩ := c.answer_cases r q
    · simp [hno] at hcall
    · rw [hcall] at hcall'
      obtain rfl : k = k' := by simpa using hcall'
      rw [hanswer, hresult]

theorem start_result_iff {v : Json} :
    (∃ a, (c.start v).result = .ok a) ↔ (workspaceRoot v).isOk := by
  unfold start
  cases workspaceRoot v with
  | error fault => simp [Except.isOk, Except.toBool]
  | ok root => exact ⟨fun _ => rfl, fun _ => ⟨_, rfl⟩⟩

theorem grants_start_iff {m : Message} :
    c.Grants r "initialize" m ↔ c.state = .uninitialized ∧ m.opens := by
  have hpermits : RequestMethod.start.precondition.permits c.state ↔ c.state = .uninitialized := by
    simp [RequestMethod.precondition, Precondition.permits]
  have hgrants : c.Grants r "initialize" m ↔ _ := grants_iff (k := .start)
  rw [hgrants, Message.opens_iff, call?, Option.filter_eq_some_iff]
  simp only [request, start_result_iff, Method.precondition, hpermits]
  tauto

theorem grants_shutdown_iff {m : Message} :
    c.Grants r "shutdown" m ↔ c.state = .initialized ∧ m.isShutdown := by
  have hpermits : RequestMethod.shutdown.precondition.permits c.state ↔ c.state = .initialized := by
    simp [RequestMethod.precondition, Precondition.permits]
  have hgrants : c.Grants r "shutdown" m ↔ _ := grants_iff (k := .shutdown)
  rw [hgrants, Message.isShutdown_iff, call?, Option.filter_eq_some_iff]
  simp only [request, shutdown, Method.precondition, hpermits]
  simp only [Except.ok.injEq, exists_eq', and_true]
  exact and_comm

theorem leaves_iff {m : Message} : c.Leaves m ↔ m.isExit ∧ c.state ≠ .exited := by
  cases m <;> simp [Leaves, Message.isExit]

end Context

namespace Session

variable {r : Resources}

/-- Either the response cannot be written, and what is queued stays so, or it is written, and then
what is queued as far as it can be. -/
theorem handle_cases (r : Resources) (x : Session) (m : Message) :
    let turn := x.context.accept r m
    let answered := x.wire.writeAll (turn.result.map Response.toJson).toList
    (∃ fault, answered.2 = .error fault ∧
      x.handle r m = ⟨⟨turn.context, answered.1⟩, turn.events, .error fault⟩) ∨
    let notified := answered.1.writeAll (turn.context.outbox.map Notification.toJson)
    answered.2 = .ok () ∧
      x.handle r m = ⟨⟨{ turn.context with outbox := [] }, notified.1⟩, turn.events, notified.2⟩ := by
  simp only [handle]
  cases hanswered : (x.wire.writeAll
      ((x.context.accept r m).result.map Response.toJson).toList).2 with
  | error fault => exact .inl ⟨fault, rfl, rfl⟩
  | ok _ => exact .inr ⟨rfl, rfl⟩

theorem handle_context (x : Session) (m : Message) : ∃ outbox,
    (x.handle r m).session.context = { (x.context.accept r m).context with outbox } := by
  obtain ⟨fault, -, h⟩ | ⟨-, h⟩ := handle_cases r x m <;> exact ⟨_, by rw [h]⟩

theorem handle_events (x : Session) (m : Message) :
    (x.handle r m).events = (x.context.accept r m).events := by
  obtain ⟨fault, -, h⟩ | ⟨-, h⟩ := handle_cases r x m <;> rw [h]

theorem handle_state (x : Session) (m : Message) :
    (x.handle r m).session.context.state = x.context.state.next m := by
  obtain ⟨outbox, hcontext⟩ := handle_context (r := r) x m
  rw [hcontext, ← Context.accept_state_eq_next r]

theorem outbox_of_ok {x : Session} {m : Message} (h : (x.handle r m).result = .ok ()) :
    (x.handle r m).session.context.outbox = [] := by
  obtain ⟨fault, -, hhandle⟩ | ⟨-, hhandle⟩ := handle_cases r x m
  · simp [hhandle] at h
  · rw [hhandle]

theorem handle_of_isExit {x : Session} {m : Message} (h : m.isExit)
    (hstate : x.context.state ≠ .exited) (houtbox : x.context.outbox = []) :
    (x.handle r m).result = .ok () := by
  have heffect := Context.effect_of_isExit (r := r) h hstate
  cases m with
  | notification n =>
    have hqueued : (x.context.accept r (.notification n)).context.outbox = [] := by
      rw [Context.accept_context, heffect]
      exact houtbox
    obtain ⟨fault, hanswered, -⟩ | ⟨-, hhandle⟩ := handle_cases r x (.notification n)
    · simp [Context.accept, Wire.writeAll] at hanswered
    · rw [hhandle, hqueued]
      rfl
  | _ => simp [Message.isExit] at h

theorem handle_exitCode (x : Session) (m : Message) : (x.handle r m).session.context.exitCode =
    if m.isExit ∧ x.context.state ≠ .exited then some (Context.exitCodeOf x.context.state)
    else x.context.exitCode := by
  obtain ⟨outbox, hcontext⟩ := handle_context (r := r) x m
  rw [hcontext, ← Context.accept_exitCode (r := r)]

theorem attend_state (x : Session) (occasions : List Occasion) :
    (x.attend occasions).context.state =
      x.context.state.after (occasions.map Occasion.message) := by
  induction occasions generalizing x with
  | nil => rfl
  | cons o occasions ih =>
    rw [attend_cons, ih, Visit.done, handle_state]
    rfl

end Session

namespace Visit

def Grants (name : String) (v : Visit) : Prop :=
  v.session.context.Grants v.resources name v.message

def Leaves (v : Visit) : Prop :=
  v.session.context.Leaves v.message

end Visit

namespace Session

/-- A session is initialized from when a request to start is granted until one to shut down is, or
the client exits. -/
theorem initialized_iff (x : Session) (occasions : List Occasion) :
    (x.attend occasions).context.state = .initialized ↔
      (x.context.state = .initialized ∨
        x.context.state = .uninitialized ∧
          ∃ v ∈ x.visits occasions, v.Grants "initialize") ∧
      (∀ v ∈ x.visits occasions, ¬ v.Grants "shutdown") ∧
      ∀ v ∈ x.visits occasions, ¬ v.Leaves := by
  induction occasions generalizing x with
  | nil => simp
  | cons o occasions ih =>
    simp only [attend_cons, visits_cons, ih, List.mem_cons, exists_eq_or_imp, forall_eq_or_imp,
      Visit.done, Visit.Grants, Visit.Leaves, handle_state, Context.grants_start_iff,
      Context.grants_shutdown_iff, Context.leaves_iff]
    cases x.context.state with
    | uninitialized =>
      by_cases hexit : o.message.isExit
      · simp [SessionState.next, hexit]
      · by_cases hopens : o.message.opens <;> simp [SessionState.next, hexit, hopens]
    | initialized =>
      by_cases hexit : o.message.isExit
      · simp [SessionState.next, hexit]
      · by_cases hshutdown : o.message.isShutdown <;>
          simp [SessionState.next, hexit, hshutdown]
    | shutdownRequested => by_cases hexit : o.message.isExit <;> simp [SessionState.next, hexit]
    | exited => simp [SessionState.next]

end Session

end RuleServer
