import Mathlib
import RuleServer.Proofs.Session.Stream
import RuleServer.Proofs.Session.Trace

/-!
The life of a session from its first message on. Its changes of state are those that a session's
life has, its providers are asked only while it is initialized, and once it has exited nothing
changes any more but the id of the last request.
-/

namespace RuleServer

open Event (Lawful)

namespace Context

variable {c : Context}

theorem call?_of_exited (h : c.state = .exited) (m : Message) : c.call? m = none := by
  have hpermits : ∀ p : Precondition, p.permits c.state = false := by
    intro p
    rw [h]
    cases p <;> rfl
  simp [call?, hpermits]

theorem accept_of_exited (h : c.state = .exited) (r : Resources) (m : Message) :
    (c.accept r m).context = c.note m := by
  rw [accept_context, effect, call?_of_exited h]
  rfl

theorem accept_eq_of_not_initialized (h : c.state ≠ .initialized) (r r' : Resources)
    (m : Message) : c.accept r m = c.accept r' m := by
  refine accept_congr (fun k hcall => ?_) (fun k hcall => ?_)
  · obtain rfl : k = .start := by
      by_contra hk
      exact h (RequestMethod.state_of_permits (permits_of_call? hcall) hk)
    rfl
  · obtain rfl : k = .exit := by
      by_contra hk
      exact h (NotificationMethod.state_of_permits (permits_of_call? hcall) hk)
    rfl

end Context

theorem Visit.done_lawful (v : Visit) :
    Lawful v.resources.Logs v.session.context.state v.done.events v.done.session.context.state := by
  rw [done, Session.handle_events, Session.handle_state,
    ← Context.accept_state_eq_next v.resources]
  exact Context.accept_lawful v.message

namespace Session

variable {logs : LogLine → Prop}

theorem visits_lawful (x : Session) {occasions : List Occasion}
    (hlogs : ∀ o ∈ occasions, ∀ line, o.resources.Logs line → logs line) :
    Lawful logs x.context.state ((x.visits occasions).flatMap fun v => v.done.events)
      (x.attend occasions).context.state := by
  induction occasions generalizing x with
  | nil => exact .nil
  | cons o occasions ih =>
    obtain ⟨ho, hrest⟩ := List.forall_mem_cons.mp hlogs
    exact ((Visit.done_lawful ⟨o, x⟩).mono ho).append (ih _ hrest)

theorem handleAll_lawful (x : Session) {occasions : List Occasion}
    (hlogs : ∀ o ∈ occasions, ∀ line, o.resources.Logs line → logs line) :
    Lawful logs x.context.state (x.handleAll occasions).events
      (x.handleAll occasions).session.context.state := by
  obtain ⟨k, hsession, hevents⟩ := handleAll_eq_attend x occasions
  rw [← hsession, ← hevents]
  exact visits_lawful x fun o ho => hlogs o (List.mem_of_mem_take ho)

theorem endAfter_lawful {s : SessionState} {done : Progress Unit}
    (h : Lawful logs s done.events done.session.context.state) (ending : Frame.End) :
    Lawful logs s (endAfter done ending).events
      (endAfter done ending).session.context.state := by
  have hmove : Lawful logs done.session.context.state [done.session.conclude.2] .exited :=
    .moved (by cases done.session.context.state <;> rfl)
  unfold endAfter
  cases done.result with
  | error fault => exact h
  | ok _ =>
    refine h.append ?_
    split_ifs
    · rw [finish_context, finish_events]
      exact .nil
    · cases ending with
      | clean => exact .cons (.logged (a := 'c') (by simp [LogLine.info]) (by decide)) hmove
      | failed fault => exact hmove

/-- Nothing waits to be written once the session has exited. -/
def Quiet (x : Session) : Prop :=
  x.context.state = .exited → x.context.outbox = []

theorem handle_of_exited {x : Session} (h : x.context.state = .exited)
    (houtbox : x.context.outbox = []) (r : Resources) (m : Message) :
    (x.handle r m).session.context = x.context.note m := by
  have hnote : (x.context.note m).outbox = [] := by cases m <;> exact houtbox
  obtain ⟨fault, -, hhandle⟩ | ⟨-, hhandle⟩ := handle_cases r x m
  · rw [hhandle]
    exact Context.accept_of_exited h r m
  · rw [hhandle, Context.accept_of_exited h r m, ← hnote]

end Session

/-- The exit gets no response, so that what was queued before it is taken out. -/
theorem Visit.done_quiet (v : Visit) (hv : v.session.Quiet) : v.done.session.Quiet := by
  intro hstate
  by_cases hexited : v.session.context.state = .exited
  · have hdone : v.done.session.context = v.session.context.note v.message :=
      Session.handle_of_exited hexited (hv hexited) v.resources v.message
    rw [hdone]
    cases v.message <;> exact hv hexited
  · rw [done, Session.handle_state, SessionState.next_eq_exited_iff hexited] at hstate
    obtain ⟨fault, hanswered, -⟩ | ⟨-, hhandle⟩ :=
      Session.handle_cases v.resources v.session v.message
    · cases hmessage : v.message with
      | notification n => simp [hmessage, Context.accept, Wire.writeAll] at hanswered
      | _ => simp [hmessage, Message.isExit] at hstate
    · rw [done, hhandle]

namespace Session

theorem attend_of_exited {x : Session} (h : x.context.state = .exited)
    (houtbox : x.context.outbox = []) (occasions : List Occasion) :
    (x.attend occasions).context =
      (occasions.map Occasion.message).foldl Context.note x.context := by
  induction occasions generalizing x with
  | nil => rfl
  | cons o occasions ih =>
    have hdone : (Visit.mk o x).done.session.context = x.context.note o.message :=
      handle_of_exited h houtbox o.resources o.message
    have hstate : (Visit.mk o x).done.session.context.state = .exited := by
      rw [hdone, Context.note_state, h]
    have hout : (Visit.mk o x).done.session.context.outbox = [] := by
      rw [hdone]
      cases o.message <;> exact houtbox
    rw [attend_cons, ih hstate hout, hdone, List.map_cons, List.foldl_cons]

/-- The events of a session that is just starting are lawful, whether its messages are handled one
after another or come from a stream, whatever the providers say to each of them, and wherever writing
and reading may fail. A session is initialized from when a request to start is granted until one to
shut down is granted or the client exits; otherwise it is the same whatever the providers are. Once
it has exited, messages change nothing but the id of the last request. -/
theorem lifecycle_safe (settingsKey : String) (wire : Wire) :
    let x : Session := { context := { settingsKey }, wire }
    (∀ occasions,
      let visits := x.visits occasions
      let y := x.attend occasions
      Lawful (fun line => ∃ o ∈ occasions, o.resources.Logs line) .uninitialized
        (visits.flatMap fun v => v.done.events) y.context.state ∧
      (y.context.state = .initialized ↔
        (∃ v ∈ visits, v.Grants "initialize") ∧
        (∀ v ∈ visits, ¬ v.Grants "shutdown") ∧ ∀ v ∈ visits, ¬ v.Leaves) ∧
      (y.context.state ≠ .initialized → ∀ r r' m, y.handle r m = y.handle r' m) ∧
      (y.context.state = .exited → ∀ more, (y.attend more).context =
        (more.map Occasion.message).foldl Context.note y.context)) ∧
    ∀ world stream,
      let done := x.runOver world stream
      Lawful (fun line => ∃ k, (world k).Logs line) .uninitialized done.events
        done.session.context.state ∧
      (done.session.context.state = .exited → ∀ more, (done.session.attend more).context =
        (more.map Occasion.message).foldl Context.note done.session.context) := by
  intro x
  have hx : x.context.state ≠ .exited := by simp [x]
  refine ⟨fun occasions => ⟨visits_lawful x fun o ho line hline => ⟨o, ho, hline⟩, ?_, ?_, ?_⟩,
    fun world stream => ⟨?_, ?_⟩⟩
  · simpa [x] using initialized_iff x occasions
  · intro hstate r r' m
    simp only [handle, Context.accept_eq_of_not_initialized hstate r r']
  · intro hexited more
    have hquiet := attend_preserves Visit.done_quiet (show x.Quiet from fun _ => rfl) occasions
    exact attend_of_exited hexited (hquiet hexited) more
  · rw [runOver_eq_endAfter hx]
    refine endAfter_lawful (handleAll_lawful x fun o ho line hline => ?_) _
    obtain ⟨k, hk⟩ := Occasion.exists_of_mem_schedule ho
    exact ⟨k, hk ▸ hline⟩
  · intro hexited more
    have hresult := (runOver_exited_iff hx rfl stream).mp hexited
    have houtbox : (x.runOver world stream).session.context.outbox = [] := by
      rw [runOver_eq_endAfter hx, endAfter_context_of_ok hresult]
      exact handleAll_outbox rfl hresult
    exact attend_of_exited hexited houtbox more

end Session

end RuleServer
