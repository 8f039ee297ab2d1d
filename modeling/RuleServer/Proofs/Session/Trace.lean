import Mathlib
import RuleServer.Proofs.Session.Effect

/-!
The life of a session, as its events tell it. Replaying the events of a message gives the states
that the session is in meanwhile: no change of state is one that a session's life does not have, and
the providers are asked only while the session is initialized.
-/

namespace RuleServer

namespace LogLine

/-- The line reports a change of state that a session's life does not have. -/
def IsAlarm (line : LogLine) : Prop :=
  "unexpected session transition".toList <+: line.text.toList

theorem not_isAlarm_of_head {line : LogLine} {a : Char} (h : line.text.toList.head? = some a)
    (hne : a ≠ 'u') : ¬ line.IsAlarm := by
  rintro ⟨rest, hrest⟩
  rw [← hrest] at h
  exact hne (Option.some.inj h).symm

end LogLine

/-- A line that a provider writes to the log when it is asked. -/
inductive Resources.Logs (r : Resources) (line : LogLine) : Prop
  | definition (p : PositionParams) (h : line ∈ (r.symbols.definition p).log)
  | references (p : ReferenceParams) (h : line ∈ (r.symbols.references p).log)
  | rename (p : RenameParams) (h : line ∈ (r.symbols.rename p).log)
  | highlight (p : PositionParams) (h : line ∈ (r.symbols.highlight p).log)
  | completion (p : CompletionParams) (h : line ∈ (r.symbols.completion p).log)
  | resolve (p : CompletionItem) (h : line ∈ (r.symbols.resolve p).log)
  | diagnose (uri text : String) (h : line ∈ (r.diagnostics.diagnose uri text).log)

namespace Event

/-- The state after an event: a change must start from the present state and be one that a session's
life has, and the providers are asked only in an initialized session. -/
def follow (s : SessionState) : Event → Option SessionState
  | logged _ => some s
  | moved source target => if source = s ∧ source.canMoveTo target then some target else none
  | consulted _ => if s = .initialized then some s else none

def replay (s : SessionState) (events : List Event) : Option SessionState :=
  events.foldlM follow s

/-- Events lead from one state to another, and no line that they leave is an alarm, unless it is one
of those that a provider wrote. -/
structure Lawful (logs : LogLine → Prop) (s : SessionState) (events : List Event)
    (t : SessionState) : Prop where
  replays : replay s events = some t
  noAlarm : ∀ e ∈ events, ∀ line ∈ e.lines, line.IsAlarm → logs line

namespace Lawful

variable {logs logs' : LogLine → Prop} {s t u : SessionState}

theorem nil : Lawful logs s [] s :=
  ⟨rfl, by simp⟩

theorem mono (hlogs : ∀ line, logs line → logs' line) {events : List Event}
    (h : Lawful logs s events t) : Lawful logs' s events t where
  replays := h.replays
  noAlarm e he line hline halarm := hlogs line (h.noAlarm e he line hline halarm)

theorem append {events more : List Event} (h : Lawful logs s events t) (h' : Lawful logs t more u) :
    Lawful logs s (events ++ more) u where
  replays := by
    rw [replay, List.foldlM_append, ← replay, h.replays]
    exact h'.replays
  noAlarm e he :=
    (List.mem_append.mp he).elim (h.noAlarm e) (h'.noAlarm e)

theorem cons {e : Event} {events : List Event} (h : Lawful logs s [e] t)
    (h' : Lawful logs t events u) : Lawful logs s (e :: events) u :=
  h.append h'

theorem logged {line : LogLine} {a : Char} (h : line.text.toList.head? = some a)
    (hne : a ≠ 'u') : Lawful logs s [.logged line] s where
  replays := rfl
  noAlarm := by
    have hno := LogLine.not_isAlarm_of_head h hne
    simp [Event.lines, hno]

theorem quoted {log : List LogLine} (h : ∀ line ∈ log, logs line) :
    Lawful logs s (log.map .logged) s := by
  induction log with
  | nil => exact nil
  | cons line log ih =>
    obtain ⟨hline, hlog⟩ := List.forall_mem_cons.mp h
    refine cons ⟨rfl, ?_⟩ (ih hlog)
    simp [Event.lines, hline]

theorem moved (h : s.canMoveTo t) : Lawful logs s [.moved s t] t where
  replays := by simp [replay, follow, h]
  noAlarm := by
    have hno : ∀ text, ¬ (LogLine.debug ("session " ++ text)).IsAlarm := fun text =>
      LogLine.not_isAlarm_of_head (a := 's') (by simp [LogLine.debug]) (by decide)
    simp [Event.lines, h, hno]

theorem consulted (asked : Consultation) :
    Lawful logs .initialized [.consulted asked] .initialized :=
  ⟨rfl, by simp [Event.lines]⟩

end Lawful

end Event

open Event (Lawful)

theorem RequestMethod.state_of_permits {k : RequestMethod} {s : SessionState}
    (h : k.precondition.permits s) (hk : k ≠ .start) : s = .initialized := by
  cases k <;> simp_all [precondition, Precondition.permits]

theorem NotificationMethod.state_of_permits {k : NotificationMethod} {s : SessionState}
    (h : k.precondition.permits s) (hk : k ≠ .exit) : s = .initialized := by
  cases k <;> simp_all [precondition, Precondition.permits]

namespace Context

variable {r : Resources} {c : Context}

theorem publish_lawful (uri text : String) :
    Lawful r.Logs .initialized (c.publish r uri text).events .initialized := by
  have hasked : Lawful r.Logs .initialized
      (.consulted (.diagnosis uri text (r.diagnostics.diagnose uri text).result) ::
        (r.diagnostics.diagnose uri text).log.map .logged) .initialized :=
    (Lawful.consulted _).cons (.quoted fun line h => .diagnose uri text h)
  simp only [publish]
  split
  · exact hasked.append (.logged (a := 'd') (by simp [LogLine.warn]) (by decide))
  · exact hasked
  · exact hasked.append (.logged (a := 'p') (by simp [LogLine.debug]) (by decide))

theorem respond_lawful {s : SessionState} (reply : Reply (Option Json)) :
    Lawful r.Logs s (respond reply).1 s := by
  unfold respond
  split
  · exact .nil
  · exact .nil
  · exact .logged (a := 'c') (by simp [LogLine.warn]) (by decide)
  · exact .logged (a := 'c') (by simp [LogLine.error]) (by decide)

theorem askSymbols_lawful {α : Type} {decode : Decoder α} {ask : α → Reply (Option Json)}
    (h : ∀ p, ∀ line ∈ (ask p).log, r.Logs line) (v : Json) :
    Lawful r.Logs .initialized (c.askSymbols decode ask v).events .initialized := by
  unfold askSymbols
  split
  · exact .nil
  · rename_i p _
    exact ((Lawful.consulted _).cons (.quoted (h p))).append (respond_lawful (ask p))

theorem rootRemark_head (root : Option Path) : (rootRemark root).toList.head? = some 'c' := by
  unfold rootRemark
  split <;> simp

theorem start_lawful (h : c.state = .uninitialized) (v : Json) :
    Lawful r.Logs c.state (c.start v).events ((callTarget? v (.request .start)).getD c.state) := by
  rw [h]
  simp only [start, callTarget?]
  cases workspaceRoot v with
  | error fault => exact .nil
  | ok root =>
    simp only [move, h]
    exact .cons (.logged (rootRemark_head root) (by decide)) (.moved rfl)

theorem shutdown_lawful (h : c.state = .initialized) :
    Lawful r.Logs c.state c.shutdown.events .shutdownRequested := by
  simp only [shutdown, move, h]
  exact .cons (.logged (a := 'c') (by simp [LogLine.info]) (by decide)) (.moved rfl)

theorem executeCommand_lawful (v : Json) :
    Lawful r.Logs .initialized (c.executeCommand r v).events .initialized := by
  unfold executeCommand
  split
  · exact .nil
  · exact .cons (.logged (a := 'c') (by simp [LogLine.info]) (by decide)) (publish_lawful _ _)

theorem request_lawful {k : RequestMethod} (h : k.precondition.permits c.state) (v : Json) :
    Lawful r.Logs c.state (c.request r k v).events ((callTarget? v (.request k)).getD c.state) := by
  by_cases hk : k = .start
  · subst hk
    exact start_lawful (by simpa [RequestMethod.precondition, Precondition.permits] using h) v
  · have hstate := RequestMethod.state_of_permits h hk
    cases k with
    | start => exact absurd rfl hk
    | shutdown => exact shutdown_lawful hstate
    | executeCommand => exact hstate ▸ executeCommand_lawful v
    | definition => exact hstate ▸ askSymbols_lawful (fun p _ => .definition p) v
    | references => exact hstate ▸ askSymbols_lawful (fun p _ => .references p) v
    | rename => exact hstate ▸ askSymbols_lawful (fun p _ => .rename p) v
    | highlight => exact hstate ▸ askSymbols_lawful (fun p _ => .highlight p) v
    | completion => exact hstate ▸ askSymbols_lawful (fun p _ => .completion p) v
    | resolveCompletion => exact hstate ▸ askSymbols_lawful (fun p _ => .resolve p) v

theorem exit_lawful : Lawful r.Logs c.state c.exit.events .exited := by
  have hmove : c.state.canMoveTo .exited := by cases c.state <;> rfl
  simp only [exit, move]
  refine .cons (.moved hmove) ?_
  split_ifs
  · exact .logged (a := 'c') (by simp [LogLine.info]) (by decide)
  · exact .logged (a := 'c') (by simp [LogLine.warn]) (by decide)

theorem changeConfiguration_lawful {s : SessionState} (v : Json) :
    Lawful r.Logs s (c.changeConfiguration v).events s := by
  simp only [changeConfiguration]
  refine .cons (.logged (a := 'c') (by simp [LogLine.debug]) (by decide)) ?_
  split_ifs
  · exact .logged (a := 'i') (by simp [LogLine.info]) (by decide)
  · exact .nil

theorem opened_lawful (v : Json) : Lawful r.Logs .initialized (c.opened r v).events .initialized := by
  unfold opened
  split
  · exact .nil
  · exact .cons (.logged (a := 'd') (by simp [LogLine.debug]) (by decide)) (publish_lawful _ _)

theorem saved_lawful (v : Json) : Lawful r.Logs .initialized (c.saved r v).events .initialized := by
  unfold saved
  split
  · exact .nil
  · split_ifs
    · split
      · exact .nil
      · exact publish_lawful _ _
    · exact .logged (a := 'c') (by simp [LogLine.debug]) (by decide)

theorem notification_lawful {k : NotificationMethod} (h : k.precondition.permits c.state)
    (v : Json) :
    Lawful r.Logs c.state (c.notification r k v).events
      ((callTarget? v (.notification k)).getD c.state) := by
  by_cases hk : k = .exit
  · subst hk
    exact exit_lawful
  · have hstate := NotificationMethod.state_of_permits h hk
    cases k with
    | exit => exact absurd rfl hk
    | initialized => exact .logged (a := 'c') (by simp [LogLine.info]) (by decide)
    | didChangeConfiguration => exact changeConfiguration_lawful v
    | didOpen => exact hstate ▸ opened_lawful v
    | didSave => exact hstate ▸ saved_lawful v

theorem answerRequest_lawful (q : Request) :
    Lawful r.Logs c.state (c.answerRequest r q).events (c.answerRequest r q).context.state := by
  have hanswer : Lawful r.Logs c.state ((c.note (.request q)).answer r q.method q.params).events
      (c.answerRequest r q).context.state := by
    rw [show (c.answerRequest r q).context.state = _ from c.accept_state r (.request q)]
    obtain ⟨hcall, e, hanswer⟩ | ⟨k, hcall, hanswer⟩ := c.answer_cases r q
    · rw [hanswer, hcall]
      exact .nil
    · rw [hanswer, hcall]
      exact request_lawful (c := c.note (.request q)) (permits_of_call? hcall) _
  have hrequest : Lawful r.Logs c.state [.debug "request"] c.state :=
    .logged (a := 'r') (by simp [LogLine.debug]) (by decide)
  revert hanswer
  unfold answerRequest
  dsimp only
  split
  · exact hrequest.cons
  · intro hanswer
    exact (hrequest.cons hanswer).append
      (.logged (a := 'r') (by simp [LogLine.debug]) (by decide))

theorem receive_lawful (n : Notification) :
    Lawful r.Logs c.state (c.receive r n).events (c.receive r n).context.state := by
  rw [show (c.receive r n).context.state = _ from c.accept_state r (.notification n)]
  obtain ⟨hcall, -, hevents⟩ | ⟨k, hcall, -, hevents⟩ := c.receive_cases r n
  · rw [hcall]
    obtain hevents | ⟨remark, hhead, hevents⟩ := hevents
    · rw [hevents]
      exact .nil
    · rw [hevents]
      exact .logged hhead (by decide)
  · rw [hcall]
    have hcalled := notification_lawful (r := r) (permits_of_call? hcall)
      (Message.notification n).params
    obtain hevents | ⟨remark, hhead, hevents⟩ := hevents
    · rw [hevents]
      exact hcalled
    · rw [hevents]
      exact hcalled.append (.logged hhead (by decide))

theorem accept_lawful (m : Message) :
    Lawful r.Logs c.state (c.accept r m).events (c.accept r m).context.state := by
  cases m with
  | request q => exact answerRequest_lawful q
  | notification n => exact receive_lawful n
  | response _ => exact .logged (a := 'i') (by simp [LogLine.debug]) (by decide)
  | malformed _ _ => exact .logged (a := 'm') (by simp [LogLine.warn]) (by decide)

end Context

end RuleServer
