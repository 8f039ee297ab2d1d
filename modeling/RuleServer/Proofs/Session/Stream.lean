import Mathlib
import RuleServer.Proofs.Rpc.Sequence
import RuleServer.Proofs.Session.Causality
import RuleServer.Proofs.Session.States

/-!
A session on a stream. It handles the messages of the stream one after another, through the client's
exit, and then ends in one of four ways: something could not be written, the client exited, the
stream came to its end, or the stream failed.
-/

namespace RuleServer

/-- Messages, each with the resources of its time. -/
def Occasion.schedule : (world : Nat → Resources) → List Message → List Occasion
  | _, [] => []
  | world, m :: messages => ⟨world 0, m⟩ :: schedule (fun k => world (k + 1)) messages

namespace Occasion

theorem map_message_schedule (world : Nat → Resources) (messages : List Message) :
    (schedule world messages).map message = messages := by
  induction messages generalizing world with
  | nil => rfl
  | cons m messages ih => simp [schedule, ih]

theorem schedule_concat (world : Nat → Resources) (messages : List Message) (m : Message) :
    schedule world (messages ++ [m]) =
      schedule world messages ++ [⟨world messages.length, m⟩] := by
  induction messages generalizing world with
  | nil => rfl
  | cons m' messages ih => exact congrArg _ (ih _)

theorem exists_of_mem_schedule {world : Nat → Resources} {messages : List Message} {o : Occasion}
    (h : o ∈ schedule world messages) : ∃ k, o.resources = world k := by
  induction messages generalizing world with
  | nil => simp [schedule] at h
  | cons m messages ih =>
    rcases List.mem_cons.mp h with rfl | hrest
    · exact ⟨0, rfl⟩
    · obtain ⟨k, hk⟩ := ih hrest
      exact ⟨k + 1, hk⟩

end Occasion

/-- The messages through the first exit. -/
def Message.throughExit : List Message → List Message
  | [] => []
  | m :: messages => m :: if m.isExit then [] else throughExit messages

namespace ByteStream

/-- The messages of a stream, up to its end or to where it fails. -/
def messages (stream : ByteStream) : List Message :=
  (Frame.readAll stream).1.map Message.ofBytes

def ending (stream : ByteStream) : Frame.End :=
  (Frame.readAll stream).2

/-- The messages through the client's exit, each with the resources of its time. -/
def occasions (world : Nat → Resources) (stream : ByteStream) : List Occasion :=
  Occasion.schedule world (Message.throughExit stream.messages)

end ByteStream

namespace Session

/-- The session over because of its stream. -/
def endAt (x : Session) : Frame.End → Progress SessionEnd
  | .clean =>
    { session := x.conclude.1
      events := [.info "client has closed the connection", x.conclude.2]
      result := .ok .disconnected }
  | .failed fault =>
    { session := x.conclude.1, events := [x.conclude.2], result := .error (.ofRead fault) }

/-- The session over after its messages, with the end that the stream has otherwise. -/
def endAfter (done : Progress Unit) (ending : Frame.End) : Progress SessionEnd :=
  match done.result with
  | .error fault => { session := done.session, events := done.events, result := .error fault }
  | .ok () =>
    let last :=
      if done.session.context.state.isExited then done.session.finish
      else done.session.endAt ending
    { last with events := done.events ++ last.events }

theorem step_of_clean {stream : ByteStream} (h : Frame.read stream = .ok none) (r : Resources)
    (x : Session) : x.step r stream = .ended (x.endAt .clean) := by
  simp only [step, h]
  rfl

theorem step_of_fault {stream : ByteStream} {fault : ReadFault}
    (h : Frame.read stream = .error fault) (r : Resources) (x : Session) :
    x.step r stream = .ended (x.endAt (.failed fault)) := by
  simp only [step, h]
  rfl

theorem isExited_handle {r : Resources} {x : Session} (h : x.context.state ≠ .exited)
    (m : Message) : (x.handle r m).session.context.state.isExited = m.isExit := by
  rw [Bool.eq_iff_iff, ← SessionState.next_eq_exited_iff h, ← handle_state (r := r)]
  simp [SessionState.isExited]

theorem endAfter_events (done : Progress Unit) (ending : Frame.End) (before : List Event) :
    endAfter { done with events := before ++ done.events } ending =
      { endAfter done ending with events := before ++ (endAfter done ending).events } := by
  unfold endAfter
  cases done.result with
  | error fault => rfl
  | ok _ => simp only [List.append_assoc]

theorem serve_eq_endAfter {world : Nat → Resources} {fuel fuel' : Nat} {x : Session}
    {stream : ByteStream} (hfuel : stream.bytes.length < fuel)
    (hfuel' : stream.bytes.length < fuel') (hx : x.context.state ≠ .exited) :
    serve fuel world x stream =
      endAfter (x.handleAll (Occasion.schedule world (Message.throughExit
          ((Frame.readAllFrom fuel' stream).1.map Message.ofBytes))))
        (Frame.readAllFrom fuel' stream).2 := by
  induction fuel generalizing world fuel' x stream with
  | zero => omega
  | succ fuel ih =>
    obtain ⟨fuel', rfl⟩ : ∃ left, fuel' = left + 1 := ⟨fuel' - 1, by omega⟩
    have hnot : x.context.state.isExited = false := by simpa [SessionState.isExited] using hx
    rw [serve, Frame.readAllFrom]
    cases hread : Frame.read stream with
    | error fault =>
      rw [step_of_fault hread]
      simp [Message.throughExit, Occasion.schedule, handleAll, endAfter, hnot]
    | ok next =>
      obtain _ | ⟨payload, rest⟩ := next
      · rw [step_of_clean hread]
        simp [Message.throughExit, Occasion.schedule, handleAll, endAfter, hnot]
      · have hshorter := Frame.read_shorter hread
        rw [step_of_frame hread]
        simp only [List.map_cons, Message.throughExit, Occasion.schedule, Step.after, handleAll]
        generalize Message.ofBytes payload = m
        have hexited := isExited_handle (r := world 0) hx m
        cases hresult : (x.handle (world 0) m).result with
        | error fault => simp only [endAfter, hresult]
        | ok _ =>
          rw [hexited]
          by_cases hexit : m.isExit
          · simp only [hexit, if_true, Occasion.schedule, handleAll, endAfter, hexited,
              List.append_nil]
          · have hgoes : (x.handle (world 0) m).session.context.state ≠ .exited := by
              rw [handle_state]
              exact mt (SessionState.next_eq_exited_iff hx).mp hexit
            have hserve := @ih (fun k => world (k + 1)) fuel' (x.handle (world 0) m).session rest
              (by omega) (by omega) hgoes
            simp only [hexit, Bool.false_eq_true, if_false, endAfter_events, hserve]

/-- A session that has not ended handles the messages of its stream through the client's exit, each
with the resources of its time, and ends. -/
theorem runOver_eq_endAfter {x : Session} (h : x.context.state ≠ .exited)
    (world : Nat → Resources) (stream : ByteStream) :
    x.runOver world stream = endAfter (x.handleAll (stream.occasions world)) stream.ending :=
  serve_eq_endAfter (Nat.lt_succ_self _) (Nat.lt_succ_self _) h

theorem finish_context (x : Session) : x.finish.session.context = x.context := by
  unfold finish
  split <;> rfl

theorem finish_events (x : Session) : x.finish.events = [] := by
  unfold finish
  split <;> rfl

theorem endAfter_context_of_error {done : Progress Unit} {fault : Fault}
    (h : done.result = .error fault) (ending : Frame.End) :
    (endAfter done ending).session.context = done.session.context := by
  simp only [endAfter, h]

theorem endAfter_context_of_ok {done : Progress Unit} (h : done.result = .ok ())
    (ending : Frame.End) :
    (endAfter done ending).session.context = { done.session.context with state := .exited } := by
  simp only [endAfter, h]
  split_ifs with hexited
  · have hstate : done.session.context.state = .exited := by
      simpa [SessionState.isExited] using hexited
    rw [finish_context, ← hstate]
  · cases ending <;> rfl

theorem handleAll_outbox {x : Session} (hx : x.context.outbox = []) {occasions : List Occasion}
    (h : (x.handleAll occasions).result = .ok ()) :
    (x.handleAll occasions).session.context.outbox = [] := by
  induction occasions generalizing x with
  | nil => exact hx
  | cons o occasions ih =>
    cases hresult : (Visit.mk o x).done.result with
    | error fault =>
      rw [handleAll_of_error hresult] at h
      simp [hresult] at h
    | ok _ =>
      rw [handleAll_of_ok hresult] at h ⊢
      exact ih (outbox_of_ok hresult) h

/-- Where something could not be written, the client has not exited. -/
theorem not_exited_of_error {world : Nat → Resources} {x : Session}
    (hx : x.context.state ≠ .exited) (houtbox : x.context.outbox = []) {messages : List Message}
    {fault : Fault} :
    let done := x.handleAll (Occasion.schedule world (Message.throughExit messages))
    done.result = .error fault → done.session.context.state ≠ .exited := by
  intro done h
  subst done
  induction messages generalizing world x with
  | nil => exact hx
  | cons m messages ih =>
    rw [Message.throughExit, Occasion.schedule] at h ⊢
    have hgoes (hexit : ¬ m.isExit) : (x.handle (world 0) m).session.context.state ≠ .exited := by
      rw [handle_state]
      exact mt (SessionState.next_eq_exited_iff hx).mp hexit
    cases hresult : (Visit.mk ⟨world 0, m⟩ x).done.result with
    | error fault' =>
      have hexit : ¬ m.isExit := by
        intro hexit
        rw [Visit.done, handle_of_isExit hexit hx houtbox] at hresult
        cases hresult
      rw [handleAll_of_error hresult]
      exact hgoes hexit
    | ok _ =>
      rw [handleAll_of_ok hresult] at h ⊢
      by_cases hexit : m.isExit
      · simp [hexit, Occasion.schedule, handleAll] at h
      · simp only [hexit, Bool.false_eq_true, if_false] at h ⊢
        exact ih (hgoes hexit) (outbox_of_ok hresult) h

theorem runOver_exited_iff {world : Nat → Resources} {x : Session}
    (hx : x.context.state ≠ .exited) (houtbox : x.context.outbox = []) (stream : ByteStream) :
    (x.runOver world stream).session.context.state = .exited ↔
      (x.handleAll (stream.occasions world)).result = .ok () := by
  rw [runOver_eq_endAfter hx]
  cases hresult : (x.handleAll (stream.occasions world)).result with
  | error fault =>
    have hnot : (x.handleAll (stream.occasions world)).session.context.state ≠ .exited :=
      not_exited_of_error hx houtbox hresult
    simp [endAfter_context_of_error hresult, hnot]
  | ok _ => simp [endAfter_context_of_ok hresult]

end Session

end RuleServer
