import Mathlib
import RuleServer.Proofs.Rpc.RoundTrip

/-!
A session does not wait for what comes later: whatever follows on a stream, the frames before it are
read and handled as if the stream ended there, and after the client's exit nothing more is read.
-/

namespace RuleServer

namespace Frame

theorem read_append {s payload : Bytes} {rest : ByteStream}
    (h : read ⟨s, none⟩ = .ok (some (payload, rest))) (t : Bytes) (failure : Option IoFault) :
    read ⟨s ++ t, failure⟩ = .ok (some (payload, ⟨rest.bytes ++ t, failure⟩)) := by
  obtain ⟨-, fields, blank, hframe, rfl⟩ := isFrame_of_read h
  have hread := read_of_isFrame hframe (rest.bytes ++ t) failure
  simpa only [List.append_assoc] using hread

end Frame

namespace Session

theorem written_handle (r : Resources) (x : Session) (message : Message) :
    x.wire.written <+: (x.handle r message).session.wire.written :=
  handle_wire (P := fun w => x.wire.written <+: w.written)
    (fun w bytes hw => hw.trans (w.written_write bytes)) r (List.prefix_refl _) message

theorem written_finish (x : Session) : x.finish.session.wire.written = x.wire.written := by
  unfold finish Wire.close
  cases x.wire.closeFault <;> rfl

namespace Step

/-- What a handled message leads to, with the rest of the stream after it. -/
def after (done : Progress Unit) (rest : ByteStream) : Step :=
  match done.result with
  | .error fault => .ended { session := done.session, events := done.events, result := .error fault }
  | .ok () =>
    if done.session.context.state.isExited then
      .ended { done.session.finish with events := done.events ++ done.session.finish.events }
    else .goOn done.session rest done.events

/-- The session after a step, whether it ended it or not. -/
def session : Step → Session
  | goOn x _ _ => x
  | ended progress => progress.session

/-- The same step on a stream that goes on. -/
def extend (t : Bytes) (failure : Option IoFault) : Step → Step
  | goOn x rest events => goOn x ⟨rest.bytes ++ t, failure⟩ events
  | ended progress => ended progress

theorem written_after (done : Progress Unit) (rest : ByteStream) :
    (after done rest).session.wire.written = done.session.wire.written := by
  unfold after
  split
  · rfl
  · split_ifs
    · exact written_finish done.session
    · rfl

theorem extend_after (done : Progress Unit) (rest : ByteStream) (t : Bytes)
    (failure : Option IoFault) :
    (after done rest).extend t failure = after done ⟨rest.bytes ++ t, failure⟩ := by
  unfold after
  split
  · rfl
  · split_ifs <;> rfl

theorem rest_of_after {done : Progress Unit} {rest rest' : ByteStream} {x : Session}
    {events : List Event} (h : after done rest = .goOn x rest' events) : rest' = rest := by
  unfold after at h
  split at h
  · simp at h
  · split_ifs at h
    exact (Step.goOn.inj h).2.1.symm

end Step

theorem step_of_frame {payload : Bytes} {stream rest : ByteStream}
    (h : Frame.read stream = .ok (some (payload, rest))) (r : Resources) (x : Session) :
    x.step r stream = .after (x.handle r (Message.ofBytes payload)) rest := by
  simp only [step, h]
  rfl

theorem step_without_frame {stream : ByteStream}
    (h : ∀ payload rest, Frame.read stream ≠ .ok (some (payload, rest))) (r : Resources)
    (x : Session) :
    ∃ progress, x.step r stream = .ended progress ∧ progress.session.wire = x.wire ∧
      ∀ code, progress.result ≠ .ok (.exited code) := by
  unfold step
  split
  · exact ⟨_, rfl, rfl, by simp⟩
  · exact ⟨_, rfl, rfl, by simp⟩
  · rename_i payload rest hread
    exact absurd hread (h payload rest)

theorem written_step (r : Resources) (x : Session) (stream : ByteStream) :
    x.wire.written <+: (x.step r stream).session.wire.written := by
  by_cases hframe : ∃ payload rest, Frame.read stream = .ok (some (payload, rest))
  · obtain ⟨payload, rest, hread⟩ := hframe
    rw [step_of_frame hread, Step.written_after]
    exact x.written_handle r (Message.ofBytes payload)
  · obtain ⟨progress, hstep, hwire, -⟩ :=
      step_without_frame (fun payload rest h => hframe ⟨payload, rest, h⟩) r x
    rw [hstep, Step.session, hwire]

/-- What every step preserves holds when a session has been served. -/
theorem serve_preserves {P : Session → Prop}
    (hstep : ∀ r x stream, P x → P (x.step r stream).session) (fuel : Nat)
    (world : Nat → Resources) {x : Session} (hx : P x) (stream : ByteStream) :
    P (serve fuel world x stream).session := by
  induction fuel generalizing world x stream with
  | zero => exact hx
  | succ fuel ih =>
    have hnext := hstep (world 0) x stream hx
    rw [serve]
    split
    · rename_i progress hended
      rwa [hended] at hnext
    · rename_i y rest events hgoOn
      rw [hgoOn] at hnext
      exact ih _ hnext rest

theorem written_serve (fuel : Nat) (world : Nat → Resources) (x : Session) (stream : ByteStream) :
    x.wire.written <+: (serve fuel world x stream).session.wire.written := by
  have hstep : ∀ r (y : Session) stream, x.wire.written <+: y.wire.written →
      x.wire.written <+: (y.step r stream).session.wire.written :=
    fun r y stream hy => hy.trans (y.written_step r stream)
  exact serve_preserves hstep fuel world (List.prefix_refl _) stream

theorem step_append {s payload : Bytes} {rest : ByteStream}
    (h : Frame.read ⟨s, none⟩ = .ok (some (payload, rest))) (r : Resources) (x : Session)
    (t : Bytes) (failure : Option IoFault) :
    x.step r ⟨s ++ t, failure⟩ = (x.step r ⟨s, none⟩).extend t failure := by
  rw [step_of_frame h, step_of_frame (Frame.read_append h t failure), Step.extend_after]

/-- What is left of a stream after the last frame that a session takes off it. -/
def unread (r : Resources) : (fuel : Nat) → Session → ByteStream → ByteStream
  | 0, _, stream => stream
  | fuel + 1, x, stream =>
    match Frame.read stream with
    | .ok (some (_, rest)) =>
      match x.step r stream with
      | .goOn y rest _ => unread r fuel y rest
      | .ended _ => rest
    | _ => stream

theorem unread_succ {payload : Bytes} {stream rest : ByteStream}
    (h : Frame.read stream = .ok (some (payload, rest))) (r : Resources) (fuel : Nat)
    (x : Session) :
    unread r (fuel + 1) x stream =
      match x.step r stream with
      | .goOn y rest _ => unread r fuel y rest
      | .ended _ => rest := by
  rw [unread, h]

theorem serve_append (r : Resources) {fuel fuel' : Nat} (hfuel : fuel ≤ fuel') (x : Session)
    (s t : Bytes) (failure : Option IoFault) :
    (serve fuel (fun _ => r) x ⟨s, none⟩).session.wire.written <+:
        (serve fuel' (fun _ => r) x ⟨s ++ t, failure⟩).session.wire.written ∧
      ∀ code, (serve fuel (fun _ => r) x ⟨s, none⟩).result = .ok (.exited code) →
        serve fuel' (fun _ => r) x ⟨s ++ t, failure⟩ = serve fuel (fun _ => r) x ⟨s, none⟩ ∧
        unread r fuel' x ⟨s ++ t, failure⟩ =
          ⟨(unread r fuel x ⟨s, none⟩).bytes ++ t, failure⟩ := by
  induction fuel generalizing fuel' x s with
  | zero =>
    refine ⟨written_serve fuel' (fun _ => r) x _, fun code h => ?_⟩
    simp [serve] at h
  | succ fuel ih =>
    obtain ⟨left, rfl⟩ : ∃ left, fuel' = left + 1 := ⟨fuel' - 1, by omega⟩
    by_cases hframe : ∃ payload rest, Frame.read ⟨s, none⟩ = .ok (some (payload, rest))
    · obtain ⟨payload, rest, hread⟩ := hframe
      have hlonger := step_append hread r x t failure
      rw [unread_succ hread, unread_succ (Frame.read_append hread t failure), serve, serve, hlonger]
      cases hstep : x.step r ⟨s, none⟩ with
      | ended progress => exact ⟨List.prefix_refl _, fun code h => ⟨rfl, rfl⟩⟩
      | goOn y rest' events =>
        -- the stream left over ends as `s` does, so that the induction applies to it
        obtain rfl := Step.rest_of_after ((step_of_frame hread r x).symm.trans hstep)
        obtain ⟨bytes, failure'⟩ := rest'
        obtain rfl : failure' = none := (Frame.isFrame_of_read hread).1
        obtain ⟨hwritten, hexit⟩ := ih (show fuel ≤ left by omega) y bytes
        refine ⟨hwritten, fun code h => ?_⟩
        obtain ⟨hserve, hunread⟩ := hexit code h
        simp only [Step.extend, hserve, hunread, and_self]
    · have hnone : ∀ payload rest, Frame.read ⟨s, none⟩ ≠ .ok (some (payload, rest)) :=
        fun payload rest h => hframe ⟨payload, rest, h⟩
      obtain ⟨progress, hstep, hwire, hresult⟩ := step_without_frame hnone r x
      have hserve : serve (fuel + 1) (fun _ => r) x ⟨s, none⟩ = progress := by rw [serve, hstep]
      rw [hserve]
      refine ⟨?_, fun code h => absurd h (hresult code)⟩
      rw [hwire]
      exact written_serve (left + 1) _ x _

/-- What a session writes on a stream comes first in what it writes on a longer one. Once the client
has exited, the longer stream makes no difference to the run, and all of its additional bytes are
left. -/
theorem run_causal (r : Resources) (x : Session) (s t : Bytes) (failure : Option IoFault) :
    (run r x ⟨s, none⟩).session.wire.written <+:
        (run r x ⟨s ++ t, failure⟩).session.wire.written ∧
      ∀ code, (run r x ⟨s, none⟩).result = .ok (.exited code) →
        run r x ⟨s ++ t, failure⟩ = run r x ⟨s, none⟩ ∧
        unread r ((s ++ t).length + 1) x ⟨s ++ t, failure⟩ =
          ⟨(unread r (s.length + 1) x ⟨s, none⟩).bytes ++ t, failure⟩ := by
  have hfuel : s.length + 1 ≤ (s ++ t).length + 1 := by simp
  exact serve_append r hfuel x s t failure

/-- A client that exits at once, and then sends a byte that starts no frame. -/
theorem run_causal_exit :
    let r : Resources :=
      { symbols := .empty, diagnostics := .unavailable "", readText := fun _ => .ok "" }
    let x : Session := { context := { settingsKey := "" } }
    let v : Json := .object [("jsonrpc", .string "2.0"), ("method", .string "exit")]
    (run r x ⟨Frame.ofJson v, none⟩).result = .ok (.exited 1) ∧
      run r x ⟨Frame.ofJson v ++ [0], none⟩ = run r x ⟨Frame.ofJson v, none⟩ := by
  intro r x v
  have hlimit : (Utf8.encode v.render).length ≤ Frame.payloadLimit := by decide +kernel
  have hread := Frame.read_wrap v.encode_render_ne_nil hlimit [] none
  have hmessage : Message.ofBytes (Utf8.encode v.render) = .notification ⟨"exit", none⟩ := by
    rw [Message.ofBytes_render (by simp [v, Json.Exact, Json.All, Json.AllMembers,
      Json.numberIsWord]) (by decide)]
    rfl
  have hexit : (run r x ⟨Frame.ofJson v, none⟩).result = .ok (.exited 1) := by
    rw [List.append_nil] at hread
    simp only [run, runOver, serve, step, Frame.ofJson, hread, hmessage]
    rfl
  exact ⟨hexit, ((run_causal r x (Frame.ofJson v) [0] none).2 1 hexit).1⟩

end Session

end RuleServer
