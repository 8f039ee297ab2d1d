import Mathlib
import RuleServer.Proofs.Session.Stream

/-!
How a session on a stream ends. If everything can be written, the messages decide it: the first exit
does, with a code that says whether the session had been asked to shut down, and without one the
bytes after the last frame do. If something cannot be written, the session stops where it is.
-/

namespace RuleServer

namespace Message

theorem throughExit_of_no_exit {messages : List Message} (h : ∀ m ∈ messages, ¬ m.isExit) :
    throughExit messages = messages := by
  induction messages with
  | nil => rfl
  | cons m messages ih =>
    obtain ⟨hm, hmessages⟩ := List.forall_mem_cons.mp h
    simp [throughExit, hm, ih hmessages]

theorem throughExit_append {before : List Message} (hbefore : ∀ m ∈ before, ¬ m.isExit)
    {m : Message} (hm : m.isExit) (rest : List Message) :
    throughExit (before ++ m :: rest) = before ++ [m] := by
  induction before with
  | nil => simp [throughExit, hm]
  | cons m' before ih =>
    obtain ⟨hm', hbefore⟩ := List.forall_mem_cons.mp hbefore
    simp [throughExit, hm', ih hbefore]

theorem throughExit_of_first {messages : List Message} {k : Nat}
    (h : messages[k]?.any isExit) (hfirst : ∀ i < k, ¬ messages[i]?.any isExit) :
    (∀ m ∈ messages.take k, ¬ m.isExit) ∧
      ∃ m, m.isExit ∧ throughExit messages = messages.take k ++ [m] := by
  have hbefore : ∀ m ∈ messages.take k, ¬ m.isExit := by
    intro m hm
    obtain ⟨i, hi⟩ := List.mem_iff_getElem?.mp hm
    rw [List.getElem?_take, Option.ite_none_right_eq_some] at hi
    simpa [hi.2] using hfirst i hi.1
  obtain ⟨m, hk, hm⟩ := (Option.any_eq_true _ _).mp h
  obtain ⟨hlt, rfl⟩ := List.getElem?_eq_some_iff.mp hk
  have hsplit : messages = messages.take k ++ messages[k] :: messages.drop (k + 1) := by simp
  refine ⟨hbefore, messages[k], hm, ?_⟩
  conv_lhs => rw [hsplit]
  exact throughExit_append hbefore hm _

theorem exists_first_exit {messages : List Message} (h : ∃ m ∈ messages, m.isExit) :
    ∃ k : Nat, messages[k]?.any isExit ∧ ∀ i < k, ¬ messages[i]?.any isExit := by
  have hsome : ∃ k : Nat, messages[k]?.any isExit := by
    obtain ⟨m, hmem, hm⟩ := h
    obtain ⟨k, hk⟩ := List.mem_iff_getElem?.mp hmem
    exact ⟨k, by simpa [hk] using hm⟩
  exact ⟨Nat.find hsome, Nat.find_spec hsome, fun i => Nat.find_min hsome⟩

end Message

theorem SessionState.after_take_iff {messages : List Message} {k : Nat}
    (hno : ∀ m ∈ messages.take k, ¬ m.isExit) :
    uninitialized.after (messages.take k) = shutdownRequested ↔
      ∃ i j : Nat, i < j ∧ j < k ∧ messages[i]?.any Message.opens ∧
        messages[j]?.any Message.isShutdown := by
  rw [after_uninitialized_iff hno]
  constructor
  · rintro ⟨i, j, hij, hopens, hshutdown⟩
    have hjk : j < k := by
      by_contra hjk
      simp [hjk] at hshutdown
    rw [List.getElem?_take_of_lt (hij.trans hjk)] at hopens
    rw [List.getElem?_take_of_lt hjk] at hshutdown
    exact ⟨i, j, hij, hjk, hopens, hshutdown⟩
  · rintro ⟨i, j, hij, hjk, hopens, hshutdown⟩
    refine ⟨i, j, hij, ?_, ?_⟩
    · rwa [List.getElem?_take_of_lt (hij.trans hjk)]
    · rwa [List.getElem?_take_of_lt hjk]

theorem Context.exitCodeOf_cases (s : SessionState) :
    (exitCodeOf s = 0 ∨ exitCodeOf s = 1) ∧ (exitCodeOf s = 0 ↔ s = .shutdownRequested) := by
  unfold exitCodeOf
  split_ifs with hs <;> simp [hs]

namespace Session

variable {world : Nat → Resources} {settingsKey : String}

theorem attend_exit {x : Session} (hx : x.context.state ≠ .exited) {occasions : List Occasion}
    (hno : ∀ m ∈ occasions.map Occasion.message, ¬ m.isExit) {o : Occasion}
    (ho : o.message.isExit) :
    (x.attend (occasions ++ [o])).context.state = .exited ∧
      (x.attend (occasions ++ [o])).context.exitCode =
        some (Context.exitCodeOf (x.context.state.after (occasions.map Occasion.message))) := by
  have hstate := x.attend_state occasions
  have hgoes : (x.attend occasions).context.state ≠ .exited :=
    hstate ▸ SessionState.after_ne_exited hx hno
  rw [attend_concat, ← hstate, Visit.done, handle_state, handle_exitCode]
  exact ⟨SessionState.next_of_isExit ho _, if_pos ⟨ho, hgoes⟩⟩

theorem finish_result {x : Session} (h : x.wire.closeFault = none) :
    x.finish.result = .ok (.exited (x.context.exitCode.getD 1)) := by
  simp only [finish, Wire.close, h]

/-- Where everything can be written, a session that has exited gives its code, and any other one
ends as the stream does. -/
theorem runOver_fresh_result (stream : ByteStream) :
    ((fresh settingsKey).runOver world stream).result =
      let c := ((fresh settingsKey).attend (stream.occasions world)).context
      if c.state.isExited then .ok (.exited (c.exitCode.getD 1))
      else match stream.ending with
        | .clean => .ok .disconnected
        | .failed fault => .error (.ofRead fault) := by
  have hopen := fresh_open settingsKey
  obtain ⟨hsession, hresult⟩ := handleAll_open hopen (stream.occasions world)
  have hclose : ((fresh settingsKey).attend (stream.occasions world)).wire.closeFault = none :=
    attend_preserves (P := fun y => y.wire.closeFault = none)
      (fun v hv => handle_wire (fun w bytes => (w.write_closeFault bytes).trans) _ hv _) rfl _
  rw [runOver_eq_endAfter (by simp [fresh])]
  simp only [endAfter, hresult, hsession]
  split_ifs
  · exact finish_result hclose
  · cases stream.ending <;> rfl

theorem runOver_of_first_exit {stream : ByteStream} {k : Nat}
    (hk : stream.messages[k]?.any Message.isExit)
    (hfirst : ∀ i < k, ¬ stream.messages[i]?.any Message.isExit) :
    ((fresh settingsKey).runOver world stream).result = .ok (.exited
      (Context.exitCodeOf (SessionState.uninitialized.after (stream.messages.take k)))) := by
  obtain ⟨hbefore, m, hm, hthrough⟩ := Message.throughExit_of_first hk hfirst
  have hno : ∀ m ∈ (Occasion.schedule world (stream.messages.take k)).map Occasion.message,
      ¬ m.isExit := by
    rwa [Occasion.map_message_schedule]
  obtain ⟨hstate, hcode⟩ := attend_exit (x := fresh settingsKey) (by simp [fresh]) hno
    (o := ⟨world (stream.messages.take k).length, m⟩) hm
  rw [Occasion.map_message_schedule] at hcode
  rw [runOver_fresh_result, ByteStream.occasions, hthrough, Occasion.schedule_concat]
  simp only [hstate, hcode, SessionState.isExited]
  rfl

theorem runOver_of_no_exit {stream : ByteStream} (hno : ∀ m ∈ stream.messages, ¬ m.isExit) :
    ((fresh settingsKey).runOver world stream).result =
      match stream.ending with
      | .clean => .ok .disconnected
      | .failed fault => .error (.ofRead fault) := by
  have hgoes := SessionState.after_ne_exited (s := (fresh settingsKey).context.state)
    (by simp [fresh]) hno
  have hstate := (fresh settingsKey).attend_state (Occasion.schedule world stream.messages)
  rw [Occasion.map_message_schedule] at hstate
  rw [runOver_fresh_result, ByteStream.occasions, Message.throughExit_of_no_exit hno]
  simp only [hstate, SessionState.isExited, beq_iff_eq, if_neg hgoes]

/-- There is an exit code only in a session that has exited. -/
def CodeAtExit (x : Session) : Prop :=
  x.context.exitCode.isSome → x.context.state = .exited

theorem done_codeAtExit (v : Visit) (hv : v.session.CodeAtExit) : v.done.session.CodeAtExit := by
  intro hcode
  rw [Visit.done, handle_exitCode] at hcode
  rw [Visit.done, handle_state]
  split_ifs at hcode with hexit
  · exact SessionState.next_of_isExit hexit.1 _
  · rw [hv hcode, SessionState.next_exited]

theorem runOver_codeAtExit {x : Session} (hx : x.CodeAtExit) (hstate : x.context.state ≠ .exited)
    (world : Nat → Resources) (stream : ByteStream) :
    (x.runOver world stream).session.CodeAtExit := by
  obtain ⟨k, hsession, -⟩ := handleAll_eq_attend x (stream.occasions world)
  have hmessages := attend_preserves done_codeAtExit hx ((stream.occasions world).take k)
  rw [hsession] at hmessages
  rw [runOver_eq_endAfter hstate, CodeAtExit]
  cases hresult : (x.handleAll (stream.occasions world)).result with
  | error fault =>
    rw [endAfter_context_of_error hresult]
    exact hmessages
  | ok _ =>
    intro _
    rw [endAfter_context_of_ok hresult]

/-- The messages of a stream decide how a session ends that can write everything, whatever the
providers and the files are at the time of each. An exit ends it,
with code `0` if a request to start was granted before and later one to shut down, and with code `1`
otherwise. Without an exit, it ends with the stream, in order if no bytes are left after the last
frame. There is no exit code before the session has exited, whatever can be written or read. -/
theorem run_end_of_messages (world : Nat → Resources) (settingsKey : String) (s : Bytes) :
    (∃ payloads last,
      Frame.Chain s payloads last ∧ ¬ Frame.Starts last ∧
      (∀ payloads' last', Frame.Chain s payloads' last' → ¬ Frame.Starts last' →
        payloads' = payloads ∧ last' = last) ∧
      let messages := payloads.map Message.ofBytes
      let result := ((fresh settingsKey).runOver world ⟨s, none⟩).result
      ((∃ code, result = .ok (.exited code)) ↔ ∃ m ∈ messages, m.isExit) ∧
      (∀ k : Nat, messages[k]?.any Message.isExit → (∀ i < k, ¬ messages[i]?.any Message.isExit) →
        ∃ code, result = .ok (.exited code) ∧ (code = 0 ∨ code = 1) ∧
          (code = 0 ↔ ∃ i j : Nat, i < j ∧ j < k ∧ messages[i]?.any Message.opens ∧
            messages[j]?.any Message.isShutdown)) ∧
      ((∀ m ∈ messages, ¬ m.isExit) →
        (result = .ok .disconnected ↔ last = []) ∧
        (last ≠ [] → ∃ fault, Frame.read ⟨last, none⟩ = .error (.framing fault) ∧
          result = .error (.framing fault)))) ∧
    ∀ wire, let x : Session := { context := { settingsKey }, wire }
      (∀ occasions, (x.attend occasions).CodeAtExit) ∧
      ∀ world stream, (x.runOver world stream).session.CodeAtExit := by
  refine ⟨?_, fun wire => ⟨attend_preserves done_codeAtExit (by simp [CodeAtExit]),
    runOver_codeAtExit (by simp [CodeAtExit]) (by simp)⟩⟩
  obtain ⟨last, hchain, hlast, hend⟩ := Frame.readAllFrom_chain (Nat.lt_succ_self s.length)
  refine ⟨_, last, hchain, hlast, fun _ _ h h' => hchain.unique hlast h h', ?_, ?_, ?_⟩
  · constructor
    · rintro ⟨code, hcode⟩
      by_contra hno
      rw [runOver_of_no_exit fun m hm hexit => hno ⟨m, hm, hexit⟩] at hcode
      split at hcode <;> simp at hcode
    · intro hexit
      obtain ⟨k, hk, hfirst⟩ := Message.exists_first_exit hexit
      exact ⟨_, runOver_of_first_exit hk hfirst⟩
  · intro k hk hfirst
    obtain ⟨hbefore, -⟩ := Message.throughExit_of_first hk hfirst
    obtain ⟨hcases, hzero⟩ := Context.exitCodeOf_cases (.after .uninitialized
      ((⟨s, none⟩ : ByteStream).messages.take k))
    exact ⟨_, runOver_of_first_exit hk hfirst, hcases,
      hzero.trans (SessionState.after_take_iff hbefore)⟩
  · intro hno
    have hresult : ((fresh settingsKey).runOver world ⟨s, none⟩).result =
        match (Frame.readAllFrom s.length.succ ⟨s, none⟩).2 with
        | .clean => .ok .disconnected
        | .failed fault => .error (.ofRead fault) := runOver_of_no_exit hno
    obtain ⟨rfl, hending⟩ | ⟨fault, hread, hending⟩ := hend
    · rw [hending] at hresult
      exact ⟨⟨fun _ => rfl, fun _ => hresult⟩, fun h => absurd rfl h⟩
    · rw [hending] at hresult
      have hleft : last ≠ [] := by
        rintro rfl
        simp [Frame.read_eq_none_iff.mpr] at hread
      exact ⟨by simp [hresult, hleft], fun _ => ⟨fault, hread, hresult⟩⟩

/-- A session has exited once its run is over, unless something could not be written: then it stops
at the message for which that was so, in the state that it had. Where everything can be written, it
has exited whatever reading and closing come to. -/
theorem run_exited_iff_written (world : Nat → Resources) (settingsKey : String) (wire : Wire)
    (stream : ByteStream) :
    let x : Session := { context := { settingsKey }, wire }
    let written := x.handleAll (stream.occasions world)
    let done := x.runOver world stream
    (done.session.context.state = .exited ↔ written.result = .ok ()) ∧
    (∀ fault, written.result = .error fault →
      done.result = .error fault ∧ done.session = written.session) ∧
    (wire.Open → done.session.context.state = .exited) := by
  intro x written done
  have hx : x.context.state ≠ .exited := by simp [x]
  have hiff : done.session.context.state = .exited ↔ written.result = .ok () :=
    runOver_exited_iff hx rfl stream
  refine ⟨hiff, fun fault hfault => ?_, fun hopen => ?_⟩
  · have hdone : done = endAfter written stream.ending := runOver_eq_endAfter hx world stream
    simp only [hdone, endAfter, hfault, and_self]
  · exact hiff.mpr (handleAll_open (x := x) hopen _).2

/-- A client that asks to start and does not take the answer. -/
theorem run_start_unwritten :
    let r : Resources :=
      { symbols := .empty, diagnostics := .unavailable "", readText := fun _ => .ok "" }
    let x : Session := { context := { settingsKey := "yara" }, wire := { room := some 1 } }
    let v : Json := .object [("jsonrpc", .string "2.0"), ("id", .nat 1),
      ("method", .string "initialize"), ("params", .object [])]
    (run r x ⟨Frame.ofJson v, none⟩).result = .error (.io (.other "broken pipe")) ∧
      (run r x ⟨Frame.ofJson v, none⟩).session.context.state = .initialized := by
  intro r x v
  have hlimit : (Utf8.encode v.render).length ≤ Frame.payloadLimit := by decide +kernel
  have hread := Frame.read_wrap v.encode_render_ne_nil hlimit [] none
  have hmessage : Message.ofBytes (Utf8.encode v.render) =
      .request ⟨.number 1, "initialize", some (.object [])⟩ := by
    rw [Message.ofBytes_render (by simp [v, Json.Exact, Json.All, Json.AllMembers,
      Json.numberIsWord, Json.nat, Json.int, JsonNumber.IsWord, twoTo]) (by decide)]
    rfl
  have hhandle : (x.handle r (.request ⟨.number 1, "initialize", some (.object [])⟩)).result =
      .error (.io (.other "broken pipe")) := by
    have hlong := fun v => Nat.not_le.mpr (Frame.one_lt_length_ofJson v)
    simp only [handle, Context.accept, Option.map_some, Option.toList_some, Wire.writeAll,
      Wire.write, Wire.take, Wire.roomFor, x, if_neg (hlong _)]
  rw [List.append_nil] at hread
  simp only [run, runOver, serve, step, Frame.ofJson, hread, hmessage, hhandle, handle_state,
    true_and]
  rfl

end Session

end RuleServer
