import Mathlib
import RuleServer.Proofs.Session.Causality
import RuleServer.Proofs.Session.States

/-!
Messages that come to nothing. Every handler is done with what can fail before it touches the
session, so that a message which is refused, dropped or not understood leaves it as it was.
-/

namespace RuleServer

namespace Context

variable {r : Resources} {c : Context}

/-- The message is answered with an error, dropped, or handled without success. -/
inductive Declines (r : Resources) (c : Context) : Message → Prop
  | request {q : Request} {response : Response}
    (h : (c.accept r (.request q)).result = some response) (herror : response.error ≠ none) :
    Declines r c (.request q)
  | malformed (id : Option RequestId) (e : RpcError) : Declines r c (.malformed id e)
  | response (p : Response) : Declines r c (.response p)
  | unknown {n : Notification} (h : Method.ofName? n.method = none) : Declines r c (.notification n)
  | ofRequest {n : Notification} {k : RequestMethod}
    (h : Method.ofName? n.method = some (.request k)) : Declines r c (.notification n)
  | notPermitted {n : Notification} {k : NotificationMethod}
    (h : Method.ofName? n.method = some (.notification k))
    (hstate : ¬ k.precondition.permits c.state) : Declines r c (.notification n)
  | failed {n : Notification} {k : NotificationMethod} {fault : Fault}
    (h : Method.ofName? n.method = some (.notification k))
    (hfault : (c.notification r k (n.params.getD .null)).result = .error fault) :
    Declines r c (.notification n)

theorem ofDiagnosis_of_error {uri text : String} {fault : Fault}
    (h : (c.publish r uri text).result = .error fault) :
    Effect.ofDiagnosis r uri text = .nothing := by
  simp only [publish] at h
  unfold Effect.ofDiagnosis
  split at h
  · simp at h
  · rename_i hreply
    rw [hreply]
  · simp at h

theorem callEffect_of_request_error {k : RequestMethod} {v : Json} {e : RpcError}
    (h : (c.request r k v).result = .error e) : c.callEffect r v (.request k) = .nothing := by
  cases k with
  | start =>
    simp only [request, start] at h
    simp only [callEffect]
    cases hroot : workspaceRoot v with
    | error fault => rfl
    | ok root => simp [hroot] at h
  | shutdown => simp [request, shutdown] at h
  | executeCommand =>
    simp only [request, executeCommand] at h
    simp only [callEffect, document?]
    cases hdocument : commandDocument r v with
    | error e => rfl
    | ok document =>
      obtain ⟨uri, path, text⟩ := document
      rw [hdocument] at h
      cases hpublish : (c.publish r uri text).result with
      | error fault => exact ofDiagnosis_of_error hpublish
      | ok _ => simp [hpublish] at h
  | _ => rfl

theorem ofDiagnosis_of_quiet_error {uri text : String} {fault : Fault}
    (h : (c.publishQuietly r uri text).result = .error fault) :
    Effect.ofDiagnosis r uri text = .nothing := by
  simp only [publishQuietly] at h
  cases hpublish : (c.publish r uri text).result with
  | error fault => exact ofDiagnosis_of_error hpublish
  | ok _ => simp [hpublish, Except.map] at h

theorem callEffect_of_notification_error {k : NotificationMethod} {v : Json} {fault : Fault}
    (h : (c.notification r k v).result = .error fault) :
    c.callEffect r v (.notification k) = .nothing := by
  cases k with
  | didOpen =>
    simp only [notification, opened] at h
    simp only [callEffect, document?]
    cases hdocument : OpenedDocument.decode .message v with
    | error fault => rfl
    | ok document =>
      rw [hdocument] at h
      exact ofDiagnosis_of_quiet_error h
  | didSave =>
    simp only [notification, saved] at h
    simp only [callEffect, document?]
    cases hdocument : SavedDocument.decode .message v with
    | error fault => rfl
    | ok document =>
      rw [hdocument] at h
      by_cases hcompile : c.settings.compileOnSave
      · simp only [hcompile, if_true] at h
        simp only [Except.toOption, Option.bind_some, hcompile, if_true]
        cases htext : savedText r document with
        | error fault => rfl
        | ok text =>
          rw [htext] at h
          exact ofDiagnosis_of_quiet_error h
      · simp [hcompile, Except.toOption, Effect.ofDocument]
  | initialized => simp [notification, welcome] at h
  | exit => simp [notification, exit] at h
  | didChangeConfiguration => simp [notification, changeConfiguration] at h

theorem answer_of_error {q : Request} {response : Response}
    (h : (c.accept r (.request q)).result = some response) (herror : response.error ≠ none) :
    ∃ e, ((c.note (.request q)).answer r q.method q.params).result = .error e := by
  rw [accept_request_result] at h
  obtain rfl := Option.some.inj h
  cases hanswer : ((c.note (.request q)).answer r q.method q.params).result with
  | ok v => simp [hanswer, Response.success] at herror
  | error e => exact ⟨e, rfl⟩

theorem effect_of_declines {m : Message} (h : c.Declines r m) : c.effect r m = .nothing := by
  have hdropped : c.call? m = none → c.effect r m = .nothing := by
    intro hcall
    rw [effect, hcall]
  cases h with
  | @request q response hresult herror =>
    obtain ⟨e, hanswer⟩ := answer_of_error hresult herror
    obtain ⟨hcall, -⟩ | ⟨k, hcall, hrequest⟩ := c.answer_cases r q
    · exact hdropped hcall
    · rw [hrequest] at hanswer
      rw [effect, hcall]
      exact callEffect_of_request_error hanswer
  | malformed id e => rfl
  | response p => rfl
  | unknown hname => exact hdropped (by simp [call?, Message.method?, hname])
  | ofRequest hname => exact hdropped (by simp [call?, Message.method?, hname])
  | @notPermitted n k hname hstate =>
    have hnot : (Method.notification k).precondition.permits c.state = false :=
      Bool.eq_false_iff.mpr hstate
    exact hdropped (by simp [call?, Message.method?, hname, hnot])
  | @failed n k fault hname hfault =>
    cases hpermits : (Method.notification k).precondition.permits c.state with
    | false => exact hdropped (by simp [call?, Message.method?, hname, hpermits])
    | true =>
      have hcall : c.call? (.notification n) = some (.notification k) := by
        simp [call?, Message.method?, hname, hpermits]
      rw [effect, hcall]
      exact callEffect_of_notification_error hfault

theorem accept_of_declines {m : Message} (h : c.Declines r m) :
    (c.accept r m).context = c.note m := by
  rw [accept_context, effect_of_declines h]
  rfl

end Context

theorem Wire.writeAll_of_no_room {w : Wire} (h : w.deliveries = []) (hroom : w.room = some 0)
    (vs : List Json) : (w.writeAll vs).1 = w := by
  cases vs with
  | nil => rfl
  | cons v vs =>
    have hlong : ¬ (Frame.ofJson v).length ≤ 0 :=
      Nat.not_le.mpr (Nat.zero_lt_of_lt (Frame.one_lt_length_ofJson v))
    obtain ⟨written, deliveries, room, breakFault, closeFault, closed⟩ := w
    obtain rfl : deliveries = [] := h
    obtain rfl : room = some 0 := hroom
    simp only [writeAll, write, take, roomFor, if_neg hlong, List.take_zero, List.append_nil,
      Option.map_some, Nat.zero_sub]

namespace Session

/-- A session that was started on a connection, and has handled messages and run on streams since,
with whatever providers. -/
inductive Reachable (settingsKey : String) (wire : Wire) : Session → Prop
  | start : Reachable settingsKey wire { context := { settingsKey }, wire }
  | handle {x : Session} (hx : Reachable settingsKey wire x) (r : Resources) (m : Message) :
    Reachable settingsKey wire (x.handle r m).session
  | run {x : Session} (hx : Reachable settingsKey wire x) (world : Nat → Resources)
    (stream : ByteStream) : Reachable settingsKey wire (x.runOver world stream).session

/-- Nothing waits to be written, unless nothing can be written any more. -/
structure Drained (x : Session) : Prop where
  deliveries : x.wire.deliveries = []
  outbox : x.context.outbox = [] ∨ x.wire.room = some 0

theorem handle_drained (r : Resources) {x : Session} (hx : x.Drained) (m : Message) :
    (x.handle r m).session.Drained where
  deliveries := handle_wire (P := fun w => w.deliveries = [])
    (fun _ bytes hw => (Wire.write_of_no_deliveries hw bytes).1) r hx.deliveries m
  outbox := by
    obtain ⟨fault, hanswered, hhandle⟩ | ⟨-, hhandle⟩ := handle_cases r x m
    · rw [hhandle]
      exact .inr (Wire.writeAll_of_no_deliveries hx.deliveries hanswered)
    · rw [hhandle]
      exact .inl rfl

theorem finish_drained {x : Session} (hx : x.Drained) : x.finish.session.Drained := by
  unfold finish Wire.close
  cases x.wire.closeFault <;> exact ⟨hx.deliveries, hx.outbox⟩

theorem step_drained (r : Resources) {x : Session} (hx : x.Drained) (stream : ByteStream) :
    (x.step r stream).session.Drained := by
  cases hread : Frame.read stream with
  | error fault =>
    simp only [step, hread]
    exact ⟨hx.deliveries, hx.outbox⟩
  | ok next =>
    obtain _ | ⟨payload, rest⟩ := next
    · simp only [step, hread]
      exact ⟨hx.deliveries, hx.outbox⟩
    · have hhandle := handle_drained r hx (Message.ofBytes payload)
      rw [step_of_frame hread, Step.after]
      split
      · exact hhandle
      · split_ifs
        · exact finish_drained hhandle
        · exact hhandle

theorem Reachable.drained {settingsKey : String} {wire : Wire} (hwire : wire.deliveries = [])
    {x : Session} (hx : Reachable settingsKey wire x) : x.Drained := by
  induction hx with
  | start => exact ⟨hwire, .inl rfl⟩
  | handle _ r m ih => exact handle_drained r ih m
  | run _ world stream ih =>
    exact serve_preserves (P := Drained) (fun r _ rest hy => step_drained r hy rest) _ world ih
      stream

theorem handle_wire_of_declines {x : Session} {r : Resources} {m : Message}
    (h : x.context.Declines r m) :
    (x.handle r m).session.wire =
      (x.wire.writeAll (((x.context.accept r m).result.map Response.toJson).toList ++
        x.context.outbox.map Notification.toJson)).1 := by
  have hqueued : (x.context.accept r m).context.outbox = x.context.outbox := by
    rw [Context.accept_of_declines h]
    cases m <;> rfl
  obtain ⟨fault, hanswered, hhandle⟩ | ⟨hanswered, hhandle⟩ := handle_cases r x m
  · rw [hhandle, Wire.writeAll_append_of_error hanswered]
  · rw [hhandle, Wire.writeAll_append_of_ok hanswered, hqueued]

/-- A message that is answered with an error, dropped, or handled without success leaves a session
as it was, but for the id of a request, and for what was waiting to be written before. Of what the
server writes, nothing is there because of the message but its response; and on a connection that
never takes anything again after a failure, nothing else is written at all. -/
theorem handle_of_declines {settingsKey : String} {wire : Wire} {x : Session}
    (hx : Reachable settingsKey wire x) {r : Resources} {m : Message}
    (h : x.context.Declines r m) :
    let turn := x.context.accept r m
    let response := (turn.result.map Response.toJson).toList
    let y := (x.handle r m).session
    turn.context = x.context.note m ∧
    (y.context = x.context.note m ∨ y.context = { x.context.note m with outbox := [] }) ∧
    y.wire = (x.wire.writeAll (response ++ x.context.outbox.map Notification.toJson)).1 ∧
    (wire.deliveries = [] → y.wire = (x.wire.writeAll response).1) := by
  intro turn response y
  have hturn : turn.context = x.context.note m := Context.accept_of_declines h
  have hwire := handle_wire_of_declines h
  refine ⟨hturn, ?_, hwire, fun hdeliveries => ?_⟩
  · obtain ⟨fault, -, hhandle⟩ | ⟨-, hhandle⟩ := handle_cases r x m
    · rw [show y = _ from congrArg Progress.session hhandle]
      exact .inl hturn
    · rw [show y = _ from congrArg Progress.session hhandle]
      exact .inr (congrArg (fun c : Context => { c with outbox := [] }) hturn)
  · obtain ⟨hplain, houtbox | hroom⟩ := hx.drained hdeliveries
    · rw [show y.wire = _ from hwire, houtbox, List.map_nil, List.append_nil]
    · rw [show y.wire = _ from hwire, Wire.writeAll_of_no_room hplain hroom,
        Wire.writeAll_of_no_room hplain hroom]

/-- A document is opened, and its diagnosis fails. -/
theorem handle_of_declines_opened :
    let r : Resources :=
      { symbols := .empty
        diagnostics := { diagnose := fun _ _ => { result := .error (.delegate "busy") } }
        readText := fun _ => .ok "" }
    let x := ((fresh "yara").handle r (.request ⟨.number 1, "initialize", none⟩)).session
    let n : Notification := ⟨"textDocument/didOpen", some (.object [("textDocument", .object
      [("uri", .string "file:///a.yar"), ("languageId", .string "yara"), ("version", .nat 1),
        ("text", .string "rule a")])])⟩
    x.context.state = .initialized ∧
      (x.context.notification r .didOpen (n.params.getD .null)).result = .error (.delegate "busy") ∧
      (x.context.accept r (.notification n)).context = x.context ∧
      (x.handle r (.notification n)).session.wire = x.wire := by
  intro r x n
  have hx : Reachable "yara" {} x := .handle .start r _
  have hstate : x.context.state = .initialized := handle_state _ _
  have hfault : (x.context.notification r .didOpen (n.params.getD .null)).result =
      .error (.delegate "busy") := by rfl
  obtain ⟨hcontext, -, -, hwire⟩ := handle_of_declines hx (.failed (by rfl) hfault)
  exact ⟨hstate, hfault, hcontext, hwire rfl⟩

end Session

end RuleServer
