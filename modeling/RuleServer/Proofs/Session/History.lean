import Mathlib
import RuleServer.Proofs.Session.Wire

/-!
Messages that are handled one after another while the world goes on: each comes with the providers
and the files as they are at its time. A message asks at most one provider, once, and reads at most
one file, so that providers which answer differently from call to call are among them. What a
message makes a session write is an exchange: the response, if the message gets one, and then the
notifications that were queued meanwhile.
-/

namespace RuleServer

/-- What one message makes a session write. -/
structure Exchange where
  response : Option Response
  notifications : List Notification

/-- The values of an exchange in the order in which they are written. -/
def Exchange.values (e : Exchange) : List Json :=
  (e.response.map Response.toJson).toList ++ e.notifications.map Notification.toJson

/-- A message, with the providers and the files as they are when it comes. -/
structure Occasion where
  resources : Resources
  message : Message

/-- An occasion, with the session that it finds. -/
structure Visit extends Occasion where
  session : Session

namespace Visit

def done (v : Visit) : Progress Unit :=
  v.session.handle v.resources v.message

/-- What the message makes the session write where everything can be written. -/
def exchange (v : Visit) : Exchange :=
  let turn := v.session.context.accept v.resources v.message
  ⟨turn.result, turn.context.outbox⟩

theorem done_open (v : Visit) (h : v.session.wire.Open) :
    v.done.result = .ok () ∧ v.done.session.context.outbox = [] ∧ v.done.session.wire.Open ∧
      v.done.session.wire.written =
        v.session.wire.written ++ v.exchange.values.flatMap Frame.ofJson := by
  obtain ⟨w, hanswered, hopen, hwritten⟩ := Wire.writeAll_open h
    ((v.session.context.accept v.resources v.message).result.map Response.toJson).toList
  obtain ⟨w', hnotified, hopen', hwritten'⟩ := Wire.writeAll_open hopen
    ((v.session.context.accept v.resources v.message).context.outbox.map Notification.toJson)
  simp only [done, Session.handle, hanswered, hnotified]
  refine ⟨trivial, trivial, hopen', ?_⟩
  rw [hwritten', hwritten, exchange, Exchange.values, List.flatMap_append, List.append_assoc]

end Visit

namespace Session

/-- A session before its first message, on a connection that takes all that is written. -/
def fresh (settingsKey : String) : Session where
  context := { settingsKey }

theorem fresh_open (settingsKey : String) : (fresh settingsKey).wire.Open :=
  ⟨by simp [fresh], rfl⟩

/-- The session after occasions, whether or not what they gave could be written. -/
def attend (x : Session) (occasions : List Occasion) : Session :=
  occasions.foldl (fun y o => (y.handle o.resources o.message).session) x

def visits : Session → List Occasion → List Visit
  | _, [] => []
  | x, o :: occasions => ⟨o, x⟩ :: visits (x.handle o.resources o.message).session occasions

@[simp] theorem attend_nil (x : Session) : x.attend [] = x := rfl

@[simp] theorem attend_cons (x : Session) (o : Occasion) (occasions : List Occasion) :
    x.attend (o :: occasions) = (Visit.mk o x).done.session.attend occasions := rfl

@[simp] theorem visits_nil (x : Session) : x.visits [] = [] := rfl

@[simp] theorem visits_cons (x : Session) (o : Occasion) (occasions : List Occasion) :
    x.visits (o :: occasions) = ⟨o, x⟩ :: (Visit.mk o x).done.session.visits occasions := rfl

@[simp] theorem attend_concat (x : Session) (occasions : List Occasion) (o : Occasion) :
    x.attend (occasions ++ [o]) = (Visit.mk o (x.attend occasions)).done.session := by
  simp [attend, Visit.done]

@[simp] theorem visits_concat (x : Session) (occasions : List Occasion) (o : Occasion) :
    x.visits (occasions ++ [o]) = x.visits occasions ++ [⟨o, x.attend occasions⟩] := by
  induction occasions generalizing x with
  | nil => rfl
  | cons o' occasions ih => exact congrArg _ (ih _)

theorem visits_take (x : Session) (occasions : List Occasion) (k : Nat) :
    x.visits (occasions.take k) = (x.visits occasions).take k := by
  induction occasions generalizing x k with
  | nil => simp
  | cons o occasions ih =>
    cases k with
    | zero => simp
    | succ k => simp [ih]

theorem visits_getElem? (x : Session) (occasions : List Occasion) (k : Nat) :
    (x.visits occasions)[k]? =
      occasions[k]?.map fun o => ⟨o, x.attend (occasions.take k)⟩ := by
  induction occasions generalizing x k with
  | nil => simp
  | cons o occasions ih =>
    cases k with
    | zero => simp
    | succ k => simp [ih]

/-- What every visit preserves holds after all of them. -/
theorem attend_preserves {P : Session → Prop} (hstep : ∀ v : Visit, P v.session → P v.done.session)
    {x : Session} (hx : P x) (occasions : List Occasion) : P (x.attend occasions) := by
  induction occasions using List.reverseRecOn with
  | nil => exact hx
  | append_singleton occasions o ih =>
    rw [attend_concat]
    exact hstep ⟨o, x.attend occasions⟩ ih

/-- Where everything can be written, occasions have their exchanges written in turn. -/
theorem attend_open {x : Session} (h : x.wire.Open) (houtbox : x.context.outbox = [])
    (occasions : List Occasion) :
    (x.attend occasions).context.outbox = [] ∧ (x.attend occasions).wire.Open ∧
      (x.attend occasions).wire.written = x.wire.written ++
        ((x.visits occasions).flatMap fun v => v.exchange.values).flatMap Frame.ofJson := by
  induction occasions using List.reverseRecOn with
  | nil => simp [h, houtbox]
  | append_singleton occasions o ih =>
    obtain ⟨-, hopen, hwritten⟩ := ih
    obtain ⟨-, hdrained, hopen', hwritten'⟩ := Visit.done_open ⟨o, x.attend occasions⟩ hopen
    rw [attend_concat, visits_concat]
    refine ⟨hdrained, hopen', ?_⟩
    rw [hwritten', hwritten]
    simp only [List.flatMap_append, List.flatMap_singleton, List.append_assoc]

/-- Handle messages one after another, until writing fails. -/
def handleAll : Session → List Occasion → Progress Unit
  | x, [] => { session := x, events := [], result := .ok () }
  | x, o :: occasions =>
    let done := x.handle o.resources o.message
    match done.result with
    | .error _ => done
    | .ok () =>
      let last := handleAll done.session occasions
      { last with events := done.events ++ last.events }

theorem handleAll_of_error {x : Session} {o : Occasion} {fault : Fault}
    (h : (Visit.mk o x).done.result = .error fault) (occasions : List Occasion) :
    x.handleAll (o :: occasions) = (Visit.mk o x).done := by
  change (x.handle o.resources o.message).result = _ at h
  simp only [handleAll, h]
  rfl

theorem handleAll_of_ok {x : Session} {o : Occasion} (h : (Visit.mk o x).done.result = .ok ())
    (occasions : List Occasion) :
    x.handleAll (o :: occasions) =
      let last := (Visit.mk o x).done.session.handleAll occasions
      { last with events := (Visit.mk o x).done.events ++ last.events } := by
  change (x.handle o.resources o.message).result = _ at h
  simp only [handleAll, h]
  rfl

/-- Until writing fails, there is no difference. -/
theorem handleAll_eq_attend (x : Session) (occasions : List Occasion) :
    ∃ k, x.attend (occasions.take k) = (x.handleAll occasions).session ∧
      (x.visits (occasions.take k)).flatMap (fun v => v.done.events) =
        (x.handleAll occasions).events := by
  induction occasions generalizing x with
  | nil => exact ⟨0, rfl, rfl⟩
  | cons o occasions ih =>
    cases hresult : (Visit.mk o x).done.result with
    | error fault =>
      rw [handleAll_of_error hresult]
      exact ⟨1, by simp⟩
    | ok _ =>
      obtain ⟨k, hsession, hevents⟩ := ih (Visit.mk o x).done.session
      rw [handleAll_of_ok hresult]
      refine ⟨k + 1, hsession, ?_⟩
      rw [List.take_succ_cons, visits_cons, List.flatMap_cons, hevents]

theorem handleAll_open {x : Session} (h : x.wire.Open) (occasions : List Occasion) :
    (x.handleAll occasions).session = x.attend occasions ∧
      (x.handleAll occasions).result = .ok () := by
  induction occasions generalizing x with
  | nil => exact ⟨rfl, rfl⟩
  | cons o occasions ih =>
    obtain ⟨hresult, -, hopen, -⟩ := Visit.done_open ⟨o, x⟩ h
    rw [handleAll_of_ok hresult]
    exact ih hopen

end Session

end RuleServer
