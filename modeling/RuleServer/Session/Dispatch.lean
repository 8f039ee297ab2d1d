import RuleServer.Session.Handler

/-!
From messages to handlers. A request is answered exactly once, whatever becomes of it; a
notification never is.
-/

namespace RuleServer

namespace Context

def notAllowed (method : String) (state : SessionState) : RpcError :=
  .invalidRequest (method ++ " is not allowed while the session is " ++ state.text)

/-- What a request gives before it is known whose answer it is. -/
def answer (r : Resources) (c : Context) (name : String) (params : Option Json) : Turn Answer :=
  match Method.ofName? name with
  | none => { context := c, result := .error (.methodNotFound name) }
  | some (.notification _) =>
    { context := c
      result := .error (.invalidRequest (name ++ " is a notification and takes no id")) }
  | some (.request method) =>
    if method.precondition.permits c.state then c.request r method (params.getD .null)
    else { context := c, result := .error (notAllowed name c.state) }

def answerRequest (r : Resources) (c : Context) (q : Request) : Turn Response :=
  let turn := { c with lastId := some q.id }.answer r q.method q.params
  match turn.result with
  | .ok v =>
    { context := turn.context
      events := .debug "request" :: turn.events
      result := .success q.id v }
  | .error e =>
    { context := turn.context
      events := .debug "request" :: turn.events ++ [.debug ("request failed: " ++ e.display)]
      result := .failure (some q.id) e }

/-- Notifications under this name may be dropped without a word. -/
def isOptional (method : String) : Bool :=
  (afterStart? "$/".toList method.toList).isSome

def receive (r : Resources) (c : Context) (n : Notification) : Turn Unit :=
  let drop (remark : List Event) : Turn Unit := { context := c, events := remark, result := () }
  match Method.ofName? n.method with
  | none =>
    if isOptional n.method then drop []
    else drop [.debug ("dropping unknown notification '" ++ n.method ++ "'")]
  | some (.request _) =>
    drop [.debug ("dropping '" ++ n.method ++ "': it is a request and needs an id")]
  | some (.notification method) =>
    if method.precondition.permits c.state then
      let turn := c.notification r method (n.params.getD .null)
      match turn.result with
      | .ok () => { context := turn.context, events := turn.events, result := () }
      | .error fault =>
        let remark := .warn ("handling '" ++ n.method ++ "' failed: " ++ fault.message)
        { context := turn.context, events := turn.events ++ [remark], result := () }
    else
      drop [.debug ("dropping '" ++ n.method ++ "' while the session is " ++ c.state.text)]

/-- Take a message in: the response that it gets, if any. Notifications to the client are left in
the context. -/
def accept (r : Resources) (c : Context) : Message → Turn (Option Response)
  | .request q =>
    let turn := c.answerRequest r q
    { context := turn.context, events := turn.events, result := some turn.result }
  | .notification n =>
    let turn := c.receive r n
    { context := turn.context, events := turn.events, result := none }
  | .response _ => { context := c, events := [.debug "ignoring client response"], result := none }
  | .malformed id e =>
    { context := c
      events := [.warn ("malformed message: " ++ e.display)]
      result := some (.failure id e) }

end Context

end RuleServer
