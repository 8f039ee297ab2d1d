import RuleServer.Capability.Provider
import RuleServer.Rpc.Message
import RuleServer.Session.Settings
import RuleServer.Session.State

/-!
What a session remembers from message to message, and what happens while a message is handled.
-/

namespace RuleServer

/-- What a provider was asked, and what a diagnosis gave. -/
inductive Consultation
  | symbols
  | diagnosis (uri text : String) (result : Except Fault (List Diagnostic))

/-- What happens in a session besides its messages. -/
inductive Event
  | logged (line : LogLine)
  | moved (source target : SessionState)
  | consulted (consultation : Consultation)

namespace Event

def lines : Event → List LogLine
  | logged line => [line]
  | moved source target =>
    let change := source.text ++ " -> " ++ target.text
    (if source.canMoveTo target then [] else [.warn ("unexpected session transition " ++ change)]) ++
      [.debug ("session " ++ change)]
  | consulted _ => []

def error (text : String) : Event := logged (.error text)

def warn (text : String) : Event := logged (.warn text)

def info (text : String) : Event := logged (.info text)

def debug (text : String) : Event := logged (.debug text)

end Event

structure Context where
  /-- The key of this server's settings among all of a client's. -/
  settingsKey : String
  state : SessionState := .uninitialized
  root : Option Path := none
  config : Members := []
  lastId : Option RequestId := none
  handshake : Bool := false
  exitCode : Option Nat := none
  /-- The notifications that wait to be written. -/
  outbox : List Notification := []

/-- A result, with the context after it and what happened on the way. -/
structure Turn (α : Type) where
  context : Context
  events : List Event := []
  result : α

namespace Context

def settings (c : Context) : Settings :=
  .ofMembers c.config

/-- Move to a state, whether or not the life of a session has this change. -/
def move (c : Context) (target : SessionState) : Context × Event :=
  ({ c with state := target }, .moved c.state target)

def notify (c : Context) (method : String) (params : Json) : Context :=
  { c with outbox := c.outbox ++ [⟨method, some params⟩] }

def publishMethod : String := "textDocument/publishDiagnostics"

def publishParams (uri : String) (diagnostics : List Diagnostic) : Json :=
  .ofPairs [("uri", .string uri), ("diagnostics", .array (diagnostics.map Diagnostic.toJson))]

/-- Diagnose a document and leave the diagnostics to be published; false when the provider has none
to give. -/
def publish (r : Resources) (c : Context) (uri text : String) : Turn (Except Fault Bool) :=
  let reply := r.diagnostics.diagnose uri text
  let asked := .consulted (.diagnosis uri text reply.result) :: reply.log.map .logged
  match reply.result with
  | .error (.unavailable reason) =>
    { context := c
      events := asked ++ [.warn ("diagnostics unavailable for " ++ uri ++ ": " ++ reason)]
      result := .ok false }
  | .error fault => { context := c, events := asked, result := .error fault }
  | .ok diagnostics =>
    { context := c.notify publishMethod (publishParams uri diagnostics)
      events := asked ++ [.debug "publishing diagnostics"]
      result := .ok true }

end Context

end RuleServer
