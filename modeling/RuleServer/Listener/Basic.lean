import RuleServer.Listener.Registry
import RuleServer.Session.Run

/-!
A listener and its connections. Each connection has a session of its own; the sessions take turns in
any order, and share only the services and the count of live connections.
-/

namespace RuleServer

/-- How far a connection has come. -/
inductive Phase
  | serving (session : Session) (input : ByteStream)
  /-- The session is over, and the connection still counts. -/
  | closing (session : Session) (result : Except Fault SessionEnd)
  | gone (session : Session) (result : Except Fault SessionEnd)

structure Connection where
  id : UInt64
  phase : Phase

namespace Connection

def session (c : Connection) : Session :=
  match c.phase with
  | .serving session _ => session
  | .closing session _ => session
  | .gone session _ => session

def isLive (c : Connection) : Bool :=
  match c.phase with
  | .gone _ _ => false
  | _ => true

def result? (c : Connection) : Option (Except Fault SessionEnd) :=
  match c.phase with
  | .serving _ _ => none
  | .closing _ result => some result
  | .gone _ result => some result

end Connection

def Session.endLine (result : Except Fault SessionEnd) : LogLine :=
  let line : LogLine := match result with
    | .ok (.exited 0) => .info "session ended cleanly"
    | .ok (.exited code) =>
      (LogLine.info "session ended without shutdown").detail "code" (.number code)
    | .ok .disconnected => .info "client disconnected"
    | .error fault => .error ("session failed: " ++ fault.message)
  line.under .listener

structure Listener where
  resources : Resources
  settingsKey : String
  registry : Registry := {}
  nextId : UInt64 := 1
  /-- All connections so far, the oldest first. -/
  connections : List Connection := []

namespace Listener

/-- What can happen at a listener: a client comes, with all that it will send and a way to write to
it, or the session of a connection takes its next step. -/
inductive Action
  | accept (input : ByteStream) (wire : Wire := {})
  | advance (index : Nat)

def accept (l : Listener) (input : ByteStream) (wire : Wire := {}) : Listener × List LogLine :=
  let registry := l.registry.register
  let session : Session := { context := { settingsKey := l.settingsKey }, wire }
  ({ l with
      registry
      nextId := l.nextId + 1
      connections := l.connections ++ [⟨l.nextId, .serving session input⟩] },
    [registry.registered, (LogLine.info "client connected").under .listener])

/-- The next step of a connection: a message, or after the last one its release. -/
def turn (r : Resources) : Phase → Phase × List LogLine
  | .serving session input =>
    match session.step r input with
    | .goOn session rest events => (.serving session rest, events.flatMap Event.lines)
    | .ended progress =>
      (.closing progress.session progress.result,
        progress.events.flatMap Event.lines ++ [Session.endLine progress.result])
  | .closing session result => (.gone session result, [])
  | .gone session result => (.gone session result, [])

def settle (r : Registry) : Phase → Registry × List LogLine
  | .closing _ _ => (r.release, [r.release.released])
  | _ => (r, [])

def advance (l : Listener) (index : Nat) : Listener × List LogLine :=
  match l.connections[index]? with
  | none => (l, [])
  | some c =>
    let (phase, lines) := turn l.resources c.phase
    let (registry, settled) := settle l.registry c.phase
    ({ l with registry, connections := l.connections.set index { c with phase } }, lines ++ settled)

def act (l : Listener) : Action → Listener × List LogLine
  | .accept input wire => l.accept input wire
  | .advance index => l.advance index

def actAll (l : Listener) : List Action → Listener × List LogLine
  | [] => (l, [])
  | a :: actions =>
    let (l, lines) := l.act a
    let (l, more) := l.actAll actions
    (l, lines ++ more)

def stopLine (l : Listener) : LogLine :=
  l.registry.stopLine

end Listener

end RuleServer
