import RuleServer.Session.Dispatch

/-!
A session on a connection: frames come in, are handled one after another, and what they give rise to
is written before the next one is read.
-/

namespace RuleServer

/-- What becomes of bytes that are written: all of them arrive, or some of them do and then there is
a fault. -/
inductive Delivery
  | whole
  | broken (arrived : Nat) (fault : IoFault)
deriving DecidableEq, Repr

/-- The writing side of a connection. -/
structure Wire where
  written : Bytes := []
  /-- What becomes of the next writes. Those after them find the room that there is. -/
  deliveries : List Delivery := []
  /-- How many more bytes can be written. -/
  room : Option Nat := none
  breakFault : IoFault := .other "broken pipe"
  closeFault : Option IoFault := none
  closed : Bool := false

namespace Wire

/-- What becomes of that many bytes where there is only room for some. -/
def roomFor (w : Wire) (length : Nat) : Delivery :=
  match w.room with
  | none => .whole
  | some n => if length ≤ n then .whole else .broken n w.breakFault

/-- What becomes of the next write, and the wire after it but for what arrives. -/
def take (w : Wire) (length : Nat) : Wire × Delivery :=
  match w.deliveries with
  | [] => ({ w with room := w.room.map (· - length) }, w.roomFor length)
  | d :: deliveries => ({ w with deliveries }, d)

def write (w : Wire) (bytes : Bytes) : Wire × Except Fault Unit :=
  let (w', delivery) := w.take bytes.length
  match delivery with
  | .whole => ({ w' with written := w.written ++ bytes }, .ok ())
  | .broken n fault => ({ w' with written := w.written ++ bytes.take n }, .error (.io fault))

def writeAll (w : Wire) : List Json → Wire × Except Fault Unit
  | [] => (w, .ok ())
  | v :: vs =>
    match w.write (Frame.ofJson v) with
    | (w, .error fault) => (w, .error fault)
    | (w, .ok ()) => w.writeAll vs

def close (w : Wire) : Wire × Except Fault Unit :=
  match w.closeFault with
  | some fault => (w, .error (.io fault))
  | none => ({ w with closed := true }, .ok ())

end Wire

structure Session where
  context : Context
  wire : Wire := {}

inductive SessionEnd
  | disconnected
  | exited (code : Nat)
deriving DecidableEq, Repr

/-- A session after some of its work, with what happened on the way. -/
structure Progress (α : Type) where
  session : Session
  events : List Event
  result : Except Fault α

namespace Session

/-- Handle a message and write what it gives. When the response cannot be written, the notifications
stay where they are. -/
def handle (r : Resources) (s : Session) (message : Message) : Progress Unit :=
  let turn := s.context.accept r message
  let (wire, answered) := s.wire.writeAll (turn.result.map Response.toJson).toList
  match answered with
  | .error fault =>
    { session := ⟨turn.context, wire⟩, events := turn.events, result := .error fault }
  | .ok () =>
    let (wire, result) := wire.writeAll (turn.context.outbox.map Notification.toJson)
    { session := ⟨{ turn.context with outbox := [] }, wire⟩, events := turn.events, result }

def conclude (s : Session) : Session × Event :=
  let (context, moved) := s.context.move .exited
  ({ s with context }, moved)

def finish (s : Session) : Progress SessionEnd :=
  match s.wire.close with
  | (wire, .error fault) => { session := { s with wire }, events := [], result := .error fault }
  | (wire, .ok ()) =>
    { session := { s with wire }
      events := []
      result := .ok (.exited (s.context.exitCode.getD 1)) }

/-- What one more message of a stream leads to. -/
inductive Step
  | goOn (session : Session) (rest : ByteStream) (events : List Event)
  | ended (progress : Progress SessionEnd)

def step (r : Resources) (s : Session) (stream : ByteStream) : Step :=
  match Frame.read stream with
  | .error fault =>
    let (s, moved) := s.conclude
    .ended { session := s, events := [moved], result := .error (.ofRead fault) }
  | .ok none =>
    let (s, moved) := s.conclude
    .ended
      { session := s
        events := [.info "client has closed the connection", moved]
        result := .ok .disconnected }
  | .ok (some (payload, rest)) =>
    let done := s.handle r (Message.ofBytes payload)
    match done.result with
    | .error fault =>
      .ended { session := done.session, events := done.events, result := .error fault }
    | .ok () =>
      if done.session.context.state.isExited then
        let last := done.session.finish
        .ended { last with events := done.events ++ last.events }
      else .goOn done.session rest done.events

/-- Serve at most `fuel` messages of a stream, each with the resources of its time. -/
def serve : (fuel : Nat) → (world : Nat → Resources) → Session → ByteStream → Progress SessionEnd
  | 0, _, s, _ => { session := s, events := [], result := .ok .disconnected }
  | fuel + 1, world, s, stream =>
    match s.step (world 0) stream with
    | .ended progress => progress
    | .goOn s rest events =>
      let last := serve fuel (fun k => world (k + 1)) s rest
      { last with events := events ++ last.events }

/-- Serve a stream until the client exits or the stream ends, where the providers and the files may
be others for every message. Every frame takes bytes, so there are fewer messages than bytes. -/
def runOver (world : Nat → Resources) (s : Session) (stream : ByteStream) : Progress SessionEnd :=
  serve (stream.bytes.length + 1) world s stream

def run (r : Resources) (s : Session) (stream : ByteStream) : Progress SessionEnd :=
  s.runOver (fun _ => r) stream

end Session

end RuleServer
