import RuleServer.Cli.Program
import Std.Async.Signal
import Std.Async.TCP

/-!
The command line program. It reads the environment and the configuration files, listens, and moves
bytes between its clients and their sessions. It starts no programs, so its host has no compiler.
-/

namespace RuleServer

namespace Main

open Std.Async

def ioFault : IO.Error → IoFault
  | .noFileOrDirectory _ _ _ => .noSuchFile
  | .permissionDenied _ _ _ => .permissionDenied
  | .inappropriateType _ _ _ => .isDirectory
  | error => .other error.toString

def attempt {α : Type} (action : IO α) : IO (Except IoFault α) := do
  try
    return .ok (← action)
  catch error =>
    return .error (ioFault error)

def readBytes (path : Path) : IO (Except IoFault Bytes) :=
  attempt do return (← IO.FS.readBinFile path.display).toList

def variableNames : List String :=
  ["HOME", "XDG_CONFIG_HOME"] ++ CliOption.all.filterMap CliOption.variableName?

def environment : IO (List (String × String)) := do
  let values ← variableNames.mapM fun name => do
    return (← IO.getEnv name).map (name, ·)
  return values.filterMap id

/-- The host as far as the configuration needs it: the files that may hold it. -/
def readHost (environment : List (String × String)) (config : Option String) : IO Host := do
  let locations := ServerConfig.Locations.ofEnvironment fun name => environment.lookup name
  let current := Files.placeOf (← IO.currentDir).toString
  let start : Files := { Files.empty.add current .directory with current }
  let paths := (config.map Path.ofText).toList ++ locations.candidates
  let files ← paths.foldlM (fun files path => do
    let place := files.placeAt path
    match ← readBytes path with
    | .ok content => return files.add place (.file content false)
    | .error .isDirectory => return files.add place .directory
    | .error _ => return files) start
  return { files, environment }

structure Logger where
  filter : LogFilter
  structured : Bool

def Logger.write (l : Logger) (lines : List LogLine) : IO Unit :=
  lines.forM fun line => do
    if l.filter.writes line then
      IO.eprintln (if l.structured then line.toJson.compact
        else line.level.name ++ " " ++ line.topic.name ++ ": " ++ line.text)

def systemAddress : SocketAddress → Std.Net.SocketAddress
  | .v4 host port =>
    let part (i : Nat) := (host.octets[i]?.getD 0).toUInt8
    .v4 ⟨.ofParts (part 0) (part 1) (part 2) (part 3), port.toUInt16⟩
  | .v6 host _ port =>
    let part (i : Nat) := (host.groups[i]?.getD 0).toUInt16
    .v6 ⟨.ofParts (part 0) (part 1) (part 2) (part 3) (part 4) (part 5) (part 6) (part 7),
      port.toUInt16⟩

/-- The file that a message may ask for. -/
def document? (payload : Bytes) : Option Path := do
  let message ← (Json.parse payload).toOption
  let params ← message.member? "params"
  let uri := ((params.member? "textDocument").bind fun d => d.member? "uri").or <|
    match params.member? "arguments" with
    | some (.array (uri :: _)) => some uri
    | _ => none
  (localFile (← (← uri).string?)).toOption

/-- The session's resources while the next message is handled. -/
def resourcesFor (services : Services) (stream : ByteStream) : IO Resources := do
  let document := match Frame.read stream with
    | .ok (some (payload, _)) => document? payload
    | _ => none
  match document with
  | none => return { toServices := services, readText := fun _ => .error .noSuchFile }
  | some path =>
    let content ← readBytes path
    let text : Except IoFault String := content.bind fun bytes =>
      match textOfUtf8? bytes with
      | some text => .ok text
      | none => .error .notUtf8
    return { toServices := services
             readText := fun p => if p = path then text else .error .noSuchFile }

/-- The end of a stream that goes on later. -/
def notYet : IoFault := .other "waiting for input"

/-- Whether a step could not be made for lack of bytes. -/
def isWaiting : Session.Step → Bool
  | .ended progress =>
    match progress.result with
    | .error (.io fault) => fault = notYet
    | _ => false
  | .goOn _ _ _ => false

def flush (client : TCP.Socket.Client) (s : Session) : Async Session := do
  if s.wire.written ≠ [] then client.send (ByteArray.mk s.wire.written.toArray)
  return { s with wire := { s.wire with written := [] } }

/-- Serve one client to the end. -/
partial def serveClient (logger : Logger) (services : Services) (client : TCP.Socket.Client)
    (s : Session) (buffer : Bytes) (closed : Bool) : Async (Except Fault SessionEnd) := do
  let stream : ByteStream := { bytes := buffer, failure := if closed then none else some notYet }
  let resources ← resourcesFor services stream
  let step := s.step resources stream
  if isWaiting step then
    match ← client.recv? 65536 with
    | some bytes => serveClient logger services client s (buffer ++ bytes.toList) false
    | none => serveClient logger services client s buffer true
  else
    match step with
    | .goOn s rest events =>
      logger.write (events.flatMap Event.lines)
      serveClient logger services client (← flush client s) rest.bytes closed
    | .ended progress =>
      logger.write (progress.events.flatMap Event.lines)
      let s ← flush client progress.session
      if s.wire.closed then client.shutdown
      return progress.result

def handleClient (logger : Logger) (services : Services) (settingsKey : String)
    (registry : IO.Ref Registry) (client : TCP.Socket.Client) : Async Unit := do
  let session : Session := { context := { settingsKey } }
  let result ← try
      serveClient logger services client session [] false
    catch error =>
      pure (.error (.io (ioFault error)))
  logger.write [Session.endLine result]
  registry.modify Registry.release
  logger.write [(← registry.get).released]

/-- Take clients as they come. -/
partial def acceptClients (logger : Logger) (services : Services) (settingsKey : String)
    (registry : IO.Ref Registry) (server : TCP.Socket.Server) : Async Unit := do
  let client ← server.accept
  registry.modify Registry.register
  logger.write
    [(← registry.get).registered, (LogLine.info "client connected").under .listener]
  background (handleClient logger services settingsKey registry client)
  acceptClients logger services settingsKey registry server

def listen (c : ServerConfig) : IO (Except Fault (TCP.Socket.Server × SocketAddress)) := do
  match Network.resolve? c.listener.address with
  | none => return .error (.bind c.listener.address Network.lookupFailure)
  | some address =>
    match ← attempt (do
      let server ← TCP.Socket.Server.mk
      server.bind (systemAddress address)
      server.listen 1024
      return server) with
    | .ok server => return .ok (server, address)
    | .error fault => return .error (.bind c.listener.address fault)

def serve (logger : Logger) (c : ServerConfig) (host : Host) : IO (Except Failure Unit) := do
  let (services, log) := Services.ofConfig c.diagnostics host
  logger.write (ServerConfig.startLine :: log)
  match ← listen c with
  | .error fault => return .error (.of "server error" fault)
  | .ok (server, address) =>
    logger.write [ServerConfig.listenLine address]
    let registry ← IO.mkRef ({} : Registry)
    Async.block (background (acceptClients logger services c.settingsKey registry server))
    let interrupt ← Signal.Waiter.mk .sigint false
    discard (← interrupt.wait).block
    logger.write [(← registry.get).stopLine, ServerConfig.endLine]
    return .ok ()

def run (a : Arguments) (environment : List (String × String)) : IO UInt32 := do
  let logger : Logger := { filter := .ofText a.logLevel, structured := a.logJson }
  logger.write [Arguments.startLine]
  let host ← readHost environment a.config
  let (prepared, log) := a.prepare host
  logger.write log
  let result ← match prepared with
    | .error failure => pure (.error failure)
    | .ok c => serve logger c host
  match result with
  | .ok () =>
    logger.write [Arguments.endLine]
    return 0
  | .error failure =>
    IO.eprint failure.message
    return 1

end Main

end RuleServer

def main (args : List String) : IO UInt32 := do
  let environment ← RuleServer.Main.environment
  match RuleServer.Arguments.read environment args with
  | .ok a => RuleServer.Main.run a environment
  | .error (.page page) =>
    IO.print (page.text environment)
    return 0
  | .error (.fault fault) =>
    IO.eprint fault.message
    return 2
