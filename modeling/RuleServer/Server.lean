import RuleServer.Capability.Compiler
import RuleServer.Listener.Basic

/-!
The server: a listener at the configured address, with the configured services, until it is told to
stop.
-/

namespace RuleServer

namespace ServerConfig

def bind (c : ServerConfig) (host : Host) : Except Fault SocketAddress :=
  match host.network.bind c.listener.address with
  | .ok address => .ok address
  | .error fault => .error (.bind c.listener.address fault)

/-- What the sessions of a server share. -/
def resources (services : Services) (host : Host) : Resources :=
  { toServices := services, readText := host.files.readText }

def startLine : LogLine :=
  (LogLine.info "Starting YARA language server...").under .server

def listenLine (address : SocketAddress) : LogLine :=
  (LogLine.info ("listening on " ++ address.text)).under .listener

def endLine : LogLine :=
  (LogLine.info "YARA language server shutting down").under .server

def serve (c : ServerConfig) (host : Host) (actions : List Listener.Action) :
    Except Fault Unit × List LogLine :=
  let (services, log) := Services.ofConfig c.diagnostics host
  match c.bind host with
  | .error fault => (.error fault, startLine :: log)
  | .ok address =>
    let listener : Listener := { resources := resources services host, settingsKey := c.settingsKey }
    let (listener, lines) := listener.actAll actions
    (.ok (), startLine :: log ++ listenLine address :: lines ++ [listener.stopLine, endLine])

end ServerConfig

end RuleServer
