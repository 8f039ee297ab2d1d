import RuleServer.Cli.Arguments
import RuleServer.Cli.LogFilter
import RuleServer.Config.File
import RuleServer.Server

/-!
The program: from its command line to its exit code, and all that it writes.
-/

namespace RuleServer

/-- What the program leaves behind. -/
structure Outcome where
  code : Nat
  output : String := ""
  error : String := ""
  /-- The lines of the log that are written. -/
  log : List LogLine := []
  /-- Whether the lines of the log are structured. -/
  structured : Bool := false

/-- A failure of the program: what it was about, and the causes from the outside in. -/
structure Failure where
  subject : String
  causes : List String

namespace Failure

def indented (first rest : String) (cause : String) : String :=
  first ++ ("\n" ++ rest).intercalate (cause.splitOn "\n") ++ "\n"

def numbered : Nat → List String → String
  | _, [] => ""
  | n, cause :: causes =>
    indented ("    " ++ decimalText n ++ ": ") "       " cause ++ numbered (n + 1) causes

def causesText : List String → String
  | [] => ""
  | [cause] => "\nCaused by:\n" ++ indented "    " "    " cause
  | causes => "\nCaused by:\n" ++ numbered 0 causes

def message (f : Failure) : String :=
  "Error: " ++ f.subject ++ "\n" ++ causesText f.causes

def of (subject : String) (fault : Fault) : Failure :=
  ⟨subject, fault.causes⟩

end Failure

namespace LogValue

def toJson : LogValue → Json
  | text value => .string value
  | number value => .nat value
  | flag value => .bool value

end LogValue

namespace LogLine

def toJson (line : LogLine) : Json :=
  .ofPairs
    [("level", .string line.level.name),
     ("fields", .ofPairs (("message", .string line.text) ::
       line.details.map fun (name, value) => (name, value.toJson))),
     ("target", .string line.topic.name)]

end LogLine

namespace Arguments

/-- The configuration file that is asked for, or the first that is found. -/
def loadConfig (a : Arguments) (host : Host) : Except Failure ServerConfig × List LogLine :=
  match a.config with
  | some path =>
    let loaded := ServerConfig.readFrom host.files.readText (.ofText path)
    (loaded.mapError (.of ("failed to load config from " ++ path)), [])
  | none =>
    let (loaded, log) := ServerConfig.load host.files (.ofEnvironment host.valueOf?)
    (loaded.mapError (.of "failed to load configuration"), log)

/-- The command line takes precedence over the configuration. -/
def override (a : Arguments) (c : ServerConfig) : ServerConfig :=
  { c with listener :=
      { host := a.host.getD c.listener.host, port := a.port.getD c.listener.port } }

def checked (c : ServerConfig) : Except Failure ServerConfig :=
  match c.validate with
  | .ok () => .ok c
  | .error fault => .error (.of "invalid configuration" (.config fault))

def configLine (c : ServerConfig) : LogLine :=
  (((LogLine.debug "configuration loaded").under .program).detail
    "endpoint" (.text c.listener.address)).detail "diagnostics" (.flag c.diagnostics.enabled)

def prepare (a : Arguments) (host : Host) : Except Failure ServerConfig × List LogLine :=
  let (loaded, log) := a.loadConfig host
  match loaded.bind fun c => checked (a.override c) with
  | .error failure => (.error failure, log)
  | .ok c => (.ok c, log ++ [configLine c])

/-- Serve until interrupted, while clients come and go as given. -/
def serve (a : Arguments) (host : Host) (actions : List Listener.Action) :
    Except Failure Unit × List LogLine :=
  match a.prepare host with
  | (.error failure, log) => (.error failure, log)
  | (.ok c, log) =>
    let (result, lines) := c.serve host actions
    (result.mapError (.of "server error"), log ++ lines)

def startLine : LogLine :=
  ((LogLine.info ("starting " ++ Page.programName)).under .program).detail
    "version" (.text Page.programVersion)

def endLine : LogLine :=
  (LogLine.info (Page.programName ++ " shutdown complete")).under .program

def run (a : Arguments) (host : Host) (actions : List Listener.Action) : Outcome :=
  let written (lines : List LogLine) := lines.filter (LogFilter.ofText a.logLevel).writes
  match a.serve host actions with
  | (.ok (), lines) =>
    { code := 0, log := written (startLine :: lines ++ [endLine]), structured := a.logJson }
  | (.error failure, lines) =>
    { code := 1, error := failure.message, log := written (startLine :: lines)
      structured := a.logJson }

end Arguments

def runProgram (host : Host) (args : List String) (actions : List Listener.Action) : Outcome :=
  match Arguments.read host.environment args with
  | .ok a => a.run host actions
  | .error (.page page) => { code := 0, output := page.text host.environment }
  | .error (.fault fault) => { code := 2, error := fault.message }

end RuleServer
