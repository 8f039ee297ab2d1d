import RuleServer.Decode.Basic
import RuleServer.Host.Path
import RuleServer.Rpc.Frame
import RuleServer.Rule.Report
import RuleServer.Uri.Url

/-!
Everything that can go wrong in the server, with its wording.
-/

namespace RuleServer

/-- Why a configuration that could be read is not acceptable. -/
inductive ConfigFault
  | emptyHost
  | zeroPort
  | emptyNamespace
  | emptyCommand
  | zeroTimeout (command : String)
deriving DecidableEq, Repr

namespace ConfigFault

def message : ConfigFault → String
  | emptyHost => "listener host cannot be empty"
  | zeroPort => "listener port must be non-zero"
  | emptyNamespace => "settings_namespace cannot be empty"
  | emptyCommand => "compiler command cannot be empty"
  | zeroTimeout command => "timeout_seconds must be positive for compiler '" ++ command ++ "'"

end ConfigFault

/-- Why the text of a configuration file is not a configuration. -/
inductive TomlFault
  | malformed
  | shape (fault : DecodeFault)
deriving DecidableEq, Repr

namespace TomlFault

def message : TomlFault → String
  | malformed => "malformed document"
  | shape fault => fault.message

end TomlFault

inductive Fault
  | framing (fault : FrameFault)
  | uri (fault : UriFault)
  | report (fault : ReportFault)
  | unavailable (reason : String)
  | delegate (reason : String)
  | timeout (seconds : Nat)
  | spawn (command : String) (fault : IoFault)
  | bind (address : String) (fault : IoFault)
  | configMissing (path : Path)
  | config (fault : ConfigFault)
  | io (fault : IoFault)
  | json (fault : DecodeFault)
  | toml (fault : TomlFault)
deriving DecidableEq, Repr

namespace Fault

def message : Fault → String
  | framing fault => "framing error: " ++ fault.message
  | uri fault => "invalid URI: " ++ fault.message
  | report fault => "malformed compiler result: " ++ fault.message
  | unavailable reason => "capability unavailable: " ++ reason
  | delegate reason => "capability failed: " ++ reason
  | timeout seconds => "compiler timed out after " ++ decimalText seconds ++ " seconds"
  | spawn command fault => "failed to spawn compiler '" ++ command ++ "': " ++ fault.message
  | bind address fault => "failed to bind " ++ address ++ ": " ++ fault.message
  | configMissing path => "configuration file not found: " ++ path.display
  | config fault => "invalid configuration: " ++ fault.message
  | io fault => "I/O error: " ++ fault.message
  | json fault => "JSON error: " ++ fault.message
  | toml fault => "TOML parsing error: " ++ fault.message

def inner? : Fault → Option String
  | spawn _ fault => some fault.message
  | bind _ fault => some fault.message
  | io fault => some fault.message
  | json fault => some fault.message
  | toml fault => some fault.message
  | _ => none

/-- What a fault comes from, the fault itself first. -/
def causes (f : Fault) : List String :=
  f.message :: f.inner?.toList

def ofRead : ReadFault → Fault
  | .framing fault => framing fault
  | .io fault => io fault

end Fault

end RuleServer
