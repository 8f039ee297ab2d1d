import RuleServer.Decode.Basic
import RuleServer.Fault

/-!
The configuration of the server: where it listens, and how it compiles documents.
-/

namespace RuleServer

structure ListenerConfig where
  host : String := "127.0.0.1"
  port : Nat := 8471
deriving DecidableEq, Repr

/-- How to run the rule compiler. -/
structure CompilerConfig where
  command : String
  /-- The arguments, in which placeholders stand for the files. -/
  args : List String := ["\x7binput\x7d", "\x7boutput\x7d"]
  /-- What is added to the environment, in the order of names. -/
  env : List (String × String) := []
  timeoutSeconds : Nat := 30
deriving DecidableEq, Repr

namespace CompilerConfig

def standard : CompilerConfig :=
  { command := "yarac" }

end CompilerConfig

structure DiagnosticsConfig where
  enabled : Bool := true
  compiler : Option CompilerConfig := some .standard
deriving DecidableEq, Repr

structure ServerConfig where
  listener : ListenerConfig := {}
  /-- The key of this server's settings among all of a client's. -/
  settingsKey : String := "yara"
  diagnostics : DiagnosticsConfig := {}
deriving DecidableEq, Repr

namespace ListenerConfig

/-- The address as text: a host with a colon stands in brackets. -/
def address (l : ListenerConfig) : String :=
  let host :=
    if l.host.toList.contains ':' && l.host.toList.head? ≠ some '[' then "[" ++ l.host ++ "]"
    else l.host
  host ++ ":" ++ decimalText l.port

def socketAddress? (l : ListenerConfig) : Option SocketAddress :=
  SocketAddress.parse? l.address

def fields : Fields ListenerConfig :=
  ListenerConfig.mk <$> Fields.defaulted "host" Decoder.string ({} : ListenerConfig).host
    <*> Fields.defaulted "port" Decoder.unsigned16 ({} : ListenerConfig).port

def decode : Decoder ListenerConfig :=
  fields.strict "ListenerConfig"

end ListenerConfig

namespace CompilerConfig

def fields : Fields CompilerConfig :=
  CompilerConfig.mk <$> Fields.required "command" Decoder.string
    <*> Fields.defaulted "args" Decoder.string.list standard.args
    <*> Fields.defaulted "env" Decoder.string.map standard.env
    <*> Fields.defaulted "timeout_seconds" Decoder.unsigned64 standard.timeoutSeconds

def decode : Decoder CompilerConfig :=
  fields.strict "CompilerConfig"

end CompilerConfig

namespace DiagnosticsConfig

def fields : Fields DiagnosticsConfig :=
  DiagnosticsConfig.mk <$> Fields.defaulted "enabled" Decoder.boolean true
    <*> Fields.defaulted "compiler" CompilerConfig.decode.nullable (some .standard)

def decode : Decoder DiagnosticsConfig :=
  fields.strict "DiagnosticsConfig"

end DiagnosticsConfig

namespace ServerConfig

def fields : Fields ServerConfig :=
  ServerConfig.mk <$> Fields.defaulted "listener" ListenerConfig.decode {}
    <*> Fields.defaulted "settings_namespace" Decoder.string ({} : ServerConfig).settingsKey
    <*> Fields.defaulted "diagnostics" DiagnosticsConfig.decode {}

def decode : Decoder ServerConfig :=
  fields.strict "ServerConfig"

end ServerConfig

namespace ListenerConfig

def validate (l : ListenerConfig) : Except ConfigFault Unit :=
  if isBlankText l.host then .error .emptyHost
  else if l.port = 0 then .error .zeroPort
  else .ok ()

end ListenerConfig

namespace CompilerConfig

def validate (c : CompilerConfig) : Except ConfigFault Unit :=
  if isBlankText c.command then .error .emptyCommand
  else if c.timeoutSeconds = 0 then .error (.zeroTimeout c.command)
  else .ok ()

end CompilerConfig

namespace ServerConfig

/-- What a configuration must satisfy beyond its form; the first rule that fails is reported. -/
def validate (c : ServerConfig) : Except ConfigFault Unit := do
  c.listener.validate
  if isBlankText c.settingsKey then throw .emptyNamespace
  match c.diagnostics.compiler with
  | some compiler => compiler.validate
  | none => return ()

end ServerConfig

end RuleServer
