import RuleServer.Config.Basic
import RuleServer.Host.Files
import RuleServer.Log
import RuleServer.Toml.Parser
import RuleServer.Toml.Printer

/-!
Configuration files: their text, and where they are looked for.
-/

namespace RuleServer

namespace CompilerConfig

def toToml (c : CompilerConfig) : String :=
  Toml.headerLine ["diagnostics", "compiler"] ++
    Toml.pairLine "command" (Toml.stringText c.command) ++
    Toml.pairLine "args" (Toml.listText c.args) ++
    Toml.pairLine "timeout_seconds" (decimalText c.timeoutSeconds) ++
    Toml.headerLine ["diagnostics", "compiler", "env"] ++
    String.join (c.env.map fun (name, value) => Toml.pairLine name (Toml.stringText value))

end CompilerConfig

namespace ServerConfig

def toToml (c : ServerConfig) : String :=
  Toml.pairLine "settings_namespace" (Toml.stringText c.settingsKey) ++
    Toml.headerLine ["listener"] ++
    Toml.pairLine "host" (Toml.stringText c.listener.host) ++
    Toml.pairLine "port" (decimalText c.listener.port) ++
    Toml.headerLine ["diagnostics"] ++
    Toml.pairLine "enabled" (Toml.boolText c.diagnostics.enabled) ++
    (c.diagnostics.compiler.map CompilerConfig.toToml).getD ""

def ofToml (text : String) : Except TomlFault ServerConfig :=
  match Toml.parse? text with
  | none => .error .malformed
  | some v => (decode .file v).mapError .shape

/-- The acceptable configuration that a text holds. -/
def ofText (text : String) : Except Fault ServerConfig := do
  let config ← (ofToml text).mapError Fault.toml
  config.validate.mapError Fault.config
  return config

def readFrom (readText : Path → Except IoFault String) (path : Path) : Except Fault ServerConfig :=
  match readText path with
  | .error .noSuchFile => .error (.configMissing path)
  | .error fault => .error (.io fault)
  | .ok text => ofText text

def fileName : String := "yarals.toml"

/-- What the environment says about where the configuration is. -/
structure Locations where
  /-- The file itself, in `YARALS_CONFIG`. -/
  file : Option String
  /-- The directory of all users' configurations, in `XDG_CONFIG_HOME`. -/
  userDirectory : Option String
  home : Option String

namespace Locations

def ofEnvironment (get : String → Option String) : Locations where
  file := get "YARALS_CONFIG"
  userDirectory := get "XDG_CONFIG_HOME"
  home := get "HOME"

/-- The user's directory of configurations: the one that is set, if it is an absolute path, else the
one in the home directory. -/
def configDirectory? (l : Locations) : Option Path :=
  match l.userDirectory.map Path.ofText with
  | some dir => if dir.isAbsolute then some dir else fromHome
  | none => fromHome
where
  fromHome : Option Path :=
    match l.home with
    | some home => if home = "" then none else some ((Path.ofText home).join (.ofText ".config"))
    | none => none

def candidates (l : Locations) : List Path :=
  .ofText fileName ::
    (l.configDirectory?.map fun dir => (dir.join (.ofText "yarals")).join (.ofText fileName)).toList

end Locations

/-- Find and read the configuration; without a file, the default one. -/
def load (files : Files) (l : Locations) : Except Fault ServerConfig × List LogLine :=
  match l.file with
  | some path => (readFrom files.readText (.ofText path), [])
  | none =>
    match l.candidates.find? files.exists? with
    | some path => (readFrom files.readText path, [])
    | none =>
      (.ok {}, [(LogLine.debug "no configuration file found, using defaults").under .config])

end ServerConfig

end RuleServer
