import RuleServer.Text.Numeral

/-!
Lines of the server's log.
-/

namespace RuleServer

inductive LogLevel
  | error
  | warn
  | info
  | debug
  | trace
deriving DecidableEq, Repr

namespace LogLevel

def rank : LogLevel → Nat
  | error => 0
  | warn => 1
  | info => 2
  | debug => 3
  | trace => 4

def name : LogLevel → String
  | error => "ERROR"
  | warn => "WARN"
  | info => "INFO"
  | debug => "DEBUG"
  | trace => "TRACE"

def within (level threshold : LogLevel) : Bool :=
  level.rank ≤ threshold.rank

end LogLevel

inductive LogTopic
  | program
  | server
  | listener
  | config
  | capability
  | compiler
  | session
deriving DecidableEq, Repr

namespace LogTopic

def name : LogTopic → String
  | program => "yarals"
  | server => "yarals_core"
  | listener => "yarals_core::listener"
  | config => "yarals_core::config"
  | capability => "yarals_core::capability"
  | compiler => "yarals_core::capability::compiler"
  | session => "yarals_core::session"

end LogTopic

inductive LogValue
  | text (value : String)
  | number (value : Nat)
  | flag (value : Bool)
deriving DecidableEq, Repr

structure LogLine where
  level : LogLevel
  text : String
  topic : LogTopic := .session
  details : List (String × LogValue) := []
deriving DecidableEq, Repr

namespace LogLine

def error (text : String) : LogLine := { level := .error, text }

def warn (text : String) : LogLine := { level := .warn, text }

def info (text : String) : LogLine := { level := .info, text }

def debug (text : String) : LogLine := { level := .debug, text }

def under (line : LogLine) (topic : LogTopic) : LogLine :=
  { line with topic }

def detail (line : LogLine) (name : String) (value : LogValue) : LogLine :=
  { line with details := line.details ++ [(name, value)] }

def display (line : LogLine) : String :=
  line.level.name ++ ": " ++ line.text

end LogLine

end RuleServer
