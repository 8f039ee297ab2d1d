/-!
The options of the command line.
-/

namespace RuleServer

inductive CliOption
  | config
  | host
  | port
  | logLevel
  | logJson
  | help
  | version
deriving DecidableEq, Repr

namespace CliOption

def all : List CliOption :=
  [config, host, port, logLevel, logJson, help, version]

def name : CliOption → String
  | config => "config"
  | host => "host"
  | port => "port"
  | logLevel => "log-level"
  | logJson => "log-json"
  | help => "help"
  | version => "version"

def letter? : CliOption → Option Char
  | config => some 'c'
  | port => some 'p'
  | logLevel => some 'l'
  | help => some 'h'
  | version => some 'V'
  | _ => none

def valueName? : CliOption → Option String
  | config => some "FILE"
  | host => some "HOST"
  | port => some "PORT"
  | logLevel => some "LOG_LEVEL"
  | _ => none

def takesValue (o : CliOption) : Bool :=
  o.valueName?.isSome

def variableName? : CliOption → Option String
  | config => some "YARALS_CONFIG"
  | host => some "YARALS_HOST"
  | port => some "YARALS_PORT"
  | logLevel => some "YARALS_LOG"
  | logJson => some "YARALS_LOG_JSON"
  | _ => none

def standard? : CliOption → Option String
  | logLevel => some "info"
  | _ => none

def usage (o : CliOption) : String :=
  "--" ++ o.name ++ match o.valueName? with
    | some value => " <" ++ value ++ ">"
    | none => ""

def ofName? (name : String) : Option CliOption :=
  all.find? fun o => o.name = name

def ofLetter? (c : Char) : Option CliOption :=
  all.find? fun o => o.letter? = some c

end CliOption

end RuleServer
