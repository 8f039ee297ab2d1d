import RuleServer.Json.Basic

/-!
The settings that a client keeps for the server, as the server understands them.
-/

namespace RuleServer

structure Settings where
  compileOnSave : Bool
  traceServer : Option String
deriving DecidableEq, Repr

namespace Settings

def ofMembers (config : Members) : Settings where
  compileOnSave := (Members.find? "compileOnSave" config).bind Json.bool? == some true
  traceServer := (Json.path? (.object config) ["trace", "server"]).bind Json.string?

def tracingRequested (s : Settings) : Bool :=
  match s.traceServer with
  | none => false
  | some level => level ≠ "off"

end Settings

end RuleServer
