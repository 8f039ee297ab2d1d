import RuleServer.Fault
import RuleServer.Log
import RuleServer.Protocol.CompletionItem
import RuleServer.Protocol.Params

/-!
What a session relies on: a provider of symbols, a provider of diagnostics, and the files of the
host. Providers are functions of what they are asked.
-/

namespace RuleServer

/-- A provider's answer, with what it wrote to the log on the way. -/
structure Reply (α : Type) where
  log : List LogLine := []
  result : Except Fault α

/-- Answers to questions about symbols. An answer is the value that goes into the response, or none
when there is nothing to say. -/
structure SymbolProvider where
  definition : PositionParams → Reply (Option Json)
  references : ReferenceParams → Reply (Option Json)
  rename : RenameParams → Reply (Option Json)
  highlight : PositionParams → Reply (Option Json)
  completion : CompletionParams → Reply (Option Json)
  resolve : CompletionItem → Reply (Option Json)

namespace SymbolProvider

def nothing (remark : String) : Reply (Option Json) :=
  { log := [.debug remark], result := .ok none }

def empty : SymbolProvider where
  definition _ := nothing "no definition resolver installed"
  references _ := nothing "no reference finder installed"
  rename _ := nothing "no rename planner installed"
  highlight _ := nothing "no highlight provider installed"
  completion _ := nothing "no completion provider installed"
  resolve _ := nothing "no completion resolver installed"

end SymbolProvider

/-- The diagnostics of a document, given its URI and its text. -/
structure DiagnosticsProvider where
  diagnose : (uri text : String) → Reply (List Diagnostic)
  available : Bool := true

namespace DiagnosticsProvider

def unavailable (reason : String) : DiagnosticsProvider where
  diagnose _ _ := { result := .error (.unavailable reason) }
  available := false

end DiagnosticsProvider

structure Services where
  symbols : SymbolProvider
  diagnostics : DiagnosticsProvider

namespace Services

def describe (s : Services) : String :=
  "Services \x7b symbols: \"<dyn SymbolProvider>\", diagnostics_available: " ++
    (if s.diagnostics.available then "true" else "false") ++ " \x7d"

end Services

/-- Services, and the text of the host's files. -/
structure Resources extends Services where
  readText : Path → Except IoFault String

end RuleServer
