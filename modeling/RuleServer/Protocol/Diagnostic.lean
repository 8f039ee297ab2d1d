import RuleServer.Protocol.Place
import RuleServer.Text.Blank

/-!
Diagnostics: what a compiler has to say about a part of a document.
-/

namespace RuleServer

structure Severity where
  number : Int
deriving DecidableEq, Repr

namespace Severity

def error : Severity := ⟨1⟩

def warning : Severity := ⟨2⟩

def information : Severity := ⟨3⟩

def hint : Severity := ⟨4⟩

end Severity

structure DiagnosticTag where
  number : Int
deriving DecidableEq, Repr

inductive DiagnosticCode
  | number (value : Int)
  | text (value : String)
deriving DecidableEq, Repr

namespace DiagnosticCode

def toJson : DiagnosticCode → Json
  | number i => .int i
  | text s => .string s

end DiagnosticCode

structure Related where
  location : Location
  message : String
deriving DecidableEq, Repr

structure Diagnostic where
  range : Range
  severity : Option Severity := none
  code : Option DiagnosticCode := none
  /-- The URI at which the code is explained. -/
  explanation : Option String := none
  source : Option String := none
  message : String
  related : Option (List Related) := none
  tags : Option (List DiagnosticTag) := none
  data : Option Json := none
deriving Repr

namespace Related

def toJson (r : Related) : Json :=
  .ofPairs [("location", r.location.toJson), ("message", .string r.message)]

end Related

namespace Diagnostic

def sourceName : String := "yara-lang"

/-- A diagnostic with its message trimmed; a blank message makes none. -/
def make? (range : Range) (severity : Severity) (code : Option DiagnosticCode) (message : String)
    (related : List Related) : Option Diagnostic :=
  let message := trimText message
  if message = "" then none
  else
    some { range, severity := some severity, code, source := some sourceName, message,
           related := some related }

def toJson (d : Diagnostic) : Json :=
  .ofOptions [
    ("range", some d.range.toJson),
    ("severity", d.severity.map fun s => .int s.number),
    ("code", d.code.map DiagnosticCode.toJson),
    ("codeDescription", d.explanation.map fun uri => .ofPairs [("href", .string uri)]),
    ("source", d.source.map .string),
    ("message", some (.string d.message)),
    ("relatedInformation", d.related.map fun related => .array (related.map Related.toJson)),
    ("tags", d.tags.map fun tags => .array (tags.map fun tag => .int tag.number)),
    ("data", d.data)]

end Diagnostic

end RuleServer
