import RuleServer.Json.Basic

/-!
What the server announces that it can do, which depends on what the client can register later.
-/

namespace RuleServer

namespace Announce

def serverName : String := "yarals"

def serverVersion : String := "0.1.0"

def compileCommand : String := "yara.CompileRule"

def declares (client : Json) (feature : String) : Bool :=
  (client.path? ["textDocument", feature, "dynamicRegistration"]).bind Json.bool? == some true

def commandOptions : Json :=
  .ofPairs [("commands", .array [.string compileCommand])]

/-- Documents are sent whole, when they are opened and when they are saved. -/
def syncOptions : Json :=
  .ofPairs [
    ("openClose", .bool true),
    ("change", .nat 1),
    ("save", .ofPairs [("includeText", .bool true)])]

def completionOptions : Json :=
  .ofPairs [("resolveProvider", .bool true), ("triggerCharacters", .array [.string "."])]

/-- The features of documents, each with the capability that goes with it. -/
def features : List (String × String × Json) :=
  [("synchronization", "textDocumentSync", syncOptions),
   ("completion", "completionProvider", completionOptions),
   ("definition", "definitionProvider", .bool true),
   ("references", "referencesProvider", .bool true),
   ("documentHighlight", "documentHighlightProvider", .bool true),
   ("rename", "renameProvider", .bool true)]

def capabilities (client : Json) : Json :=
  .ofPairs (("executeCommandProvider", commandOptions) ::
    (features.filter fun (feature, _) => declares client feature).map (·.2))

def result (client : Json) : Json :=
  .ofPairs [
    ("capabilities", capabilities client),
    ("serverInfo", .ofPairs [("name", .string serverName), ("version", .string serverVersion)])]

end Announce

end RuleServer
