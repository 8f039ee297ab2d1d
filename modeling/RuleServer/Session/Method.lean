import RuleServer.Session.State
import RuleServer.Text.Quoted

/-!
The methods that the server knows, each with its name, its kind and the states that accept it.
-/

namespace RuleServer

inductive RequestMethod
  | start
  | shutdown
  | definition
  | references
  | rename
  | highlight
  | completion
  | resolveCompletion
  | executeCommand
deriving DecidableEq, Repr

inductive NotificationMethod
  | initialized
  | exit
  | didChangeConfiguration
  | didOpen
  | didSave
deriving DecidableEq, Repr

inductive Method
  | request (method : RequestMethod)
  | notification (method : NotificationMethod)
deriving DecidableEq, Repr

namespace RequestMethod

def name : RequestMethod → String
  | start => "initialize"
  | shutdown => "shutdown"
  | definition => "textDocument/definition"
  | references => "textDocument/references"
  | rename => "textDocument/rename"
  | highlight => "textDocument/documentHighlight"
  | completion => "textDocument/completion"
  | resolveCompletion => "completionItem/resolve"
  | executeCommand => "workspace/executeCommand"

def precondition : RequestMethod → Precondition
  | start => .uninitialized
  | _ => .initialized

def all : List RequestMethod :=
  [start, shutdown, definition, references, rename, highlight, completion, resolveCompletion,
    executeCommand]

end RequestMethod

namespace NotificationMethod

def name : NotificationMethod → String
  | initialized => "initialized"
  | exit => "exit"
  | didChangeConfiguration => "workspace/didChangeConfiguration"
  | didOpen => "textDocument/didOpen"
  | didSave => "textDocument/didSave"

def precondition : NotificationMethod → Precondition
  | exit => .any
  | _ => .initialized

def all : List NotificationMethod :=
  [initialized, exit, didChangeConfiguration, didOpen, didSave]

end NotificationMethod

namespace Method

def name : Method → String
  | request m => m.name
  | notification m => m.name

def precondition : Method → Precondition
  | request m => m.precondition
  | notification m => m.precondition

def kind : Method → String
  | request _ => "request"
  | notification _ => "notification"

def all : List Method :=
  RequestMethod.all.map request ++ NotificationMethod.all.map notification

def ofName? (name : String) : Option Method :=
  all.find? fun m => m.name = name

def describe (m : Method) : String :=
  "Route \x7b precondition: " ++ m.precondition.name ++ ", kind: " ++ quoted m.kind ++ " \x7d"

end Method

end RuleServer
