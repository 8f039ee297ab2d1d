import RuleServer.Session.Announce
import RuleServer.Session.Context
import RuleServer.Session.Method

/-!
What each method does. A handler takes the parameters of its message, null when there are none.
-/

namespace RuleServer

namespace Context

abbrev Answer := Except RpcError Json

def emptyObject : Json := .object []

/-- The parameters of a request, or the answer that they cannot be understood. -/
def params {α : Type} (decode : Decoder α) (v : Json) : Except RpcError α :=
  (decode .message v).mapError fun fault => .invalidParams ("invalid params: " ++ fault.message)

/-- Answer with what a provider gave. Nothing to say is an empty object, and so is an unavailable
provider. -/
def respond (reply : Reply (Option Json)) : List Event × Answer :=
  match reply.result with
  | .ok (some v) => ([], .ok v)
  | .ok none => ([], .ok emptyObject)
  | .error (.unavailable reason) =>
    ([.warn ("capability unavailable: " ++ reason)], .ok emptyObject)
  | .error fault =>
    ([.error ("capability failed: " ++ fault.message)], .error (.internalError fault.message))

def askSymbols {α : Type} (c : Context) (decode : Decoder α) (ask : α → Reply (Option Json))
    (v : Json) : Turn Answer :=
  match params decode v with
  | .error e => { context := c, result := .error e }
  | .ok p =>
    let reply := ask p
    let (remarks, answer) := respond reply
    { context := c
      events := .consulted .symbols :: reply.log.map .logged ++ remarks
      result := answer }

/-- The workspace folder that a client names: by a URI, else by a path. -/
def workspaceRoot (v : Json) : Except UriFault (Option Path) :=
  match (v.member? "rootUri").bind Json.string? with
  | some uri => (localFile uri).map some
  | none => .ok (((v.member? "rootPath").bind Json.string?).map Path.ofText)

def rootRemark : Option Path → String
  | some path => "client workspace folder: " ++ path.display
  | none => "client opened no workspace folder"

def start (c : Context) (v : Json) : Turn Answer :=
  match workspaceRoot v with
  | .error fault => { context := c, result := .error (.invalidParams (Fault.uri fault).message) }
  | .ok root =>
    let (c, moved) := { c with root }.move .initialized
    { context := c
      events := [.info (rootRemark root), moved]
      result := .ok (Announce.result ((v.member? "capabilities").getD .null)) }

def shutdown (c : Context) : Turn Answer :=
  let (c, moved) := c.move .shutdownRequested
  { context := c
    events := [.info "client requested shutdown", moved]
    result := .ok emptyObject }

/-- The document that a command names, by its URI and its path. -/
def commandTarget (p : CommandParams) : Except RpcError (String × Path) :=
  if p.command ≠ Announce.compileCommand then
    .error (.invalidParams ("unknown command: " ++ p.command))
  else match p.arguments.head?.bind Json.string? with
    | none =>
      .error (.invalidParams (Announce.compileCommand ++ " expects a document URI argument"))
    | some uri =>
      match localFile uri with
      | .error fault => .error (.invalidParams (Fault.uri fault).message)
      | .ok path =>
        match UriReference.check uri.toList with
        | .error fault => .error (.invalidParams ("invalid URI: " ++ fault.message))
        | .ok () => .ok (uri, path)

def commandDocument (r : Resources) (v : Json) : Except RpcError (String × Path × String) := do
  let p ← params CommandParams.decode v
  let (uri, path) ← commandTarget p
  match r.readText path with
  | .error fault =>
    throw (.internalError ("failed to read " ++ path.display ++ ": " ++ fault.message))
  | .ok text => return (uri, path, text)

def executeCommand (r : Resources) (c : Context) (v : Json) : Turn Answer :=
  match commandDocument r v with
  | .error e => { context := c, result := .error e }
  | .ok (uri, path, text) =>
    let turn := c.publish r uri text
    { context := turn.context
      events := .info ("compiling " ++ path.display) :: turn.events
      result := match turn.result with
        | .error fault => .error (.internalError fault.message)
        | .ok _ => .ok emptyObject }

def request (r : Resources) (c : Context) (method : RequestMethod) (v : Json) : Turn Answer :=
  match method with
  | .start => c.start v
  | .shutdown => c.shutdown
  | .definition => c.askSymbols PositionParams.definition r.symbols.definition v
  | .references => c.askSymbols ReferenceParams.decode r.symbols.references v
  | .rename => c.askSymbols RenameParams.decode r.symbols.rename v
  | .highlight => c.askSymbols PositionParams.highlight r.symbols.highlight v
  | .completion => c.askSymbols CompletionParams.decode r.symbols.completion v
  | .resolveCompletion => c.askSymbols CompletionItem.decode r.symbols.resolve v
  | .executeCommand => c.executeCommand r v

def greeting : Json :=
  .ofPairs [("type", .nat 3), ("message", .string "Successfully connected")]

def welcome (c : Context) : Turn (Except Fault Unit) :=
  { context := { c with handshake := true }.notify "window/showMessage" greeting
    events := [.info "client has been successfully initialized"]
    result := .ok () }

/-- The end of a session is clean when it was asked to shut down before. -/
def exitCodeOf (state : SessionState) : Nat :=
  if state = .shutdownRequested then 0 else 1

def exit (c : Context) : Turn (Except Fault Unit) :=
  let code := exitCodeOf c.state
  let (c, moved) := { c with exitCode := some code }.move .exited
  let remark : Event :=
    if code = 0 then .info "client requested exit"
    else .warn "client requested exit without shutdown"
  { context := c, events := [moved, remark], result := .ok () }

/-- This server's part of a client's settings. -/
def configOf (key : String) (v : Json) : Members :=
  ((v.path? ["settings", key]).bind Json.object?).getD []

def changeConfiguration (c : Context) (v : Json) : Turn (Except Fault Unit) :=
  let config := configOf c.settingsKey v
  let c := { c with config }
  let remark : List Event :=
    if c.settings.tracingRequested then [.info "ignoring trace request for now"] else []
  { context := c
    events := .debug ("changed workspace config to " ++ (Json.object config).compact) :: remark
    result := .ok () }

/-- Publish a document's diagnostics, of which only a failure matters. -/
def publishQuietly (r : Resources) (c : Context) (uri text : String) : Turn (Except Fault Unit) :=
  let turn := c.publish r uri text
  { context := turn.context, events := turn.events, result := turn.result.map fun _ => () }

def opened (r : Resources) (c : Context) (v : Json) : Turn (Except Fault Unit) :=
  match OpenedDocument.decode .message v with
  | .error fault => { context := c, result := .error (.json fault) }
  | .ok document =>
    let turn := c.publishQuietly r document.uri document.text
    { turn with events := .debug "document opened" :: turn.events }

/-- The text of a saved document: what the client sent, else what is in the file. -/
def savedText (r : Resources) (document : SavedDocument) : Except Fault String :=
  match document.text with
  | some text => .ok text
  | none =>
    match localFile document.uri with
    | .error fault => .error (.uri fault)
    | .ok path => (r.readText path).mapError .io

def saved (r : Resources) (c : Context) (v : Json) : Turn (Except Fault Unit) :=
  match SavedDocument.decode .message v with
  | .error fault => { context := c, result := .error (.json fault) }
  | .ok document =>
    if c.settings.compileOnSave then
      match savedText r document with
      | .error fault => { context := c, result := .error fault }
      | .ok text => c.publishQuietly r document.uri text
    else
      { context := c
        events := [.debug "compileOnSave is off; not recompiling"]
        result := .ok () }

def notification (r : Resources) (c : Context) (method : NotificationMethod) (v : Json) :
    Turn (Except Fault Unit) :=
  match method with
  | .initialized => c.welcome
  | .exit => c.exit
  | .didChangeConfiguration => c.changeConfiguration v
  | .didOpen => c.opened r v
  | .didSave => c.saved r v

end Context

end RuleServer
