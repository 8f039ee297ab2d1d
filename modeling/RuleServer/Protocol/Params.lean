import RuleServer.Protocol.Place

/-!
The parameters of requests and notifications about documents.
-/

namespace RuleServer

inductive ProgressToken
  | number (value : Int)
  | text (value : String)
deriving DecidableEq, Repr

namespace ProgressToken

def decode : Decoder ProgressToken :=
  Decoder.oneOf "NumberOrString"
    [fun source v => (Decoder.signed32 source v).map number,
     fun source v => (Decoder.string source v).map text]

end ProgressToken

/-- The tokens under which a client wants to hear of progress and of partial results. -/
structure ProgressTokens where
  workDone : Option ProgressToken
  partialResult : Option ProgressToken
deriving DecidableEq, Repr

namespace ProgressTokens

def workDoneField : Fields (Option ProgressToken) :=
  Fields.optional "workDoneToken" ProgressToken.decode

def partialResultField : Fields (Option ProgressToken) :=
  Fields.optional "partialResultToken" ProgressToken.decode

def within (members : Members) : Except DecodeFault ProgressTokens := do
  let workDone ← workDoneField.within members
  let partialResult ← partialResultField.within members
  return { workDone, partialResult }

end ProgressTokens

structure DocumentPosition where
  uri : String
  position : Position
deriving DecidableEq, Repr

def documentUri : Decoder String :=
  (Fields.required "uri" Decoder.uri).lenient "TextDocumentIdentifier"

namespace DocumentPosition

def fields : Fields DocumentPosition :=
  DocumentPosition.mk <$> Fields.required "textDocument" documentUri
    <*> Fields.required "position" Position.decode

end DocumentPosition

structure PositionParams where
  place : DocumentPosition
  tokens : ProgressTokens
deriving DecidableEq, Repr

namespace PositionParams

def within (members : Members) : Except DecodeFault PositionParams := do
  let place ← DocumentPosition.fields.within members
  let tokens ← ProgressTokens.within members
  return { place, tokens }

def decode (name : String) : Decoder PositionParams :=
  (pure () : Fields Unit).beside name fun _ => within

def definition : Decoder PositionParams := decode "GotoDefinitionParams"

def highlight : Decoder PositionParams := decode "DocumentHighlightParams"

end PositionParams

structure ReferenceParams where
  target : PositionParams
  includeDeclaration : Bool
deriving DecidableEq, Repr

namespace ReferenceParams

def context : Decoder Bool :=
  (Fields.required "includeDeclaration" Decoder.boolean).lenient "ReferenceContext"

def decode : Decoder ReferenceParams :=
  (Fields.required "context" context).beside "ReferenceParams" fun includeDeclaration members => do
    return { target := ← PositionParams.within members, includeDeclaration }

end ReferenceParams

structure RenameParams where
  place : DocumentPosition
  newName : String
  workDone : Option ProgressToken
deriving DecidableEq, Repr

namespace RenameParams

def decode : Decoder RenameParams :=
  (Fields.required "newName" Decoder.string).beside "RenameParams" fun newName members => do
    let place ← DocumentPosition.fields.within members
    let workDone ← ProgressTokens.workDoneField.within members
    return { place, newName, workDone }

end RenameParams

structure CompletionTrigger where
  kind : Int
  character : Option String
deriving DecidableEq, Repr

namespace CompletionTrigger

def decode : Decoder CompletionTrigger :=
  (CompletionTrigger.mk <$> Fields.required "triggerKind" Decoder.signed32
    <*> Fields.optional "triggerCharacter" Decoder.string).lenient "CompletionContext"

end CompletionTrigger

structure CompletionParams where
  target : PositionParams
  trigger : Option CompletionTrigger
deriving DecidableEq, Repr

namespace CompletionParams

def decode : Decoder CompletionParams :=
  (Fields.optional "context" CompletionTrigger.decode).beside "CompletionParams"
    fun trigger members => do
      return { target := ← PositionParams.within members, trigger }

end CompletionParams

structure CommandParams where
  command : String
  arguments : List Json
  workDone : Option ProgressToken
deriving BEq, Repr

namespace CommandParams

def own : Fields (String × List Json) :=
  Prod.mk <$> Fields.required "command" Decoder.string
    <*> Fields.defaulted "arguments" Decoder.any.list []

def decode : Decoder CommandParams :=
  own.beside "ExecuteCommandParams" fun (command, arguments) members => do
    let workDone ← ProgressTokens.workDoneField.within members
    return { command, arguments, workDone }

end CommandParams

structure OpenedDocument where
  uri : String
  languageId : String
  version : Int
  text : String
deriving DecidableEq, Repr

namespace OpenedDocument

def document : Decoder OpenedDocument :=
  (OpenedDocument.mk <$> Fields.required "uri" Decoder.uri
    <*> Fields.required "languageId" Decoder.string
    <*> Fields.required "version" Decoder.signed32
    <*> Fields.required "text" Decoder.string).lenient "TextDocumentItem"

def decode : Decoder OpenedDocument :=
  (Fields.required "textDocument" document).lenient "DidOpenTextDocumentParams"

end OpenedDocument

structure SavedDocument where
  uri : String
  text : Option String
deriving DecidableEq, Repr

namespace SavedDocument

def decode : Decoder SavedDocument :=
  (SavedDocument.mk <$> Fields.required "textDocument" documentUri
    <*> Fields.optional "text" Decoder.string).lenient "DidSaveTextDocumentParams"

end SavedDocument

end RuleServer
