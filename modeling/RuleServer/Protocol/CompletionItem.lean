import RuleServer.Protocol.Place

/-!
Completion items, as a client sends them back to be resolved.
-/

namespace RuleServer

structure TextEdit where
  range : Range
  newText : String
deriving DecidableEq, Repr

namespace TextEdit

def decode : Decoder TextEdit :=
  (TextEdit.mk <$> Fields.required "range" Range.decode
    <*> Fields.required "newText" Decoder.string).lenient "TextEdit"

def toJson (e : TextEdit) : Json :=
  .ofPairs [("range", e.range.toJson), ("newText", .string e.newText)]

end TextEdit

structure InsertReplaceEdit where
  newText : String
  insert : Range
  replace : Range
deriving DecidableEq, Repr

namespace InsertReplaceEdit

def decode : Decoder InsertReplaceEdit :=
  (InsertReplaceEdit.mk <$> Fields.required "newText" Decoder.string
    <*> Fields.required "insert" Range.decode
    <*> Fields.required "replace" Range.decode).lenient "InsertReplaceEdit"

def toJson (e : InsertReplaceEdit) : Json :=
  .ofPairs [("newText", .string e.newText), ("insert", e.insert.toJson),
    ("replace", e.replace.toJson)]

end InsertReplaceEdit

inductive CompletionEdit
  | edit (edit : TextEdit)
  | insertReplace (edit : InsertReplaceEdit)
deriving DecidableEq, Repr

namespace CompletionEdit

def decode : Decoder CompletionEdit :=
  Decoder.oneOf "CompletionTextEdit"
    [fun source v => (TextEdit.decode source v).map edit,
     fun source v => (InsertReplaceEdit.decode source v).map insertReplace]

def toJson : CompletionEdit → Json
  | edit e => e.toJson
  | insertReplace e => e.toJson

end CompletionEdit

inductive MarkupKind
  | plainText
  | markdown
deriving DecidableEq, Repr

namespace MarkupKind

def name : MarkupKind → String
  | plainText => "plaintext"
  | markdown => "markdown"

def all : List (String × MarkupKind) :=
  [plainText, markdown].map fun k => (k.name, k)

end MarkupKind

inductive Documentation
  | text (text : String)
  | markup (kind : MarkupKind) (value : String)
deriving DecidableEq, Repr

namespace Documentation

def markupContent : Decoder Documentation :=
  (markup <$> Fields.required "kind" (Decoder.oneName "MarkupKind" MarkupKind.all)
    <*> Fields.required "value" Decoder.string).lenient "MarkupContent"

def decode : Decoder Documentation :=
  Decoder.oneOf "Documentation"
    [fun source v => (Decoder.string source v).map text, markupContent]

def toJson : Documentation → Json
  | text s => .string s
  | markup kind value => .ofPairs [("kind", .string kind.name), ("value", .string value)]

end Documentation

structure LabelDetails where
  detail : Option String
  description : Option String
deriving DecidableEq, Repr

namespace LabelDetails

def decode : Decoder LabelDetails :=
  (LabelDetails.mk <$> Fields.optional "detail" Decoder.string
    <*> Fields.optional "description" Decoder.string).lenient "CompletionItemLabelDetails"

def toJson (d : LabelDetails) : Json :=
  .ofOptions [("detail", d.detail.map .string), ("description", d.description.map .string)]

end LabelDetails

structure Command where
  title : String
  command : String
  arguments : Option (List Json)
deriving BEq, Repr

namespace Command

def decode : Decoder Command :=
  (Command.mk <$> Fields.required "title" Decoder.string
    <*> Fields.required "command" Decoder.string
    <*> Fields.optional "arguments" Decoder.any.list).lenient "Command"

def toJson (c : Command) : Json :=
  .ofOptions [("title", some (.string c.title)), ("command", some (.string c.command)),
    ("arguments", c.arguments.map .array)]

end Command

structure CompletionItem where
  label : String
  labelDetails : Option LabelDetails
  kind : Option Int
  detail : Option String
  documentation : Option Documentation
  deprecated : Option Bool
  preselect : Option Bool
  sortText : Option String
  filterText : Option String
  insertText : Option String
  insertTextFormat : Option Int
  insertTextMode : Option Int
  textEdit : Option CompletionEdit
  additionalTextEdits : Option (List TextEdit)
  command : Option Command
  commitCharacters : Option (List String)
  data : Option Json
  tags : Option (List Int)
deriving BEq, Repr

namespace CompletionItem

def decode : Decoder CompletionItem :=
  (CompletionItem.mk <$> Fields.required "label" Decoder.string
    <*> Fields.optional "labelDetails" LabelDetails.decode
    <*> Fields.optional "kind" Decoder.signed32
    <*> Fields.optional "detail" Decoder.string
    <*> Fields.optional "documentation" Documentation.decode
    <*> Fields.optional "deprecated" Decoder.boolean
    <*> Fields.optional "preselect" Decoder.boolean
    <*> Fields.optional "sortText" Decoder.string
    <*> Fields.optional "filterText" Decoder.string
    <*> Fields.optional "insertText" Decoder.string
    <*> Fields.optional "insertTextFormat" Decoder.signed32
    <*> Fields.optional "insertTextMode" Decoder.signed32
    <*> Fields.optional "textEdit" CompletionEdit.decode
    <*> Fields.optional "additionalTextEdits" TextEdit.decode.list
    <*> Fields.optional "command" Command.decode
    <*> Fields.optional "commitCharacters" Decoder.string.list
    <*> Fields.optional "data" Decoder.any
    <*> Fields.optional "tags" Decoder.signed32.list).lenient "CompletionItem"

def toJson (c : CompletionItem) : Json :=
  .ofOptions [
    ("label", some (.string c.label)),
    ("labelDetails", c.labelDetails.map LabelDetails.toJson),
    ("kind", c.kind.map .int),
    ("detail", c.detail.map .string),
    ("documentation", c.documentation.map Documentation.toJson),
    ("deprecated", c.deprecated.map .bool),
    ("preselect", c.preselect.map .bool),
    ("sortText", c.sortText.map .string),
    ("filterText", c.filterText.map .string),
    ("insertText", c.insertText.map .string),
    ("insertTextFormat", c.insertTextFormat.map .int),
    ("insertTextMode", c.insertTextMode.map .int),
    ("textEdit", c.textEdit.map CompletionEdit.toJson),
    ("additionalTextEdits", c.additionalTextEdits.map fun es => .array (es.map TextEdit.toJson)),
    ("command", c.command.map Command.toJson),
    ("commitCharacters", c.commitCharacters.map fun cs => .array (cs.map .string)),
    ("data", c.data),
    ("tags", c.tags.map fun ts => .array (ts.map .int))]

end CompletionItem

end RuleServer
