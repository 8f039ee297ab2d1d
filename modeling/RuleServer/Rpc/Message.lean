import RuleServer.Decode.Basic
import RuleServer.Json.Parser

/-!
Messages between an editor and the server: requests, notifications and responses, and what cannot
be any of them.
-/

namespace RuleServer

/-- What ties a response to its request. -/
inductive RequestId
  | number (value : Int)
  | text (value : String)
deriving DecidableEq, Repr

namespace RequestId

def toJson : RequestId → Json
  | number i => .int i
  | text s => .string s

/-- An id is an integer of 64 bits or a string. -/
def ofJson? : Json → Option RequestId
  | .number (.integer i) => if -(twoTo 63 : Int) ≤ i ∧ i < twoTo 63 then some (.number i) else none
  | .string s => some (.text s)
  | _ => none

def display : RequestId → String
  | number i => integerText i
  | text s => quoted s

end RequestId

inductive RpcErrorKind
  | parseError
  | invalidRequest
  | methodNotFound
  | invalidParams
  | internalError
deriving DecidableEq, Repr

namespace RpcErrorKind

def code : RpcErrorKind → Int
  | parseError => -32700
  | invalidRequest => -32600
  | methodNotFound => -32601
  | invalidParams => -32602
  | internalError => -32603

end RpcErrorKind

structure RpcError where
  code : Int
  message : String
  data : Option Json := none
deriving BEq, Repr

namespace RpcError

def ofKind (kind : RpcErrorKind) (message : String) : RpcError :=
  { code := kind.code, message }

def invalidRequest (message : String) : RpcError := ofKind .invalidRequest message

def invalidParams (message : String) : RpcError := ofKind .invalidParams message

def internalError (message : String) : RpcError := ofKind .internalError message

def methodNotFound (method : String) : RpcError :=
  ofKind .methodNotFound ("method not found: " ++ method)

def toJson (e : RpcError) : Json :=
  .object ([("code", .int e.code), ("message", .string e.message)] ++
    (e.data.map fun d => ("data", d)).toList)

def fields : Fields RpcError :=
  RpcError.mk <$> Fields.required "code" Decoder.signed32
    <*> Fields.required "message" Decoder.string
    <*> Fields.optional "data" Decoder.any

def ofJson? (v : Json) : Option RpcError :=
  (fields.lenient "JsonRpcError" .message v).toOption

def display (e : RpcError) : String :=
  e.message ++ " (" ++ integerText e.code ++ ")"

end RpcError

structure Request where
  id : RequestId
  method : String
  params : Option Json
deriving BEq, Repr

structure Notification where
  method : String
  params : Option Json
deriving BEq, Repr

structure Response where
  id : Option RequestId
  result : Option Json
  error : Option RpcError
deriving BEq, Repr

inductive Message
  | request (request : Request)
  | notification (notification : Notification)
  | response (response : Response)
  | malformed (id : Option RequestId) (error : RpcError)
deriving BEq, Repr

def version : Json := .string "2.0"

def optionalMember (name : String) (value : Option Json) : Members :=
  (value.map fun v => (name, v)).toList

namespace Request

def toJson (r : Request) : Json :=
  .object ([("jsonrpc", version), ("id", r.id.toJson), ("method", .string r.method)] ++
    optionalMember "params" r.params)

end Request

namespace Notification

def toJson (n : Notification) : Json :=
  .object ([("jsonrpc", version), ("method", .string n.method)] ++ optionalMember "params" n.params)

end Notification

namespace Response

def success (id : RequestId) (result : Json) : Response :=
  ⟨some id, some result, none⟩

def failure (id : Option RequestId) (error : RpcError) : Response :=
  ⟨id, none, some error⟩

def idJson (id : Option RequestId) : Json :=
  (id.map RequestId.toJson).getD .null

def toJson (r : Response) : Json :=
  .object ([("jsonrpc", version), ("id", idJson r.id)] ++ optionalMember "result" r.result ++
    optionalMember "error" (r.error.map RpcError.toJson))

end Response

namespace Message

def invalid (id : Option RequestId) (text : String) : Message :=
  .malformed id (.invalidRequest text)

/-- The id of a message, if it has one; null stands for none. -/
def readId (members : Members) : Except Message (Option RequestId) :=
  match Members.find? "id" members with
  | none | some .null => .ok none
  | some v =>
    match RequestId.ofJson? v with
    | some id => .ok (some id)
    | none => .error (invalid none "id must be a number or a string")

def checkVersion (id : Option RequestId) (members : Members) : Except Message Unit :=
  match Members.find? "jsonrpc" members with
  | some (.string s) =>
    if s = "2.0" then .ok () else .error (invalid id ("unsupported jsonrpc version: " ++ s))
  | _ => .error (invalid id "missing jsonrpc version")

def readResponse (id : Option RequestId) (members : Members) : Except Message Message :=
  let result := Members.find? "result" members
  match Members.find? "error" members with
  | none =>
    if result.isSome then .ok (.response ⟨id, result, none⟩)
    else .error (invalid id "message has neither method nor result")
  | some v =>
    match RpcError.ofJson? v with
    | some error => .ok (.response ⟨id, result, some error⟩)
    | none => .error (invalid id "malformed error object")

def readMembers (members : Members) : Except Message Message := do
  let id ← readId members
  checkVersion id members
  let params := Members.find? "params" members
  match Members.find? "method" members, id with
  | some (.string method), some id => return .request ⟨id, method, params⟩
  | some (.string method), none => return .notification ⟨method, params⟩
  | some _, _ => throw (invalid id "method must be a string")
  | none, _ => readResponse id members

/-- The message that a JSON value is. -/
def ofJson : Json → Message
  | .object members =>
    match readMembers members with
    | .ok message => message
    | .error message => message
  | _ => invalid none "message must be a JSON object"

def ofBytes (payload : Bytes) : Message :=
  match Json.parse payload with
  | .ok v => ofJson v
  | .error fault =>
    .malformed none (.ofKind .parseError ("could not parse message: " ++ fault.message))

end Message

end RuleServer
