import RuleServer.Json.Printer
import RuleServer.Uri.Reference

/-!
Typed reading of JSON values. A record is given by its fields, in the order of their declaration;
it is read from an object, whose members are visited in the order of their names, or from the list
of its field values.
-/

namespace RuleServer

inductive Found
  | null
  | boolean (value : Bool)
  | integer (value : Int)
  /-- An integer of more than 64 bits. -/
  | wide (value : Int)
  | real (text : String)
  | string (value : String)
  | sequence
  | map
deriving DecidableEq, Repr

namespace Found

def text : Found → String
  | null => "null"
  | boolean b => if b then "boolean `true`" else "boolean `false`"
  | integer i => "integer `" ++ integerText i ++ "`"
  | wide i => "integer `" ++ integerText i ++ (if i < twoTo 127 then "` as i128" else "` as u128")
  | real t => "floating point `" ++ t ++ "`"
  | string s => "string " ++ quoted s
  | sequence => "sequence"
  | map => "map"

end Found

/-- Why a value does not have the wanted form. -/
inductive DecodeFault
  | wrongType (found : Found) (wanted : String)
  | outOfRange (found : Found) (wanted : String)
  | wrongLength (length : Nat) (wanted : String)
  | missingField (name : String)
  | unknownField (name : String) (known : List String)
  | noVariant (choice : String)
  | unknownVariant (name : String) (known : List String)
  | uri (fault : UriReferenceFault)
deriving DecidableEq, Repr

namespace DecodeFault

def ticked (s : String) : String :=
  "`" ++ s ++ "`"

def choice : List String → String
  | [] => "nothing"
  | [a] => ticked a
  | [a, b] => ticked a ++ " or " ++ ticked b
  | names => "one of " ++ ", ".intercalate (names.map ticked)

def message : DecodeFault → String
  | wrongType found wanted => "invalid type: " ++ found.text ++ ", expected " ++ wanted
  | outOfRange found wanted => "invalid value: " ++ found.text ++ ", expected " ++ wanted
  | wrongLength length wanted => "invalid length " ++ decimalText length ++ ", expected " ++ wanted
  | missingField name => "missing field " ++ ticked name
  | unknownField name known => "unknown field " ++ ticked name ++ ", expected " ++ choice known
  | noVariant name => "data did not match any variant of untagged enum " ++ name
  | unknownVariant name known => "unknown variant " ++ ticked name ++ ", expected " ++ choice known
  | uri fault => fault.message

end DecodeFault

/-- Where a value comes from, which shows in the wording of some faults. -/
inductive Source
  | message
  | buffered
  | file
deriving DecidableEq, Repr

namespace Source

/-- In a file's faults a real number never has an exponent. -/
def fileReal : RealFormat where
  positional _ := true

def realFormat : Source → RealFormat
  | file => fileReal
  | _ => JsonNumber.format

def found (source : Source) : Json → Found
  | .null => .null
  | .bool b => .boolean b
  | .number (.integer i) => if -(twoTo 63 : Int) ≤ i ∧ i < twoTo 64 then .integer i else .wide i
  | .number (.real x) => .real (source.realFormat.write x)
  | .string s => .string s
  | .array _ => .sequence
  | .object _ => .map

def counted (n : Nat) (noun : String) : String :=
  decimalText n ++ (if n = 1 then " " ++ noun else " " ++ noun ++ "s")

/-- The fault of a list with more items than a record has fields; a file may have them. -/
def surplus? (source : Source) (length fields : Nat) : Option DecodeFault :=
  match source with
  | message => some (.wrongLength length "fewer elements in array")
  | buffered => some (.wrongLength length (counted fields "element" ++ " in sequence"))
  | file => none

end Source

abbrev Decoder (α : Type) := Source → Json → Except DecodeFault α

namespace Decoder

def fail {α : Type} (wanted : String) : Decoder α :=
  fun source v => .error (.wrongType (source.found v) wanted)

def any : Decoder Json :=
  fun _ v => .ok v

def string : Decoder String
  | _, .string s => .ok s
  | source, v => fail "a string" source v

def boolean : Decoder Bool
  | _, .bool b => .ok b
  | source, v => fail "a boolean" source v

def bounded (low high : Int) (name : String) : Decoder Int
  | source, v =>
    match v, source.found v with
    | .number (.integer _), .integer i =>
      if low ≤ i ∧ i ≤ high then .ok i else .error (.outOfRange (.integer i) name)
    | v, _ => fail name source v

def signed32 : Decoder Int :=
  bounded (-(twoTo 31 : Int)) (maxUnsigned 31) "i32"

def unsigned (bits : Nat) (name : String) : Decoder Nat :=
  fun source v => (bounded 0 (maxUnsigned bits) name source v).map Int.toNat

def unsigned16 : Decoder Nat := unsigned 16 "u16"

def unsigned32 : Decoder Nat := unsigned 32 "u32"

def unsigned64 : Decoder Nat := unsigned 64 "u64"

def list {α : Type} (item : Decoder α) : Decoder (List α)
  | source, .array items => items.mapM (item source)
  | source, v => fail "a sequence" source v

def map {α : Type} (value : Decoder α) : Decoder (List (String × α))
  | source, .object members => members.mapM fun (name, v) => do return (name, ← value source v)
  | source, v => fail "a map" source v

def nullable {α : Type} (value : Decoder α) : Decoder (Option α)
  | _, .null => .ok none
  | source, v => (value source v).map some

/-- The first of several forms that fits. -/
def oneOf {α : Type} (name : String) (forms : List (Decoder α)) : Decoder α :=
  fun _ v =>
    match forms.findSome? fun form => (form .buffered v).toOption with
    | some a => .ok a
    | none => .error (.noVariant name)

/-- One of a few names, alone or as the only member of an object, with nothing to it. -/
def oneName {α : Type} (kind : String) (names : List (String × α)) : Decoder α
  | source, v =>
    let known (name : String) : Except DecodeFault α :=
      match names.lookup name with
      | some a => .ok a
      | none => .error (.unknownVariant name (names.map (·.1)))
    match v with
    | .string s => known s
    | .object [(name, .null)] => known name
    | v => fail ("enum " ++ kind) source v

def uri : Decoder String :=
  fun source v => do
    let s ← string source v
    match UriReference.check s.toList with
    | .ok () => return s
    | .error fault => .error (.uri fault)

end Decoder

/-- The fields of a record, in the order of their declaration. -/
structure Fields (α : Type) where
  /-- Each field with the test of its value. -/
  checks : List (String × Decoder Unit)
  /-- The record of an object whose members have passed the tests. -/
  ofMembers : Source → Members → Except DecodeFault α
  /-- The record of a list of values, from the field of a given index on, with the values that are
  left and the next index. -/
  ofItems : Source → (short : Nat → DecodeFault) → Nat → List Json →
    Except DecodeFault (α × Nat × List Json)

namespace Fields

def none {α : Type} (a : Unit → α) : Fields α where
  checks := []
  ofMembers _ _ := .ok (a ())
  ofItems _ _ index items := .ok (a (), index, items)

instance : Functor Fields where
  map f fields := {
    checks := fields.checks
    ofMembers := fun source members => (fields.ofMembers source members).map f
    ofItems := fun source short index items =>
      (fields.ofItems source short index items).map fun (a, next, rest) => (f a, next, rest) }

instance : Applicative Fields where
  pure a := none fun _ => a
  seq fs as :=
    let second := as ()
    { checks := fs.checks ++ second.checks
      ofMembers := fun source members => do
        let f ← fs.ofMembers source members
        return f (← second.ofMembers source members)
      ofItems := fun source short index items => do
        let (f, index, items) ← fs.ofItems source short index items
        let (a, index, items) ← second.ofItems source short index items
        return (f a, index, items) }

/-- A field with a fallback for when it is absent; without one it is required. -/
def field {α : Type} (name : String) (decode : Decoder α) (absent listEnd : Option α) :
    Fields α where
  checks := [(name, fun source v => (decode source v).map fun _ => ())]
  ofMembers source members :=
    match Members.find? name members, absent with
    | some v, _ => decode source v
    | Option.none, some a => .ok a
    | Option.none, Option.none => .error (.missingField name)
  ofItems source short index items :=
    match items, listEnd with
    | v :: rest, _ => (decode source v).map fun a => (a, index + 1, rest)
    | [], some a => .ok (a, index + 1, [])
    | [], Option.none => .error (short index)

def required {α : Type} (name : String) (decode : Decoder α) : Fields α :=
  field name decode Option.none Option.none

/-- A field that may be null or absent, but has its place in a list. -/
def optional {α : Type} (name : String) (decode : Decoder α) : Fields (Option α) :=
  field name decode.nullable (some Option.none) Option.none

def defaulted {α : Type} (name : String) (decode : Decoder α) (default : α) : Fields α :=
  field name decode (some default) (some default)

def names {α : Type} (fields : Fields α) : List String :=
  fields.checks.map (·.1)

/-- Test the members in the order of their names; `strict` refuses those with unknown names. -/
def visit {α : Type} (fields : Fields α) (strict : Bool) (source : Source) :
    Members → Except DecodeFault Unit
  | [] => .ok ()
  | (name, v) :: members => do
    match fields.checks.lookup name with
    | some check => check source v
    | Option.none => if strict then throw (.unknownField name fields.names)
    visit fields strict source members

def ofObject {α : Type} (fields : Fields α) (strict : Bool) (source : Source) (members : Members) :
    Except DecodeFault α := do
  fields.visit strict source members
  fields.ofMembers source members

def record {α : Type} (fields : Fields α) (name : String) (strict : Bool) : Decoder α
  | source, .object members => fields.ofObject strict source members
  | source, .array items => do
    let count := fields.checks.length
    let short := fun index => DecodeFault.wrongLength index
      ("struct " ++ name ++ " with " ++ Source.counted count "element")
    let (a, _, rest) ← fields.ofItems source short 0 items
    match rest, source.surplus? items.length count with
    | _ :: _, some fault => throw fault
    | _, _ => return a
  | source, v => Decoder.fail ("struct " ++ name) source v

/-- The record read from an object that also holds other records' fields. -/
def within {α : Type} (fields : Fields α) (members : Members) : Except DecodeFault α :=
  fields.ofObject false .buffered members

/-- An object with fields of its own beside those of further records; these are read after its own. -/
def beside {α β : Type} (fields : Fields α) (name : String)
    (others : α → Members → Except DecodeFault β) : Decoder β
  | source, .object members => do
    let a ← fields.ofObject false source members
    others a members
  | source, v => Decoder.fail ("struct " ++ name) source v

def lenient {α : Type} (fields : Fields α) (name : String) : Decoder α :=
  fields.record name false

def strict {α : Type} (fields : Fields α) (name : String) : Decoder α :=
  fields.record name true

end Fields

end RuleServer
