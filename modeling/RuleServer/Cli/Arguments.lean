import RuleServer.Cli.Page
import RuleServer.Text.Numeral
import RuleServer.Text.Similar

/-!
Reading of the command line. An option is settled when the next one comes, so the first fault in
reading order wins; what is not given may come from the environment.
-/

namespace RuleServer

inductive UsageFault
  | missingValue (option : CliOption)
  | badNumber (option : CliOption) (value why : String)
  | badFlag (option : CliOption) (value : String)
  | repeated (option : CliOption)
  | unexpected (argument : String)
  /-- No such option; there may be a similar one. Some options were given before. -/
  | unknown (name : String) (similar : Option CliOption) (given : List CliOption)
  | unexpectedValue (option : CliOption) (value : String) (given : List CliOption)
deriving DecidableEq, Repr

namespace UsageFault

def usageLine (given : List CliOption) : String :=
  "Usage: " ++ Page.programName ++ match given with
    | [] => " [OPTIONS]"
    | given => String.join (given.map fun o => " " ++ o.usage)

def quoted (s : String) : String := "'" ++ s ++ "'"

def flagValues : String := "\n  [possible values: true, false]"

def paragraphs : UsageFault → List String
  | missingValue o => ["a value is required for " ++ quoted o.usage ++ " but none was supplied"]
  | badNumber o value why => ["invalid value " ++ quoted value ++ " for " ++ quoted o.usage ++ ": " ++ why]
  | badFlag o value =>
    [(if value = "" then "a value is required for " ++ quoted o.usage ++ " but none was supplied"
      else "invalid value " ++ quoted value ++ " for " ++ quoted o.usage) ++ flagValues]
  | repeated o =>
    ["the argument " ++ quoted o.usage ++ " cannot be used multiple times", usageLine []]
  | unexpected argument => ["unexpected argument " ++ quoted argument ++ " found", usageLine []]
  | unknown name none given =>
    ["unexpected argument " ++ quoted ("--" ++ name) ++ " found", usageLine given]
  | unknown name (some similar) given =>
    ["unexpected argument " ++ quoted ("--" ++ name) ++ " found",
      "  tip: a similar argument exists: " ++ quoted ("--" ++ similar.name),
      usageLine (given.filter (· ≠ similar) ++ [similar])]
  | unexpectedValue o value given =>
    ["unexpected value " ++ quoted value ++ " for " ++ quoted o.usage ++
      " found; no more were expected", usageLine (given.filter (· ≠ o) ++ [o])]

def message (f : UsageFault) : String :=
  "error: " ++ "\n\n".intercalate (f.paragraphs ++ ["For more information, try '--help'."]) ++ "\n"

end UsageFault

/-- What the program is told to do. -/
structure Arguments where
  config : Option String := none
  host : Option String := none
  port : Option Nat := none
  logLevel : String := "info"
  logJson : Bool := false
deriving DecidableEq, Repr

inductive Refusal
  | fault (fault : UsageFault)
  | page (page : Page)
deriving DecidableEq, Repr

namespace Arguments

def readPort (value : String) : Except UsageFault Nat :=
  match readInteger (maxUnsigned 63) value.toList with
  | .error fault => .error (.badNumber .port value fault.message)
  | .ok i =>
    if 0 ≤ i ∧ i ≤ 65535 then .ok i.toNat
    else .error (.badNumber .port (integerText i) (integerText i ++ " is not in 0..=65535"))

def set (a : Arguments) (value : String) : CliOption → Except UsageFault Arguments
  | .config => if value = "" then .error (.missingValue .config) else .ok { a with config := some value }
  | .host => .ok { a with host := some value }
  | .port => (readPort value).map fun port => { a with port := some port }
  | .logLevel => .ok { a with logLevel := value }
  | .logJson =>
    if value = "true" then .ok { a with logJson := true }
    else if value = "false" then .ok { a with logJson := false }
    else .error (.badFlag .logJson value)
  | .help => .ok a
  | .version => .ok a

end Arguments

/-- A command line in the middle of its reading. -/
structure Reading where
  arguments : Arguments := {}
  /-- The options that are settled. -/
  given : List CliOption := []
  /-- An option that is not settled yet, with its value if that has come. -/
  waiting : Option (CliOption × Option String) := none
deriving DecidableEq, Repr

namespace Reading

def store (r : Reading) (o : CliOption) (value : String) : Except Refusal Reading :=
  if o ∈ r.given then .error (.fault (.repeated o))
  else match r.arguments.set value o with
    | .error fault => .error (.fault fault)
    | .ok arguments => .ok { arguments, given := r.given ++ [o] }

def settle (r : Reading) : Except Refusal Reading :=
  match r.waiting with
  | none => .ok r
  | some (o, none) => .error (.fault (.missingValue o))
  | some (o, some value) => { r with waiting := none }.store o value

def mentioned (r : Reading) : List CliOption :=
  match r.waiting with
  | some (o, some _) => if o ∈ r.given then r.given else r.given ++ [o]
  | _ => r.given

def readFlag (r : Reading) (o : CliOption) (full : Bool) : Except Refusal Reading := do
  let r ← r.settle
  match o with
  | .help => throw (.page (if full then .manual else .summary))
  | .version => throw (.page .version)
  | _ => r.store o "true"

def readOption (r : Reading) (o : CliOption) (value : Option String) : Except Refusal Reading := do
  let r ← r.settle
  match value with
  | some value => r.store o value
  | none => return { r with waiting := some (o, none) }

def readName (r : Reading) (name : String) (value : Option String) : Except Refusal Reading :=
  match CliOption.ofName? name with
  | none => .error (.fault (.unknown name (mostSimilar? name CliOption.name CliOption.all) r.mentioned))
  | some o =>
    if o.takesValue then r.readOption o value
    else match value with
      | some value => .error (.fault (.unexpectedValue o value r.given))
      | none => r.readFlag o true

/-- Letters after one dash; the value of the first that takes one is all that follows. -/
def readLetters (r : Reading) : List Char → Except Refusal Reading
  | [] => .ok r
  | c :: cs =>
    match CliOption.ofLetter? c with
    | none => .error (.fault (.unexpected (String.ofList ['-', c])))
    | some o =>
      if o.takesValue then
        r.readOption o <| match cs with
          | [] => none
          | '=' :: value => some (String.ofList value)
          | value => some (String.ofList value)
      else do readLetters (← r.readFlag o false) cs

def readPlain (r : Reading) (value : String) : Except Refusal Reading :=
  match r.waiting with
  | some (o, none) => .ok { r with waiting := some (o, some value) }
  | _ => .error (.fault (.unexpected value))

def readArgument (r : Reading) (argument : String) : Except Refusal Reading :=
  match argument.toList with
  | '-' :: '-' :: name =>
    let value := (name.dropWhile (· ≠ '=')).tail?
    r.readName (String.ofList (name.takeWhile (· ≠ '='))) (value.map String.ofList)
  | '-' :: c :: cs => r.readLetters (c :: cs)
  | _ => r.readPlain argument

/-- Read arguments to the end. After two dashes there are no more options. -/
def readAll (r : Reading) : List String → Except Refusal Reading
  | [] => r.settle
  | argument :: arguments =>
    if argument = "--" then
      match arguments with
      | [] => r.settle
      | plain :: _ => .error (.fault (.unexpected plain))
    else do readAll (← r.readArgument argument) arguments

/-- Take what is not given from the environment. -/
def complete (r : Reading) (environment : List (String × String)) :
    List CliOption → Except Refusal Arguments
  | [] => .ok r.arguments
  | o :: options =>
    match if o ∈ r.given then none else o.variableName?.bind fun name => environment.lookup name with
    | none => complete r environment options
    | some value => do complete (← r.store o value) environment options

end Reading

def Arguments.read (environment : List (String × String)) (args : List String) :
    Except Refusal Arguments := do
  (← ({} : Reading).readAll args).complete environment CliOption.all

end RuleServer
