import RuleServer.Log
import RuleServer.Text.Alphanumeric
import RuleServer.Text.Blank
import RuleServer.Text.Cut

/-!
Which lines of the log are written: a list of levels, each for all topics or for those that start
in a certain way. The most particular one decides.
-/

namespace RuleServer

/-- Lines whose topic starts with a text are written down to a level, or not at all. -/
structure LogRule where
  topic : String
  level : Option LogLevel
deriving DecidableEq, Repr

abbrev LogFilter := List LogRule

namespace LogFilter

def levelNames : List (String × Option LogLevel) :=
  [("off", none), ("error", some .error), ("warn", some .warn), ("info", some .info),
   ("debug", some .debug), ("trace", some .trace)]

def readLevel? (text : String) : Option (Option LogLevel) :=
  match readNumeral (maxUnsigned 64) text.toList with
  | .ok n => levelNames[n]?.map (·.2)
  | .error _ => levelNames.lookup (String.ofList (text.toList.map Char.toLower))

def startsRule (c : Char) : Bool :=
  c = '-' || c = ':' || c = '_' || isAlphanumeric c

/-- A rule for the inside of a named activity only. It writes nothing by itself. -/
def readActivity? (cs : List Char) : Option (List LogRule) :=
  match cs.dropWhile (· ≠ ']') with
  | [']'] => some []
  | ']' :: '=' :: level => (readLevel? (String.ofList level)).map fun _ => []
  | _ => none

def readRule? (text : String) : Option (List LogRule) :=
  match text.toList with
  | [] => none
  | '[' :: cs => readActivity? cs
  | c :: cs =>
    if !startsRule c then none
    else
      let topic := String.ofList ((c :: cs).takeWhile fun c => c ≠ '=' && c ≠ '[')
      match (c :: cs).dropWhile fun c => c ≠ '=' && c ≠ '[' with
      | '=' :: [] => some [⟨topic, some .trace⟩]
      | '=' :: level => (readLevel? (String.ofList level)).map fun level => [⟨topic, level⟩]
      | '[' :: cs => readActivity? cs
      | _ => match readLevel? text with
        | some level => some [⟨"", level⟩]
        | none => some [⟨text, some .trace⟩]

/-- The rules of a text, with commas between them. Without any, errors are written. -/
def read? (text : String) : Option LogFilter :=
  let pieces := (splitWhere (· = ',') text.toList).filter (· ≠ [])
  if pieces = [] then some [⟨"", some .error⟩]
  else (pieces.mapM fun piece => readRule? (String.ofList piece)).map List.flatten

def ofText (text : String) : LogFilter :=
  (read? text).getD [⟨"", some .info⟩]

/-- The rule that decides on a topic: the longest, and the last of these. -/
def ruleFor? (f : LogFilter) (topic : String) : Option LogRule :=
  (f.filter fun rule => rule.topic.toList.isPrefixOf topic.toList).foldl (fun best rule =>
    match best with
    | none => some rule
    | some b => if b.topic.length ≤ rule.topic.length then some rule else some b) none

def writes (f : LogFilter) (line : LogLine) : Bool :=
  match f.ruleFor? line.topic.name with
  | some ⟨_, some level⟩ => line.level.within level
  | _ => false

end LogFilter

end RuleServer
