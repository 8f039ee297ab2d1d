import RuleServer.Protocol.Diagnostic
import RuleServer.Rule.Block

/-!
What a rule compiler prints. A result is a line `line 7: message`, or one in the compiler's own
style, `rules.yar(7): error: message`; each becomes a diagnostic on the rule around its line.
-/

namespace RuleServer

/-- Why a line is not a result. -/
inductive ReportFault
  | missingColon (result : String)
  | expectedLine (result : String)
  | invalidNumber (number : String) (fault : NumeralFault)
  | emptyMessage (result : String)
deriving DecidableEq, Repr

namespace ReportFault

def message : ReportFault → String
  | missingColon result => "missing ':' in " ++ quoted result
  | expectedLine result => "expected \"line <N>\" before ':' in " ++ quoted result
  | invalidNumber number fault => "invalid line number " ++ quoted number ++ ": " ++ fault.message
  | emptyMessage result => "empty message in " ++ quoted result

end ReportFault

namespace Report

/-- One result of a compiler; lines are counted from one. -/
structure Result where
  line : Nat
  severity : Severity
  message : List Char
deriving DecidableEq, Repr

/-- The line number and the message of a result `line N: message`. -/
def parse (result : List Char) : Except ReportFault (Nat × List Char) :=
  match cutWhere? (· = ':') result with
  | none => .error (.missingColon (String.ofList result))
  | some (head, tail) =>
    match words head with
    | [word, number] =>
      if word = "line".toList then
        match readNumeral (maxUnsigned 32) number with
        | .error fault => .error (.invalidNumber (String.ofList number) fault)
        | .ok n =>
          let message := trim tail
          if message = [] then .error (.emptyMessage (String.ofList result)) else .ok (n, message)
      else .error (.expectedLine (String.ofList result))
    | _ => .error (.expectedLine (String.ofList result))

def afterLastParen? (cs : List Char) : Option (List Char) :=
  (cutWhere? (· = '(') cs.reverse).map fun (tail, _) => tail.reverse

/-- A result in the compiler's own style, with a given severity. -/
def parseMarked? (severity : Severity) (marker line : List Char) : Option Result := do
  let (head, tail) ← cutAt? marker line
  let number ← afterLastParen? head
  let n ← (readNumeral (maxUnsigned 32) number).toOption
  let message := trim tail
  if message = [] then none else return ⟨n, severity, message⟩

def errorMarker : List Char := "): error: ".toList

def warningMarker : List Char := "): warning: ".toList

def parseLine? (line : List Char) : Option Result :=
  match parse line with
  | .ok (n, message) => some ⟨n, .error, message⟩
  | .error _ =>
    (parseMarked? .error errorMarker line).or (parseMarked? .warning warningMarker line)

/-- The diagnostic of a result: on the rule around its line, or else on the line alone. -/
def diagnostic? (uri text : String) (result : Result) : Option Diagnostic :=
  let line := result.line - 1
  let reported := Range.ofLine line
  let range := (Rule.rangeAt? text ⟨line, 0⟩).getD reported
  let related := ⟨⟨uri, reported⟩, "reported at line " ++ decimalText result.line⟩
  Diagnostic.make? range result.severity none (String.ofList result.message) [related]

def results (output : String) : List Result :=
  (printedLines output.toList).filterMap fun line => parseLine? (trim line)

def diagnostics (uri text output : String) : List Diagnostic :=
  (results output).filterMap (diagnostic? uri text)

end Report

end RuleServer
