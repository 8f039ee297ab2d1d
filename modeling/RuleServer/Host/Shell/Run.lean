import RuleServer.Host.Shell.Arithmetic
import RuleServer.Host.Shell.Reader
import RuleServer.Host.Shell.Utility

/-!
The shell at work. Running takes fuel for every command; a script that uses it up is one that does
not come to an end.
-/

namespace RuleServer

namespace Shell

/-- A way out of what is being run: of a loop, to its next round, or of a named script. -/
inductive Jump
  | leave
  | next
  | back
deriving DecidableEq, Repr

structure State where
  bindings : List (String × ByteText)
  /-- The name of the script, `$0`. -/
  zero : ByteText
  parameters : List ByteText
  files : Files
  input : ByteText := []
  /-- What has been printed so far. -/
  chunks : List Chunk := []
  status : Nat := 0
  /-- The time that has passed, in milliseconds. -/
  elapsed : Nat := 0
  stopped : Bool := false
  jump : Option Jump := none
  /-- The scripts that have names. -/
  named : List (String × Script) := []

def processId : Nat := 4711

namespace State

def valueOf? (s : State) (name : String) : Option ByteText :=
  s.bindings.lookup name

def set (s : State) (name : String) (value : ByteText) : State :=
  { s with bindings := (name, value) :: s.bindings.filter fun (n, _) => n ≠ name }

def unset (s : State) (name : String) : State :=
  { s with bindings := s.bindings.filter fun (n, _) => n ≠ name }

def emit (s : State) (chunks : List Chunk) : State :=
  { s with chunks := s.chunks ++ chunks }

def parameter? (s : State) (name : String) : Option ByteText :=
  match name with
  | "0" => some s.zero
  | "#" => some (decimal s.parameters.length)
  | "?" => some (decimal s.status)
  | "$" => some (decimal processId)
  | "@" | "*" => some (spaced s.parameters)
  | "!" | "-" => some []
  | name =>
    match name.toList with
    | c :: cs =>
      if isDigit c then s.parameters[naturalOf (c :: cs) - 1]? else s.valueOf? name
    | [] => none

def isOver (s : State) : Bool :=
  s.stopped || s.jump.isSome

def nextRound (s : State) : State :=
  if s.jump = some .next then { s with jump := none } else s

def number (s : State) (name : String) : Int :=
  leadingInteger ((s.parameter? name).getD [])

def use (s : State) (utility : Utility) (name : ByteText) (args : List ByteText) : State :=
  let r := utility { name, args, input := s.input, files := s.files, environment := s.bindings }
  { s.emit r.chunks with
    status := r.status, files := r.files, input := r.input, elapsed := s.elapsed + r.elapsed }

def notFound (s : State) (name : ByteText) : Chunk :=
  ⟨true, s.zero ++ ofText ": 1: " ++ name ++ ofText ": not found\n"⟩

end State

/-- What a word becomes before it is cut into fields. -/
inductive Piece
  | fixed (text : ByteText) (quoted : Bool)
  /-- Text that is cut at blanks. -/
  | loose (text : ByteText)
  /-- Fields that stay apart. -/
  | many (fields : List ByteText)

def isFieldBlank (c : Char) : Bool :=
  c = ' ' || c = '\t' || c = '\n'

/-- Fields so far, the last of them open. -/
structure FieldsSoFar where
  done : List ByteText := []
  current : Option ByteText := none

namespace FieldsSoFar

def extend (f : FieldsSoFar) (text : ByteText) : FieldsSoFar :=
  { f with current := some (f.current.getD [] ++ text) }

def close (f : FieldsSoFar) : FieldsSoFar :=
  { done := f.done ++ f.current.toList, current := none }

def addLoose (f : FieldsSoFar) : ByteText → FieldsSoFar
  | [] => f
  | c :: cs => if isFieldBlank c then f.close.addLoose cs else (f.extend [c]).addLoose cs

def addMany (f : FieldsSoFar) : List ByteText → FieldsSoFar
  | [] => f
  | [t] => f.extend t
  | t :: ts => (f.extend t).close.addMany ts

def add (f : FieldsSoFar) : Piece → FieldsSoFar
  | .fixed text _ => f.extend text
  | .loose text => f.addLoose text
  | .many fields => f.addMany fields

end FieldsSoFar

def fieldsOf (pieces : List Piece) : List ByteText :=
  (pieces.foldl FieldsSoFar.add {}).close.done

def joined : List Piece → ByteText
  | [] => []
  | .fixed text _ :: rest => text ++ joined rest
  | .loose text :: rest => text ++ joined rest
  | .many fields :: rest => spaced fields ++ joined rest

/-- The pattern that pieces make: what was quoted has no special meaning. -/
def patternOf : List Piece → Pattern
  | [] => []
  | .fixed text quoted :: rest => text.map (·, quoted) ++ patternOf rest
  | .loose text :: rest => text.map (·, false) ++ patternOf rest
  | .many fields :: rest => (spaced fields).map (·, true) ++ patternOf rest

def withoutLineEnds (text : ByteText) : ByteText :=
  (text.reverse.dropWhile (· = '\n')).reverse

/-- The shortest, or longest, start of a text that a pattern fits, taken away. -/
def cutStart (p : Pattern) (longest : Bool) (text : ByteText) : ByteText :=
  let lengths := List.range (text.length + 1)
  let lengths := if longest then lengths.reverse else lengths
  match lengths.find? fun n => p.matches (text.take n) with
  | some n => text.drop n
  | none => text

def cutEnd (p : Pattern) (longest : Bool) (text : ByteText) : ByteText :=
  let starts := List.range (text.length + 1)
  let starts := if longest then starts else starts.reverse
  match starts.find? fun n => p.matches (text.drop n) with
  | some n => text.take n
  | none => text

def readLine (input : ByteText) : ByteText × ByteText × Bool :=
  match cutWhere? (· = '\n') input with
  | some (line, rest) => (line, rest, true)
  | none => (input, [], false)

def assignWords (s : State) : List ByteText → ByteText → State
  | [], _ => s
  | [name], line => s.set (String.ofList name) (trim line)
  | name :: names, line =>
    let line := line.dropWhile isFieldBlank
    let s := s.set (String.ofList name) (line.takeWhile fun c => !isFieldBlank c)
    assignWords s names (line.dropWhile fun c => !isFieldBlank c)

/-- Commands that change the shell itself. -/
def special? (s : State) (name : ByteText) (args : List ByteText) : Option State :=
  match String.ofList name with
  | "exit" =>
    some { s with stopped := true, status := (args.head?.map naturalOf).getD s.status }
  | "return" =>
    some { s with jump := some .back, status := (args.head?.map naturalOf).getD s.status }
  | "break" => some { s with jump := some .leave, status := 0 }
  | "continue" => some { s with jump := some .next, status := 0 }
  | "cd" =>
    let target := (args.head?.or (s.valueOf? "HOME")).getD ['/']
    match s.files.place (Call.path target) with
    | .ok place =>
      if s.files.entry? place = some .directory then
        some { s.set "PWD" (placeText place) with
          files := { s.files with current := place }, status := 0 }
      else some { s with status := 2 }
    | .error _ => some { s with status := 2 }
  | "export" =>
    some <| args.foldl (fun s arg =>
      match cutWhere? (· = '=') arg with
      | some (name, value) => s.set (String.ofList name) value
      | none => s) { s with status := 0 }
  | "unset" => some (args.foldl (fun s arg => s.unset (String.ofList arg)) { s with status := 0 })
  | "shift" => some { s with parameters := s.parameters.drop 1, status := 0 }
  | "set" =>
    some { s with
      status := 0
      parameters := match args with
        | ['-', '-'] :: parameters => parameters
        | _ => s.parameters }
  | "trap" | "umask" | "wait" => some { s with status := 0 }
  | "read" =>
    let names := args.filter fun a => a ≠ ['-', 'r']
    let (line, rest, whole) := readLine s.input
    let s := assignWords { s with input := rest } names line
    some { s with status := if whole then 0 else 1 }
  | "kill" =>
    if args.contains (decimal processId) then some { s with stopped := true, status := 137 }
    else some { s with status := 1 }
  | _ => none

/-- Where descriptors lead after redirections: back to a stream, or to a file. -/
inductive Target
  | stream (isError : Bool)
  | file (name : ByteText)
deriving DecidableEq

structure Targets where
  output : Target := .stream false
  error : Target := .stream true

def deliver (t : Targets) (files : Files) : List Chunk → Files × List Chunk
  | [] => (files, [])
  | chunk :: rest =>
    match if chunk.isError then t.error else t.output with
    | .stream isError =>
      let (files, others) := deliver t files rest
      (files, ⟨isError, chunk.text⟩ :: others)
    | .file name =>
      let old := (files.read (Call.path name)).toOption.getD []
      let files := (writeFile files name (old ++ toBytes chunk.text)).toOption.getD files
      deliver t files rest

def nullDevice : ByteText := ofText "/dev/null"

mutual
def pieces : (fuel : Nat) → State → Word → Option (List Piece × State)
  | 0, _, _ => none
  | _ + 1, s, [] => some ([], s)
  | fuel + 1, s, part :: parts => do
    let (piece, s) ← match part with
      | .text text quoted => some (.fixed text quoted, s)
      | .number expression =>
        match Arithmetic.evaluate s.number expression with
        | some value => some (.fixed (integerText value).toList true, s)
        | none => some (.fixed [] true, { s with status := 2, stopped := true })
      | .output script quoted => do
        let (text, s) ← capture fuel s script
        some (if quoted then .fixed text true else .loose text, s)
      | .parameter name operator argument quoted =>
        if name = "@" ∧ quoted then some (.many s.parameters, s)
        else do
          let (text, s) ← parameterValue fuel s name operator argument
          some (if quoted then .fixed text true else .loose text, s)
    let (others, s) ← pieces fuel s parts
    return (piece :: others, s)

def parameterValue : (fuel : Nat) → State → String → String → ByteText →
    Option (ByteText × State)
  | 0, _, _, _, _ => none
  | fuel + 1, s, name, operator, argument => do
    let value := s.parameter? name
    let text := value.getD []
    let isEmpty := text = []
    let expanded := fun (s : State) => do
      let (w, _) ← wordRest (argument.length + 1) argument
      pieces fuel s w
    let other := fun (s : State) => (expanded s).map fun (ps, s) => (joined ps, s)
    match operator with
    | "" => return (text, s)
    | "length" => return (decimal text.length, s)
    | ":-" => if isEmpty then other s else return (text, s)
    | "-" => if value.isNone then other s else return (text, s)
    | ":+" => if isEmpty then return ([], s) else other s
    | "+" => if value.isNone then return ([], s) else other s
    | ":=" =>
      if isEmpty then do
        let (text, s) ← other s
        return (text, s.set name text)
      else return (text, s)
    | "#" | "##" => do
      let (ps, s) ← expanded s
      return (cutStart (patternOf ps) (operator = "##") text, s)
    | "%" | "%%" => do
      let (ps, s) ← expanded s
      return (cutEnd (patternOf ps) (operator = "%%") text, s)
    | _ => return (text, s)

/-- What a script prints, without the line ends at its end. What it does to the shell is undone. -/
def capture : (fuel : Nat) → State → ByteText → Option (ByteText × State)
  | 0, _, _ => none
  | fuel + 1, s, text =>
    match parse? text with
    | none => some ([], { s with status := 2 })
    | some script => do
      let done ← run fuel { s with chunks := [] } script
      let printed := (done.chunks.filter fun c => !c.isError).flatMap (·.text)
      let faults := done.chunks.filter (·.isError)
      return (withoutLineEnds printed,
        { s with
          chunks := s.chunks ++ faults, status := done.status, elapsed := done.elapsed
          files := { done.files with current := s.files.current }, input := done.input })

def fields : (fuel : Nat) → State → List Word → Option (List ByteText × State)
  | 0, _, _ => none
  | _ + 1, s, [] => some ([], s)
  | fuel + 1, s, w :: ws => do
    let (ps, s) ← pieces fuel s w
    let (rest, s) ← fields fuel s ws
    return (fieldsOf ps ++ rest, s)

def single : (fuel : Nat) → State → Word → Option (ByteText × State)
  | 0, _, _ => none
  | fuel + 1, s, w => do
    let (ps, s) ← pieces fuel s w
    return (joined ps, s)

def assign : (fuel : Nat) → State → List (String × Word) → Option State
  | 0, _, _ => none
  | _ + 1, s, [] => some s
  | fuel + 1, s, (name, w) :: rest => do
    let (value, s) ← single fuel s w
    assign fuel (s.set name value) rest

/-- Carry out redirections from left to right: where the output leads, and whether all files could
be opened. -/
def redirect : (fuel : Nat) → State → Targets → List Redirect → Option (State × Targets × Bool)
  | 0, _, _, _ => none
  | _ + 1, s, t, [] => some (s, t, true)
  | fuel + 1, s, t, r :: rs =>
    match r with
    | .copy descriptor source =>
      let target := if source = 1 then t.output else t.error
      redirect fuel s (if descriptor = 1 then { t with output := target }
        else { t with error := target }) rs
    | .input file => do
      let (name, s) ← single fuel s file
      if name = nullDevice then redirect fuel { s with input := [] } t rs
      else match s.files.read (Call.path name) with
        | .ok content => redirect fuel { s with input := ofBytes content } t rs
        | .error _ =>
          let cause := ofText ": cannot open " ++ name ++ ofText ": No such file\n"
          return ({ s.emit [⟨true, s.zero ++ cause⟩] with status := 2 }, t, false)
    | .output descriptor file append => do
      let (name, s) ← single fuel s file
      let t' := if descriptor = 1 then { t with output := .file name } else { t with error := .file name }
      if name = nullDevice then redirect fuel s t' rs
      else
        let old := if append then (s.files.read (Call.path name)).toOption.getD [] else []
        match writeFile s.files name old with
        | .ok files => redirect fuel { s with files } t' rs
        | .error _ =>
          let cause := ofText ": cannot create " ++ name ++ ofText ": Directory nonexistent\n"
          return ({ s.emit [⟨true, s.zero ++ cause⟩] with status := 2 }, t, false)

def runRedirected : (fuel : Nat) → State → List Redirect → (State → Option State) → Option State
  | 0, _, _, _ => none
  | fuel + 1, s, rs, body => do
    let (opened, t, ok) ← redirect fuel s {} rs
    if ok then
      let done ← body { opened with chunks := [] }
      let (files, chunks) := deliver t done.files done.chunks
      return { done with files, chunks := opened.chunks ++ chunks,
                         input := if rs.any (fun r => r matches .input _) then s.input else done.input }
    else return opened

/-- A command by its name: one of the shell's own, a named script, a utility, or a script in a
file. -/
def invoke : (fuel : Nat) → State → ByteText → List ByteText → Option State
  | 0, _, _, _ => none
  | fuel + 1, s, name, args =>
    match special? s name args with
    | some s => some s
    | none =>
      if let some body := s.named.lookup (String.ofList name) then do
        let done ← run fuel { s with parameters := args } body
        return { done with parameters := s.parameters, jump := none }
      else if name = ofText "eval" then
        match parse? (spaced args) with
        | some script => run fuel s script
        | none => some { s with status := 2, stopped := true }
      else if name = ofText "exec" then do
        match args with
        | command :: args => return { ← invoke fuel s command args with stopped := true }
        | [] => return s
      else if name.contains '/' then program fuel s name args
      else match builtin? name with
        | some utility => some (s.use utility name args)
        | none =>
          if name = ofText "sh" then shell fuel s name args
          else some { s.emit [s.notFound name] with status := 127 }

def program : (fuel : Nat) → State → ByteText → List ByteText → Option State
  | 0, _, _, _ => none
  | fuel + 1, s, name, args =>
    match s.files.lookup (Call.path name) with
    | .ok (.file content true) =>
      if isBinary (ofBytes content) then
        let base := lastComponent name
        match utility? base with
        | some utility => some (s.use utility base args)
        | none =>
          if base = ofText "sh" then shell fuel s name args
          else some { s.emit [s.notFound name] with status := 126 }
      else script fuel s name args (ofBytes content)
    | .ok _ => some { s.emit [⟨true, s.zero ++ ofText ": 1: " ++ name ++ ofText ": Permission denied\n"⟩]
        with status := 126 }
    | .error _ => some { s.emit [s.notFound name] with status := 127 }

/-- The text of a script under a name with arguments. What it does to the shell is undone. -/
def script : (fuel : Nat) → State → ByteText → List ByteText → ByteText → Option State
  | 0, _, _, _, _ => none
  | fuel + 1, s, name, args, text =>
    match parse? text with
    | none => some { s.emit [⟨true, name ++ ofText ": 1: Syntax error\n"⟩] with status := 2 }
    | some body => do
      let done ← run fuel { s with zero := name, parameters := args, named := [] } body
      return { done with
        zero := s.zero, parameters := s.parameters, bindings := s.bindings, named := s.named
        stopped := false, jump := none, files := { done.files with current := s.files.current } }

/-- The shell itself: a script as an argument, in a file, or in the input. -/
def shell : (fuel : Nat) → State → ByteText → List ByteText → Option State
  | 0, _, _, _ => none
  | fuel + 1, s, name, args =>
    match args with
    | ['-', 'c'] :: text :: zero :: args => script fuel s zero args text
    | [['-', 'c'], text] => script fuel s name [] text
    | file :: args =>
      match s.files.read (Call.path file) with
      | .ok content => script fuel s file args (ofBytes content)
      | .error _ =>
        let cause := name ++ ofText ": 0: cannot open " ++ file ++ ofText ": No such file\n"
        some { s.emit [⟨true, cause⟩] with status := 127 }
    | [] => script fuel { s with input := [] } name [] s.input

def run : (fuel : Nat) → State → Script → Option State
  | 0, _, _ => none
  | fuel + 1, s, script =>
    if s.isOver then some s
    else match script with
      | .nothing => some s
      | .named name body => some { s with named := (name, body) :: s.named, status := 0 }
      | .simple assignments words redirects => do
        let (args, s) ← fields fuel s words
        match args with
        | [] => runRedirected fuel { s with status := 0 } redirects fun s => assign fuel s assignments
        | name :: args =>
          let before := s.bindings
          let s ← assign fuel s assignments
          let done ← runRedirected fuel s redirects fun s => invoke fuel s name args
          return if assignments.isEmpty then done else { done with bindings := before }
      | .sequence first second => do
        run fuel (← run fuel s first) second
      | .both first second => do
        let s ← run fuel s first
        if s.status = 0 then run fuel s second else return s
      | .either first second => do
        let s ← run fuel s first
        if s.status = 0 then return s else run fuel s second
      | .negation body => do
        let s ← run fuel s body
        return { s with status := if s.status = 0 then 1 else 0 }
      | .pipe first second => do
        let left ← run fuel { s with chunks := [] } first
        let printed := (left.chunks.filter fun c => !c.isError).flatMap (·.text)
        let faults := left.chunks.filter (·.isError)
        let right ← run fuel
          { s with
            input := printed, files := left.files, elapsed := left.elapsed
            chunks := s.chunks ++ faults } second
        return { right with
          bindings := s.bindings, input := left.input, stopped := false, jump := none }
      | .subshell body => do
        let done ← run fuel s body
        return { done with
          bindings := s.bindings, parameters := s.parameters, named := s.named
          stopped := false, jump := none
          files := { done.files with current := s.files.current } }
      | .branch condition yes no => do
        let s ← run fuel s condition
        if s.isOver then return s
        else if s.status = 0 then run fuel s yes
        else run fuel { s with status := 0 } no
      | .loop condition body untilTrue => do
        let s ← run fuel s condition
        if s.isOver then return s
        else if (s.status = 0) = untilTrue then return { s with status := 0 }
        else
          let s ← run fuel s body
          if s.jump = some .leave then return { s with jump := none }
          else run fuel s.nextRound (.loop condition body untilTrue)
      | .each name words body => do
        let (values, s) ← fields fuel s words
        eachValue fuel { s with status := 0 } name values body
      | .choice subject arms => do
        let (text, s) ← single fuel s subject
        choose fuel { s with status := 0 } text arms
      | .arm _ body _ => run fuel s body
      | .redirected body redirects => runRedirected fuel s redirects fun s => run fuel s body

def eachValue : (fuel : Nat) → State → String → List ByteText → Script → Option State
  | 0, _, _, _, _ => none
  | _ + 1, s, _, [], _ => some s
  | fuel + 1, s, name, value :: values, body => do
    let s ← run fuel (s.set name value) body
    if s.jump = some .leave then return { s with jump := none }
    else if s.nextRound.isOver then return s
    else eachValue fuel s.nextRound name values body

def choose : (fuel : Nat) → State → ByteText → Script → Option State
  | 0, _, _, _ => none
  | fuel + 1, s, text, .arm patterns body rest => do
    let (fit, s) ← fitsAny fuel s text patterns
    if fit then run fuel s body else choose fuel s text rest
  | _ + 1, s, _, _ => some s

def fitsAny : (fuel : Nat) → State → ByteText → List Word → Option (Bool × State)
  | 0, _, _, _ => none
  | _ + 1, s, _, [] => some (false, s)
  | fuel + 1, s, text, w :: ws => do
    let (ps, s) ← pieces fuel s w
    if (patternOf ps).matches text then return (true, s) else fitsAny fuel s text ws
end

/-- More steps than a script that ends in reasonable time needs. -/
def stepLimit : Nat := 20000

/-- Programs as the host runs them: its shell, its utilities, and scripts. -/
def process : Process := fun files path args environment =>
  let bindings := environment.map fun (name, value) => (name, ofText value)
  let bindings := ("PWD", placeText files.current) :: bindings.filter fun (n, _) => n ≠ "PWD"
  let name := ofBytes path.bytes
  let state : State := { bindings, zero := name, parameters := [], files }
  match program stepLimit state name (args.map ofText) with
  | none => .endless
  | some done =>
    let stream (isError : Bool) :=
      toBytes ((done.chunks.filter fun c => c.isError = isError).flatMap (·.text))
    .finished (stream false) (stream true) done.elapsed

end Shell

end RuleServer
