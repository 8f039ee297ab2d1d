import RuleServer.Host.Process
import RuleServer.Host.Shell.Expression
import RuleServer.Text.Blank
import RuleServer.Text.Numeral

/-!
The host's utilities, as functions of their arguments, their input and the files.
-/

namespace RuleServer

namespace Shell

/-- What a program is started with. -/
structure Call where
  name : ByteText
  args : List ByteText
  input : ByteText
  files : Files
  environment : List (String × ByteText)

structure Chunk where
  isError : Bool
  text : ByteText
deriving Repr

/-- What a program leaves behind. -/
structure Result where
  chunks : List Chunk := []
  status : Nat := 0
  files : Files
  /-- What is left of the input. -/
  input : ByteText
  /-- The time that has passed, in milliseconds. -/
  elapsed : Nat := 0

namespace Call

def path (arg : ByteText) : Path :=
  ⟨toBytes arg⟩

def result (c : Call) (out : ByteText) (status : Nat) : Result :=
  { chunks := if out = [] then [] else [⟨false, out⟩]
    status, files := c.files, input := c.input }

def print (c : Call) (out : ByteText) : Result :=
  c.result out 0

def complain (c : Call) (what : ByteText) (fault : IoFault) : Chunk :=
  let cause := (fault.message.splitOn " (os error").headD ""
  ⟨true, c.name ++ ofText ": " ++ what ++ ofText (": " ++ cause ++ "\n")⟩

end Call

abbrev Utility := Call → Result

def newline : ByteText := ['\n']

def linesOf (text : ByteText) : List ByteText :=
  match (splitWhere (· = '\n') text).reverse with
  | [] :: rest => rest.reverse
  | parts => parts.reverse

def joinLines (lines : List ByteText) : ByteText :=
  lines.flatMap (· ++ newline)

def lacksEnd (text : ByteText) : Bool :=
  text ≠ [] && text.getLast? ≠ some '\n'

def octalValue (cs : List Char) : Nat :=
  cs.foldl (fun n c => n * 8 + digitValue c) 0

def isOctalDigit (c : Char) : Bool :=
  '0' ≤ c && c ≤ '7'

def byteChar (n : Nat) : Char :=
  Char.ofNat (n % 256)

def letterEscape? : Char → Option Char
  | 'n' => some '\n'
  | 't' => some '\t'
  | 'r' => some '\r'
  | 'a' => some '\x07'
  | 'b' => some '\x08'
  | 'f' => some '\x0c'
  | 'v' => some '\x0b'
  | '\\' => some '\\'
  | _ => none

def octalEscape? (cs : List Char) : Option (Char × List Char) :=
  let digits := (cs.take 3).takeWhile isOctalDigit
  if digits = [] then none else some (byteChar (octalValue digits), cs.drop digits.length)

/-- Text with its escapes carried out, and whether the output ends there. Octal numbers may have a
zero in front that does not count. -/
def unescaped : (fuel : Nat) → List Char → ByteText × Bool
  | 0, cs => (cs, false)
  | _ + 1, [] => ([], false)
  | fuel + 1, '\\' :: c :: cs =>
    let add (d : Char) (rest : List Char) :=
      let (text, ended) := unescaped fuel rest
      (d :: text, ended)
    if c = 'c' then ([], true)
    else match letterEscape? c with
      | some d => add d cs
      | none =>
        if c = '0' then
          match octalEscape? cs with
          | some (d, rest) => add d rest
          | none => add '\x00' cs
        else match octalEscape? (c :: cs) with
          | some (d, rest) => add d rest
          | none =>
            let (text, ended) := unescaped fuel cs
            ('\\' :: c :: text, ended)
  | fuel + 1, c :: cs =>
    let (text, ended) := unescaped fuel cs
    (c :: text, ended)

def spaced (words : List ByteText) : ByteText :=
  [' '].intercalate words

/-- The shell's own `echo`, which carries out escapes. -/
def echo : Utility := fun c =>
  let (args, ending) := match c.args with
    | ['-', 'n'] :: rest => (rest, [])
    | args => (args, newline)
  let text := spaced args
  let (text, ended) := unescaped (text.length + 1) text
  c.print (text ++ if ended then [] else ending)

/-- The program `echo`, which prints its arguments as they are. -/
def plainEcho : Utility := fun c =>
  match c.args with
  | ['-', 'n'] :: rest => c.print (spaced rest)
  | ['-', 'e'] :: rest =>
    let text := spaced rest
    let (text, ended) := unescaped (text.length + 1) text
    c.print (text ++ if ended then [] else newline)
  | args => c.print (spaced args ++ newline)

def leadingInteger (cs : List Char) : Int :=
  match cs with
  | '-' :: cs => -(readDigitsOf cs : Int)
  | '+' :: cs => readDigitsOf cs
  | cs => readDigitsOf cs
where
  readDigitsOf (cs : List Char) : Nat :=
    (cs.takeWhile isDigit).foldl (fun n c => n * 10 + digitValue c) 0

def padded (width : Nat) (left zero : Bool) (text : ByteText) : ByteText :=
  let fill := List.replicate (width - text.length) (if zero && !left then '0' else ' ')
  if left then text ++ fill else fill ++ text

/-- One conversion of a format: flags, width, precision, and the letter. -/
structure Conversion where
  left : Bool
  zero : Bool
  width : Nat
  precision : Option Nat
  letter : Char

def naturalOf (cs : List Char) : Nat :=
  cs.foldl (fun n c => n * 10 + digitValue c) 0

def conversion? (cs : List Char) : Option (Conversion × List Char) :=
  let isFlag := fun c => c = '-' || c = '0' || c = '+' || c = ' ' || c = '#'
  let flags := cs.takeWhile isFlag
  let cs := cs.dropWhile isFlag
  let width := naturalOf (cs.takeWhile isDigit)
  let cs := cs.dropWhile isDigit
  let (precision, cs) := match cs with
    | '.' :: cs => (some (naturalOf (cs.takeWhile isDigit)), cs.dropWhile isDigit)
    | cs => (none, cs)
  match cs with
  | letter :: rest =>
    some (⟨flags.contains '-', flags.contains '0', width, precision, letter⟩, rest)
  | [] => none

def Conversion.apply (v : Conversion) (arg : ByteText) : ByteText :=
  let shown := match v.letter with
    | 's' => (v.precision.map arg.take).getD arg
    | 'b' => (unescaped (arg.length + 1) arg).1
    | 'c' => arg.take 1
    | 'x' => Nat.toDigits 16 (leadingInteger arg).toNat
    | 'X' => (Nat.toDigits 16 (leadingInteger arg).toNat).map Char.toUpper
    | 'o' => Nat.toDigits 8 (leadingInteger arg).toNat
    | _ => (integerText (leadingInteger arg)).toList
  padded v.width v.left v.zero shown

def formatOnce : (fuel : Nat) → List Char → List ByteText → ByteText × List ByteText
  | 0, _, args => ([], args)
  | _ + 1, [], args => ([], args)
  | fuel + 1, '%' :: '%' :: cs, args =>
    let (text, args) := formatOnce fuel cs args
    ('%' :: text, args)
  | fuel + 1, '%' :: cs, args =>
    match conversion? cs with
    | none => (['%'], args)
    | some (v, rest) =>
      let (text, left) := formatOnce fuel rest (args.drop 1)
      (v.apply (args.headD []) ++ text, left)
  | fuel + 1, '\\' :: c :: cs, args =>
    match letterEscape? c, octalEscape? (c :: cs) with
    | some d, _ =>
      let (text, args) := formatOnce fuel cs args
      (d :: text, args)
    | none, some (d, rest) =>
      let (text, args) := formatOnce fuel rest args
      (d :: text, args)
    | none, none =>
      let (text, args) := formatOnce fuel cs args
      (if c = '"' ∨ c = '\'' then c :: text else '\\' :: c :: text, args)
  | fuel + 1, c :: cs, args =>
    let (text, args) := formatOnce fuel cs args
    (c :: text, args)

/-- A format is used again as long as it takes arguments and some are left. -/
def formatAll (format : ByteText) : (fuel : Nat) → List ByteText → ByteText
  | 0, _ => []
  | fuel + 1, args =>
    let (text, left) := formatOnce (format.length + 1) format args
    if left = [] ∨ left.length = args.length then text
    else text ++ formatAll format fuel left

def printf : Utility := fun c =>
  match c.args with
  | ['-', '-'] :: format :: args | format :: args =>
    c.print (formatAll format (args.length + 1) args)
  | [] => c.result [] 2

/-- The contents of the files that are named, one after another, else the input. -/
def gather (c : Call) (names : List ByteText) : ByteText × List Chunk × Bool :=
  if names = [] then (c.input, [], true)
  else names.foldl (fun (text, faults, usedInput) name =>
    if name = ['-'] then (text ++ c.input, faults, true)
    else match c.files.read (Call.path name) with
      | .ok content => (text ++ ofBytes content, faults, usedInput)
      | .error fault => (text, faults ++ [c.complain name fault], usedInput)) ([], [], false)

def filter (names : List ByteText) (f : ByteText → ByteText) : Utility := fun c =>
  let (text, faults, usedInput) := gather c names
  let out := f text
  { chunks := faults ++ (if out = [] then [] else [⟨false, out⟩])
    status := if faults.isEmpty then 0 else 1
    files := c.files
    input := if usedInput then [] else c.input }

def cat : Utility := fun c => filter c.args id c

def isOption (arg : ByteText) : Bool :=
  arg.head? = some '-' && arg.length > 1

def operands (args : List ByteText) : List ByteText :=
  args.filter fun a => !isOption a

def hasFlag (args : List ByteText) (letter : Char) : Bool :=
  args.any fun a => isOption a && a.contains letter

def wc : Utility := fun c =>
  let names := operands c.args
  let count (text : ByteText) : List Nat :=
    let lines := (text.filter (· = '\n')).length
    let words := (words text).length
    if hasFlag c.args 'l' then [lines]
    else if hasFlag c.args 'w' then [words]
    else if hasFlag c.args 'c' ∨ hasFlag c.args 'm' then [text.length]
    else [lines, words, text.length]
  let show_ (text : ByteText) : ByteText :=
    let counts := count text
    let width := if counts.length = 1 then 0 else 7
    let shown := spaced (counts.map fun n => padded width false false (decimal n))
    shown ++ names.flatMap (' ' :: ·) ++ newline
  filter names show_ c

def countOption : List ByteText → Option (Nat × List ByteText)
  | ['-', 'n'] :: n :: rest => some (naturalOf n, rest)
  | ('-' :: 'n' :: n) :: rest => some (naturalOf n, rest)
  | ('-' :: d :: n) :: rest => if isDigit d then some (naturalOf (d :: n), rest) else none
  | _ => none

def head : Utility := fun c =>
  match c.args with
  | ['-', 'c'] :: n :: names => filter names (fun text => text.take (naturalOf n)) c
  | args =>
    let (n, names) := (countOption args).getD (10, args)
    filter names (fun text =>
      let ls := linesOf text
      let out := joinLines (ls.take n)
      if lacksEnd text && ls.length ≤ n then out.dropLast else out) c

def tail : Utility := fun c =>
  let (from_, n, names) := match c.args with
    | ['-', 'n'] :: ('+' :: n) :: names => (true, naturalOf n, names)
    | args =>
      let (n, names) := (countOption args).getD (10, args)
      (false, n, names)
  filter names (fun text =>
    let ls := linesOf text
    let out := joinLines (ls.drop (if from_ then n - 1 else ls.length - n))
    if lacksEnd text then out.dropLast else out) c

def rangesOf (text : ByteText) : List (Nat × Option Nat) :=
  (splitWhere (· = ',') text).map fun part =>
    match cutWhere? (· = '-') part with
    | none => (naturalOf part, some (naturalOf part))
    | some (low, high) =>
      (if low = [] then 1 else naturalOf low, if high = [] then none else some (naturalOf high))

def inRanges (ranges : List (Nat × Option Nat)) (n : Nat) : Bool :=
  ranges.any fun (low, high) => decide (low ≤ n) && (high.all fun h => decide (n ≤ h))

def selected {α : Type} (ranges : List (Nat × Option Nat)) (list : List α) : List α :=
  (list.zipIdx.filter fun (_, i) => inRanges ranges (i + 1)).map (·.1)

def optionValue? (letter : Char) : List ByteText → Option ByteText
  | ('-' :: l :: value) :: rest =>
    if l = letter then (if value = [] then rest.head? else some value) else optionValue? letter rest
  | _ :: rest => optionValue? letter rest
  | [] => none

def cut : Utility := fun c =>
  match optionValue? 'f' c.args, (optionValue? 'c' c.args).or (optionValue? 'b' c.args) with
  | some list, _ =>
    let d := ((optionValue? 'd' c.args).bind List.head?).getD '\t'
    filter [] (fun text => joinLines ((linesOf text).map fun line =>
      if line.contains d then [d].intercalate (selected (rangesOf list) (splitWhere (· = d) line))
      else line)) c
  | none, some list =>
    filter (operands c.args) (fun text =>
      joinLines ((linesOf text).map (selected (rangesOf list)))) c
  | none, none => c.result [] 1

def stripSlashes (p : ByteText) : ByteText :=
  (p.reverse.dropWhile (· = '/')).reverse

def lastComponent (p : ByteText) : ByteText :=
  if p = [] then []
  else
    let p := stripSlashes p
    if p = [] then ['/'] else (p.reverse.takeWhile (· ≠ '/')).reverse

def basename : Utility := fun c =>
  match c.args with
  | p :: suffix :: _ =>
    let base := lastComponent p
    let kept := match afterStart? suffix.reverse base.reverse with
      | some rest => if rest = [] then base else rest.reverse
      | none => base
    c.print (kept ++ newline)
  | [p] => c.print (lastComponent p ++ newline)
  | [] => c.result [] 1

def directoryOf (p : ByteText) : ByteText :=
  let stripped := stripSlashes p
  if stripped = [] then (if p = [] then ['.'] else ['/'])
  else
    let before := stripped.reverse.dropWhile (· ≠ '/')
    if before = [] then ['.']
    else
      let kept := (before.dropWhile (· = '/')).reverse
      if kept = [] then ['/'] else kept

def dirname : Utility := fun c =>
  match c.args with
  | p :: _ => c.print (directoryOf p ++ newline)
  | [] => c.result [] 1

def countFrom (step : Int) (last : Int) : (fuel : Nat) → Int → List Int
  | 0, _ => []
  | fuel + 1, i =>
    if (0 < step ∧ last < i) ∨ (step < 0 ∧ i < last) ∨ step = 0 then []
    else i :: countFrom step last fuel (i + step)

def formatNumber (format : ByteText) (i : Int) : ByteText :=
  (formatOnce (format.length + 1) format [(integerText i).toList]).1

def seq : Utility := fun c =>
  let (format, args) := match c.args with
    | ['-', 'f'] :: format :: rest => (some format, rest)
    | args => (none, args)
  let numbers := args.map leadingInteger
  let (first, step, last) : Int × Int × Int := match numbers with
    | [last] => (1, 1, last)
    | [first, last] => (first, 1, last)
    | first :: step :: last :: _ => (first, step, last)
    | [] => (1, 1, 0)
  let all := countFrom step last ((last - first).natAbs + 1) first
  c.print (joinLines (all.map fun i => match format with
    | some format => formatNumber format i
    | none => (integerText i).toList))

def holds (files : Files) : List ByteText → Bool
  | [] => false
  | [['!'], a] => a = []
  | ['!'] :: rest => !holds files rest
  | [a] => a ≠ []
  | [op, a] =>
    match String.ofList op with
    | "-e" => files.exists? (Call.path a)
    | "-f" => files.isFile (Call.path a)
    | "-d" => files.isDirectory (Call.path a)
    | "-n" => a ≠ []
    | "-z" => a = []
    | "-s" => match files.read (Call.path a) with
      | .ok content => content ≠ []
      | .error _ => false
    | "-r" | "-w" => files.exists? (Call.path a)
    | "-x" => match files.lookup (Call.path a) with
      | .ok (.file _ executable) => executable
      | .ok .directory => true
      | .error _ => false
    | _ => false
  | [a, op, b] =>
    match String.ofList op with
    | "=" => a = b
    | "!=" => a ≠ b
    | "-eq" => leadingInteger a = leadingInteger b
    | "-ne" => leadingInteger a ≠ leadingInteger b
    | "-lt" => leadingInteger a < leadingInteger b
    | "-le" => leadingInteger a ≤ leadingInteger b
    | "-gt" => leadingInteger b < leadingInteger a
    | "-ge" => leadingInteger b ≤ leadingInteger a
    | "-a" => a ≠ [] && b ≠ []
    | "-o" => a ≠ [] || b ≠ []
    | _ => false
  | _ => false

def test : Utility := fun c =>
  c.result [] (if holds c.files c.args then 0 else 1)

def bracketTest : Utility := fun c =>
  c.result [] (if holds c.files c.args.dropLast then 0 else 1)

def placeText (place : Place) : ByteText :=
  if place = [] then ['/'] else place.flatMap fun name => '/' :: ofBytes name

def pwd : Utility := fun c =>
  c.print (placeText c.files.current ++ newline)

def milliseconds (cs : List Char) : Nat :=
  let whole := naturalOf (cs.takeWhile isDigit) * 1000
  match cs.dropWhile isDigit with
  | '.' :: rest =>
    let digits := (rest.takeWhile isDigit).take 3
    whole + naturalOf (digits ++ List.replicate (3 - digits.length) '0')
  | _ => whole

def sleep : Utility := fun c =>
  { c.result [] 0 with elapsed := (c.args.map milliseconds).foldr (· + ·) 0 }

def targetPlace (files : Files) (name : ByteText) : Except IoFault Place := do
  let p := Call.path name
  match files.place p with
  | .ok place => return place
  | .error .noSuchFile =>
    let dir ← files.place (Call.path (directoryOf name))
    return dir ++ [toBytes (lastComponent name)]
  | .error fault => throw fault

def writeFile (files : Files) (name : ByteText) (content : Bytes) : Except IoFault Files := do
  let place ← targetPlace files name
  match files.entry? place with
  | some .directory => throw .isDirectory
  | some (.file _ executable) => return files.add place (.file content executable)
  | none => return files.add place (.file content false)

def copy : Utility := fun c =>
  match c.args with
  | [source, target] =>
    match c.files.read (Call.path source) with
    | .error fault => { c.result [] 1 with chunks := [c.complain source fault] }
    | .ok content =>
      let target :=
        if c.files.isDirectory (Call.path target) then target ++ '/' :: lastComponent source
        else target
      match writeFile c.files target content with
      | .error fault => { c.result [] 1 with chunks := [c.complain target fault] }
      | .ok files => { c.result [] 0 with files }
  | _ => c.result [] 1

def remove : Utility := fun c =>
  let remaining := (operands c.args).foldl (fun (fs : Files) name =>
    match fs.place (Call.path name) with
    | .ok place => { fs with entries := fs.entries.filter fun (p, _) => !place.isPrefixOf p }
    | .error _ => fs) c.files
  { c.result [] 0 with files := remaining }

def touch : Utility := fun c =>
  let files := (operands c.args).foldl (fun (fs : Files) name =>
    if fs.exists? (Call.path name) then fs else (writeFile fs name []).toOption.getD fs) c.files
  { c.result [] 0 with files }

def makeDirectory : Utility := fun c =>
  let files := (operands c.args).foldl (fun (fs : Files) name =>
    match targetPlace fs name with
    | .ok place => if (fs.entry? place).isSome then fs else fs.add place .directory
    | .error _ => fs) c.files
  { c.result [] 0 with files }

def insertText (a : ByteText) : List ByteText → List ByteText
  | [] => [a]
  | b :: bs => if a ≤ b then a :: b :: bs else b :: insertText a bs

def sortTexts (texts : List ByteText) : List ByteText :=
  texts.foldr insertText []

def namesIn (files : Files) (place : Place) : List ByteText :=
  let names := files.entries.filterMap fun (p, _) =>
    if p.dropLast = place ∧ p ≠ [] then p.getLast?.map ofBytes else none
  sortTexts (names.filter fun n => n.head? ≠ some '.')

def listNames : Utility := fun c =>
  let names := operands c.args
  let targets := if names = [] then [['.']] else names
  let (out, faults) := targets.foldl (fun (out, faults) name =>
    match c.files.place (Call.path name) with
    | .error fault => (out, faults ++ [c.complain name fault])
    | .ok place =>
      match c.files.entry? place with
      | some .directory => (out ++ joinLines (namesIn c.files place), faults)
      | _ => (out ++ name ++ newline, faults)) (([] : ByteText), ([] : List Chunk))
  { c.result out (if faults.isEmpty then 0 else 2) with
    chunks := faults ++ (if out = [] then [] else [⟨false, out⟩]) }

def sort : Utility := fun c =>
  let order (ls : List ByteText) :=
    if hasFlag c.args 'r' then (sortTexts ls).reverse else sortTexts ls
  let distinct (ls : List ByteText) := if hasFlag c.args 'u' then ls.eraseDups else ls
  filter (operands c.args) (fun text => joinLines (distinct (order (linesOf text)))) c

def withoutRepeats : List ByteText → List ByteText
  | a :: b :: rest => if a = b then withoutRepeats (b :: rest) else a :: withoutRepeats (b :: rest)
  | rest => rest

def uniq : Utility := fun c =>
  filter (operands c.args) (fun text => joinLines (withoutRepeats (linesOf text))) c

def tee : Utility := fun c =>
  let files := (operands c.args).foldl (fun fs name =>
    (writeFile fs name (toBytes c.input)).toOption.getD fs) c.files
  { c.print c.input with files, input := [] }

/-- The characters of a set: ranges and escapes. -/
def characterSet : List Char → List Char
  | '\\' :: c :: cs => (letterEscape? c).getD c :: characterSet cs
  | a :: '-' :: b :: cs =>
    (List.range (b.toNat + 1 - a.toNat)).map (fun i => Char.ofNat (a.toNat + i)) ++ characterSet cs
  | c :: cs => c :: characterSet cs
  | [] => []

def transliterate : Utility := fun c =>
  match c.args with
  | [['-', 'd'], set] => filter [] (fun text => text.filter fun d => !(characterSet set).contains d) c
  | [source, target] =>
    let source := characterSet source
    let target := characterSet target
    let change (d : Char) : Char :=
      match source.findIdx? (· = d) with
      | some i => (target[i]?.or target.getLast?).getD d
      | none => d
    filter [] (fun text => text.map change) c
  | _ => c.result [] 1

def grep : Utility := fun c =>
  match operands c.args with
  | [] => c.result [] 2
  | pattern :: names =>
    let e := Expression.ofText pattern
    let hits (text : ByteText) := (linesOf text).zipIdx.filter fun (line, _) =>
      (e.find? true line).isSome != hasFlag c.args 'v'
    let show_ (hit : ByteText × Nat) : ByteText :=
      (if hasFlag c.args 'n' then decimal (hit.2 + 1) ++ [':'] else []) ++ hit.1 ++ newline
    let (text, _, _) := gather c names
    let found := hits text
    let out := if hasFlag c.args 'c' then fun _ => decimal found.length ++ newline
      else if hasFlag c.args 'q' then fun _ => [] else fun _ => found.flatMap show_
    { filter names out c with status := if found.isEmpty then 1 else 0 }

/-- The lines that a command of the stream editor is for. -/
inductive Address
  | every
  | number (n : Nat)
  | last
  | matching (e : Expression)

inductive Edit
  | substitute (e : Expression) (by_ : List Char) (every show_ : Bool)
  | print
  | delete
  | quit

def delimited (d : Char) : List Char → Option (List Char × List Char)
  | [] => none
  | '\\' :: c :: cs => (delimited d cs).map fun (part, rest) =>
    (if c = d then c :: part else '\\' :: c :: part, rest)
  | c :: cs => if c = d then some ([], cs)
    else (delimited d cs).map fun (part, rest) => (c :: part, rest)

def address (cs : List Char) : Address × List Char :=
  match cs with
  | '$' :: rest => (.last, rest)
  | '/' :: rest =>
    match delimited '/' rest with
    | some (e, rest) => (.matching (.ofText e), rest)
    | none => (.every, cs)
  | c :: _ =>
    if isDigit c then (.number (naturalOf (cs.takeWhile isDigit)), cs.dropWhile isDigit)
    else (.every, cs)
  | [] => (.every, [])

def isSeparator (c : Char) : Bool :=
  c = ';' || c = '\n' || c = ' '

def edits : (fuel : Nat) → List Char → List (Address × Edit)
  | 0, _ => []
  | fuel + 1, cs =>
    match address (cs.dropWhile isSeparator) with
    | (a, 's' :: d :: rest) =>
      match delimited d rest with
      | none => []
      | some (e, rest) =>
        match delimited d rest with
        | none => []
        | some (by_, rest) =>
          let flags := rest.takeWhile fun c => !isSeparator c
          (a, .substitute (.ofText e) by_ (flags.contains 'g') (flags.contains 'p')) ::
            edits fuel (rest.dropWhile fun c => !isSeparator c)
    | (a, 'p' :: rest) => (a, .print) :: edits fuel rest
    | (a, 'd' :: rest) => (a, .delete) :: edits fuel rest
    | (a, 'q' :: rest) => (a, .quit) :: edits fuel rest
    | _ => []

def Address.selects (a : Address) (number total : Nat) (line : ByteText) : Bool :=
  match a with
  | .every => true
  | .number n => n = number
  | .last => number = total
  | .matching e => (e.find? true line).isSome

/-- A line after the edits: what was printed on the way, the line unless it was deleted, and whether
to stop. -/
def editLine (number total : Nat) : List (Address × Edit) → ByteText →
    List ByteText × Option ByteText × Bool
  | [], line => ([], some line, false)
  | (a, edit) :: rest, line =>
    if a.selects number total line then
      match edit with
      | .substitute e by_ every show_ =>
        let (line, changed) := substitute e by_ every (line.length + 1) true line
        let (printed, kept, stop) := editLine number total rest line
        (if show_ && changed then line :: printed else printed, kept, stop)
      | .print =>
        let (printed, kept, stop) := editLine number total rest line
        (line :: printed, kept, stop)
      | .delete => ([], none, false)
      | .quit => ([], some line, true)
    else editLine number total rest line

def editLines (script : List (Address × Edit)) (silent : Bool) (total : Nat) :
    (number : Nat) → List ByteText → List ByteText
  | _, [] => []
  | number, line :: lines =>
    let (printed, kept, stop) := editLine number total script line
    let shown := printed ++ (if silent then [] else kept.toList)
    if stop then shown else shown ++ editLines script silent total (number + 1) lines

/-- The scripts among the arguments, and the files: each script has an option of its own, or there is
one without. -/
def sedScripts (args : List ByteText) : List ByteText × List ByteText :=
  let rec marked : List ByteText → List ByteText × List ByteText
    | ['-', 'e'] :: script :: rest =>
      let (scripts, names) := marked rest
      (script :: scripts, names)
    | names => ([], names)
  match marked args with
  | ([], script :: names) => ([script], names)
  | found => found

def sed : Utility := fun c =>
  let silent := c.args.contains ['-', 'n']
  match sedScripts (c.args.filter fun a => a ≠ ['-', 'n']) with
  | ([], _) => c.result [] 1
  | (scripts, names) =>
    let script := scripts.flatMap fun script => edits (script.length + 1) script
    filter names (fun text =>
      let lines := linesOf text
      let out := joinLines (editLines script silent lines.length 1 lines)
      if lacksEnd text then out.dropLast else out) c

def env : Utility := fun c =>
  c.print (joinLines (c.environment.map fun (name, value) => ofText name ++ '=' :: value))

def utilities : List (String × Utility) :=
  [("true", fun c => c.result [] 0), ("false", fun c => c.result [] 1), ("echo", plainEcho),
   ("printf", printf), ("cat", cat), ("wc", wc), ("head", head), ("tail", tail),
   ("basename", basename), ("dirname", dirname), ("seq", seq), ("test", test), ("[", bracketTest),
   ("pwd", pwd), ("sleep", sleep), ("cp", copy), ("rm", remove), ("touch", touch),
   ("mkdir", makeDirectory), ("ls", listNames), ("sort", sort), ("tr", transliterate),
   ("grep", grep), ("sed", sed), ("env", env), ("cut", cut), ("uniq", uniq), ("tee", tee)]

/-- What the shell does itself, in place of the utility of that name. -/
def builtins : List (String × Utility) :=
  [(":", fun c => c.result [] 0), ("echo", echo)]

def isBinary (content : ByteText) : Bool :=
  (afterStart? (ofBytes Image.machineMark) content).isSome

def utility? (name : ByteText) : Option Utility :=
  utilities.lookup (String.ofList name)

def builtin? (name : ByteText) : Option Utility :=
  (builtins.lookup (String.ofList name)).or (utility? name)

end Shell

end RuleServer
