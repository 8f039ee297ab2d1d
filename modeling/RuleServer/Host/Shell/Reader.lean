import RuleServer.Host.Shell.Script
import RuleServer.Text.Numeral

/-!
The grammar of shell scripts: words with their quotes, simple commands with their redirections, and
the compound commands.
-/

namespace RuleServer

namespace Shell

def isNameStart (c : Char) : Bool :=
  c.isAlpha || c = '_'

def isNameChar (c : Char) : Bool :=
  isNameStart c || isDigit c

def isSpecialParameter (c : Char) : Bool :=
  "#?$@*!-".toList.contains c

def isMeta (c : Char) : Bool :=
  " \t\n;&|<>()".toList.contains c

/-- What stands before and after the bracket that closes one already open. -/
def enclosed (opening closing : Char) :
    (fuel depth : Nat) → List Char → Option (List Char × List Char)
  | 0, _, _ => none
  | _ + 1, _, [] => none
  | fuel + 1, depth, c :: cs =>
    let goOn (taken : List Char) (depth : Nat) (rest : List Char) :=
      (enclosed opening closing fuel depth rest).map fun (inside, after) => (taken ++ inside, after)
    if c = closing then
      match depth with
      | 0 => some ([], cs)
      | depth + 1 => goOn [c] depth cs
    else if c = opening then goOn [c] (depth + 1) cs
    else if c = '\\' then goOn (c :: cs.take 1) depth (cs.drop 1)
    else if c = '\'' then
      match cutWhere? (· = '\'') cs with
      | some (quoted, rest) => goOn (c :: quoted ++ [c]) depth rest
      | none => none
    else goOn [c] depth cs

def enclosedBy (opening closing : Char) (cs : List Char) : Option (List Char × List Char) :=
  enclosed opening closing (cs.length + 1) 0 cs

def operators : List String :=
  [":-", ":=", ":+", ":?", "##", "%%", "-", "=", "+", "?", "#", "%"]

def bracedParameter (inside : List Char) (quoted : Bool) : Option Part :=
  match inside with
  | '#' :: name =>
    if name = [] then some (.parameter "#" "" [] quoted)
    else some (.parameter (String.ofList name) "length" [] quoted)
  | c :: cs =>
    let (name, rest) :=
      if isNameStart c then (c :: cs.takeWhile isNameChar, cs.dropWhile isNameChar)
      else if isDigit c then (c :: cs.takeWhile isDigit, cs.dropWhile isDigit)
      else ([c], cs)
    if rest = [] then some (.parameter (String.ofList name) "" [] quoted)
    else operators.findSome? fun op =>
      (afterStart? op.toList rest).map fun argument =>
        .parameter (String.ofList name) op argument quoted
  | [] => none

/-- What stands in parentheses after a dollar sign: with two pairs of them, arithmetic. -/
def parenthesised (inside : List Char) (quoted : Bool) : Part :=
  match inside with
  | '(' :: more =>
    if more.getLast? = some ')' then .number more.dropLast else .output inside quoted
  | inside => .output inside quoted

def dollar (cs : List Char) (quoted : Bool) : Option (Part × List Char) :=
  match cs with
  | '(' :: rest => (enclosedBy '(' ')' rest).map fun (inside, rest) => (parenthesised inside quoted, rest)
  | '\x7b' :: rest => do
    let (inside, rest) ← enclosedBy '\x7b' '\x7d' rest
    return (← bracedParameter inside quoted, rest)
  | c :: rest =>
    if isNameStart c then
      some (.parameter (String.ofList (c :: rest.takeWhile isNameChar)) "" [] quoted,
        rest.dropWhile isNameChar)
    else if isDigit c ∨ isSpecialParameter c then
      some (.parameter (String.singleton c) "" [] quoted, rest)
    else some (.text ['$'] quoted, cs)
  | [] => some (.text ['$'] quoted, [])

def backquoted (cs : List Char) (quoted : Bool) : Option (Part × List Char) :=
  (cutWhere? (· = '\x60') cs).map fun (script, rest) => (.output script quoted, rest)

def doubleQuoted : (fuel : Nat) → List Char → Option (Word × List Char)
  | 0, _ => none
  | _ + 1, [] => none
  | fuel + 1, c :: cs =>
    let add (part : Part) (rest : List Char) :=
      (doubleQuoted fuel rest).map fun (parts, rest) => (part :: parts, rest)
    if c = '"' then some ([], cs)
    else if c = '$' then (dollar cs true).bind fun (part, rest) => add part rest
    else if c = '\x60' then (backquoted cs true).bind fun (part, rest) => add part rest
    else if c = '\\' then
      match cs with
      | '\n' :: rest => doubleQuoted fuel rest
      | d :: rest =>
        if "$`\"\\".toList.contains d then add (.text [d] true) rest
        else add (.text [c] true) cs
      | [] => none
    else add (.text [c] true) cs

def wordRest : (fuel : Nat) → List Char → Option (Word × List Char)
  | 0, _ => none
  | _ + 1, [] => some ([], [])
  | fuel + 1, c :: cs =>
    let add (part : Part) (rest : List Char) :=
      (wordRest fuel rest).map fun (parts, rest) => (part :: parts, rest)
    if isMeta c then some ([], c :: cs)
    else if c = '\'' then
      (cutWhere? (· = '\'') cs).bind fun (quoted, rest) => add (.text quoted true) rest
    else if c = '"' then do
      let (inside, rest) ← doubleQuoted (cs.length + 1) cs
      let (parts, rest) ← wordRest fuel rest
      return (.text [] true :: inside ++ parts, rest)
    else if c = '$' then (dollar cs false).bind fun (part, rest) => add part rest
    else if c = '\x60' then (backquoted cs false).bind fun (part, rest) => add part rest
    else if c = '\\' then
      match cs with
      | '\n' :: rest => wordRest fuel rest
      | d :: rest => add (.text [d] true) rest
      | [] => add (.text [c] true) []
    else add (.text [c] false) cs

def word (cs : List Char) : Option (Word × List Char) :=
  wordRest (cs.length + 1) cs

def skipBlanks : List Char → List Char
  | '\\' :: '\n' :: cs => skipBlanks cs
  | '#' :: cs => cs.dropWhile (· ≠ '\n')
  | c :: cs => if c = ' ' ∨ c = '\t' then skipBlanks cs else c :: cs
  | [] => []

def skipLines : (fuel : Nat) → List Char → List Char
  | 0, cs => cs
  | fuel + 1, cs =>
    match skipBlanks cs with
    | '\n' :: rest => skipLines fuel rest
    | rest => rest

def skipAll (cs : List Char) : List Char :=
  skipLines (cs.length + 1) cs

def reserved? (name : String) (cs : List Char) : Option (List Char) :=
  match afterStart? name.toList cs with
  | some [] => some []
  | some (c :: rest) => if isMeta c then some (c :: rest) else none
  | none => none

def closers : List String :=
  ["then", "else", "elif", "fi", "do", "done", "esac", "\x7d"]

def atEnd (cs : List Char) : Bool :=
  match cs with
  | [] => true
  | ')' :: _ => true
  | ';' :: ';' :: _ => true
  | cs => closers.any fun name => (reserved? name cs).isSome

def descriptorOf (c : Char) : Nat :=
  digitValue c

def redirectFrom (descriptor : Option Nat) (cs : List Char) : Option (Redirect × List Char) :=
  match cs with
  | '>' :: '&' :: d :: rest =>
    if isDigit d then some (.copy (descriptor.getD 1) (descriptorOf d), rest) else none
  | '>' :: '>' :: rest => do
    let (file, rest) ← word (skipBlanks rest)
    return (.output (descriptor.getD 1) file true, rest)
  | '>' :: rest => do
    let (file, rest) ← word (skipBlanks rest)
    return (.output (descriptor.getD 1) file false, rest)
  | '<' :: rest => do
    let (file, rest) ← word (skipBlanks rest)
    return (.input file, rest)
  | _ => none

def redirect? (cs : List Char) : Option (Redirect × List Char) :=
  match cs with
  | c :: rest =>
    if isDigit c then redirectFrom (some (descriptorOf c)) rest else redirectFrom none cs
  | [] => none

def redirects : (fuel : Nat) → List Char → List Redirect × List Char
  | 0, cs => ([], cs)
  | fuel + 1, cs =>
    match redirect? (skipBlanks cs) with
    | none => ([], cs)
    | some (r, rest) =>
      let (rs, rest) := redirects fuel rest
      (r :: rs, rest)

def assignment? (cs : List Char) : Option (String × List Char) :=
  match cs with
  | c :: _ =>
    if isNameStart c then
      let name := cs.takeWhile isNameChar
      match cs.dropWhile isNameChar with
      | '=' :: rest => some (String.ofList name, rest)
      | _ => none
    else none
  | [] => none

/-- The words and redirections of a simple command; assignments stand before all words. -/
def simpleCommand : (fuel : Nat) → (started : Bool) → List Char →
    Option ((List (String × Word) × List Word × List Redirect) × List Char)
  | 0, _, _ => none
  | fuel + 1, started, cs =>
    let cs := skipBlanks cs
    match cs with
    | [] => some (([], [], []), [])
    | c :: _ =>
      match redirect? cs with
      | some (r, rest) =>
        (simpleCommand fuel started rest).map fun ((as, ws, rs), rest) => ((as, ws, r :: rs), rest)
      | none =>
        if isMeta c then some (([], [], []), cs)
        else match (if started then none else assignment? cs) with
          | some (name, rest) => do
            let (value, rest) ← word rest
            let ((as, ws, rs), rest) ← simpleCommand fuel false rest
            return (((name, value) :: as, ws, rs), rest)
          | none => do
            let (w, rest) ← word cs
            let ((as, ws, rs), rest) ← simpleCommand fuel true rest
            return ((as, w :: ws, rs), rest)

def wordList : (fuel : Nat) → List Char → Option (List Word × List Char)
  | 0, _ => none
  | fuel + 1, cs =>
    match skipBlanks cs with
    | [] => some ([], [])
    | c :: rest =>
      if isMeta c then some ([], c :: rest)
      else do
        let (w, rest) ← word (c :: rest)
        let (ws, rest) ← wordList fuel rest
        return (w :: ws, rest)

def armPatterns : (fuel : Nat) → List Char → Option (List Word × List Char)
  | 0, _ => none
  | fuel + 1, cs => do
    let (w, rest) ← word (skipBlanks cs)
    match skipBlanks rest with
    | '|' :: rest =>
      let (ws, rest) ← armPatterns fuel rest
      return (w :: ws, rest)
    | ')' :: rest => return ([w], rest)
    | _ => none

def definition? (cs : List Char) : Option (String × List Char) :=
  match cs with
  | c :: _ =>
    if isNameStart c then
      match skipBlanks (cs.dropWhile isNameChar) with
      | '(' :: rest =>
        match skipBlanks rest with
        | ')' :: rest => some (String.ofList (cs.takeWhile isNameChar), rest)
        | _ => none
      | _ => none
    else none
  | [] => none

def need (name : String) (cs : List Char) : Option (List Char) :=
  reserved? name (skipAll cs)

def skipSeparator (cs : List Char) : List Char :=
  match skipBlanks cs with
  | ';' :: rest => rest
  | rest => rest

mutual
def list : (fuel : Nat) → List Char → Option (Script × List Char)
  | 0, _ => none
  | fuel + 1, cs =>
    let cs := skipAll cs
    if atEnd cs then some (.nothing, cs)
    else do
      let (first, rest) ← andOr fuel cs
      match skipBlanks rest with
      | ';' :: ';' :: rest => return (first, ';' :: ';' :: rest)
      | ';' :: rest | '&' :: rest | '\n' :: rest =>
        let (others, rest) ← list fuel rest
        return (.sequence first others, rest)
      | rest => if atEnd rest then return (first, rest) else none

/-- Pipelines with `&&` and `||` between them, which bind from the left. -/
def andOr : (fuel : Nat) → List Char → Option (Script × List Char)
  | 0, _ => none
  | fuel + 1, cs => do
    let (first, rest) ← pipeline fuel cs
    andOrRest fuel first rest

def andOrRest : (fuel : Nat) → Script → List Char → Option (Script × List Char)
  | 0, _, _ => none
  | fuel + 1, first, cs =>
    match skipBlanks cs with
    | '&' :: '&' :: rest => do
      let (second, rest) ← pipeline fuel (skipAll rest)
      andOrRest fuel (.both first second) rest
    | '|' :: '|' :: rest => do
      let (second, rest) ← pipeline fuel (skipAll rest)
      andOrRest fuel (.either first second) rest
    | rest => some (first, rest)

def pipeline : (fuel : Nat) → List Char → Option (Script × List Char)
  | 0, _ => none
  | fuel + 1, cs =>
    let cs := skipBlanks cs
    match reserved? "!" cs with
    | some rest => do
      let (body, rest) ← pipeline fuel rest
      return (.negation body, rest)
    | none => do
      let (first, rest) ← command fuel cs
      match skipBlanks rest with
      | '|' :: '|' :: rest => return (first, '|' :: '|' :: rest)
      | '|' :: rest =>
        let (second, rest) ← pipeline fuel (skipAll rest)
        return (.pipe first second, rest)
      | rest => return (first, rest)

def command : (fuel : Nat) → List Char → Option (Script × List Char)
  | 0, _ => none
  | fuel + 1, cs => do
    if let some (name, rest) := definition? cs then
      let (body, rest) ← command fuel (skipAll rest)
      return (.named name body, rest)
    match ← compound fuel cs with
    | some (body, rest) =>
      let (rs, rest) := redirects rest.length rest
      return (if rs.isEmpty then body else .redirected body rs, rest)
    | none =>
      let ((as, ws, rs), rest) ← simpleCommand (cs.length + 1) false cs
      if as.isEmpty && ws.isEmpty && rs.isEmpty then none
      return (.simple as ws rs, rest)

def compound : (fuel : Nat) → List Char → Option (Option (Script × List Char))
  | 0, _ => none
  | fuel + 1, cs =>
    match cs with
    | '(' :: rest => do
      let (body, rest) ← list fuel rest
      match skipAll rest with
      | ')' :: rest => return some (.subshell body, rest)
      | _ => none
    | cs =>
      if let some rest := reserved? "\x7b" cs then do
        let (body, rest) ← list fuel rest
        return some (body, ← need "\x7d" rest)
      else if let some rest := reserved? "if" cs then do
        return some (← conditional fuel rest)
      else if let some rest := reserved? "while" cs then do
        return some (← loopBody fuel rest false)
      else if let some rest := reserved? "until" cs then do
        return some (← loopBody fuel rest true)
      else if let some rest := reserved? "for" cs then do
        let cs := skipBlanks rest
        let name := cs.takeWhile isNameChar
        let rest := cs.dropWhile isNameChar
        let (words, rest) ← match need "in" rest with
          | some rest => wordList (rest.length + 1) rest
          | none => some ([[.parameter "@" "" [] true]], rest)
        let rest ← need "do" (skipSeparator rest)
        let (body, rest) ← list fuel rest
        return some (.each (String.ofList name) words body, ← need "done" rest)
      else if let some rest := reserved? "case" cs then do
        let (subject, rest) ← word (skipBlanks rest)
        let rest ← need "in" rest
        let (arms, rest) ← caseArms fuel rest
        return some (.choice subject arms, rest)
      else some none

def conditional : (fuel : Nat) → List Char → Option (Script × List Char)
  | 0, _ => none
  | fuel + 1, cs => do
    let (condition, rest) ← list fuel cs
    let rest ← need "then" rest
    let (yes, rest) ← list fuel rest
    let rest := skipAll rest
    if let some rest := reserved? "elif" rest then
      let (no, rest) ← conditional fuel rest
      return (.branch condition yes no, rest)
    if let some rest := reserved? "else" rest then
      let (no, rest) ← list fuel rest
      return (.branch condition yes no, ← need "fi" rest)
    return (.branch condition yes .nothing, ← need "fi" rest)

def loopBody : (fuel : Nat) → List Char → (untilTrue : Bool) → Option (Script × List Char)
  | 0, _, _ => none
  | fuel + 1, cs, untilTrue => do
    let (condition, rest) ← list fuel cs
    let rest ← need "do" rest
    let (body, rest) ← list fuel rest
    return (.loop condition body untilTrue, ← need "done" rest)

def caseArms : (fuel : Nat) → List Char → Option (Script × List Char)
  | 0, _ => none
  | fuel + 1, cs => do
    let cs := skipAll cs
    if let some rest := reserved? "esac" cs then
      return (.nothing, rest)
    let cs := match cs with
      | '(' :: rest => rest
      | cs => cs
    let (patterns, rest) ← armPatterns (cs.length + 1) cs
    let (body, rest) ← list fuel rest
    match skipAll rest with
    | ';' :: ';' :: rest =>
      let (others, rest) ← caseArms fuel rest
      return (.arm patterns body others, rest)
    | rest => return (.arm patterns body .nothing, ← need "esac" rest)
end

def parse? (text : ByteText) : Option Script := do
  let (script, rest) ← list (8 * text.length + 8) text
  if rest = [] then some script else none

end Shell

end RuleServer
