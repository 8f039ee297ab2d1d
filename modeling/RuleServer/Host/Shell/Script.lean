import RuleServer.Text.Cut
import RuleServer.Text.Utf8

/-!
Scripts of the host's shell. Their text is a list of characters of which each stands for one byte,
so that any bytes can pass through a script.
-/

namespace RuleServer

namespace Shell

abbrev ByteText := List Char

def ofBytes (bytes : Bytes) : ByteText :=
  bytes.map fun b => Char.ofNat b.toNat

def toBytes (text : ByteText) : Bytes :=
  text.map fun c => c.toNat.toUInt8

def ofText (s : String) : ByteText :=
  ofBytes (utf8Bytes s)

inductive Part
  | text (text : ByteText) (quoted : Bool)
  /-- The value of a parameter, changed by an operator with an argument. -/
  | parameter (name : String) (operator : String) (argument : ByteText) (quoted : Bool)
  /-- What a script prints. -/
  | output (script : ByteText) (quoted : Bool)
  /-- The value of an arithmetic expression. -/
  | number (expression : ByteText)
deriving Repr

abbrev Word := List Part

inductive Redirect
  | input (file : Word)
  | output (descriptor : Nat) (file : Word) (append : Bool)
  | copy (descriptor source : Nat)
deriving Repr

inductive Script
  | nothing
  | simple (assignments : List (String × Word)) (words : List Word) (redirects : List Redirect)
  | sequence (first second : Script)
  | both (first second : Script)
  | either (first second : Script)
  | negation (body : Script)
  | pipe (first second : Script)
  | subshell (body : Script)
  | branch (condition yes no : Script)
  | loop (condition body : Script) (untilTrue : Bool)
  | each (name : String) (words : List Word) (body : Script)
  | choice (subject : Word) (arms : Script)
  /-- One arm of a choice, and the arms after it. -/
  | arm (patterns : List Word) (body rest : Script)
  | redirected (body : Script) (redirects : List Redirect)
  /-- A name for a script. -/
  | named (name : String) (body : Script)
deriving Repr

/-- Characters that may have been quoted, which takes their special meaning away. -/
abbrev Pattern := List (Char × Bool)

def inClass : List Char → Char → Bool
  | a :: '-' :: b :: rest, c => (a ≤ c && c ≤ b) || inClass rest c
  | a :: rest, c => a = c || inClass rest c
  | [], _ => false

def bracket? (p : Pattern) : Option (Bool × List Char × Pattern) :=
  let (negated, p) := match p with
    | ('!', false) :: rest | ('^', false) :: rest => (true, rest)
    | p => (false, p)
  match p with
  | first :: rest =>
    (cutWhere? (fun x => x.1 = ']') rest).map fun (inside, after) =>
      (negated, first.1 :: inside.map (·.1), after)
  | [] => none

def fits : (fuel : Nat) → Pattern → List Char → Bool
  | 0, _, _ => false
  | _ + 1, [], s => s.isEmpty
  | fuel + 1, ('*', false) :: p, s =>
    fits fuel p s ||
      match s with
      | [] => false
      | _ :: s => fits fuel (('*', false) :: p) s
  | fuel + 1, (c, q) :: p, s =>
    match s with
    | [] => false
    | d :: s =>
      if q then c = d && fits fuel p s
      else if c = '?' then fits fuel p s
      else match (if c = '[' then bracket? p else none) with
        | some (negated, members, rest) => (inClass members d != negated) && fits fuel rest s
        | none => c = d && fits fuel p s

def Pattern.matches (p : Pattern) (s : List Char) : Bool :=
  fits (p.length + s.length + 1) p s

end Shell

end RuleServer
