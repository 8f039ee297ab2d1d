import RuleServer.Json.Basic
import RuleServer.Text.Cut
import RuleServer.Toml.Text

/-!
Numbers, truth values and dates of TOML documents. Each is one word of the document.
-/

namespace RuleServer

namespace Toml

def digits? (ok : Char → Bool) : List Char → Option (List Char)
  | [] => none
  | [c] => if ok c then some [c] else none
  | c :: '_' :: cs => if ok c then (digits? ok cs).map (c :: ·) else none
  | c :: cs => if ok c then (digits? ok cs).map (c :: ·) else none

def inBase (base : Nat) (digits : List Char) : Nat :=
  digits.foldl (fun n c => n * base + hexDigitValue c) 0

def isBinary (c : Char) : Bool := c = '0' || c = '1'

def isOctal (c : Char) : Bool := '0' ≤ c && c ≤ '7'

def whole? (cs : List Char) : Option (List Char) :=
  match digits? isDigit cs with
  | some ['0'] => some ['0']
  | some ('0' :: _) => none
  | other => other

def signed : List Char → Bool × List Char
  | '-' :: cs => (true, cs)
  | '+' :: cs => (false, cs)
  | cs => (false, cs)

/-- Integers have at most 128 bits. -/
def inRange (i : Int) : Bool :=
  -(twoTo 127 : Int) ≤ i && i < twoTo 128

def magnitude? : List Char → Option Nat
  | '0' :: 'x' :: cs => (digits? isHexDigit cs).map (inBase 16)
  | '0' :: 'o' :: cs => (digits? isOctal cs).map (inBase 8)
  | '0' :: 'b' :: cs => (digits? isBinary cs).map (inBase 2)
  | cs => (whole? cs).map (inBase 10)

def integer? (word : List Char) : Option Int := do
  let i : Int ← match word with
    | '0' :: _ :: _ => (magnitude? word).map Int.ofNat
    | _ =>
      let (negative, cs) := signed word
      (whole? cs).map fun ds => if negative then -(inBase 10 ds : Int) else inBase 10 ds
  if inRange i then some i else none

def exponentLimit : Nat := 100000

/-- The number `digits * 10 ^ exponent`, unless it is too large. -/
def scaled? (negative : Bool) (digits : Nat) (exponent : Int) : Option Binary64 :=
  if digits = 0 then some (.zero negative)
  else if exponent.natAbs ≥ exponentLimit then if exponent < 0 then some (.zero negative) else none
  else
    let q : Fraction :=
      if 0 ≤ exponent then ⟨digits * tenTo exponent.toNat, 1⟩
      else ⟨digits, tenTo (-exponent).toNat⟩
    match Binary64.ofFraction negative q with
    | .infinite _ => none
    | x => some x

def exponent? (cs : List Char) : Option Int := do
  let (negative, cs) := signed cs
  let ds ← digits? isDigit cs
  let n : Int := inBase 10 ds
  return if negative then -n else n

def isExponentMark (c : Char) : Bool := c = 'e' || c = 'E'

def decimal? (negative : Bool) (word : List Char) : Option Binary64 := do
  let (mantissa, exponent) ← match cutWhere? isExponentMark word with
    | none => some (word, 0)
    | some (mantissa, e) => (exponent? e).map (mantissa, ·)
  match cutWhere? (· = '.') mantissa with
  | none =>
    if mantissa.length = word.length then none
    let ds ← whole? mantissa
    scaled? negative (inBase 10 ds) exponent
  | some (before, after) =>
    let ds ← whole? before
    let fs ← digits? isDigit after
    scaled? negative (inBase 10 (ds ++ fs)) (exponent - fs.length)

def real? (word : List Char) : Option Binary64 :=
  let (negative, cs) := signed word
  if cs = "inf".toList then some (.infinite negative)
  else if cs = "nan".toList then some .nan
  else decimal? negative cs

def fixedDigits (n : Nat) (cs : List Char) : Option (Nat × List Char) :=
  let ds := cs.take n
  if ds.length = n ∧ ds.all isDigit then some (inBase 10 ds, cs.drop n) else none

def expect (c : Char) : List Char → Option (List Char)
  | d :: cs => if c = d then some cs else none
  | [] => none

def isLeap (year : Nat) : Bool :=
  (year % 4 = 0 && year % 100 ≠ 0) || year % 400 = 0

def daysIn (year month : Nat) : Nat :=
  if month = 2 then (if isLeap year then 29 else 28)
  else if month = 4 ∨ month = 6 ∨ month = 9 ∨ month = 11 then 30
  else 31

def afterDate (cs : List Char) : Option (List Char) := do
  let (year, cs) ← fixedDigits 4 cs
  let cs ← expect '-' cs
  let (month, cs) ← fixedDigits 2 cs
  let cs ← expect '-' cs
  let (day, cs) ← fixedDigits 2 cs
  if 1 ≤ month ∧ month ≤ 12 ∧ 1 ≤ day ∧ day ≤ daysIn year month then some cs else none

def afterFraction : List Char → Option (List Char)
  | '.' :: cs => if (cs.takeWhile isDigit) = [] then none else some (cs.dropWhile isDigit)
  | cs => some cs

def afterTime (cs : List Char) : Option (List Char) := do
  let (hour, cs) ← fixedDigits 2 cs
  let cs ← expect ':' cs
  let (minute, cs) ← fixedDigits 2 cs
  if 23 < hour ∨ 59 < minute then none
  match cs with
  | ':' :: cs =>
    let (second, cs) ← fixedDigits 2 cs
    if 60 < second then none
    afterFraction cs
  | cs => return cs

def afterOffset : List Char → Option (List Char)
  | 'Z' :: cs | 'z' :: cs => some cs
  | c :: cs => do
    if c ≠ '+' ∧ c ≠ '-' then none
    let (hour, cs) ← fixedDigits 2 cs
    let cs ← expect ':' cs
    let (minute, cs) ← fixedDigits 2 cs
    if 23 < hour ∨ 59 < minute then none
    return cs
  | [] => none

def isMoment (word : List Char) : Bool :=
  match afterDate word with
  | none => afterTime word == some []
  | some [] => true
  | some (c :: cs) =>
    (c = 'T' || c = 't' || c = ' ') &&
      match afterTime cs with
      | none => false
      | some [] => true
      | some rest => afterOffset rest == some []

/-- The name under which the text of a date or time is found. -/
def momentName : String := "$__toml_private_datetime"

def momentText (word : List Char) : String :=
  let spelled := (word.drop 10).map fun c => if c = 't' ∨ c = ' ' then 'T' else if c = 'z' then 'Z' else c
  String.ofList (word.take 10 ++ spelled)

def word? (word : List Char) : Option Json :=
  if word = "true".toList then some (.bool true)
  else if word = "false".toList then some (.bool false)
  else if isMoment word then some (.object [(momentName, .string (momentText word))])
  else match integer? word with
    | some i => some (.int i)
    | none => (real? word).map fun x => .number (.real x)

end Toml

end RuleServer
