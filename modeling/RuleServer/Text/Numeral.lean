import RuleServer.Number.Power

/-!
Decimal numerals within a limit, read from the left.
-/

namespace RuleServer

inductive NumeralFault
  | empty
  | invalidDigit
  | tooLarge
  | tooSmall
deriving DecidableEq, Repr

namespace NumeralFault

def message : NumeralFault → String
  | empty => "cannot parse integer from empty string"
  | invalidDigit => "invalid digit found in string"
  | tooLarge => "number too large to fit in target type"
  | tooSmall => "number too small to fit in target type"

end NumeralFault

def isDigit (c : Char) : Bool :=
  '0' ≤ c && c ≤ '9'

def digitValue (c : Char) : Nat :=
  c.toNat - '0'.toNat

/-- Read digits after a numeral with value `n`; the first fault from the left is reported. -/
def readDigits (limit : Nat) (overflow : NumeralFault) : List Char → Nat → Except NumeralFault Nat
  | [], n => .ok n
  | c :: cs, n =>
    if isDigit c then
      let m := n * 10 + digitValue c
      if m ≤ limit then readDigits limit overflow cs m else .error overflow
    else .error .invalidDigit

def readSignedDigits (limit : Nat) (overflow : NumeralFault) (cs : List Char) :
    Except NumeralFault Nat :=
  if cs = [] then .error .invalidDigit else readDigits limit overflow cs 0

/-- A numeral of at most `limit`, with an optional `+` and any leading zeros. -/
def readNumeral (limit : Nat) : List Char → Except NumeralFault Nat
  | [] => .error .empty
  | '+' :: cs => readSignedDigits limit .tooLarge cs
  | cs => readDigits limit .tooLarge cs 0

/-- A numeral from `-limit - 1` to `limit`, with an optional sign. -/
def readInteger (limit : Nat) : List Char → Except NumeralFault Int
  | '-' :: cs => (readSignedDigits (limit + 1) .tooSmall cs).map fun n => -(n : Int)
  | cs => (readNumeral limit cs).map Int.ofNat

def maxUnsigned (bits : Nat) : Nat :=
  twoTo bits - 1

def decimal (n : Nat) : List Char :=
  Nat.toDigits 10 n

def decimalText (n : Nat) : String :=
  String.ofList (decimal n)

def integerText (i : Int) : String :=
  match i with
  | .ofNat n => decimalText n
  | .negSucc n => String.ofList ('-' :: decimal (n + 1))

end RuleServer
