import RuleServer.Number.Power

/-!
Binary floating-point numbers with 53 bits of precision, as exact integers. Every operation takes
the exact fraction and rounds it once, to the nearest number, a tie going to the even significand.
-/

namespace RuleServer

/-- A number `significand * 2 ^ exponent` with its sign, or one of the values beyond the numbers.
Of the ways to write a number, the one in use has a significand of 53 bits, or the least
exponent. -/
inductive Binary64
  | finite (negative : Bool) (significand : Nat) (exponent : Int)
  | infinite (negative : Bool)
  | nan
deriving DecidableEq, Repr

/-- A fraction of natural numbers. -/
structure Fraction where
  num : Nat
  den : Nat

namespace Fraction

def unscale (q : Fraction) (e : Int) : Fraction :=
  if 0 ≤ e then ⟨q.num, q.den * twoTo e.toNat⟩ else ⟨q.num * twoTo (-e).toNat, q.den⟩

def round (q : Fraction) : Nat :=
  let whole := q.num / q.den
  let twice := 2 * (q.num % q.den)
  if twice < q.den then whole
  else if q.den < twice then whole + 1
  else whole + whole % 2

def mul (a b : Fraction) : Fraction :=
  ⟨a.num * b.num, a.den * b.den⟩

def div (a b : Fraction) : Fraction :=
  ⟨a.num * b.den, a.den * b.num⟩

end Fraction

namespace Binary64

def leastExponent : Int := -1074

def greatestExponent : Int := 971

/-- The exponent at which a positive fraction has 53 bits before the point, or the least one. -/
def exponentOf (q : Fraction) : Int :=
  let guess : Int := (q.num.log2 : Int) - q.den.log2 - 52
  let scaled := q.unscale guess
  let e := if scaled.num / scaled.den < twoTo 52 then guess - 1 else guess
  max e leastExponent

def zero (negative : Bool) : Binary64 :=
  .finite negative 0 leastExponent

/-- The number nearest to a fraction, or infinity when the fraction is too large. -/
def ofFraction (negative : Bool) (q : Fraction) : Binary64 :=
  if q.num = 0 then zero negative
  else
    let e := exponentOf q
    let m := (q.unscale e).round
    let (m, e) := if m = twoTo 53 then (twoTo 52, e + 1) else (m, e)
    if greatestExponent < e then .infinite negative else .finite negative m e

def ofNat (n : Nat) : Binary64 :=
  ofFraction false ⟨n, 1⟩

def magnitude (m : Nat) (e : Int) : Fraction :=
  if 0 ≤ e then ⟨m * twoTo e.toNat, 1⟩ else ⟨m, twoTo (-e).toNat⟩

def neg : Binary64 → Binary64
  | .finite s m e => .finite (!s) m e
  | .infinite s => .infinite (!s)
  | .nan => .nan

end Binary64

end RuleServer
