import RuleServer.Number.Binary64
import RuleServer.Text.Numeral

/-!
The shortest decimal that reads back as a given number: of all decimals nearer to it than to any
other number, one with the fewest digits, and of those the nearest.
-/

namespace RuleServer

/-- The value `digits * 10 ^ exponent`. -/
structure Decimal where
  digits : Nat
  exponent : Int
deriving DecidableEq, Repr

namespace Fraction

def unscaleTen (q : Fraction) (e : Int) : Fraction :=
  if 0 ≤ e then ⟨q.num, q.den * tenTo e.toNat⟩ else ⟨q.num * tenTo (-e).toNat, q.den⟩

def leadingTen (q : Fraction) : Int :=
  let guess := (((q.num.log2 : Int) - q.den.log2) * 30103) / 100000
  let scaled := q.unscaleTen guess
  if scaled.num < scaled.den then guess - 1
  else if 10 * scaled.den ≤ scaled.num then guess + 1
  else guess

end Fraction

namespace Shortest

/-- The decimals that read back as one number: those between `low` and `high`, the ends included
where `closed`. All fractions have the denominator `den`. -/
structure Interval where
  low : Nat
  value : Nat
  high : Nat
  den : Nat
  closed : Bool

/-- The interval of a positive number: half way to its neighbours, and below a power of two only
half as far. -/
def interval (m : Nat) (e : Int) : Interval :=
  let q := Binary64.magnitude 1 e
  let below := if m = twoTo 52 ∧ Binary64.leastExponent < e then 1 else 2
  { low := (4 * m - below) * q.num
    value := 4 * m * q.num
    high := (4 * m + 2) * q.num
    den := 4 * q.den
    closed := m % 2 = 0 }

/-- Whether `n` times the fraction `num / den` lies in the interval. -/
def Interval.holds (i : Interval) (n num den : Nat) : Bool :=
  let x := n * num * i.den
  if i.closed then i.low * den ≤ x && x ≤ i.high * den
  else i.low * den < x && x < i.high * den

/-- The nearer of the two neighbours on the grid of multiples of `10 ^ e` that lie in the
interval. -/
def onGrid (i : Interval) (e : Int) : Option Nat :=
  let unit : Fraction := if 0 ≤ e then ⟨tenTo e.toNat, 1⟩ else ⟨1, tenTo (-e).toNat⟩
  let num := i.value * unit.den
  let den := i.den * unit.num
  let below := num / den
  let above := below + 1
  match i.holds below unit.num unit.den, i.holds above unit.num unit.den with
  | true, true =>
    let rest := 2 * (num % den)
    some (if rest < den then below else if den < rest then above else below + below % 2)
  | true, false => some below
  | false, true => some above
  | false, false => none

def stripZeros : Nat → Decimal → Decimal
  | 0, d => d
  | fuel + 1, d =>
    if d.digits ≠ 0 ∧ d.digits % 10 = 0 then stripZeros fuel ⟨d.digits / 10, d.exponent + 1⟩ else d

def search (i : Interval) (leading : Int) : (count tried : Nat) → Decimal
  | 0, tried => ⟨i.value / i.den, -(tried : Int)⟩
  | count + 1, tried =>
    let e := leading - tried
    match onGrid i e with
    | some n => stripZeros 20 ⟨n, e⟩
    | none => search i leading count (tried + 1)

end Shortest

/-- The shortest decimal of a positive number; seventeen digits always suffice. -/
def shortest (m : Nat) (e : Int) : Decimal :=
  if m = 0 then ⟨0, 0⟩
  else
    let i := Shortest.interval m e
    Shortest.search i (Fraction.leadingTen ⟨i.value, i.den⟩) 17 0

/-- How a number is written once its digits are known. -/
structure RealFormat where
  /-- Whether the point stands after this many digits, counted from the first, or the number is
  written with an exponent. -/
  positional : Int → Bool

namespace RealFormat

def zeros (n : Nat) : List Char :=
  List.replicate n '0'

def fixed (digits : List Char) (point : Int) : List Char :=
  if point ≤ 0 then '0' :: '.' :: (zeros (-point).toNat ++ digits)
  else
    let n := point.toNat
    if digits.length ≤ n then digits ++ zeros (n - digits.length) ++ ['.', '0']
    else digits.take n ++ '.' :: digits.drop n

def scientific (digits : List Char) (point : Int) : List Char :=
  let mantissa := match digits with
    | [] => []
    | [d] => [d]
    | d :: ds => d :: '.' :: ds
  let exponent := point - 1
  mantissa ++ 'e' :: (if exponent < 0 then [] else ['+']) ++ (integerText exponent).toList

def write (f : RealFormat) : Binary64 → String
  | .nan => "NaN"
  | .infinite negative => if negative then "-inf" else "inf"
  | .finite negative m e =>
    let d := shortest m e
    let digits := decimal d.digits
    let point := if m = 0 then 1 else (digits.length : Int) + d.exponent
    let body := if f.positional point then fixed digits point else scientific digits point
    String.ofList (if negative then '-' :: body else body)

end RealFormat

end RuleServer
