/-!
Classes of characters given by the code points at which membership changes.
-/

namespace RuleServer

/-- The increasing code points at which membership in a class flips; code point `0` is outside
unless the list starts with it. -/
structure CharClass where
  bounds : List Nat

namespace CharClass

/-- Whether an odd number of `bounds` lie at or below `n`. -/
def inside : List Nat → Nat → Bool
  | [], _ => false
  | b :: bs, n => if n < b then false else !inside bs n

def contains (k : CharClass) (c : Char) : Bool :=
  inside k.bounds c.toNat

end CharClass

end RuleServer
