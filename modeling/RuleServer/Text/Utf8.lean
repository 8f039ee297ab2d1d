/-!
Characters as bytes. A byte string is cut into units, each a well-formed character or the longest
start of one that cannot be completed; reading strictly accepts only characters, reading leniently
shows a replacement for everything else.
-/

namespace RuleServer

abbrev Bytes := List UInt8

namespace Utf8

def encodeChar (c : Char) : Bytes :=
  let n := c.toNat
  if n < 0x80 then [n.toUInt8]
  else if n < 0x800 then [(0xC0 + n / 0x40).toUInt8, (0x80 + n % 0x40).toUInt8]
  else if n < 0x10000 then
    [(0xE0 + n / 0x1000).toUInt8, (0x80 + n / 0x40 % 0x40).toUInt8, (0x80 + n % 0x40).toUInt8]
  else
    [(0xF0 + n / 0x40000).toUInt8, (0x80 + n / 0x1000 % 0x40).toUInt8,
      (0x80 + n / 0x40 % 0x40).toUInt8, (0x80 + n % 0x40).toUInt8]

def encode (cs : List Char) : Bytes :=
  cs.flatMap encodeChar

/-- What a first byte promises: its own share of the code point, how many bytes follow it, and the
range of the first of those. -/
def lead? (a : Nat) : Option (Nat × Nat × Nat × Nat) :=
  if 0xC2 ≤ a ∧ a ≤ 0xDF then some (a - 0xC0, 1, 0x80, 0xBF)
  else if a = 0xE0 then some (0, 2, 0xA0, 0xBF)
  else if a = 0xED then some (0xD, 2, 0x80, 0x9F)
  else if 0xE1 ≤ a ∧ a ≤ 0xEF then some (a - 0xE0, 2, 0x80, 0xBF)
  else if a = 0xF0 then some (0, 3, 0x90, 0xBF)
  else if a = 0xF4 then some (4, 3, 0x80, 0x8F)
  else if 0xF1 ≤ a ∧ a ≤ 0xF3 then some (a - 0xF0, 3, 0x80, 0xBF)
  else none

/-- Read `need` following bytes, the first of them between `lo` and `hi`. Gives the character, if
all are there, and how many bytes were taken. -/
def follow (value : Nat) : (need lo hi : Nat) → Bytes → Option Char × Nat
  | 0, _, _, _ => (some (Char.ofNat value), 0)
  | _ + 1, _, _, [] => (none, 0)
  | need + 1, lo, hi, b :: bs =>
    if lo ≤ b.toNat ∧ b.toNat ≤ hi then
      let (c, taken) := follow (value * 0x40 + (b.toNat - 0x80)) need 0x80 0xBF bs
      (c, taken + 1)
    else (none, 0)

/-- The unit that starts with byte `a`: its character, if it is well formed, and how many of the
bytes after `a` belong to it. -/
def unit (a : UInt8) (rest : Bytes) : Option Char × Nat :=
  if a.toNat < 0x80 then (some (Char.ofNat a.toNat), 0)
  else match lead? a.toNat with
    | none => (none, 0)
    | some (value, need, lo, hi) => follow value need lo hi rest

def unitsFrom : Nat → Bytes → List (Option Char × Nat)
  | 0, _ => []
  | _, [] => []
  | fuel + 1, a :: rest =>
    let u := unit a rest
    u :: unitsFrom fuel (rest.drop u.2)

def units (bytes : Bytes) : List (Option Char × Nat) :=
  unitsFrom bytes.length bytes

def decode? (bytes : Bytes) : Option (List Char) :=
  (units bytes).mapM (·.1)

def validLength (bytes : Bytes) : Nat :=
  (((units bytes).takeWhile (·.1.isSome)).map (·.2 + 1)).foldr (· + ·) 0

/-- The characters of a byte string, with a replacement for each unit that is not well formed. -/
def decodeLossy (bytes : Bytes) : List Char :=
  (units bytes).map fun u => u.1.getD '�'

end Utf8

def utf8Bytes (s : String) : Bytes :=
  Utf8.encode s.toList

def textOfUtf8? (bytes : Bytes) : Option String :=
  (Utf8.decode? bytes).map String.ofList

def textOfUtf8Lossy (bytes : Bytes) : String :=
  String.ofList (Utf8.decodeLossy bytes)

end RuleServer
