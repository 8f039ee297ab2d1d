import RuleServer.Text.Quoted
import RuleServer.Text.Utf8

/-!
Internet addresses: reading them from the start of a text, and writing them in their usual form.
-/

namespace RuleServer

structure Ipv4 where
  octets : List Nat
deriving DecidableEq, Repr

structure Ipv6 where
  groups : List Nat
deriving DecidableEq, Repr

namespace Ipv4

def readOctet? (cs : List Char) : Option (Nat × List Char) :=
  let digits := cs.takeWhile isDigit
  match readNumeral 255 digits with
  | .error _ => none
  | .ok n => if digits.head? = some '0' ∧ 1 < digits.length then none else some (n, cs.dropWhile isDigit)

def readOctets? : Nat → List Char → Option (List Nat × List Char)
  | 0, cs => some ([], cs)
  | n + 1, '.' :: cs => do
    let (octet, rest) ← readOctet? cs
    let (octets, rest) ← readOctets? n rest
    return (octet :: octets, rest)
  | _ + 1, _ => none

def read? (cs : List Char) : Option (Ipv4 × List Char) := do
  let (octet, rest) ← readOctet? cs
  let (octets, rest) ← readOctets? 3 rest
  return (⟨octet :: octets⟩, rest)

def text (a : Ipv4) : String :=
  ".".intercalate (a.octets.map decimalText)

end Ipv4

namespace Ipv6

export RuleServer (isHexDigit hexDigitValue)

def readGroup? (cs : List Char) : Option (Nat × List Char) :=
  let digits := cs.takeWhile isHexDigit
  if digits = [] ∨ 4 < digits.length then none
  else some (hexValue digits, cs.dropWhile isHexDigit)

def ofIpv4 (a : Ipv4) : List Nat :=
  match a.octets with
  | [a, b, c, d] => [a * 256 + b, c * 256 + d]
  | _ => []

/-- At most `limit` groups, all but the first behind a colon; the last two may be given as an IPv4
address, and then nothing follows. Gives whether they were. -/
def readGroups : (limit : Nat) → (first : Bool) → List Char → List Nat × Bool × List Char
  | 0, _, cs => ([], false, cs)
  | limit + 1, first, cs =>
    let body? : Option (List Char) :=
      if first then some cs else match cs with
        | ':' :: rest => some rest
        | _ => none
    match body? with
    | none => ([], false, cs)
    | some body =>
      match (if 1 ≤ limit then Ipv4.read? body else none) with
      | some (a, rest) => (ofIpv4 a, true, rest)
      | none =>
        match readGroup? body with
        | none => ([], false, cs)
        | some (g, rest) =>
          let (gs, v4, rest) := readGroups limit false rest
          (g :: gs, v4, rest)

/-- The address at the start of a text, and the rest of the text. A double colon stands for one
zero group or more. -/
def read? (cs : List Char) : Option (Ipv6 × List Char) :=
  let (head, v4, rest) := readGroups 8 true cs
  if head.length = 8 then some (⟨head⟩, rest)
  else if v4 then none
  else match rest with
    | ':' :: ':' :: rest =>
      let (tail, _, rest) := readGroups (7 - head.length) true rest
      some (⟨head ++ List.replicate (8 - head.length - tail.length) 0 ++ tail⟩, rest)
    | _ => none

/-- The longest run of zero groups, the first of several: where it starts and how long it is. -/
def longestZeros : (groups : List Nat) → (index start length bestStart bestLength : Nat) → Nat × Nat
  | [], _, _, _, bestStart, bestLength => (bestStart, bestLength)
  | g :: gs, index, start, length, bestStart, bestLength =>
    if g = 0 then
      let start := if length = 0 then index else start
      if bestLength < length + 1 then longestZeros gs (index + 1) start (length + 1) start (length + 1)
      else longestZeros gs (index + 1) start (length + 1) bestStart bestLength
    else longestZeros gs (index + 1) 0 0 bestStart bestLength

def groupsText (groups : List Nat) : String :=
  ":".intercalate (groups.map fun g => String.ofList (hexadecimal g))

/-- The usual form: the longest run of at least two zero groups is left out, and an IPv4 address
that is carried in the last two groups is shown as such. -/
def text (a : Ipv6) : String :=
  match a.groups with
  | [0, 0, 0, 0, 0, 0xffff, g, h] =>
    "::ffff:" ++ Ipv4.text ⟨[g / 256, g % 256, h / 256, h % 256]⟩
  | groups =>
    let (start, length) := longestZeros groups 0 0 0 0 0
    if 1 < length then
      groupsText (groups.take start) ++ "::" ++ groupsText (groups.drop (start + length))
    else groupsText groups

end Ipv6

inductive SocketAddress
  | v4 (host : Ipv4) (port : Nat)
  | v6 (host : Ipv6) (scope : Nat) (port : Nat)
deriving DecidableEq, Repr

namespace SocketAddress

def readNumber? (limit : Nat) (cs : List Char) : Option (Nat × List Char) :=
  match readNumeral limit (cs.takeWhile isDigit) with
  | .ok n => some (n, cs.dropWhile isDigit)
  | .error _ => none

def readPort? : List Char → Option Nat
  | ':' :: cs =>
    match readNumber? (maxUnsigned 16) cs with
    | some (port, []) => some port
    | _ => none
  | _ => none

def readV4? (cs : List Char) : Option SocketAddress := do
  let (host, rest) ← Ipv4.read? cs
  return .v4 host (← readPort? rest)

def readV6? : List Char → Option SocketAddress
  | '[' :: cs => do
    let (host, rest) ← Ipv6.read? cs
    let (scope, rest) ← match rest with
      | '%' :: rest => readNumber? (maxUnsigned 32) rest
      | _ => some (0, rest)
    match rest with
    | ']' :: rest => return .v6 host scope (← readPort? rest)
    | _ => none
  | _ => none

def parse? (s : String) : Option SocketAddress :=
  (readV4? s.toList).or (readV6? s.toList)

def port : SocketAddress → Nat
  | .v4 _ port => port
  | .v6 _ _ port => port

def withPort : SocketAddress → Nat → SocketAddress
  | .v4 host _, port => .v4 host port
  | .v6 host scope _, port => .v6 host scope port

def text : SocketAddress → String
  | .v4 host port => host.text ++ ":" ++ decimalText port
  | .v6 host scope port =>
    let zone := if scope = 0 then "" else "%" ++ decimalText scope
    "[" ++ host.text ++ zone ++ "]:" ++ decimalText port

end SocketAddress

end RuleServer
