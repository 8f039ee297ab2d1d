import RuleServer.Net.Address
import RuleServer.Text.Cut
import RuleServer.Text.Printable
import RuleServer.Uri.Spelling

/-!
Host names in URLs: domains in their lower-case ASCII form, IPv4 addresses in any of their
spellings, and IPv6 addresses in brackets.
-/

namespace RuleServer

inductive UrlFault
  | relativeWithoutBase
  | emptyHost
  | invalidPort
  | invalidIpv4
  | invalidIpv6
  | invalidDomain
  | invalidDomainCharacter
deriving DecidableEq, Repr

namespace UrlFault

def message : UrlFault → String
  | relativeWithoutBase => "relative URL without a base"
  | emptyHost => "empty host"
  | invalidPort => "invalid port number"
  | invalidIpv4 => "invalid IPv4 address"
  | invalidIpv6 => "invalid IPv6 address"
  | invalidDomain => "invalid international domain name"
  | invalidDomainCharacter => "invalid domain character"

end UrlFault

inductive UrlHost
  | domain (name : List Char)
  | address
deriving DecidableEq, Repr

namespace Percent

def isHexByte (b : UInt8) : Bool :=
  b < 128 && isHexDigit (Char.ofNat b.toNat)

def hexByteValue (b : UInt8) : Nat :=
  hexDigitValue (Char.ofNat b.toNat)

/-- Each percent sign with two hexadecimal digits replaced by the byte they denote; others stay. -/
def decode : Bytes → Bytes
  | [] => []
  | 37 :: a :: b :: s =>
    if isHexByte a && isHexByte b then (hexByteValue a * 16 + hexByteValue b).toUInt8 :: decode s
    else 37 :: decode (a :: b :: s)
  | b :: s => b :: decode s

end Percent

namespace Punycode

def base : Nat := 36

def digit? (c : Char) : Option Nat :=
  if 'a' ≤ c ∧ c ≤ 'z' then some (c.toNat - 'a'.toNat)
  else if isDigit c then some (digitValue c + 26)
  else none

def shrink : Nat → Nat → Nat → Nat × Nat
  | 0, delta, k => (delta, k)
  | fuel + 1, delta, k =>
    if 455 < delta then shrink fuel (delta / 35) (k + base) else (delta, k)

def adapt (delta count : Nat) (first : Bool) : Nat :=
  let delta := if first then delta / 700 else delta / 2
  let (delta, k) := shrink 64 (delta + delta / count) 0
  k + 36 * delta / (delta + 38)

def number? (bias : Nat) : List Char → (i weight k : Nat) → Option (Nat × List Char)
  | [], _, _, _ => none
  | c :: cs, i, weight, k => do
    let d ← digit? c
    let i := i + d * weight
    let t := if k ≤ bias then 1 else if bias + 26 ≤ k then 26 else k - bias
    if twoTo 32 ≤ i then none
    else if d < t then return (i, cs)
    else number? bias cs i (weight * (base - t)) (k + base)

def insertions? : Nat → List Char → (n i bias : Nat) → List Nat → Option (List Nat)
  | 0, _, _, _, _, _ => none
  | _ + 1, [], _, _, _, out => some out
  | fuel + 1, digits, n, i, bias, out => do
    let (j, rest) ← number? bias digits i 1 base
    let count := out.length + 1
    let n := n + j / count
    let place := j % count
    if n.isValidChar then
      insertions? fuel rest n (place + 1) (adapt (j - i) count (i = 0))
        (out.take place ++ n :: out.drop place)
    else none

def decode? (label : List Char) : Option (List Char) :=
  let reversed := label.reverse
  let digits := (reversed.takeWhile (· ≠ '-')).reverse
  let basic := (reversed.dropWhile (· ≠ '-')).drop 1 |>.reverse
  (insertions? (label.length + 1) digits 128 0 72 (basic.map Char.toNat)).map (·.map Char.ofNat)

end Punycode

namespace Domain

def isForbidden (c : Char) : Bool :=
  c.toNat ≤ 32 || c.toNat = 127 || "%#/:<>?@[\\]^|".toList.contains c

def lower (c : Char) : Char :=
  if 'A' ≤ c ∧ c ≤ 'Z' then Char.ofNat (c.toNat + 32) else c

/-- A character of a domain in the form that is compared; nothing for one that is not allowed. -/
def fold? (c : Char) : Option (List Char) :=
  if c.toNat < 128 then some [lower c]
  else if silentClass.contains c then some []
  else if refusedClass.contains c then none
  else some ((plain? c).getD [c])

def isAscii (c : Char) : Bool :=
  c.toNat < 128

/-- Whether an encoded label stands for a name that needs the encoding. -/
def isEncodedLabel (code : List Char) : Bool :=
  match Punycode.decode? code with
  | none => false
  | some name =>
    !name.all isAscii && name.all fun c => fold? c = some [c] && !variantClass.contains c

def isLabel (label : List Char) : Bool :=
  match afterStart? "xn--".toList label with
  | some code => code.all isAscii && isEncodedLabel code
  | none =>
    match label with
    | [] => true
    | c :: _ => !graphemeExtendClass.contains c

def ofBytes? (bytes : Bytes) : Option (List Char) := do
  let cs ← Utf8.decode? bytes
  let folded := (← cs.mapM fold?).flatten
  if folded.any isForbidden then none
  else if (splitWhere (· = '.') folded).all isLabel then return folded
  else none

def isOctalDigit (c : Char) : Bool :=
  '0' ≤ c && c ≤ '7'

def valueIn (base : Nat) (cs : List Char) : Nat :=
  cs.foldl (fun n c => n * base + hexDigitValue c) 0

def number? (cs : List Char) : Option Nat :=
  match cs with
  | [] => none
  | '0' :: 'x' :: rest | '0' :: 'X' :: rest =>
    if rest.all isHexDigit then some (valueIn 16 rest) else none
  | '0' :: d :: rest => if (d :: rest).all isOctalDigit then some (valueIn 8 (d :: rest)) else none
  | _ => if cs.all isDigit then some (valueIn 10 cs) else none

def parts (domain : List Char) : List (List Char) :=
  let all := splitWhere (· = '.') domain
  if all.getLast? = some [] then all.dropLast else all

/-- Whether the last part of a domain is a number, so that the domain has to be an address. -/
def endsInNumber (domain : List Char) : Bool :=
  match (parts domain).getLast? with
  | none => false
  | some last => last ≠ [] && (last.all isDigit || (number? last).isSome)

def isIpv4 (domain : List Char) : Bool :=
  let ps := parts domain
  if 4 < ps.length then false
  else match ps.mapM number? with
    | none => false
    | some numbers =>
      match numbers.getLast? with
      | none => false
      | some last => last < twoTo (8 * (5 - numbers.length)) && numbers.dropLast.all (· ≤ 255)

def isEmbeddedIpv4 (cs : List Char) : Bool :=
  match splitWhere (· = '.') cs with
  | [a, b, c, d] => [a, b, c, d].all fun o =>
      match Ipv4.readOctet? o with
      | some (_, []) => true
      | _ => false
  | _ => false

/-- The groups of an IPv6 address from the group `index` on; `compressed` tells whether a double
colon has been seen. -/
def isIpv6From : Nat → (cs : List Char) → (index : Nat) → (compressed : Bool) → Bool
  | 0, _, _, _ => false
  | _ + 1, [], index, compressed => compressed || index = 8
  | fuel + 1, c :: cs, index, compressed =>
    if index = 8 then false
    else if c = ':' then !compressed && isIpv6From fuel cs (index + 1) true
    else
      let digits := ((c :: cs).take 4).takeWhile isHexDigit
      match (c :: cs).drop digits.length with
      | [] => isIpv6From fuel [] (index + 1) compressed
      | '.' :: _ =>
        digits ≠ [] && index ≤ 6 && isEmbeddedIpv4 (c :: cs) && (compressed || index = 6)
      | ':' :: rest => rest ≠ [] && isIpv6From fuel rest (index + 1) compressed
      | _ => false

def isIpv6 (cs : List Char) : Bool :=
  match cs with
  | ':' :: ':' :: rest => isIpv6From (rest.length + 1) rest 1 true
  | ':' :: _ => false
  | [] | [_] => false
  | _ => isIpv6From (cs.length + 1) cs 0 false

end Domain

namespace UrlHost

def parse (text : List Char) : Except UrlFault UrlHost :=
  if text.head? = some '[' then
    if text.getLast? = some ']' ∧ Domain.isIpv6 (text.drop 1).dropLast then .ok .address
    else .error .invalidIpv6
  else match Domain.ofBytes? (Percent.decode (Utf8.encode text)) with
    | none => .error .invalidDomain
    | some [] => .error .emptyHost
    | some name =>
      if Domain.endsInNumber name then
        if Domain.isIpv4 name then .ok .address else .error .invalidIpv4
      else .ok (.domain name)

def parseOpaque (text : List Char) : Except UrlFault UrlHost :=
  if text.head? = some '[' then
    if text.getLast? = some ']' ∧ Domain.isIpv6 (text.drop 1).dropLast then .ok .address
    else .error .invalidIpv6
  else if text.any fun c => c = '\x00' || " #/:<>?@[\\]^|".toList.contains c then
    .error .invalidDomainCharacter
  else .ok (.domain text)

end UrlHost

end RuleServer
