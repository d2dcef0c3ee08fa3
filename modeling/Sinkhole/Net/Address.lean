import Sinkhole.Text.Numeral

/-!
# Addresses of hosts

An IPv4 address is four octets and an IPv6 address sixteen. The module reads and
writes their texts: dotted decimal without leading zeros, and the colon form in
which the first longest run of two or more zero groups is left out and an address
that maps an IPv4 address ends in dotted decimal.
-/

namespace Sinkhole
namespace Net

open Text

/-- An IPv4 address. -/
structure Ipv4 where
  octets : Vector UInt8 4
  deriving DecidableEq

/-- An IPv6 address. -/
structure Ipv6 where
  octets : Vector UInt8 16
  deriving DecidableEq

/-- An address of either family. -/
inductive Address
  | ipv4 (address : Ipv4)
  | ipv6 (address : Ipv6)
  deriving DecidableEq

namespace Ipv4

/-- The address that means no particular host. -/
def unspecified : Ipv4 :=
  ⟨Vector.replicate 4 0⟩

/-- The address with the given four octets. -/
def ofOctets (first second third fourth : UInt8) : Ipv4 :=
  ⟨#v[first, second, third, fourth]⟩

/-- Dotted decimal. -/
def text (address : Ipv4) : String :=
  ".".intercalate (address.octets.toList.map fun octet => toString octet.toNat)

/-- One part of a dotted address: at most three digits, no leading zero, at most
255. -/
def parsePart? (part : List Char) : Option UInt8 :=
  if part.isEmpty || part.length > 3 || !part.all isDigit then none
  else if part.length > 1 && part.head? == some '0' then none
  else if decimalValue part > 255 then none
  else some (UInt8.ofNat (decimalValue part))

/-- Read a dotted address. -/
def parse? (text : List Char) : Option Ipv4 :=
  match (text.splitOn '.').mapM parsePart? with
  | some [first, second, third, fourth] => some (ofOctets first second third fourth)
  | _ => none

end Ipv4

namespace Ipv6

/-- The address that means no particular host. -/
def unspecified : Ipv6 :=
  ⟨Vector.replicate 16 0⟩

/-- Two octets as one group. -/
def pair (high low : UInt8) : Nat :=
  high.toNat * 256 + low.toNat

/-- The groups of two octets, from left to right. -/
def pairs : List UInt8 → List Nat
  | high :: low :: rest => pair high low :: pairs rest
  | _ => []

/-- The eight groups of an address. -/
def groups (address : Ipv6) : List Nat :=
  pairs address.octets.toList

/-- A group as text. -/
def groupText (group : Nat) : String :=
  String.ofList (Nat.toDigits 16 group)

/-- Groups between colons. -/
def colonText (groups : List Nat) : String :=
  ":".intercalate (groups.map groupText)

/-- The length of the run of zeros at the head of a list. -/
def zeroRun (groups : List Nat) : Nat :=
  (groups.takeWhile (· == 0)).length

/-- The first longest run of zeros, as its start and its length. -/
def longestZeroRun (groups : List Nat) : Nat × Nat :=
  (List.range groups.length).foldl
    (fun best start =>
      let length := zeroRun (groups.drop start)
      if best.2 < length then (start, length) else best)
    (0, 0)

/-- The IPv4 address that an address maps, if it maps one. -/
def mapped? (address : Ipv6) : Option Ipv4 :=
  match address.octets.toList with
  | [0, 0, 0, 0, 0, 0, 0, 0, 0, 0, 255, 255, first, second, third, fourth] =>
      some (Ipv4.ofOctets first second third fourth)
  | _ => none

/-- The recommended text of an address. -/
def text (address : Ipv6) : String :=
  match address.mapped? with
  | some inner => "::ffff:" ++ inner.text
  | none =>
      let (start, length) := longestZeroRun address.groups
      if length > 1 then
        colonText (address.groups.take start) ++ "::" ++
          colonText (address.groups.drop (start + length))
      else
        colonText address.groups

/-- One group: at most four hexadecimal digits. -/
def parseGroup? (part : List Char) : Option Nat :=
  if part.isEmpty || part.length > 4 then none else hexValue? part

/-- Groups between colons, of which the last may be a dotted address, which counts
as two. -/
def parseTail? : List (List Char) → Option (List Nat)
  | [] => some []
  | [last] =>
      match Ipv4.parse? last with
      | some inner => some (pairs inner.octets.toList)
      | none => (parseGroup? last).map ([·])
  | part :: rest => do
      let group ← parseGroup? part
      let others ← parseTail? rest
      pure (group :: others)

/-- The parts of a text between colons; an empty text has none. -/
def colonParts (text : List Char) : List (List Char) :=
  if text.isEmpty then [] else text.splitOn ':'

/-- Split a text around its first double colon. -/
def splitDouble? : List Char → Option (List Char × List Char)
  | ':' :: ':' :: rest => some ([], rest)
  | character :: rest =>
      (splitDouble? rest).map fun (before, after) => (character :: before, after)
  | [] => none

/-- The address with the given groups, if they are eight. -/
def ofGroups? (groups : List Nat) : Option Ipv6 :=
  let octets := groups.flatMap fun group =>
    [UInt8.ofNat (group / 256), UInt8.ofNat group]
  if sixteen : octets.toArray.size = 16 then some ⟨⟨octets.toArray, sixteen⟩⟩ else none

/-- Read an address in colon form. -/
def parse? (text : List Char) : Option Ipv6 := do
  match splitDouble? text with
  | none => ofGroups? (← parseTail? (colonParts text))
  | some (before, after) =>
      let leading ← (colonParts before).mapM parseGroup?
      let trailing ← parseTail? (colonParts after)
      let known := leading.length + trailing.length
      if known ≤ 7 then
        ofGroups? (leading ++ List.replicate (8 - known) 0 ++ trailing)
      else
        none

end Ipv6

namespace Address

/-- The text of an address. -/
def text : Address → String
  | .ipv4 address => address.text
  | .ipv6 address => address.text

/-- Read an address of either family. -/
def parse? (text : String) : Option Address :=
  match Ipv4.parse? text.toList with
  | some address => some (.ipv4 address)
  | none => (Ipv6.parse? text.toList).map .ipv6

end Address
end Net
end Sinkhole
