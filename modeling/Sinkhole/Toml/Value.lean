/-!
# Values of a TOML document

A value is a text, a number, a truth value, a point in time, an array or a table. A
table remembers how it came about, because that decides what may still be added to
it. Points in time are not told apart here.

Integers and decimals are kept exactly; whether a number fits is asked when it is
read.
-/

namespace Sinkhole
namespace Toml

/-- How a table came about: under a header of its own, on the way to another header,
on the way along a dotted key, or between braces. -/
inductive Origin
  | header
  | implied
  | dotted
  | inline
  deriving DecidableEq

/-- A value. A decimal is its significand times a power of ten. -/
inductive Value
  | text (content : String)
  | integer (value : Int)
  | decimal (significand : Int) (exponent : Int)
  | special
  | truth (value : Bool)
  | moment
  | array (ofTables : Bool) (elements : List Value)
  | table (origin : Origin) (entries : List (String × Value))

/-- The entries of a table. A key stands in at most one of them. -/
abbrev Entries := List (String × Value)

/-- The smallest integer that can be read. -/
def leastInteger : Int := -Int.ofNat (1 <<< 127)

/-- The bound below which integers can be read. -/
def integerBound : Int := Int.ofNat (1 <<< 128)

/-- The least number too large for a binary float of 64 bits: half a unit above the
largest of them. -/
def floatBound : Nat := (1 <<< 1024) - (1 <<< 970)

/-- Whether a number that is not negative is too large for a float. The number of its
digits before the point decides unless it is close to the bound. -/
def isTooLarge (significand : Nat) (exponent : Int) : Bool :=
  let digits := (Nat.toDigits 10 significand).length + exponent
  if significand = 0 ∨ digits ≤ 308 then false
  else if 310 ≤ digits then true
  else
    floatBound * Nat.pow 10 (-exponent).toNat ≤ significand * Nat.pow 10 exponent.toNat

mutual

/-- Whether all the numbers in a value can be read. -/
def Value.isReadable : Value → Bool
  | .integer value => leastInteger ≤ value && value < integerBound
  | .decimal significand exponent => !isTooLarge significand.natAbs exponent
  | .array _ elements => areReadable elements
  | .table _ entries => entriesAreReadable entries
  | .text _ | .special | .truth _ | .moment => true

/-- Whether all the numbers in some values can be read. -/
def areReadable : List Value → Bool
  | [] => true
  | value :: rest => value.isReadable && areReadable rest

/-- Whether all the numbers in some entries can be read. -/
def entriesAreReadable : List (String × Value) → Bool
  | [] => true
  | (_, value) :: rest => value.isReadable && entriesAreReadable rest

end

end Toml
end Sinkhole
