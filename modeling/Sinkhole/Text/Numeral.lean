/-!
# Digits and numerals

The digits of bases ten and sixteen as characters, the value that a run of them
has, and the numeral that a number has in base sixteen.
-/

namespace Sinkhole
namespace Text

/-- A decimal digit. -/
def isDigit (character : Char) : Bool :=
  '0' ≤ character && character ≤ '9'

/-- The value of a hexadecimal digit. -/
def hexDigit? (digit : Char) : Option Nat :=
  if isDigit digit then some (digit.toNat - 48)
  else if 'a' ≤ digit && digit ≤ 'f' then some (digit.toNat - 87)
  else if 'A' ≤ digit && digit ≤ 'F' then some (digit.toNat - 55)
  else none

/-- The number that digits with the given values write in a base. -/
def ofDigits (base : Nat) (values : List Nat) : Nat :=
  values.foldl (fun number value => number * base + value) 0

/-- The value of a decimal numeral. -/
def decimalValue (digits : List Char) : Nat :=
  ofDigits 10 (digits.map fun digit => digit.toNat - 48)

/-- The value of a hexadecimal numeral, if all its characters are digits. -/
def hexValue? (digits : List Char) : Option Nat :=
  (digits.mapM hexDigit?).map (ofDigits 16)

/-- The numeral of a number in base sixteen, with lowercase letters. -/
def lowerHex (value : Nat) : List Char :=
  Nat.toDigits 16 value

end Text
end Sinkhole
