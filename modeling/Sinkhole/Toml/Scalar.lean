import Sinkhole.Text.Numeral
import Sinkhole.Toml.Value

/-!
# Words

A value that is neither a text nor an array nor a table is one word: a truth value,
an integer, a decimal or a point in time. Digits may have single underscores between
them, and a decimal numeral of two digits or more does not begin with zero. The
seconds of a time of day may be missing.
-/

namespace Sinkhole
namespace Toml

open Sinkhole.Text

/-- A digit of base sixteen, eight or two. -/
def isDigitOf (base : Nat) (character : Char) : Bool :=
  (hexDigit? character).any (· < base)

/-- The digits of a numeral without the underscores between them. -/
def digits? (base : Nat) (text : List Char) : Option (List Char) :=
  let parts := text.splitOn '_'
  if parts.all fun part => !part.isEmpty && part.all (isDigitOf base) then
    some parts.flatten
  else
    none

/-- The value of a numeral in some base. -/
def numeral? (base : Nat) (text : List Char) : Option Nat := do
  let digits ← digits? base text
  let values ← digits.mapM hexDigit?
  pure (ofDigits base values)

/-- The digits of a decimal numeral that does not begin with a needless zero. -/
def plainDigits? (text : List Char) : Option (List Char) := do
  let digits ← digits? 10 text
  if digits.length > 1 && digits.head? == some '0' then none else some digits

/-- The sign in front of a numeral, and the rest. -/
def signed : List Char → Int × List Char
  | '-' :: rest => (-1, rest)
  | '+' :: rest => (1, rest)
  | text => (1, text)

/-- The value of an integer. -/
def integer? : List Char → Option Int
  | '0' :: 'x' :: rest => (numeral? 16 rest).map Int.ofNat
  | '0' :: 'o' :: rest => (numeral? 8 rest).map Int.ofNat
  | '0' :: 'b' :: rest => (numeral? 2 rest).map Int.ofNat
  | text =>
      let (sign, text) := signed text
      (plainDigits? text).map fun digits => sign * decimalValue digits

/-- The exponent of a decimal: zeros in front are allowed. -/
def exponent? (text : List Char) : Option Int :=
  let (sign, text) := signed text
  (digits? 10 text).map fun digits => sign * decimalValue digits

/-- A decimal that is given by what stands before and after its point and by its
exponent. One of the latter two has to be there. -/
def decimalOf? (sign : Int) (whole : List Char) (fraction exponent : Option (List Char)) :
    Option Value := do
  let whole ← plainDigits? whole
  if fraction.isNone && exponent.isNone then none
  let fraction ← (fraction.map (digits? 10)).getD (some [])
  let exponent ← (exponent.map exponent?).getD (some 0)
  pure (.decimal (sign * decimalValue (whole ++ fraction)) (exponent - fraction.length))

/-- A text up to the first character of some kind, and what comes after that
character. -/
def cutAt (isMark : Char → Bool) (text : List Char) : List Char × Option (List Char) :=
  (text.takeWhile (!isMark ·), (text.dropWhile (!isMark ·)).tail?)

/-- A decimal, an infinity, or what is not a number. -/
def decimal? (text : List Char) : Option Value :=
  let (sign, text) := signed text
  if text = "inf".toList ∨ text = "nan".toList then some .special
  else
    let isMark (character : Char) : Bool := character == 'e' || character == 'E'
    let (significand, exponent) := cutAt isMark text
    let (whole, fraction) := cutAt (· == '.') significand
    decimalOf? sign whole fraction exponent

/-- A number of a fixed number of digits. -/
def fixedNumber? (count : Nat) (text : List Char) : Option Nat :=
  if text.length = count && text.all isDigit then some (decimalValue text) else none

/-- Whether a year has a leap day. -/
def isLeapYear (year : Nat) : Bool :=
  year % 4 == 0 && (year % 100 != 0 || year % 400 == 0)

/-- The number of days in a month. -/
def daysInMonth (year month : Nat) : Nat :=
  if month = 2 then (if isLeapYear year then 29 else 28)
  else if month = 4 ∨ month = 6 ∨ month = 9 ∨ month = 11 then 30
  else 31

/-- Whether a text is a date. -/
def isDate (text : List Char) : Bool :=
  match text.splitOn '-' with
  | [year, month, day] =>
      match fixedNumber? 4 year, fixedNumber? 2 month, fixedNumber? 2 day with
      | some year, some month, some day =>
          1 ≤ month && month ≤ 12 && 1 ≤ day && day ≤ daysInMonth year month
      | _, _, _ => false
  | _ => false

/-- Whether a text is a number of two digits up to a bound. -/
def isClockPart (largest : Nat) (text : List Char) : Bool :=
  (fixedNumber? 2 text).any (· ≤ largest)

/-- Whether a text is the seconds of a time, perhaps with a fraction. -/
def isSeconds (text : List Char) : Bool :=
  match text.splitOn '.' with
  | [seconds] => isClockPart 60 seconds
  | [seconds, fraction] => isClockPart 60 seconds && !fraction.isEmpty && fraction.all isDigit
  | _ => false

/-- Whether a text is a time of day. -/
def isTime (text : List Char) : Bool :=
  match text.splitOn ':' with
  | [hours, minutes] => isClockPart 23 hours && isClockPart 59 minutes
  | [hours, minutes, seconds] =>
      isClockPart 23 hours && isClockPart 59 minutes && isSeconds seconds
  | _ => false

/-- Whether a text is the distance of a clock from universal time. -/
def isOffset (text : List Char) : Bool :=
  match text.splitOn ':' with
  | [hours, minutes] => isClockPart 23 hours && isClockPart 59 minutes
  | _ => false

/-- Whether a text is a time of day, perhaps with its distance from universal time. -/
def isZonedTime (text : List Char) : Bool :=
  let isMark (character : Char) : Bool :=
    character == 'Z' || character == 'z' || character == '+' || character == '-'
  let time := text.takeWhile (!isMark ·)
  match text.dropWhile (!isMark ·) with
  | [] => isTime time
  | mark :: offset =>
      isTime time &&
        if mark == '+' || mark == '-' then isOffset offset else offset.isEmpty

/-- The length of a date. -/
def dateLength : Nat := 10

/-- A mark between a date and a time. -/
def isTimeMark (character : Char) : Bool :=
  character == 'T' || character == 't' || character == ' '

/-- Whether a text is a date, a time, or both. -/
def isMoment (text : List Char) : Bool :=
  match text.drop dateLength with
  | [] => isDate text || isTime text
  | mark :: time =>
      isTime text ||
        (isDate (text.take dateLength) && isTimeMark mark && isZonedTime time)

/-- The value that a word stands for. -/
def word? (text : List Char) : Option Value :=
  if text = "true".toList then some (.truth true)
  else if text = "false".toList then some (.truth false)
  else
    match integer? text with
    | some value => some (.integer value)
    | none =>
        match decimal? text with
        | some value => some value
        | none => if isMoment text then some .moment else none

/-- A character of a word. -/
def isWordChar (character : Char) : Bool :=
  character.isAlphanum || character == '+' || character == '-' || character == '_' ||
    character == '.' || character == ':'

/-- The word at the front of a text and the rest. A blank between a date and a time
belongs to the word. -/
def splitWord (input : List Char) : List Char × List Char :=
  let first := input.takeWhile isWordChar
  match input.dropWhile isWordChar with
  | ' ' :: digit :: rest =>
      if isDate first && isDigit digit then
        let time := digit :: rest
        (first ++ ' ' :: time.takeWhile isWordChar, time.dropWhile isWordChar)
      else (first, ' ' :: digit :: rest)
  | rest => (first, rest)

end Toml
end Sinkhole
