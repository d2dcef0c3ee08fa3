import Sinkhole.Idna.Table.CombiningClass
import Sinkhole.Idna.Table.Composition
import Sinkhole.Text.Classes

/-!
# Normal form

A letter with marks can be spelled in several ways: as one composed character, as a
letter followed by marks, or with the marks in another order. The normal form takes
every character apart, puts the marks on a letter in the order of their classes, and
composes again what can be composed.
-/

namespace Sinkhole
namespace Idna

open Text

/-- The classes of marks. -/
def combiningClasses : Classes Nat :=
  Classes.ofText (fun text => some (decimalValue text.toList)) combiningClassRows

/-- The class of a mark, and zero for any other character. -/
def combiningClass (character : Char) : Nat :=
  (combiningClasses.value? character).getD 0

/-- A character that is composed of two others. -/
structure Composition where
  composed : Char
  first : Char
  second : Char
  deriving DecidableEq

namespace Composition

/-- Read a composition as a data module writes it. -/
def ofWord? (word : List Char) : Option Composition :=
  match word.splitOnP fun character => character == '=' || character == '+' with
  | [composed, first, second] =>
      some
        { composed := Char.ofNat (codePoint composed)
          first := Char.ofNat (codePoint first)
          second := Char.ofNat (codePoint second) }
  | _ => none

/-- The compositions in ascending order of what is composed. -/
def all : List Composition :=
  (words compositionRows).filterMap ofWord?

/-- A number that orders pairs of characters. -/
def pairKey (first second : Char) : Nat :=
  first.toNat * UInt32.size + second.toNat

/-- The compositions for a search by what is composed. -/
def byComposed : Array Composition :=
  all.toArray

/-- The compositions for a search by their parts. -/
def byParts : Array Composition :=
  (all.mergeSort fun left right =>
    pairKey left.first left.second ≤ pairKey right.first right.second).toArray

end Composition

namespace Hangul

/-! ### Syllables of Hangul

A syllable is composed of a leading consonant, a vowel and possibly a trailing
consonant. The syllables are numbered in the order of these parts.
-/

def leading : Nat := 0x1100
def vowel : Nat := 0x1161
def trailing : Nat := 0x11A7
def syllable : Nat := 0xAC00

def leadingCount : Nat := 19
def vowelCount : Nat := 21
def trailingCount : Nat := 28

/-- The number of syllables. -/
def syllableCount : Nat :=
  leadingCount * vowelCount * trailingCount

/-- The parts of a syllable. -/
def parts? (character : Char) : Option (List Char) :=
  let code := character.toNat
  if syllable ≤ code ∧ code < syllable + syllableCount then
    let number := code - syllable
    let pair :=
      [Char.ofNat (leading + number / trailingCount / vowelCount),
        Char.ofNat (vowel + number / trailingCount % vowelCount)]
    some <|
      if number % trailingCount = 0 then pair
      else pair ++ [Char.ofNat (trailing + number % trailingCount)]
  else
    none

/-- The syllable that two parts make: two letters, or a syllable without a trailing
consonant and such a consonant. -/
def compose? (first second : Char) : Option Char :=
  let head := first.toNat
  let tail := second.toNat
  if leading ≤ head ∧ head < leading + leadingCount ∧
      vowel ≤ tail ∧ tail < vowel + vowelCount then
    some (Char.ofNat
      (syllable + ((head - leading) * vowelCount + (tail - vowel)) * trailingCount))
  else if syllable ≤ head ∧ head < syllable + syllableCount ∧
      (head - syllable) % trailingCount = 0 ∧
      trailing < tail ∧ tail < trailing + trailingCount then
    some (Char.ofNat (head + (tail - trailing)))
  else
    none

end Hangul

/-- Take a character apart once. -/
def parts (character : Char) : List Char :=
  match Hangul.parts? character with
  | some letters => letters
  | none =>
      match search? (fun row : Composition => compareOfLessAndEq character row.composed)
          Composition.byComposed with
      | some row => [row.first, row.second]
      | none => [character]

/-- Take all characters of a text apart. No character has parts more than two deep. -/
def decomposed (text : List Char) : List Char :=
  (text.flatMap parts).flatMap parts

/-- Put a mark in front of an ordered text: it sinks below the marks of lower classes. -/
def sink (mark : Char) : List Char → List Char
  | [] => [mark]
  | next :: rest =>
      if 0 < combiningClass next ∧ combiningClass next < combiningClass mark then
        next :: sink mark rest
      else
        mark :: next :: rest

/-- Put the marks on each letter in the order of their classes. -/
def ordered (text : List Char) : List Char :=
  text.foldr sink []

/-- The character that two characters compose. -/
def compose? (first second : Char) : Option Char :=
  match Hangul.compose? first second with
  | some syllable => some syllable
  | none =>
      (search?
        (fun row : Composition =>
          compareOfLessAndEq (Composition.pairKey first second)
            (Composition.pairKey row.first row.second))
        Composition.byParts).map Composition.composed

/-- Compose a letter with what follows it. Marks that it does not take up are kept, the
last of them first. A mark behind one of the same or a higher class cannot be taken. -/
def composeOnto (letter : Char) (kept : List Char) : List Char → List Char
  | [] => letter :: kept.reverse
  | next :: rest =>
      let blocked := kept.head?.any fun mark => combiningClass next ≤ combiningClass mark
      match if blocked then none else compose? letter next with
      | some composed => composeOnto composed kept rest
      | none =>
          if combiningClass next = 0 then
            letter :: kept.reverse ++ composeOnto next [] rest
          else
            composeOnto letter (next :: kept) rest

/-- Compose what can be composed. Marks at the beginning have no letter. -/
def composed : List Char → List Char
  | [] => []
  | character :: rest =>
      if combiningClass character = 0 then composeOnto character [] rest
      else character :: composed rest

/-- The normal form of a text. -/
def normalized (text : List Char) : List Char :=
  composed (ordered (decomposed text))

end Idna
end Sinkhole
