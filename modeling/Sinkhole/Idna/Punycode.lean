import Sinkhole.Text.Ascii

/-!
# Punycode

A text is written with ASCII characters alone. Those of its own come first, as they
are, with a hyphen after them if there are any. Every other character is then
inserted: in ascending order of code points, and from left to right for one code
point. An insertion is written as a number, its distance from the one before. The
distance counts the places of the growing text from there on, all of them once for
each code point on the way.

The numbers are in base 36 with the least significant digit first. A digit below the
threshold of its position is the last. The thresholds follow from a bias, and the bias
from the distance written before.
-/

namespace Sinkhole
namespace Idna
namespace Punycode

open Text

/-- The digit with a value below 36. -/
def digit (value : Nat) : Char :=
  if value < 26 then Char.ofNat (97 + value) else Char.ofNat (22 + value)

/-- The value of a digit. -/
def digitValue? (character : Char) : Option Nat :=
  if 'a' ≤ character && character ≤ 'z' then some (character.toNat - 97)
  else if '0' ≤ character && character ≤ '9' then some (character.toNat - 22)
  else none

/-- The threshold of a position. -/
def threshold (bias position : Nat) : Nat :=
  max 1 (min 26 (36 * (position + 1) - bias))

theorem threshold_pos (bias position : Nat) : 0 < threshold bias position := by
  unfold threshold
  omega

/-- The digits of a number from a position on. -/
def writeNumber (bias position number : Nat) : List Char :=
  let least := threshold bias position
  if number < least then
    [digit number]
  else
    digit (least + (number - least) % (36 - least)) ::
      writeNumber bias (position + 1) ((number - least) / (36 - least))
termination_by number
decreasing_by
  have positive := threshold_pos bias position
  have smaller := Nat.div_le_self (number - threshold bias position)
    (36 - threshold bias position)
  omega

/-- Digits whose weight does not lie below this bound are refused. -/
def weightBound : Nat :=
  UInt32.size

/-- Read a number, adding its digits from a position on to what has been read. The rest
of the text comes with it. -/
def readNumber (bias : Nat) : Nat → Nat → Nat → List Char → Option (Nat × List Char)
  | _, _, _, [] => none
  | position, weight, number, character :: rest =>
      match digitValue? character with
      | none => none
      | some value =>
          let least := threshold bias position
          let number := number + value * weight
          let weight := weight * (36 - least)
          if value < least then some (number, rest)
          else if weight < weightBound then readNumber bias (position + 1) weight number rest
          else none

/-- A number has at least one digit. -/
theorem length_rest_lt
    {bias position weight start number : Nat}
    {text rest : List Char}
    (read : readNumber bias position weight start text = some (number, rest)) :
    rest.length < text.length := by
  induction text generalizing position weight start with
  | nil => simp [readNumber] at read
  | cons character text shorter =>
      simp only [readNumber] at read
      split at read
      · cases read
      · split at read
        · cases read
          simp
        · split at read
          · have := shorter read
            simp only [List.length_cons]
            omega
          · cases read

/-- Divide until a value is small. The count of divisions goes along. -/
def scaleDown (value count : Nat) : Nat × Nat :=
  if 455 < value then scaleDown (value / 35) (count + 1) else (value, count)
termination_by value
decreasing_by exact Nat.div_lt_self (by omega) (by omega)

/-- The bias after a distance that makes the text so long. The first distance counts
less, since it has to reach the script of the text. -/
def biasAfter (first : Bool) (distance length : Nat) : Nat :=
  let damped := if first then distance / 700 else distance / 2
  let (value, count) := scaleDown (damped + damped / length) 0
  36 * count + 36 * value / (value + 38)

/-- A character and the number of characters before it when it is inserted. -/
structure Insertion where
  character : Char
  place : Nat
  deriving DecidableEq

/-- Where the next insertion is looked for: from a place on in a text of some length,
with a code point. -/
structure Cursor where
  length : Nat
  code : Nat := 128
  place : Nat := 0
  bias : Nat := 72

namespace Cursor

/-- How far an insertion is from the cursor. -/
def distance (cursor : Cursor) (insertion : Insertion) : Nat :=
  (insertion.character.toNat - cursor.code) * (cursor.length + 1) + insertion.place -
    cursor.place

/-- The code point and the place at a distance from the cursor. -/
def target (cursor : Cursor) (distance : Nat) : Nat × Nat :=
  (cursor.code + (cursor.place + distance) / (cursor.length + 1),
    (cursor.place + distance) % (cursor.length + 1))

/-- The insertion at a distance from the cursor, if there is a character for it. -/
def insertion? (cursor : Cursor) (distance : Nat) : Option Insertion :=
  let (code, place) := cursor.target distance
  if code.isValidChar then some ⟨Char.ofNat code, place⟩ else none

/-- The cursor after the insertion at a distance. -/
def after (cursor : Cursor) (distance : Nat) : Cursor :=
  let (code, place) := cursor.target distance
  { length := cursor.length + 1
    code
    place := place + 1
    bias := biasAfter (cursor.place == 0) distance (cursor.length + 1) }

end Cursor

/-- The insertions of one code point into a text, of which some characters have been
passed that are there by then. -/
def insertionsOf (code : Nat) : Nat → List Char → List Insertion
  | _, [] => []
  | passed, character :: rest =>
      if character.toNat < code then
        insertionsOf code (passed + 1) rest
      else if character.toNat = code then
        ⟨character, passed⟩ :: insertionsOf code (passed + 1) rest
      else
        insertionsOf code passed rest

/-- The code points of a text beyond ASCII, in ascending order and each once. -/
def codesBeyondAscii (text : List Char) : List Nat :=
  (((text.filter fun character => !isAscii character).map Char.toNat).mergeSort
    (· ≤ ·)).eraseDups

/-- The insertions that complete the ASCII characters of a text. -/
def insertions (text : List Char) : List Insertion :=
  (codesBeyondAscii text).flatMap fun code => insertionsOf code 0 text

/-- Write the distances of insertions. -/
def writeInsertions : Cursor → List Insertion → List Char
  | _, [] => []
  | cursor, insertion :: rest =>
      let distance := cursor.distance insertion
      writeNumber cursor.bias 0 distance ++ writeInsertions (cursor.after distance) rest

/-- Write a text. -/
def encode (text : List Char) : List Char :=
  let basic := text.filter isAscii
  basic ++ (if basic.isEmpty then [] else ['-']) ++
    writeInsertions { length := basic.length } (insertions text)

/-- Read the distances of insertions. -/
def readInsertions (cursor : Cursor) (written : List Char) : Option (List Insertion) :=
  if written.isEmpty then
    some []
  else
    match _read : readNumber cursor.bias 0 1 0 written with
    | none => none
    | some (distance, rest) => do
        let insertion ← cursor.insertion? distance
        let others ← readInsertions (cursor.after distance) rest
        pure (insertion :: others)
termination_by written.length
decreasing_by exact length_rest_lt _read

/-- Divide a written text at its last hyphen. Nothing is divided if there is nothing
before it. -/
def divide (written : List Char) : List Char × List Char :=
  let last := (written.reverse.takeWhile (· != '-')).reverse
  let first := written.take (written.length - last.length - 1)
  if first.isEmpty then ([], written) else (first, last)

/-- Read a written text. -/
def decode? (written : List Char) : Option (List Char) := do
  let (basic, numbers) := divide written
  let inserted ← readInsertions { length := basic.length } numbers
  pure (inserted.foldl
    (fun text insertion => text.insertIdx insertion.place insertion.character) basic)

end Punycode
end Idna
end Sinkhole
