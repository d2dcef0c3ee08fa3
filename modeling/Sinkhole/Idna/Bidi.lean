import Sinkhole.Idna.Table.Direction
import Sinkhole.Text.Classes

/-!
# Text in both directions

A label is read without doubt if it runs one way: from a letter of its direction to a
letter or a number, with marks after it at most. Numbers may stand in both kinds of
labels, but not European and Arabic ones in the same.
-/

namespace Sinkhole
namespace Idna

open Text

/-- How a character takes part in text that runs both ways. -/
inductive Direction
  | left
  | right
  | europeanNumber
  | arabicNumber
  | mark
  | neutral
  deriving DecidableEq

/-- Read a direction as a data module writes it. -/
def Direction.ofText? : String → Option Direction
  | "L" => some .left
  | "R" => some .right
  | "EN" => some .europeanNumber
  | "AN" => some .arabicNumber
  | "NSM" => some .mark
  | "ON" => some .neutral
  | _ => none

/-- The directions of the characters that do not run from left to right. -/
def directions : Classes Direction :=
  Classes.ofText Direction.ofText? directionRows

/-- The direction of a character. -/
def direction (character : Char) : Direction :=
  (directions.value? character).getD .left

/-- Whether a label has something that runs from right to left. -/
def runsRight (label : List Char) : Bool :=
  label.any fun character =>
    direction character == .right || direction character == .arabicNumber

/-- Directions without the marks at their end. -/
def withoutLastMarks (directions : List Direction) : List Direction :=
  (directions.reverse.dropWhile (· == .mark)).reverse

/-- Whether the directions of a label let it be read one way. -/
def readsOneWay : List Direction → Bool
  | [] => true
  | first :: rest =>
      let rest := withoutLastMarks rest
      match first with
      | .left =>
          rest.getLast? != some .neutral && !rest.contains .right &&
            !rest.contains .arabicNumber
      | .right =>
          rest.getLast? != some .neutral && !rest.contains .left &&
            !(rest.contains .europeanNumber && rest.contains .arabicNumber)
      | _ => false

/-- Whether the labels of a name may stand together. Only a name with something that
runs from right to left is restricted. -/
def bidiAllows (labels : List (List Char)) : Bool :=
  !labels.any runsRight || labels.all fun label => readsOneWay (label.map direction)

end Idna
end Sinkhole
