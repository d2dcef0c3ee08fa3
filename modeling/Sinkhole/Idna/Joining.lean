import Sinkhole.Idna.Normal
import Sinkhole.Idna.Table.Joining

/-!
# Joiners

Two characters without a shape say whether their neighbours join. A name may have them
where they matter: after a mark that joins consonants, or, for the one that keeps
letters apart, between two letters that would join.
-/

namespace Sinkhole
namespace Idna

open Text

/-- On which sides a letter joins. The neighbours of a transparent character join across
it. -/
inductive Joining
  | left
  | right
  | both
  | transparent
  deriving DecidableEq

/-- Read a way of joining as a data module writes it. -/
def Joining.ofText? : String → Option Joining
  | "L" => some .left
  | "R" => some .right
  | "D" => some .both
  | "T" => some .transparent
  | _ => none

/-- How letters join. -/
def joinings : Classes Joining :=
  Classes.ofText Joining.ofText? joiningRows

/-- The character that keeps its neighbours apart. -/
def nonJoiner : Char := Char.ofNat 0x200C

/-- The character that makes its neighbours join. -/
def joiner : Char := Char.ofNat 0x200D

/-- The class of the marks that join consonants. -/
def consonantJoining : Nat := 9

/-- Whether the nearest character that is not transparent joins on a side. -/
def reaches (side : Joining) : List Char → Bool
  | [] => false
  | character :: rest =>
      match joinings.value? character with
      | some .transparent => reaches side rest
      | some joining => joining == side || joining == .both
      | none => false

/-- Whether a joiner may stand after some characters, the nearest first, and before
others. -/
def joinerAllowed (character : Char) (before after : List Char) : Bool :=
  before.head?.any fun previous =>
    combiningClass previous == consonantJoining ||
      (character == nonJoiner && reaches .left before && reaches .right after)

/-- Whether all joiners after some characters, the nearest first, may stand there. -/
def joinersAllowedAfter : List Char → List Char → Bool
  | _, [] => true
  | before, character :: rest =>
      ((character != nonJoiner && character != joiner) ||
          joinerAllowed character before rest) &&
        joinersAllowedAfter (character :: before) rest

/-- Whether all joiners of a label may stand where they do. -/
def joinersAllowed (label : List Char) : Bool :=
  joinersAllowedAfter [] label

end Idna
end Sinkhole
