import Sinkhole.Idna.Table.Allowed
import Sinkhole.Idna.Table.Mapping
import Sinkhole.Text.Classes

/-!
# Mapping

Before a name is converted its characters are mapped, so that spellings of one name
become the same: uppercase becomes lowercase, wide forms become plain, and a character
that only guides the layout is dropped. A character that no name may have has no image.
-/

namespace Sinkhole
namespace Idna

open Text

/-- What a run of characters is mapped to: each to one character in step, for every so
many of the run, or each to a text of its own. -/
inductive Images
  | shift (first step : Nat)
  | each (texts : Array (List Char))

namespace Images

/-- The image of the character at an offset in the run, if that one is mapped. -/
def at? : Images → Nat → Option (List Char)
  | .shift first step, offset =>
      if offset % step = 0 then some [Char.ofNat (first + offset)] else none
  | .each texts, offset => texts[offset]?

/-- Read the images of a run as a data module writes them. -/
def ofText? (text : String) : Option Images :=
  let numerals := text.toList.splitOn '/'
  match numerals with
  | [first, step] => some (.shift (codePoint first) (decimalValue step))
  | _ =>
      let texts := (text.toList.splitOn ',').map fun image =>
        (image.splitOn '+').map fun numeral => Char.ofNat (codePoint numeral)
      match texts with
      | [[first]] => some (.shift first.toNat 1)
      | _ => some (.each texts.toArray)

end Images

/-- The mapping of runs of characters. -/
def mapping : Classes Images :=
  Classes.ofText Images.ofText? mappingRows

/-- The characters that a name may have. -/
def allowed : Ranges :=
  Ranges.ofText allowedRanges

/-- The characters that the mapping drops. -/
def dropped : Ranges :=
  Ranges.ofText droppedRanges

/-- The image of a character, if a name may have it. -/
def image? (character : Char) : Option (List Char) :=
  match (mapping.find? character).bind fun (offset, images) => images.at? offset with
  | some image => some image
  | none =>
      if dropped.contains character then some []
      else if allowed.contains character then some [character]
      else none

/-- Map a text, if all its characters have images. -/
def mapped? (text : List Char) : Option (List Char) :=
  (text.mapM image?).map List.flatten

/-- Whether a character is its own image. -/
def isStable (character : Char) : Bool :=
  image? character == some [character]

end Idna
end Sinkhole
