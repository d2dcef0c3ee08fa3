import Sinkhole.Idna.Bidi
import Sinkhole.Idna.Joining
import Sinkhole.Idna.Mapping
import Sinkhole.Idna.Punycode
import Sinkhole.Idna.Table.Mark

/-!
# Internationalized names

A name with characters beyond ASCII has an ASCII form, in which each of its labels that
needs it is written in Punycode behind a prefix. The name is mapped and brought into
normal form first; dots of other scripts become dots by that and divide labels too. A
label that has the prefix already is read, and has to be one that could have been
written.
-/

namespace Sinkhole
namespace Idna

open Text

/-- What a label begins with if the rest of it is Punycode. -/
def codedMark : List Char :=
  ['x', 'n', '-', '-']

/-- The most characters that a label with characters beyond ASCII may have. -/
def maxLabelLength : Nat := 1000

/-- The most characters of Punycode that are read. -/
def maxCodedLength : Nat := 2000

/-- The ASCII characters with a meaning in addresses. -/
def reserved : List Char :=
  "%#/:<>?@[\\]^`\x7b|\x7d".toList

/-- An ASCII character that no name may have. -/
def isDenied (character : Char) : Bool :=
  character ≤ ' ' || character.toNat == 0x7F || reserved.contains character

/-- The marks of all scripts. -/
def marks : Ranges :=
  Ranges.ofText markRanges

/-- Whether a label with characters beyond ASCII may stand in a name: it does not begin
with a mark, its joiners are in place, and it is not too long. -/
def labelAllowed (label : List Char) : Bool :=
  !label.head?.any marks.contains && joinersAllowed label &&
    (allAscii label || label.length ≤ maxLabelLength)

/-- A label as it is read and as it is written. -/
structure Label where
  characters : List Char
  ascii : List Char
  deriving DecidableEq

namespace Label

/-- The label with some characters. -/
def ofCharacters (characters : List Char) : Label :=
  { characters
    ascii :=
      if allAscii characters then characters
      else codedMark ++ Punycode.encode characters }

/-- Read the part of a label after its prefix. It must be the Punycode of a label that
mapping and normal form leave alone. -/
def decoded? (coded : List Char) : Option (List Char) := do
  guard (allAscii coded && !coded.isEmpty && coded.getLast? != some '-' &&
    coded.length ≤ maxCodedLength)
  let label ← Punycode.decode? coded
  guard (label.all fun character =>
    isStable character && !isDenied character && character != '.')
  guard (normalized label == label && labelAllowed label)
  pure label

/-- The label of ASCII characters. -/
def ofAscii? (text : List Char) : Option Label :=
  let lowered := text.map Char.toLower
  if codedMark.isPrefixOf lowered then
    (decoded? (lowered.drop codedMark.length)).map fun characters =>
      { characters, ascii := lowered }
  else if lowered.any isDenied then
    none
  else
    some { characters := lowered, ascii := lowered }

/-- The label of a text that has been mapped. -/
def ofMapped? (text : List Char) : Option Label :=
  if codedMark.isPrefixOf text then
    (decoded? (text.drop codedMark.length)).map ofCharacters
  else if labelAllowed text then
    some (ofCharacters text)
  else
    none

/-- The labels of a text without plain dots. -/
def ofText? (text : List Char) : Option (List Label) := do
  if allAscii text then
    let label ← ofAscii? text
    pure [label]
  else
    let mapped ← mapped? text
    let normal := normalized mapped
    guard !normal.any isDenied
    (normal.splitOn '.').mapM ofMapped?

end Label

/-- The labels of a name. -/
def labels? (name : String) : Option (List Label) := do
  let labels ← (name.toList.splitOn '.').mapM Label.ofText?
  let labels := labels.flatten
  guard (bidiAllows (labels.map Label.characters))
  pure labels

/-- The ASCII form of a name. -/
def toAscii? (name : String) : Option String :=
  (labels? name).map fun labels =>
    String.ofList (List.intercalate ['.'] (labels.map Label.ascii))

end Idna
end Sinkhole
