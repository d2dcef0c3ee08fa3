/-!
# ASCII characters

The first 128 code points, which are written with one octet each.
-/

namespace Sinkhole
namespace Text

/-- Whether a character is ASCII. -/
def isAscii (character : Char) : Bool :=
  character.toNat < 128

/-- Whether a text has ASCII characters alone. -/
def allAscii (text : List Char) : Bool :=
  text.all isAscii

end Text
end Sinkhole
