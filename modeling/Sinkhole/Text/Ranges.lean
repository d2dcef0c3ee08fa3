import Sinkhole.Text.Numeral
import Sinkhole.Text.Search

/-!
# Tables of character ranges

A Unicode property is stored as the ascending list of the closed ranges of code
points that have it. In a data module the list is a text of hexadecimal numbers:
`0300-036F` is a range, a lone `034F` a range of one, and blanks separate them.
Membership is a binary search.
-/

namespace Sinkhole
namespace Text

/-- The code point that a hexadecimal numeral of a data module writes. -/
def codePoint (digits : List Char) : Nat :=
  (hexValue? digits).getD 0

/-- The words of a text, in order: its longest pieces without a space or a line
break. -/
def words (text : String) : List (List Char) :=
  (text.toList.splitOnP fun character => character == ' ' || character == '\n').filter
    fun word => !word.isEmpty

/-- Closed ranges of code points in ascending order. -/
structure Ranges where
  bounds : Array (Nat × Nat)

namespace Ranges

/-- Read one entry: a range, or a code point on its own. -/
def entry (word : List Char) : Nat × Nat :=
  match word.splitOn '-' with
  | [low, high] => (codePoint low, codePoint high)
  | _ => (codePoint word, codePoint word)

/-- Read the ranges written in a data module. -/
def ofText (text : String) : Ranges :=
  ⟨((words text).map entry).toArray⟩

/-- Whether a character lies in one of the ranges. -/
def contains (ranges : Ranges) (character : Char) : Bool :=
  (search? (fun (first, last) => comparePoint character.toNat first last)
    ranges.bounds).isSome

end Ranges
end Text
end Sinkhole
