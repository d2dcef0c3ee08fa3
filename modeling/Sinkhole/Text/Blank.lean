/-!
# Blank and control characters

Two character classes that list entries and settings are tested against: the
blank characters, which are those with the Unicode property `White_Space`, and
the control characters. Both are small and closed, so they are written out.
-/

namespace Sinkhole
namespace Text

/-- A blank character has the Unicode property `White_Space`. -/
def isBlank (character : Char) : Bool :=
  let code := character.toNat
  (0x09 ≤ code && code ≤ 0x0D) || code == 0x20 || code == 0x85 || code == 0xA0 ||
    code == 0x1680 || (0x2000 ≤ code && code ≤ 0x200A) || code == 0x2028 ||
    code == 0x2029 || code == 0x202F || code == 0x205F || code == 0x3000

/-- A control character belongs to one of the two control blocks. -/
def isControl (character : Char) : Bool :=
  let code := character.toNat
  code ≤ 0x1F || (0x7F ≤ code && code ≤ 0x9F)

/-- Every blank of the standard library is blank here. -/
theorem isBlank_of_isWhitespace
    {character : Char}
    (whitespace : character.isWhitespace = true) :
    isBlank character = true := by
  simp only [Char.isWhitespace, Bool.or_eq_true, decide_eq_true_eq] at whitespace
  rcases whitespace with ((rfl | rfl) | rfl) | rfl <;> decide

/-- Drop the blanks at both ends of a text. -/
def trimmed (text : List Char) : List Char :=
  ((text.dropWhile isBlank).reverse.dropWhile isBlank).reverse

/-- Drop the blanks at both ends of a string. -/
def trim (text : String) : String :=
  String.ofList (trimmed text.toList)

@[simp] theorem toList_trim (text : String) :
    (trim text).toList = trimmed text.toList := by
  simp [trim]

@[simp] theorem trimmed_nil : trimmed [] = [] := rfl

end Text
end Sinkhole
