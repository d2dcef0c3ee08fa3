/-!
# Dotted texts

Names are written as labels with dots between them. A dot at the end says that the
name is complete and adds no label.
-/

namespace Sinkhole
namespace Text

/-- A text without its trailing dot, if it has one. -/
def withoutDot (characters : List Char) : List Char :=
  if characters.getLast? = some '.' then characters.dropLast else characters

/-- A text that ends in a dot stands for the same name without it. -/
@[simp] theorem withoutDot_append_dot (characters : List Char) :
    withoutDot (characters ++ ['.']) = characters := by
  simp [withoutDot]

/-- A text that does not end in a dot is kept. -/
theorem withoutDot_of_getLast?_ne
    {characters : List Char}
    (noDot : characters.getLast? ≠ some '.') :
    withoutDot characters = characters := by
  simp [withoutDot, noDot]

end Text
end Sinkhole
