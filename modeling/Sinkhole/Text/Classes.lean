import Sinkhole.Text.Ranges

/-!
# Tables of character classes

A Unicode property with more than two values is stored as the ascending list of the
closed ranges of code points with one value. In a data module a word has the range
and, after a colon, the value.
-/

namespace Sinkhole
namespace Text

/-- Closed ranges of code points in ascending order, each with a value. -/
structure Classes (α : Type) where
  rows : Array (Nat × Nat × α)

namespace Classes

/-- Read one row. -/
def row? {α : Type} (read : String → Option α) (word : List Char) : Option (Nat × Nat × α) :=
  match word.splitOn ':' with
  | [range, value] =>
      let (first, last) := Ranges.entry range
      (read (String.ofList value)).map fun value => (first, last, value)
  | _ => none

/-- Read the rows written in a data module. -/
def ofText {α : Type} (read : String → Option α) (text : String) : Classes α :=
  ⟨((words text).filterMap (row? read)).toArray⟩

/-- The range that a character lies in: how far the character is from the first, and the
value of the range. -/
def find? {α : Type} (classes : Classes α) (character : Char) : Option (Nat × α) :=
  (search? (fun (first, last, _) => comparePoint character.toNat first last)
    classes.rows).map fun (first, _, value) => (character.toNat - first, value)

/-- The value of a character, if it has one. -/
def value? {α : Type} (classes : Classes α) (character : Char) : Option α :=
  (classes.find? character).map Prod.snd

end Classes
end Text
end Sinkhole
