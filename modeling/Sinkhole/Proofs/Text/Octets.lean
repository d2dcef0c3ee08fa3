import Sinkhole.Text.Ascii
import Sinkhole.Text.Utf8
import Mathlib.Data.String.Basic

/-!
# Texts and their octets

A text is known by its octets, of which it has as many as its size says. ASCII characters have one
octet each.
-/

namespace Sinkhole
namespace Text

/-- Different texts have different octets. -/
theorem utf8_inj {first second : List Char} : utf8 first = utf8 second ↔ first = second := by
  constructor
  · intro equal
    have encoded : first.utf8Encode = second.utf8Encode := congrArg List.toByteArray equal
    have decoded := congrArg ByteArray.utf8Decode? encoded
    rw [List.utf8Decode?_utf8Encode, List.utf8Decode?_utf8Encode, Option.some.injEq] at decoded
    exact congrArg Array.toList decoded
  · rintro rfl
    rfl

theorem length_utf8 (text : String) : (utf8 text.toList).length = text.utf8ByteSize := by
  rw [← String.ofList_toList (s := text), String.utf8ByteSize_ofList, String.toList_ofList]
  induction text.toList with
  | nil => rfl
  | cons character rest hypothesis =>
      rw [utf8_cons, List.length_append, String.length_utf8EncodeChar, hypothesis,
        String.utf8Len_cons, Nat.add_comm]

/-! ## ASCII -/

/-- An ASCII character is one octet. -/
theorem utf8EncodeChar_of_isAscii
    {character : Char}
    (ascii : isAscii character = true) :
    String.utf8EncodeChar character = [UInt8.ofNat character.toNat] := by
  have small : character.toNat < 128 := of_decide_eq_true ascii
  have single : character.utf8Size = 1 := by
    rw [Char.utf8Size_eq_one_iff, UInt32.le_iff_toNat_le]
    exact Nat.le_of_lt_succ small
  rw [String.utf8EncodeChar_eq_singleton single]
  rfl

theorem utf8_of_allAscii
    {characters : List Char}
    (ascii : allAscii characters = true) :
    utf8 characters = characters.map fun character => UInt8.ofNat character.toNat := by
  induction characters with
  | nil => rfl
  | cons character rest hypothesis =>
      rw [allAscii, List.all_cons, Bool.and_eq_true] at ascii
      rw [utf8_cons, utf8EncodeChar_of_isAscii ascii.1, hypothesis ascii.2,
        List.singleton_append, List.map_cons]

end Text
end Sinkhole
