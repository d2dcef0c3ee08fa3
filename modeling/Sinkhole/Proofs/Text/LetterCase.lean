import Sinkhole.Text.Blank
import Sinkhole.Text.Dotted
import Mathlib.Data.String.Basic

/-!
# Letter case

Lowercase changes the twenty-six capital letters of ASCII and nothing else. So it moves
no dot, turns no character into a blank or a control character, and keeps the number of
octets that a text takes.
-/

namespace Sinkhole
namespace Text

/-- The code point of a character in lowercase. -/
theorem toNat_toLower (character : Char) :
    character.toLower.toNat =
      if 65 ≤ character.toNat ∧ character.toNat ≤ 90 then character.toNat + 32
      else character.toNat := by
  unfold Char.toLower
  split
  · next upper =>
      have low : 65 ≤ character.toNat := upper.1
      have high : character.toNat ≤ 90 := upper.2
      rw [if_pos ⟨low, high⟩]
      change (character.val + 32).toNat = _
      rw [UInt32.toNat_add]
      change (character.toNat + 32) % 4294967296 = _
      omega
  · next other =>
      rw [if_neg]
      exact other

/-- A character before the letters is the lowercase form of itself alone. -/
theorem toLower_eq_iff
    {character mark : Char}
    (noLetter : mark.toNat < 65) :
    character.toLower = mark ↔ character = mark := by
  rw [← Char.toNat_inj, ← Char.toNat_inj, toNat_toLower]
  split <;> omega

/-- A character in lowercase is its own lowercase form. -/
@[simp] theorem toLower_toLower (character : Char) :
    character.toLower.toLower = character.toLower := by
  rw [← Char.toNat_inj]
  have once := toNat_toLower character
  have twice := toNat_toLower character.toLower
  split at once <;> split at twice <;> omega

theorem isUpper_toLower (character : Char) : character.toLower.isUpper = false := by
  have lowered := toNat_toLower character
  have outside : ¬(65 ≤ character.toLower.toNat ∧ character.toLower.toNat ≤ 90) := by
    split at lowered <;> omega
  exact decide_eq_false outside

/-- The code point of a character in uppercase. -/
theorem toNat_toUpper (character : Char) :
    character.toUpper.toNat =
      if 97 ≤ character.toNat ∧ character.toNat ≤ 122 then character.toNat - 32
      else character.toNat := by
  unfold Char.toUpper
  split
  · next lower =>
      have low : 97 ≤ character.toNat := lower.1
      have high : character.toNat ≤ 122 := lower.2
      rw [if_pos ⟨low, high⟩]
      -- The difference is added, modulo the size of a word.
      change (character.val + 4294967264).toNat = _
      rw [UInt32.toNat_add]
      change (character.toNat + 4294967264) % 4294967296 = _
      omega
  · next other =>
      rw [if_neg]
      exact other

/-- A character and its uppercase form have the same lowercase form. -/
@[simp] theorem toLower_toUpper (character : Char) :
    character.toUpper.toLower = character.toLower := by
  rw [← Char.toNat_inj]
  have raised := toNat_toUpper character
  have lowered := toNat_toLower character
  have both := toNat_toLower character.toUpper
  split at raised <;> split at lowered <;> split at both <;> omega

/-- A character takes as many octets as its lowercase form. -/
@[simp] theorem utf8Size_toLower (character : Char) :
    character.toLower.utf8Size = character.utf8Size := by
  have lowered := toNat_toLower character
  split at lowered
  · next upper =>
      have size : character.utf8Size = 1 := by
        rw [Char.utf8Size_eq_one_iff, UInt32.le_iff_toNat_le]
        change character.toNat ≤ 127
        omega
      have loweredSize : character.toLower.utf8Size = 1 := by
        rw [Char.utf8Size_eq_one_iff, UInt32.le_iff_toNat_le]
        change character.toLower.toNat ≤ 127
        omega
      rw [size, loweredSize]
  · rw [Char.toNat_inj.mp lowered]

@[simp] theorem isControl_toLower (character : Char) :
    isControl character.toLower = isControl character := by
  have lowered := toNat_toLower character
  unfold isControl
  split at lowered
  · rw [Bool.eq_iff_iff]
    simp only [Bool.or_eq_true, Bool.and_eq_true, decide_eq_true_eq]
    omega
  · rw [lowered]

@[simp] theorem isBlank_toLower (character : Char) :
    isBlank character.toLower = isBlank character := by
  have lowered := toNat_toLower character
  unfold isBlank
  split at lowered
  · rw [Bool.eq_iff_iff]
    simp only [Bool.or_eq_true, Bool.and_eq_true, decide_eq_true_eq, beq_iff_eq]
    omega
  · rw [lowered]

/-! ## Texts -/

/-- The second text is the first with the case of some letters switched. -/
def SameButCase (first second : List Char) : Prop :=
  List.Forall₂
    (fun one other => other = one ∨ other = one.toLower ∨ other = one.toUpper)
    first second

instance (first second : List Char) : Decidable (SameButCase first second) :=
  inferInstanceAs (Decidable (List.Forall₂ _ _ _))

/-- Texts that differ in case alone have the same lowercase form. -/
theorem SameButCase.map_toLower_eq
    {first second : List Char}
    (same : SameButCase first second) :
    second.map Char.toLower = first.map Char.toLower := by
  induction same with
  | nil => rfl
  | cons alike _ hypothesis =>
      rw [List.map_cons, List.map_cons, hypothesis]
      congr 1
      rcases alike with rfl | rfl | rfl
      · rfl
      · exact toLower_toLower _
      · exact toLower_toUpper _

/-- A text ends in a dot when its lowercase form does. -/
theorem getLast?_map_toLower_eq_dot (characters : List Char) :
    (characters.map Char.toLower).getLast? = some '.' ↔ characters.getLast? = some '.' := by
  rw [List.getLast?_map]
  cases characters.getLast? with
  | none => simp
  | some last => simp [toLower_eq_iff]

/-- Dropping the trailing dot and lowercase can be done in either order. -/
theorem withoutDot_map_toLower (characters : List Char) :
    withoutDot (characters.map Char.toLower) = (withoutDot characters).map Char.toLower := by
  unfold withoutDot
  by_cases dotted : characters.getLast? = some '.'
  · rw [if_pos dotted, if_pos ((getLast?_map_toLower_eq_dot characters).mpr dotted),
      List.map_dropLast]
  · rw [if_neg dotted, if_neg (mt (getLast?_map_toLower_eq_dot characters).mp dotted)]

/-- Splitting at the dots and lowercase can be done in either order. -/
theorem splitOn_map_toLower (characters : List Char) :
    (characters.map Char.toLower).splitOn '.' =
      (characters.splitOn '.').map (List.map Char.toLower) := by
  induction characters with
  | nil => rfl
  | cons character rest hypothesis =>
      have dot_iff : (character.toLower == '.') = (character == '.') := by
        rw [Bool.eq_iff_iff, beq_iff_eq, beq_iff_eq, toLower_eq_iff (by decide)]
      rw [List.map_cons, List.splitOn_cons_eq_if_modifyHead,
        List.splitOn_cons_eq_if_modifyHead, dot_iff, hypothesis]
      split
      · rfl
      · cases rest.splitOn '.' <;> rfl

/-- A text takes as many octets as its lowercase form. -/
theorem utf8ByteSize_map_toLower (characters : List Char) :
    (String.ofList (characters.map Char.toLower)).utf8ByteSize =
      (String.ofList characters).utf8ByteSize := by
  rw [String.utf8ByteSize_ofList, String.utf8ByteSize_ofList]
  induction characters with
  | nil => rfl
  | cons character rest hypothesis =>
      simp only [List.map_cons, String.utf8Len_cons, hypothesis, utf8Size_toLower]

end Text
end Sinkhole
