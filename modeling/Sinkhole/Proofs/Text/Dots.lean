import Sinkhole.Text.Dotted
import Mathlib.Data.String.Basic

/-!
# Parts between dots

A text is its parts with dots between them, and maybe one more dot at the end. The parts hold no
dot, and what they hold the text holds. When no part is empty the text is not empty and does not
end in a dot, so nothing is dropped from its end.
-/

namespace Sinkhole
namespace Text

/-! ## The trailing dot -/

/-- A text is what is left without its trailing dot, or that and a dot. -/
theorem eq_withoutDot_or (characters : List Char) :
    characters = withoutDot characters ∨ characters = withoutDot characters ++ ['.'] := by
  unfold withoutDot
  split
  · next dotted => exact Or.inr (List.dropLast_append_getLast? _ dotted).symm
  · exact Or.inl rfl

/-- A text has every character that it has without its trailing dot. -/
theorem withoutDot_subset (characters : List Char) :
    withoutDot characters ⊆ characters := by
  unfold withoutDot
  split
  · exact List.dropLast_subset characters
  · exact List.Subset.refl characters

/-! ## Parts -/

/-- What stands between two dots of a text stands in the text. -/
theorem mem_of_mem_splitOn
    {characters part : List Char}
    {character : Char}
    (isPart : part ∈ characters.splitOn '.')
    (member : character ∈ part) :
    character ∈ characters := by
  obtain ⟨index, found⟩ := List.mem_iff_getElem?.mp isPart
  have interspersed : part ∈ (characters.splitOn '.').intersperse ['.'] :=
    List.mem_iff_getElem?.mpr ⟨2 * index, by rw [List.getElem?_intersperse_two_mul, found]⟩
  have inWhole : character ∈ ['.'].intercalate (characters.splitOn '.') :=
    List.mem_flatten.mpr ⟨part, interspersed, member⟩
  rwa [List.intercalate_splitOn] at inWhole

theorem dot_not_mem_of_mem_splitOn
    {characters part : List Char}
    (isPart : part ∈ characters.splitOn '.') :
    '.' ∉ part := by
  induction characters generalizing part with
  | nil =>
      obtain rfl := List.mem_singleton.mp isPart
      exact List.not_mem_nil
  | cons character rest hypothesis =>
      rw [List.splitOn_cons_eq_if_modifyHead] at isPart
      split at isPart
      next =>
        rcases List.mem_cons.mp isPart with rfl | later
        · exact List.not_mem_nil
        · exact hypothesis later
      next different =>
        cases parts_eq : rest.splitOn '.' with
        | nil => simp [parts_eq] at isPart
        | cons first others =>
            rw [parts_eq] at isPart hypothesis
            rcases List.mem_cons.mp isPart with rfl | later
            · rw [List.mem_cons, not_or]
              exact ⟨fun equal => different (beq_iff_eq.mpr equal.symm),
                hypothesis List.mem_cons_self⟩
            · exact hypothesis (List.mem_cons_of_mem _ later)

/-- A character of a text other than the one that separates its parts stands in a part. -/
theorem exists_mem_splitOn
    {characters : List Char}
    {separator character : Char}
    (member : character ∈ characters)
    (different : character ≠ separator) :
    ∃ part ∈ characters.splitOn separator, character ∈ part := by
  induction characters with
  | nil => cases member
  | cons first rest hypothesis =>
      rw [List.splitOn_cons_eq_if_modifyHead]
      split
      next separates =>
        have later : character ∈ rest := by
          refine (List.mem_cons.mp member).resolve_left fun equal => different ?_
          exact equal.trans (beq_iff_eq.mp separates)
        obtain ⟨part, isPart, inPart⟩ := hypothesis later
        exact ⟨part, List.mem_cons_of_mem _ isPart, inPart⟩
      next =>
        cases parts_eq : rest.splitOn separator with
        | nil => exact absurd parts_eq (List.splitOn_ne_nil _ _)
        | cons head others =>
            rcases List.mem_cons.mp member with rfl | later
            · exact ⟨character :: head, List.mem_cons_self, List.mem_cons_self⟩
            · obtain ⟨part, isPart, inPart⟩ := hypothesis later
              rw [parts_eq] at isPart
              rcases List.mem_cons.mp isPart with rfl | other
              · exact ⟨first :: part, List.mem_cons_self, List.mem_cons_of_mem _ inPart⟩
              · exact ⟨part, List.mem_cons_of_mem _ other, inPart⟩

/-! ## Texts without an empty part -/

theorem ne_nil_of_nil_not_mem_splitOn
    {characters : List Char}
    (nonempty : [] ∉ characters.splitOn '.') :
    characters ≠ [] := by
  rintro rfl
  exact nonempty (List.mem_singleton_self [])

theorem getLast?_ne_dot_of_nil_not_mem_splitOn
    {characters : List Char}
    (nonempty : [] ∉ characters.splitOn '.') :
    characters.getLast? ≠ some '.' := by
  intro dotted
  rw [← List.dropLast_append_getLast? '.' dotted, List.splitOn_append_cons_self] at nonempty
  exact nonempty (List.mem_append_right _ (List.mem_singleton_self []))

end Text
end Sinkhole
