import Sinkhole.Blocklist.Pattern
import Sinkhole.Proofs.Text.Dots
import Sinkhole.Proofs.Text.LetterCase

/-!
# Labels and canonical forms

The labels of a text are what is left of it when letter case and the trailing dot do not
count. Two texts have the same canonical form exactly when their labels agree in
lowercase, and whether a text is a legal name depends on those labels alone.
-/

namespace Sinkhole
namespace Pattern

@[simp] theorem toList_lowercase (text : String) :
    (lowercase text).toList = text.toList.map Char.toLower := by
  simp [lowercase]

@[simp] theorem lowercase_lowercase (text : String) :
    lowercase (lowercase text) = lowercase text := by
  simp [lowercase, Function.comp_def]

/-- The labels of a text in lowercase. -/
def loweredLabels (text : String) : List String :=
  (labels text).map lowercase

/-! ## Labels -/

theorem labels_of_withoutDot_map
    {text lowered : String}
    (bare_eq :
      Text.withoutDot lowered.toList = (Text.withoutDot text.toList).map Char.toLower) :
    labels lowered = loweredLabels text := by
  simp only [loweredLabels, labels, bare_eq, List.isEmpty_map]
  split
  · rfl
  · rw [Text.splitOn_map_toLower, List.map_map, List.map_map]
    apply List.map_congr_left
    intro label _
    simp [lowercase]

@[simp] theorem labels_lowercase (text : String) :
    labels (lowercase text) = loweredLabels text :=
  labels_of_withoutDot_map (by rw [toList_lowercase, Text.withoutDot_map_toLower])

@[simp] theorem loweredLabels_lowercase (text : String) :
    loweredLabels (lowercase text) = loweredLabels text := by
  simp [loweredLabels, Function.comp_def]

@[simp] theorem length_loweredLabels (text : String) :
    (loweredLabels text).length = (labels text).length := by
  simp [loweredLabels]

/-! ## Canonical forms -/

/-- The canonical form is the lowercase text without its trailing dot, and then a dot. -/
theorem toList_canonical (text : String) :
    (canonical text).toList = (Text.withoutDot text.toList).map Char.toLower ++ ['.'] := by
  rw [← Text.withoutDot_map_toLower]
  unfold canonical Text.withoutDot
  simp only [String.toList_ofList]
  split
  · next dotted => exact (List.dropLast_append_getLast? _ dotted).symm
  · rfl

@[simp] theorem labels_canonical (text : String) :
    labels (canonical text) = loweredLabels text :=
  labels_of_withoutDot_map (by rw [toList_canonical, Text.withoutDot_append_dot])

@[simp] theorem lowercase_canonical (text : String) :
    lowercase (canonical text) = canonical text := by
  rw [← String.toList_inj, toList_lowercase, toList_canonical]
  simp [Function.comp_def]

/-- The canonical form can be put together from the labels in lowercase. -/
theorem toList_canonical_eq_intercalate (text : String) :
    (canonical text).toList =
      ['.'].intercalate ((loweredLabels text).map String.toList) ++ ['.'] := by
  rw [toList_canonical]
  congr 1
  simp only [loweredLabels, labels]
  split
  · next bare => simp_all [List.isEmpty_iff]
  · have lists_eq :
        (((Text.withoutDot text.toList).splitOn '.').map
            (String.toList ∘ lowercase ∘ String.ofList)) =
          ((Text.withoutDot text.toList).map Char.toLower).splitOn '.' := by
      rw [Text.splitOn_map_toLower]
      apply List.map_congr_left
      intro label _
      simp
    rw [List.map_map, List.map_map, Function.comp_assoc, lists_eq, List.intercalate_splitOn]

/-- Texts with the same labels in lowercase have the same canonical form, and the other
way round. -/
theorem canonical_eq_iff {first second : String} :
    canonical first = canonical second ↔ loweredLabels first = loweredLabels second := by
  constructor
  · intro equal
    rw [← labels_canonical, equal, labels_canonical]
  · intro equal
    rw [← String.toList_inj, toList_canonical_eq_intercalate,
      toList_canonical_eq_intercalate, equal]

@[simp] theorem canonical_canonical (text : String) :
    canonical (canonical text) = canonical text := by
  rw [canonical_eq_iff, ← labels_lowercase, lowercase_canonical, labels_canonical]

/-! ## Marks -/

theorem mentions_iff {text : String} {mark : Char} :
    mentions text mark = true ↔ mark ∈ text.toList := by
  rw [mentions, List.contains_iff_mem]

/-- A character before the letters occurs in a text when it occurs in the lowercase
form. -/
theorem mentions_lowercase
    (text : String)
    {mark : Char}
    (noLetter : mark.toNat < 65) :
    mentions (lowercase text) mark = mentions text mark := by
  rw [Bool.eq_iff_iff]
  simp [mentions, Text.toLower_eq_iff noLetter]

/-- A character before the letters, other than the dot, occurs in a text when it occurs
in the canonical form. -/
theorem mentions_canonical
    (text : String)
    {mark : Char}
    (noLetter : mark.toNat < 65)
    (noDot : mark ≠ '.') :
    mentions (canonical text) mark = mentions text mark := by
  rw [Bool.eq_iff_iff]
  simp only [mentions, List.contains_iff_mem, toList_canonical, List.mem_append,
    List.mem_map, Text.toLower_eq_iff noLetter, exists_eq_right, List.mem_singleton, noDot,
    or_false]
  unfold Text.withoutDot
  split
  · next dotted =>
      rw [← List.dropLast_append_getLast? _ dotted]
      simp [noDot]
  · rfl

theorem mentions_eq_of_canonical_eq
    {first second : String}
    (equal : canonical first = canonical second)
    {mark : Char}
    (noLetter : mark.toNat < 65)
    (noDot : mark ≠ '.') :
    mentions first mark = mentions second mark := by
  rw [← mentions_canonical first noLetter noDot, equal, mentions_canonical second noLetter noDot]

/-- What occurs in a label of a text occurs in the text. -/
theorem mentions_of_mem_labels
    {text label : String}
    {mark : Char}
    (member : label ∈ labels text)
    (mentioned : mentions label mark = true) :
    mentions text mark = true := by
  simp only [labels] at member
  split at member
  · simp at member
  · obtain ⟨characters, part, rfl⟩ := List.mem_map.mp member
    have inBare : mark ∈ Text.withoutDot text.toList :=
      Text.mem_of_mem_splitOn part (by simpa [mentions] using mentioned)
    simpa [mentions] using Text.withoutDot_subset text.toList inBare

/-! ## Legal names -/

theorem utf8ByteSize_lowercase (label : String) :
    (lowercase label).utf8ByteSize = label.utf8ByteSize := by
  rw [lowercase, Text.utf8ByteSize_map_toLower, String.ofList_toList]

theorem labelFault?_lowercase (label : String) :
    labelFault? (lowercase label) = labelFault? label := by
  have empty_eq : (lowercase label).isEmpty = label.isEmpty := by
    rw [Bool.eq_iff_iff, String.isEmpty_iff, String.isEmpty_iff]
    simp [lowercase]
  rw [labelFault?, labelFault?, utf8ByteSize_lowercase, empty_eq]

theorem wireSize_map_lowercase (labels : List String) :
    wireSize (labels.map lowercase) = wireSize labels := by
  induction labels with
  | nil => rfl
  | cons label rest hypothesis =>
      rw [List.map_cons, wireSize, wireSize, hypothesis, utf8ByteSize_lowercase]

theorem lowercase_eq_root_iff {text : String} : lowercase text = "." ↔ text = "." := by
  rw [← String.toList_inj, ← String.toList_inj, toList_lowercase]
  change text.toList.map Char.toLower = ['.'] ↔ text.toList = ['.']
  rw [List.map_eq_singleton_iff]
  simp [Text.toLower_eq_iff]

/-- A text is refused as a name for the same reason as its lowercase form. -/
theorem fault?_lowercase (text : String) : fault? (lowercase text) = fault? text := by
  have empty_eq : (lowercase text).isEmpty = text.isEmpty := by
    rw [Bool.eq_iff_iff, String.isEmpty_iff, String.isEmpty_iff]
    simp [lowercase]
  have faults_eq :
      (loweredLabels text).findSome? labelFault? = (labels text).findSome? labelFault? := by
    simp only [loweredLabels, List.findSome?_map, Function.comp_def, labelFault?_lowercase]
  have size_eq : wireSize (loweredLabels text) = wireSize (labels text) :=
    wireSize_map_lowercase (labels text)
  simp only [fault?, empty_eq, lowercase_eq_root_iff, toList_lowercase, List.any_map,
    Function.comp_def, Text.isControl_toLower, Text.isBlank_toLower, labels_lowercase, faults_eq,
    size_eq]

@[simp] theorem isLegal_lowercase (text : String) :
    isLegal (lowercase text) = isLegal text := by
  rw [isLegal, fault?_lowercase, isLegal]

/-- The labels of a text other than the empty one and the root are what stands between its dots,
the one at its end left out. -/
theorem map_toList_labels {text : String} (nonempty : text ≠ "") (notRoot : text ≠ ".") :
    (labels text).map String.toList = (Text.withoutDot text.toList).splitOn '.' := by
  have bareNonempty : Text.withoutDot text.toList ≠ [] := by
    intro bare
    rcases Text.eq_withoutDot_or text.toList with undotted | dotted
    · rw [bare] at undotted
      exact nonempty (String.toList_inj.mp undotted)
    · rw [bare, List.nil_append] at dotted
      exact notRoot (String.toList_inj.mp dotted)
  rw [labels, if_neg (mt List.isEmpty_iff.mp bareNonempty), List.map_map]
  simp [Function.comp_def]

/-- Only the empty text and the root have no labels. -/
theorem labels_ne_nil {text : String} (nonempty : text ≠ "") (notRoot : text ≠ ".") :
    labels text ≠ [] := by
  intro empty
  have parts_eq := map_toList_labels nonempty notRoot
  rw [empty, List.map_nil] at parts_eq
  exact List.splitOn_ne_nil _ _ parts_eq.symm

/-! ## Texts without a fault -/

theorem labelFault?_eq_none_iff {label : String} :
    labelFault? label = none ↔ 1 ≤ label.utf8ByteSize ∧ label.utf8ByteSize ≤ maxLabelSize := by
  have empty_iff : label.isEmpty = true ↔ ¬1 ≤ label.utf8ByteSize := by
    rw [String.isEmpty_iff, ← String.utf8ByteSize_eq_zero_iff]
    omega
  unfold labelFault?
  split
  · next empty => simp [empty_iff.mp empty]
  · next nonempty =>
      rw [empty_iff, not_not] at nonempty
      split
      · next long => simp [Nat.not_le.mpr long]
      · next short => simp [nonempty, Nat.not_lt.mp short]

/-- What a text other than the root takes to be a legal name. -/
theorem fault?_eq_none_iff {text : String} (notRoot : text ≠ ".") :
    fault? text = none ↔
      text ≠ "" ∧
        (∀ character ∈ text.toList,
          Text.isControl character = false ∧ Text.isBlank character = false) ∧
        (∀ label ∈ labels text, 1 ≤ label.utf8ByteSize ∧ label.utf8ByteSize ≤ maxLabelSize) ∧
        wireSize (labels text) ≤ maxNameSize := by
  by_cases empty : text = ""
  · simp [fault?, empty]
  · have nonempty : ¬text.isEmpty = true := mt String.isEmpty_iff.mp empty
    have plain_iff : (∀ character ∈ text.toList,
          Text.isControl character = false ∧ Text.isBlank character = false) ↔
        ¬(text.toList.any fun character =>
          Text.isControl character || Text.isBlank character) = true := by
      simp
    rw [fault?, if_neg nonempty, if_neg notRoot, plain_iff]
    simp only [← labelFault?_eq_none_iff, ← List.findSome?_eq_none_iff]
    split
    · next unfit => simp [unfit]
    · next fit =>
        cases (labels text).findSome? labelFault? with
        | some refusal => simp
        | none => simp [fit, empty]

/-- What a text takes to be a pattern. -/
theorem wildcardFault?_eq_none_iff {text : String} :
    wildcardFault? text = none ↔
      fault? text = none ∧ mentions text reservedMark = false ∧ 2 ≤ (labels text).length ∧
        ∀ label ∈ labels text, mentions label '*' = true → label = wildcard := by
  have partial_iff : ((labels text).any fun label =>
        mentions label '*' && label != wildcard) = true ↔
      ¬∀ label ∈ labels text, mentions label '*' = true → label = wildcard := by
    simp
  unfold wildcardFault?
  cases fault? text with
  | some refusal => simp
  | none =>
      cases mentions text reservedMark with
      | true => simp
      | false =>
          simp only [Bool.false_eq_true, if_false, true_and]
          split
          · next few => simp [Nat.not_le.mpr few]
          · next enough =>
              split
              · next stray => simp [partial_iff.mp stray]
              · next whole =>
                  rw [partial_iff, not_not] at whole
                  exact iff_of_true rfl ⟨Nat.not_lt.mp enough, whole⟩

end Pattern
end Sinkhole
