import Mathlib.Algebra.GroupWithZero.Nat
import Mathlib.Tactic.MkIffOfInductiveProp
import Sinkhole.Proofs.Blocklist.Membership

/-!
# Which texts are accepted

The texts that are accepted have a grammar: labels of a legal size, without blanks, controls and
dots, with a dot between each two and maybe one at the end, and where there is a wildcard it is a
label of its own. A blocklist takes a text exactly when it is written so. Then its size grows by
one, unless an accepted text had the same canonical form, and otherwise nothing changes.
-/

namespace Sinkhole
namespace Pattern

/-! ## The grammar -/

/-- A label that a pattern may have. -/
@[mk_iff]
structure ProperLabel (label : String) : Prop where
  size_pos : 1 ≤ label.utf8ByteSize
  size_le : label.utf8ByteSize ≤ 63
  dotless : '.' ∉ label.toList
  plain : ∀ character ∈ label.toList,
    Text.isControl character = false ∧ Text.isBlank character = false

/-- The text of a pattern is its labels with dots between them, and maybe one more dot. With a
wildcard it has at least two labels, the wildcard is a whole label, and the reserved mark does
not occur. -/
@[mk_iff]
structure Written (text : String) (parts : List String) : Prop where
  text_eq : text = ".".intercalate parts ∨ text = ".".intercalate parts ++ "."
  nonempty : parts ≠ []
  proper : ∀ part ∈ parts, ProperLabel part
  total_le : 1 + (parts.map fun part => 1 + part.utf8ByteSize).sum ≤ 255
  two_le : '*' ∈ text.toList → 2 ≤ parts.length
  whole : '*' ∈ text.toList → ∀ part ∈ parts, '*' ∈ part.toList → part = "*"
  unreserved : '*' ∈ text.toList → '!' ∉ text.toList

instance (label : String) : Decidable (ProperLabel label) :=
  -- Not over all characters, only over those of the label.
  haveI : Decidable (∀ character ∈ label.toList,
      Text.isControl character = false ∧ Text.isBlank character = false) :=
    List.decidableBAll _ _
  decidable_of_iff _ (properLabel_iff label).symm

instance (text : String) (parts : List String) : Decidable (Written text parts) :=
  decidable_of_iff _ (written_iff text parts).symm

theorem wireSize_eq (labels : List String) :
    wireSize labels = 1 + (labels.map fun label => 1 + label.utf8ByteSize).sum := by
  induction labels with
  | nil => rfl
  | cons label rest hypothesis =>
      rw [wireSize, hypothesis, List.map_cons, List.sum_cons]
      omega

/-! ## Legal names by their labels -/

/-- A character of a text is a dot or stands in a label. -/
theorem eq_dot_or_exists_mem_labels
    {text : String}
    {character : Char}
    (nonempty : text ≠ "")
    (notRoot : text ≠ ".")
    (member : character ∈ text.toList) :
    character = '.' ∨ ∃ label ∈ labels text, character ∈ label.toList := by
  by_cases dot : character = '.'
  · exact Or.inl dot
  · have inBare : character ∈ Text.withoutDot text.toList := by
      rcases Text.eq_withoutDot_or text.toList with undotted | dotted
      · rwa [← undotted]
      · rw [dotted, List.mem_append, List.mem_singleton] at member
        exact member.resolve_right dot
    obtain ⟨part, isPart, inPart⟩ := Text.exists_mem_splitOn inBare dot
    rw [← map_toList_labels nonempty notRoot, List.mem_map] at isPart
    obtain ⟨label, isLabel, rfl⟩ := isPart
    exact Or.inr ⟨label, isLabel, inPart⟩

/-- A text that is not empty is a legal name exactly when its labels are proper and not too long
together. The root has none. -/
theorem fault?_eq_none_iff_proper {text : String} (nonempty : text ≠ "") :
    fault? text = none ↔
      (∀ label ∈ labels text, ProperLabel label) ∧ wireSize (labels text) ≤ maxNameSize := by
  by_cases root : text = "."
  · subst root
    exact iff_of_true rfl ⟨List.forall_mem_nil _, by decide⟩
  · rw [fault?_eq_none_iff root]
    constructor
    · rintro ⟨_, plain, sizes, total⟩
      refine ⟨fun label member => ?_, total⟩
      refine ⟨(sizes label member).1, (sizes label member).2, ?_, ?_⟩
      · have isPart : label.toList ∈ (Text.withoutDot text.toList).splitOn '.' := by
          rw [← map_toList_labels nonempty root]
          exact List.mem_map_of_mem member
        exact Text.dot_not_mem_of_mem_splitOn isPart
      · intro character inLabel
        have mentioned : mentions text character = true :=
          mentions_of_mem_labels member (mentions_iff.mpr inLabel)
        exact plain character (mentions_iff.mp mentioned)
    · rintro ⟨proper, total⟩
      refine ⟨nonempty, fun character member => ?_, fun label member => ?_, total⟩
      · rcases eq_dot_or_exists_mem_labels nonempty root member with rfl | ⟨label, isLabel, inLabel⟩
        · decide
        · exact (proper label isLabel).plain character inLabel
      · exact ⟨(proper label member).size_pos, (proper label member).size_le⟩

theorem properLabel_lowercase_iff {label : String} :
    ProperLabel (lowercase label) ↔ ProperLabel label := by
  have dot_iff : '.' ∈ (lowercase label).toList ↔ '.' ∈ label.toList := by
    rw [← mentions_iff, mentions_lowercase _ (by decide), mentions_iff]
  rw [properLabel_iff, properLabel_iff, utf8ByteSize_lowercase, dot_iff, toList_lowercase,
    List.forall_mem_map]
  simp only [Text.isControl_toLower, Text.isBlank_toLower]

theorem canonical_ne_empty (text : String) : canonical text ≠ "" := by
  rw [ne_eq, ← String.toList_eq_nil_iff, toList_canonical]
  exact List.concat_ne_nil _ _

theorem canonical_eq_root_iff {text : String} (nonempty : text ≠ "") :
    canonical text = "." ↔ text = "." := by
  constructor
  · intro canonicalRoot
    by_contra notRoot
    have labels_eq : loweredLabels text = [] := by
      rw [← labels_canonical, canonicalRoot]
      rfl
    exact labels_ne_nil nonempty notRoot (List.map_eq_nil_iff.mp labels_eq)
  · rintro rfl
    rfl

/-- The canonical form of a text is a legal name exactly when the text is one. The empty text is
none, but its canonical form is the root. -/
theorem fault?_canonical_eq_none_iff {text : String} (nonempty : text ≠ "") :
    fault? (canonical text) = none ↔ fault? text = none := by
  rw [fault?_eq_none_iff_proper (canonical_ne_empty text), fault?_eq_none_iff_proper nonempty,
    labels_canonical, loweredLabels, List.forall_mem_map, wireSize_map_lowercase]
  simp only [properLabel_lowercase_iff]

/-! ## From the parts to the labels -/

namespace Written

variable
  {text : String}
  {parts : List String}

theorem toList_eq_or (written : Written text parts) :
    text.toList = ['.'].intercalate (parts.map String.toList) ∨
      text.toList = ['.'].intercalate (parts.map String.toList) ++ ['.'] := by
  have joined : (".".intercalate parts).toList =
      ['.'].intercalate (parts.map String.toList) := String.toList_intercalate
  rw [← joined]
  exact written.text_eq.imp (congrArg String.toList) fun dotted => by
    rw [dotted, String.toList_append]
    rfl

/-- The parts are what stands between the dots. -/
theorem splitOn_intercalate (written : Written text parts) :
    (['.'].intercalate (parts.map String.toList)).splitOn '.' = parts.map String.toList := by
  apply List.splitOn_intercalate
  · rw [List.forall_mem_map]
    exact fun part member => (written.proper part member).dotless
  · simpa using written.nonempty

theorem nil_not_mem_splitOn (written : Written text parts) :
    [] ∉ (['.'].intercalate (parts.map String.toList)).splitOn '.' := by
  rw [written.splitOn_intercalate]
  intro member
  obtain ⟨part, partMember, empty⟩ := List.mem_map.mp member
  have positive := (written.proper part partMember).size_pos
  rw [String.toList_eq_nil_iff] at empty
  subst empty
  contradiction

/-- The labels of a text are the parts that it is written with. -/
theorem labels_eq (written : Written text parts) : labels text = parts := by
  have nonempty := written.nil_not_mem_splitOn
  have bare : Text.withoutDot text.toList = ['.'].intercalate (parts.map String.toList) := by
    rcases written.toList_eq_or with undotted | dotted
    · rw [undotted]
      apply Text.withoutDot_of_getLast?_ne
      exact Text.getLast?_ne_dot_of_nil_not_mem_splitOn nonempty
    · rw [dotted, Text.withoutDot_append_dot]
  have proper : ¬(['.'].intercalate (parts.map String.toList)).isEmpty = true :=
    mt List.isEmpty_iff.mp (Text.ne_nil_of_nil_not_mem_splitOn nonempty)
  rw [labels, bare, if_neg proper, written.splitOn_intercalate, List.map_map]
  simp [Function.comp_def]

theorem ne_root (written : Written text parts) : text ≠ "." := by
  rintro rfl
  exact written.nonempty written.labels_eq.symm

/-- A text that is written so is a legal name. -/
theorem fault?_eq_none (written : Written text parts) : fault? text = none := by
  have nonempty : text ≠ "" := by
    rintro rfl
    exact written.nonempty written.labels_eq.symm
  rw [fault?_eq_none_iff_proper nonempty, written.labels_eq, wireSize_eq]
  exact ⟨written.proper, written.total_le⟩

end Written

/-! ## From the labels to the parts -/

/-- A text is its labels with dots between them, and maybe one more dot. -/
theorem eq_intercalate_labels_or
    {text : String}
    (nonempty : text ≠ "")
    (notRoot : text ≠ ".") :
    text = ".".intercalate (labels text) ∨ text = ".".intercalate (labels text) ++ "." := by
  have joined : (".".intercalate (labels text)).toList = Text.withoutDot text.toList := by
    rw [String.toList_intercalate, map_toList_labels nonempty notRoot]
    exact List.intercalate_splitOn _
  rw [← String.toList_inj, ← String.toList_inj, String.toList_append, joined]
  exact Text.eq_withoutDot_or text.toList

/-- Whether a legal text has a fault as a pattern can be told from the text itself. -/
theorem wildcardFault?_canonical_iff
    {text : String}
    (legal : fault? text = none)
    (notRoot : text ≠ ".") :
    wildcardFault? (canonical text) = none ↔
      mentions text reservedMark = false ∧ 2 ≤ (labels text).length ∧
        ∀ label ∈ labels text, mentions label '*' = true → label = wildcard := by
  have nonempty := ((fault?_eq_none_iff notRoot).mp legal).1
  rw [wildcardFault?_eq_none_iff, mentions_canonical text (by decide) (by decide),
    labels_canonical, length_loweredLabels, loweredLabels, List.forall_mem_map]
  simp only [mentions_lowercase _ (show '*'.toNat < 65 by decide), lowercase_eq_wildcard_iff,
    (fault?_canonical_eq_none_iff nonempty).mpr legal, true_and]

end Pattern

namespace BlockEntry

open Pattern

/-- An accepted text is written with its labels. -/
theorem written_labels_of_accepted {text : String} (accepted : Accepted text) :
    Written text (labels text) := by
  obtain ⟨legal, notRoot, faultless⟩ := accepted_iff.mp accepted
  rw [isLegal, Option.isNone_iff_eq_none] at legal
  have nonempty := ((fault?_eq_none_iff notRoot).mp legal).1
  obtain ⟨proper, total⟩ := (fault?_eq_none_iff_proper nonempty).mp legal
  have pattern (wild : '*' ∈ text.toList) := (wildcardFault?_canonical_iff legal notRoot).mp
    (faultless (mentions_iff.mpr wild))
  exact {
    text_eq := eq_intercalate_labels_or nonempty notRoot
    nonempty := labels_ne_nil nonempty notRoot
    proper
    total_le := wireSize_eq _ ▸ total
    two_le := fun wild => (pattern wild).2.1
    whole := fun wild label member inLabel =>
      (pattern wild).2.2 label member (mentions_iff.mpr inLabel)
    unreserved := fun wild reserved =>
      Bool.eq_false_iff.mp (pattern wild).1 (mentions_iff.mpr reserved) }

theorem accepted_of_written
    {text : String}
    {parts : List String}
    (written : Written text parts) :
    Accepted text := by
  have legal := written.fault?_eq_none
  rw [accepted_iff, isLegal, Option.isNone_iff_eq_none]
  refine ⟨legal, written.ne_root, fun mentioned => ?_⟩
  have wild : '*' ∈ text.toList := mentions_iff.mp mentioned
  rw [wildcardFault?_canonical_iff legal written.ne_root, written.labels_eq]
  refine ⟨?_, written.two_le wild, ?_⟩
  · rw [Bool.eq_false_iff]
    exact mt mentions_iff.mp (written.unreserved wild)
  · intro part member inPart
    exact written.whole wild part member (mentions_iff.mp inPart)

/-- The texts that are accepted are those of the grammar. -/
theorem accepted_iff_exists_written {text : String} :
    Accepted text ↔ ∃ parts, Written text parts := by
  constructor
  · intro accepted
    exact ⟨labels text, written_labels_of_accepted accepted⟩
  · rintro ⟨parts, written⟩
    exact accepted_of_written written

end BlockEntry

namespace ExactSet

theorem size_insert (set : ExactSet) (name : String) :
    (set.insert name).size = set.size + if set.contains name then 0 else 1 := by
  rw [size, insert, Std.HashSet.size_insert, contains, size]
  simp only [Std.HashSet.mem_iff_contains]
  split <;> rfl

end ExactSet

namespace PatternTrie

theorem size_mark (trie : PatternTrie) (path : List String) :
    (trie.mark path).size = trie.size + if trie.isMarked path then 0 else 1 := by
  unfold mark
  split <;> rfl

end PatternTrie

namespace Blocklist

open Pattern BlockEntry

/-- The canonical form of a text is that of an accepted one among some others. -/
def Known (texts : List String) (text : String) : Prop :=
  ∃ other ∈ texts, Accepted other ∧ canonical other = canonical text

instance (texts : List String) (text : String) : Decidable (Known texts text) :=
  inferInstanceAs (Decidable (∃ other ∈ texts, _))

/-- Texts with the same canonical form are both patterns, or neither is. -/
theorem known_iff {texts : List String} {text : String} :
    (∃ other ∈ texts, Accepted other ∧ mentions other '*' = mentions text '*' ∧
      canonical other = canonical text) ↔ Known texts text := by
  apply exists_congr
  intro other
  have same (equal : canonical other = canonical text) :
      mentions other '*' = mentions text '*' :=
    mentions_eq_of_canonical_eq equal (by decide) (by decide)
  exact and_congr_right fun _ => and_congr_right fun _ => and_iff_right_of_imp same

namespace Built

variable
  {blocklist : Blocklist}
  {texts : List String}

/-- A name without a wildcard is there when it is known. -/
theorem contains_canonical_iff
    (built : Built blocklist texts)
    {text : String}
    (concrete : mentions text '*' = false) :
    blocklist.exact.contains (canonical text) = true ↔ Known texts text := by
  rw [built.contains_iff, canonical_canonical, ← concrete, known_iff]

/-- The path of a pattern is marked when the pattern is known. -/
theorem isMarked_levels_iff
    (built : Built blocklist texts)
    {text : String}
    (mentioned : mentions text '*' = true) :
    blocklist.patterns.isMarked (levels text) = true ↔ Known texts text := by
  rw [PatternTrie.isMarked_iff, built.holds_iff, ← mentioned]
  simp only [levels_eq_iff, known_iff]

/-- The size grows by one when an accepted text was not known. -/
theorem size_of_insert
    (built : Built blocklist texts)
    {text : String}
    {next : Blocklist}
    (inserted : insert text blocklist = .ok () next) :
    next.size = blocklist.size + if Known texts text then 0 else 1 := by
  have accepted := (insert_isOk_iff blocklist text).mp ⟨next, inserted⟩
  cases mentioned : mentions text '*' with
  | false =>
      rw [insert_of_concrete accepted mentioned] at inserted
      cases inserted
      simp only [size, ExactSet.size_insert, built.contains_canonical_iff mentioned]
      exact Nat.add_right_comm _ _ _
  | true =>
      rw [insert_of_mentioned accepted mentioned] at inserted
      cases inserted
      simp only [size, PatternTrie.size_mark, built.isMarked_levels_iff mentioned]
      exact (Nat.add_assoc _ _ _).symm

end Built

/-- A text is inserted exactly when it is in the grammar, and a blocklist that refuses one stays
as it is. After an insertion the size is one more, unless an accepted text was there with the
same canonical form. -/
theorem insert_iff_written (text : String) :
    (∀ blocklist : Blocklist,
        ((∃ next, insert text blocklist = .ok () next) ↔ ∃ parts, Written text parts) ∧
          ∀ error next, insert text blocklist = .error error next → next = blocklist) ∧
      ∀ texts next, insert text (ofTexts texts) = .ok () next →
        next.size = (ofTexts texts).size +
          if ∃ other ∈ texts, Accepted other ∧ canonical other = canonical text then 0 else 1 := by
  refine ⟨fun blocklist => ⟨?_, ?_⟩, fun texts next => (built_ofTexts texts).size_of_insert⟩
  · rw [insert_isOk_iff, accepted_iff_exists_written]
  · exact fun error next => eq_of_insert_eq_error

/-- A pattern that is known in another spelling, a name that is not, and a text in which the
wildcard is only a part of a label. -/
theorem insert_iff_written_known :
    let blocklist := ofTexts ["*.b.a"]
    (∃ next, insert "*.B.a." blocklist = .ok () next ∧ next.size = blocklist.size) ∧
      (∃ next, insert "b.a" blocklist = .ok () next ∧ next.size = blocklist.size + 1) ∧
      ¬(∃ parts, Written "*x.b.a" parts) ∧
      ∃ error, insert "*x.b.a" blocklist = .error error blocklist := by
  intro blocklist
  refine ⟨?_, ?_, ?_⟩
  · obtain ⟨accepted, grown⟩ := insert_iff_written "*.B.a."
    obtain ⟨next, inserted⟩ :=
      (accepted blocklist).1.mpr ⟨["*", "B", "a"], by decide +kernel⟩
    have size_eq := grown ["*.b.a"] next inserted
    rw [if_pos (by decide +kernel)] at size_eq
    exact ⟨next, inserted, size_eq⟩
  · obtain ⟨accepted, grown⟩ := insert_iff_written "b.a"
    obtain ⟨next, inserted⟩ := (accepted blocklist).1.mpr ⟨["b", "a"], by decide +kernel⟩
    have size_eq := grown ["*.b.a"] next inserted
    rw [if_neg (by decide +kernel)] at size_eq
    exact ⟨next, inserted, size_eq⟩
  · obtain ⟨accepted, unchanged⟩ := (insert_iff_written "*x.b.a").1 blocklist
    cases refused : insert "*x.b.a" blocklist with
    | ok _ next =>
        have impossible := (accepted_iff_exists_written.mpr (accepted.mp ⟨next, refused⟩))
        exact absurd impossible (by decide +kernel)
    | error error next =>
        rw [unchanged error next refused]
        refine ⟨?_, error, rfl⟩
        rw [← accepted, refused]
        simp

end Blocklist
end Sinkhole
