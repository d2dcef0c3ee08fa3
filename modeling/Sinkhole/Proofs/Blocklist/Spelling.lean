import Sinkhole.Proofs.Blocklist.Acceptance
import Sinkhole.Proofs.Blocklist.DomainNames

/-!
# Spellings of a name

Letter case and a dot at the end make no difference to a blocklist. All that it does with a text
it could do with the canonical form instead: look it up, refuse it or take it, and keep it. Texts
that differ in case, or in the dot, have one canonical form.
-/

namespace Sinkhole

/-! ## The canonical form in place of a text -/

namespace Pattern

/-- A name can match patterns when its canonical form can. -/
@[simp] theorem isMatchable_canonical (name : String) :
    PatternTrie.isMatchable (canonical name) = PatternTrie.isMatchable name := by
  by_cases empty : name = ""
  · -- The root is legal and the empty text is not, but neither has two labels.
    subst empty
    rfl
  · have legal_eq : isLegal (canonical name) = isLegal name := by
      rw [Bool.eq_iff_iff, isLegal, isLegal, Option.isNone_iff_eq_none,
        Option.isNone_iff_eq_none, fault?_canonical_eq_none_iff empty]
    rw [PatternTrie.isMatchable, PatternTrie.isMatchable, legal_eq,
      mentions_canonical name (by decide) (by decide),
      mentions_canonical name (by decide) (by decide), labels_canonical, length_loweredLabels]

end Pattern

namespace BlockEntry

open Pattern

/-- A text is accepted exactly when its canonical form is. -/
@[simp] theorem accepted_canonical_iff {text : String} :
    Accepted (canonical text) ↔ Accepted text := by
  by_cases empty : text = ""
  · -- The empty text is refused, and so is the root.
    subst empty
    decide
  · rw [accepted_iff, accepted_iff, isLegal, isLegal, Option.isNone_iff_eq_none,
      Option.isNone_iff_eq_none, fault?_canonical_eq_none_iff empty, ne_eq,
      canonical_eq_root_iff empty, mentions_canonical text (by decide) (by decide),
      canonical_canonical]

end BlockEntry

namespace Blocklist

open Pattern BlockEntry

/-- A name is blocked exactly when its canonical form is. -/
@[simp] theorem contains_canonical (blocklist : Blocklist) (name : String) :
    blocklist.contains (canonical name) = blocklist.contains name := by
  have exact_eq : blocklist.exact.contains (canonical name) = blocklist.exact.contains name := by
    rw [ExactSet.contains, canonical_canonical, ExactSet.contains]
  have levels_eq : levels (canonical name) = levels name :=
    levels_eq_iff.mpr (canonical_canonical name)
  have patterns_eq :
      blocklist.patterns.contains (canonical name) = blocklist.patterns.contains name := by
    rw [PatternTrie.contains, PatternTrie.contains, isMatchable_lowercase,
      isMatchable_lowercase, isMatchable_canonical, path_lowercase, path_lowercase, levels_eq]
  rw [contains, contains, exact_eq, patterns_eq]

/-- Trying to insert a text comes to trying it with the canonical form. -/
@[simp] theorem tryInsert_canonical (blocklist : Blocklist) (text : String) :
    blocklist.tryInsert (canonical text) = blocklist.tryInsert text := by
  by_cases accepted : Accepted text
  · have levels_eq : levels (canonical text) = levels text :=
      levels_eq_iff.mpr (canonical_canonical text)
    rw [tryInsert_of_accepted accepted,
      tryInsert_of_accepted (accepted_canonical_iff.mpr accepted),
      mentions_canonical text (by decide) (by decide), levels_eq, canonical_canonical]
  · rw [tryInsert_of_not_accepted accepted,
      tryInsert_of_not_accepted (mt accepted_canonical_iff.mp accepted)]

/-! ## Spellings -/

/-- A blocklist makes no difference between two texts: both are blocked or neither is, both are
taken or neither is, and what comes of trying to insert them is the same. -/
structure Alike (blocklist : Blocklist) (first second : String) : Prop where
  contains_eq : blocklist.contains first = blocklist.contains second
  inserted_iff :
    (∃ next, insert first blocklist = .ok () next) ↔
      ∃ next, insert second blocklist = .ok () next
  tryInsert_eq : blocklist.tryInsert first = blocklist.tryInsert second

/-- Texts with one canonical form are alike to every blocklist. -/
theorem alike_of_canonical_eq
    {first second : String}
    (equal : canonical first = canonical second)
    (blocklist : Blocklist) :
    blocklist.Alike first second where
  contains_eq := by rw [← contains_canonical, equal, contains_canonical]
  inserted_iff := by
    rw [insert_isOk_iff, insert_isOk_iff, ← accepted_canonical_iff, equal, accepted_canonical_iff]
  tryInsert_eq := by rw [← tryInsert_canonical, equal, tryInsert_canonical]

/-- Letter case and a dot at the end never matter. A text that does not end in a dot is alike, to
every blocklist, to itself with the case of any letters switched, and to that with a dot
appended. So after each of them has been tried a blocklist has the same size and blocks the same
names. -/
theorem alike_of_sameButCase
    (blocklist : Blocklist)
    {text spelling : String}
    (undotted : text.toList.getLast? ≠ some '.')
    (same : Text.SameButCase text.toList spelling.toList) :
    blocklist.Alike spelling text ∧ blocklist.Alike (spelling ++ ".") text := by
  have lowercase_eq : lowercase spelling = lowercase text := by
    rw [lowercase, same.map_toLower_eq, lowercase]
  have canonical_eq : canonical spelling = canonical text := by
    rw [← canonical_lowercase, lowercase_eq, canonical_lowercase]
  have stillUndotted : spelling.toList.getLast? ≠ some '.' := by
    rw [ne_eq, ← Text.getLast?_map_toLower_eq_dot, same.map_toLower_eq,
      Text.getLast?_map_toLower_eq_dot]
    exact undotted
  refine ⟨alike_of_canonical_eq canonical_eq blocklist, ?_⟩
  apply alike_of_canonical_eq
  rw [canonical_append_dot stillUndotted, canonical_eq]

/-- A pattern that is there, in another letter case and with a dot at its end, and a name below
it. -/
theorem alike_of_sameButCase_capitals :
    let blocklist := ofTexts ["*.example.com"]
    blocklist.Alike "*.EXAMPLE.Com." "*.example.com" ∧
      blocklist.Alike "WWW.Example.com." "www.example.com" := by
  intro blocklist
  have pattern := @alike_of_sameButCase blocklist "*.example.com" "*.EXAMPLE.Com"
    (by decide) (by decide)
  have name := @alike_of_sameButCase blocklist "www.example.com" "WWW.Example.com"
    (by decide) (by decide)
  exact ⟨pattern.2, name.2⟩

end Blocklist
end Sinkhole
