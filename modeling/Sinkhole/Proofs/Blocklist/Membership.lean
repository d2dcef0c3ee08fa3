import Sinkhole.Blocklist.Basic
import Sinkhole.Proofs.Blocklist.Labels
import Sinkhole.Proofs.Blocklist.Lookup

/-!
# Which names are blocked

A blocklist is built by trying to insert texts one after the other; a refused text
changes nothing. What is blocked depends on the accepted texts alone: a name without a
wildcard is blocked by its canonical form, and a pattern blocks the names that it matches
label by label unless another pattern diverts the look-up from it.

So nothing is blocked without reason, but a pattern that is added can unblock a name.
-/

namespace Sinkhole
namespace Pattern

/-- The labels of a text in lowercase, from right to left. -/
def levels (text : String) : List String :=
  (loweredLabels text).reverse

theorem path_lowercase (text : String) : PatternTrie.path (lowercase text) = levels text := by
  rw [PatternTrie.path, labels_lowercase, levels]

theorem path_canonical (text : String) : PatternTrie.path (canonical text) = levels text := by
  rw [PatternTrie.path, labels_canonical, levels]

/-- Texts have the same levels when they have the same canonical form. -/
theorem levels_eq_iff {first second : String} :
    levels first = levels second ↔ canonical first = canonical second := by
  rw [levels, levels, List.reverse_inj, canonical_eq_iff]

@[simp] theorem length_levels (text : String) : (levels text).length = (labels text).length := by
  simp [levels]

theorem isMatchable_lowercase (name : String) :
    PatternTrie.isMatchable (lowercase name) = PatternTrie.isMatchable name := by
  simp [PatternTrie.isMatchable, mentions_lowercase, reservedMark]

/-- A pattern without a fault has at least two labels. -/
theorem two_le_length_of_faultless
    {text : String}
    (faultless : wildcardFault? text = none) :
    2 ≤ (labels text).length :=
  (wildcardFault?_eq_none_iff.mp faultless).2.2.1

/-- A pattern has as many labels as a name, and each of them is the wildcard or the
label of the name at its place, whatever the letter case. -/
def Matches (pattern name : String) : Prop :=
  List.Forall₂ (fun label own => label = wildcard ∨ lowercase label = lowercase own)
    (labels pattern) (labels name)

instance (pattern name : String) : Decidable (Matches pattern name) :=
  inferInstanceAs (Decidable (List.Forall₂ _ _ _))

/-- One pattern diverts the look-up of a name from another pattern. Both have a
wildcard, or they would not be kept in the tree. -/
def Misleads (other pattern name : String) : Prop :=
  mentions other '*' = true ∧ Diverts (levels other) (levels pattern) (levels name)

theorem lowercase_eq_wildcard_iff {label : String} :
    lowercase label = wildcard ↔ label = wildcard := by
  rw [← String.toList_inj, ← String.toList_inj, toList_lowercase]
  change label.toList.map Char.toLower = ['*'] ↔ label.toList = ['*']
  rw [List.map_eq_singleton_iff]
  simp [Text.toLower_eq_iff]

/-- Matching can be told from the levels. -/
theorem matches_iff {pattern name : String} :
    Matches pattern name ↔ PathMatches (levels pattern) (levels name) := by
  rw [PathMatches, levels, levels, List.forall₂_reverse_iff, loweredLabels, loweredLabels,
    List.forall₂_map_left_iff, List.forall₂_map_right_iff]
  simp only [lowercase_eq_wildcard_iff, Matches]

theorem length_eq_of_matches
    {pattern name : String}
    (matched : Matches pattern name) :
    (labels pattern).length = (labels name).length :=
  List.Forall₂.length_eq matched

/-- The wildcard label has the wildcard character. -/
theorem wildcard_not_mem_labels
    {text : String}
    (concrete : mentions text '*' = false) :
    wildcard ∉ labels text := by
  intro member
  have mentioned : mentions text '*' = true := mentions_of_mem_labels member (by decide)
  rw [concrete] at mentioned
  contradiction

theorem wildcard_not_mem_levels
    {text : String}
    (concrete : mentions text '*' = false) :
    wildcard ∉ levels text := by
  rw [levels, List.mem_reverse, ← labels_lowercase]
  exact wildcard_not_mem_labels (by rw [mentions_lowercase _ (by decide), concrete])

/-- Without a wildcard a pattern matches what has the same canonical form. -/
theorem matches_iff_canonical_eq
    {pattern name : String}
    (concrete : mentions pattern '*' = false) :
    Matches pattern name ↔ canonical pattern = canonical name := by
  rw [canonical_eq_iff, ← List.forall₂_eq_eq_eq, loweredLabels, loweredLabels,
    List.forall₂_map_left_iff, List.forall₂_map_right_iff, Matches]
  constructor
  · intro matched
    have literal (label : String) (member : label ∈ labels pattern) : label ≠ wildcard :=
      fun equal => wildcard_not_mem_labels concrete (equal ▸ member)
    have both := (List.forall₂_and_left _ _).mpr ⟨literal, matched⟩
    exact both.imp fun label own case => case.2.resolve_left case.1
  · exact List.Forall₂.imp fun label own equal => Or.inr equal

/-- Without a wildcard nothing diverts from a pattern. -/
theorem not_diverts
    {other path name : List String}
    (concrete : wildcard ∉ path) :
    ¬Diverts other path name := by
  intro diverts
  induction diverts with
  | here => simp at concrete
  | later _ hypothesis => exact hypothesis fun member => concrete (List.mem_cons_of_mem _ member)

/-- A pattern does not divert the look-up of a concrete name from itself. -/
theorem not_misleads_self
    {pattern name : String}
    (concrete : mentions name '*' = false) :
    ¬Misleads pattern pattern name := by
  have not_diverts_self (path labels : List String) (literal : wildcard ∉ labels) :
      ¬Diverts path path labels := by
    induction path generalizing labels with
    | nil =>
        intro diverts
        cases diverts
    | cons label path hypothesis =>
        intro diverts
        cases diverts with
        | here => simp at literal
        | later diverts =>
            exact hypothesis _ (fun member => literal (List.mem_cons_of_mem _ member)) diverts
  rintro ⟨_, diverts⟩
  exact not_diverts_self _ _ (wildcard_not_mem_levels concrete) diverts

end Pattern

namespace BlockEntry

open Pattern

/-- A text is not refused. -/
def Accepted (text : String) : Prop :=
  ∃ entry, ofText text = .ok entry

/-- The entry of a text, told from the text itself and no longer from its canonical form. -/
theorem ofText_eq (text : String) :
    ofText text =
      match fault? text with
      | some reason => .error ⟨text, reason⟩
      | none =>
          if text = "." then
            .error ⟨text, .rootName⟩
          else if mentions text '*' then
            match wildcardFault? (canonical text) with
            | some reason => .error ⟨canonical text, reason⟩
            | none => .ok (.pattern (levels text))
          else
            .ok (.name (canonical text)) := by
  have mentions_eq : mentions (canonical text) '*' = mentions text '*' :=
    mentions_canonical text (by decide) (by decide)
  simp only [ofText, mentions_eq, PatternTrie.pathOf, lowercase_canonical, path_canonical]
  cases wildcardFault? (canonical text) <;> rfl

/-- An accepted text is a legal name other than the root, and if it mentions the wildcard
it has no fault as a pattern. -/
theorem accepted_iff {text : String} :
    Accepted text ↔
      isLegal text = true ∧ text ≠ "." ∧
        (mentions text '*' = true → wildcardFault? (canonical text) = none) := by
  rw [Accepted, ofText_eq, isLegal, Option.isNone_iff_eq_none]
  cases fault? text with
  | some reason => simp
  | none =>
      by_cases root : text = "."
      · simp [root]
      · cases mentions text '*' with
        | false => simp [root]
        | true => cases wildcardFault? (canonical text) <;> simp [root]

instance (text : String) : Decidable (Accepted text) :=
  decidable_of_iff _ accepted_iff.symm

/-- An accepted text is a pattern if it mentions the wildcard, and a name otherwise. -/
theorem ofText_of_accepted {text : String} (accepted : Accepted text) :
    ofText text =
      .ok (if mentions text '*' then .pattern (levels text) else .name (canonical text)) := by
  obtain ⟨legal, notRoot, faultless⟩ := accepted_iff.mp accepted
  rw [isLegal, Option.isNone_iff_eq_none] at legal
  rw [ofText_eq, legal]
  cases mentioned : mentions text '*' with
  | false => simp [notRoot]
  | true => simp [notRoot, faultless mentioned]

/-- An accepted pattern has at least two labels. -/
theorem two_le_length_of_accepted
    {text : String}
    (accepted : Accepted text)
    (mentioned : mentions text '*' = true) :
    2 ≤ (labels text).length := by
  have enough := two_le_length_of_faultless ((accepted_iff.mp accepted).2.2 mentioned)
  rwa [labels_canonical, length_loweredLabels] at enough

end BlockEntry

namespace Blocklist

open Pattern BlockEntry

/-- The blocklist that comes of trying to insert some texts, from the first to the last. -/
def ofTexts (texts : List String) : Blocklist :=
  texts.foldl tryInsert {}

/-- An insertion adds the entry that a text writes. If there is none, nothing is changed before
that is found out, here or where patterns are added. -/
theorem insert_eq (text : String) (blocklist : Blocklist) :
    insert text blocklist =
      match ofText text with
      | .ok entry => .ok () (blocklist.add entry)
      | .error error => .error error blocklist := by
  unfold insert ofText
  cases fault? text with
  | some reason => rfl
  | none =>
      dsimp only
      split
      · rfl
      · cases mentions (canonical text) '*' with
        | false => rfl
        | true =>
            simp only [if_true, onPatterns, PatternTrie.insert_eq]
            cases PatternTrie.pathOf (canonical text) <;> rfl

/-- Whether an insertion succeeds does not depend on what is already there. -/
theorem insert_isOk_iff (blocklist : Blocklist) (text : String) :
    (∃ next, insert text blocklist = .ok () next) ↔ Accepted text := by
  rw [insert_eq, Accepted]
  cases ofText text with
  | ok entry => exact iff_of_true ⟨_, rfl⟩ ⟨_, rfl⟩
  | error error => simp

/-- A refused text leaves a blocklist as it is. -/
theorem eq_of_insert_eq_error
    {text : String}
    {blocklist next : Blocklist}
    {error : PatternError}
    (refused : insert text blocklist = .error error next) :
    next = blocklist := by
  rw [insert_eq] at refused
  split at refused
  · cases refused
  · cases refused
    rfl

/-- An accepted text without a wildcard is added to the exact names. -/
theorem insert_of_concrete
    {text : String}
    (accepted : Accepted text)
    (concrete : mentions text '*' = false)
    (blocklist : Blocklist) :
    insert text blocklist =
      .ok () { blocklist with exact := blocklist.exact.insert (canonical text) } := by
  rw [insert_eq, ofText_of_accepted accepted, concrete]
  rfl

/-- An accepted text with a wildcard is added to the patterns. -/
theorem insert_of_mentioned
    {text : String}
    (accepted : Accepted text)
    (mentioned : mentions text '*' = true)
    (blocklist : Blocklist) :
    insert text blocklist =
      .ok () { blocklist with patterns := blocklist.patterns.mark (levels text) } := by
  rw [insert_eq, ofText_of_accepted accepted, mentioned]
  rfl

/-- Trying to insert an accepted text adds its entry. -/
theorem tryInsert_of_accepted
    {text : String}
    (accepted : Accepted text)
    (blocklist : Blocklist) :
    blocklist.tryInsert text =
      blocklist.add
        (if mentions text '*' then .pattern (levels text) else .name (canonical text)) := by
  rw [tryInsert, insert_eq, ofText_of_accepted accepted]

theorem tryInsert_of_not_accepted
    {text : String}
    (refused : ¬Accepted text)
    (blocklist : Blocklist) :
    blocklist.tryInsert text = blocklist := by
  cases inserted : insert text blocklist with
  | ok _ next => exact absurd ((insert_isOk_iff blocklist text).mp ⟨next, inserted⟩) refused
  | error error next => rw [tryInsert, inserted, eq_of_insert_eq_error inserted]

/-- What a blocklist is after some texts: its exact names and its patterns are those of
the accepted ones, and its tree is in order. -/
structure Built (blocklist : Blocklist) (texts : List String) : Prop where
  ordered : blocklist.patterns.root.Ordered
  fruitful : blocklist.patterns.root.Fruitful
  contains_iff (name : String) :
    blocklist.exact.contains name = true ↔
      ∃ text ∈ texts, Accepted text ∧ mentions text '*' = false ∧
        canonical text = canonical name
  holds_iff (path : List String) :
    ({ below := blocklist.patterns.root } : Node).Holds path ↔
      ∃ text ∈ texts, Accepted text ∧ mentions text '*' = true ∧ levels text = path

theorem built_nil : Built {} [] where
  ordered := trivial
  fruitful := trivial
  contains_iff name := by simp
  holds_iff path := by cases path <;> simp

theorem exists_mem_append_singleton
    {texts : List String}
    {text : String}
    {Holds : String → Prop} :
    (∃ other ∈ texts ++ [text], Holds other) ↔
      (∃ other ∈ texts, Holds other) ∨ Holds text := by
  simp [or_and_right, exists_or]

/-- A refused text leaves a blocklist as it is, and an accepted one adds its name or its
pattern. -/
theorem Built.tryInsert
    {blocklist : Blocklist}
    {texts : List String}
    (built : Built blocklist texts)
    (text : String) :
    Built (blocklist.tryInsert text) (texts ++ [text]) := by
  by_cases accepted : Accepted text
  · cases mentioned : mentions text '*' with
    | false =>
        rw [Blocklist.tryInsert, insert_of_concrete accepted mentioned]
        refine ⟨built.ordered, built.fruitful, ?_, ?_⟩
        · intro name
          rw [ExactSet.contains_insert, Bool.or_eq_true, built.contains_iff, beq_iff_eq,
            canonical_canonical, exists_mem_append_singleton, or_comm]
          simp [accepted, mentioned]
        · intro path
          rw [built.holds_iff, exists_mem_append_singleton]
          simp [mentioned]
    | true =>
        have nonempty : levels text ≠ [] := by
          have enough := two_le_length_of_accepted accepted mentioned
          rw [← length_levels] at enough
          exact List.ne_nil_of_length_pos (by omega)
        rw [Blocklist.tryInsert, insert_of_mentioned accepted mentioned]
        refine ⟨PatternTrie.ordered_mark built.ordered _,
          PatternTrie.fruitful_mark built.fruitful _, ?_, ?_⟩
        · intro name
          rw [built.contains_iff, exists_mem_append_singleton]
          simp [mentioned]
        · intro path
          rw [PatternTrie.holds_mark built.ordered nonempty, built.holds_iff,
            exists_mem_append_singleton, or_comm, @eq_comm _ path]
          simp [accepted, mentioned]
  · rw [tryInsert_of_not_accepted accepted]
    refine ⟨built.ordered, built.fruitful, ?_, ?_⟩
    · intro name
      rw [built.contains_iff, exists_mem_append_singleton]
      simp [accepted]
    · intro path
      rw [built.holds_iff, exists_mem_append_singleton]
      simp [accepted]

/-- The blocklist of some texts is built from them. -/
theorem built_ofTexts (texts : List String) : Built (ofTexts texts) texts := by
  have run (done rest : List String) (blocklist : Blocklist) (built : Built blocklist done) :
      Built (rest.foldl Blocklist.tryInsert blocklist) (done ++ rest) := by
    induction rest generalizing done blocklist with
    | nil => simpa using built
    | cons text rest hypothesis =>
        simpa using hypothesis (done ++ [text]) _ (built.tryInsert text)
  exact run [] texts {} built_nil

/-! ## What is blocked -/

/-- A name is among the exact names, or it can match a pattern at all and does match one
from which no other pattern diverts its look-up. -/
theorem contains_ofTexts_iff (texts : List String) (name : String) :
    (ofTexts texts).contains name = true ↔
      (∃ pattern ∈ texts, Accepted pattern ∧ mentions pattern '*' = false ∧
        canonical pattern = canonical name) ∨
      (PatternTrie.isMatchable name = true ∧
        ∃ pattern ∈ texts, Accepted pattern ∧ mentions pattern '*' = true ∧
          Matches pattern name ∧
          ∀ other ∈ texts, Accepted other → ¬Misleads other pattern name) := by
  have built := built_ofTexts texts
  rw [contains, Bool.or_eq_true, built.contains_iff, PatternTrie.contains, Bool.and_eq_true,
    isMatchable_lowercase, path_lowercase, Walk.run_start]
  refine or_congr_right (and_congr_right ?_)
  intro matchable
  have concrete : mentions name '*' = false := by
    simp [PatternTrie.isMatchable] at matchable
    exact matchable.1.2
  rw [Node.leads_iff built.fruitful (wildcard_not_mem_levels concrete)]
  constructor
  · rintro ⟨path, held, matched, undiverted⟩
    obtain ⟨pattern, member, accepted, mentioned, rfl⟩ := (built.holds_iff path).mp held
    refine ⟨pattern, member, accepted, mentioned, matches_iff.mpr matched, ?_⟩
    rintro other otherMember otherAccepted ⟨otherMentioned, diverts⟩
    refine undiverted (levels other) ?_ diverts
    exact (built.holds_iff _).mpr ⟨other, otherMember, otherAccepted, otherMentioned, rfl⟩
  · rintro ⟨pattern, member, accepted, mentioned, matched, undiverted⟩
    refine ⟨levels pattern, ?_, matches_iff.mp matched, ?_⟩
    · exact (built.holds_iff _).mpr ⟨pattern, member, accepted, mentioned, rfl⟩
    · intro path held diverts
      obtain ⟨other, otherMember, otherAccepted, otherMentioned, rfl⟩ :=
        (built.holds_iff path).mp held
      exact undiverted other otherMember otherAccepted ⟨otherMentioned, diverts⟩

/-- A legal name without reserved characters is blocked exactly when some accepted
pattern matches it label by label and no other accepted pattern diverts the look-up from
that one. So what a pattern matches need not be blocked: that depends on the others. -/
theorem contains_iff_exists_undiverted
    (texts : List String)
    {name : String}
    (legal : isLegal name = true)
    (concrete : mentions name '*' = false)
    (unreserved : mentions name reservedMark = false) :
    (ofTexts texts).contains name = true ↔
      ∃ pattern ∈ texts, Accepted pattern ∧ Matches pattern name ∧
        ∀ other ∈ texts, Accepted other → ¬Misleads other pattern name := by
  rw [contains_ofTexts_iff]
  constructor
  · rintro (⟨pattern, member, accepted, patternConcrete, equal⟩ |
      ⟨_, pattern, member, accepted, _, matched, undiverted⟩)
    · refine ⟨pattern, member, accepted,
        (matches_iff_canonical_eq patternConcrete).mpr equal, ?_⟩
      intro other _ _ misleads
      exact not_diverts (wildcard_not_mem_levels patternConcrete) misleads.2
    · exact ⟨pattern, member, accepted, matched, undiverted⟩
  · rintro ⟨pattern, member, accepted, matched, undiverted⟩
    cases mentioned : mentions pattern '*' with
    | false =>
        exact Or.inl ⟨pattern, member, accepted, mentioned,
          (matches_iff_canonical_eq mentioned).mp matched⟩
    | true =>
        have enough : 2 ≤ (labels name).length := by
          rw [← length_eq_of_matches matched]
          exact two_le_length_of_accepted accepted mentioned
        have matchable : PatternTrie.isMatchable name = true := by
          simp [PatternTrie.isMatchable, legal, concrete, unreserved, enough]
        exact Or.inr ⟨matchable, pattern, member, accepted, mentioned, matched, undiverted⟩

/-- One pattern and a name below it. -/
theorem contains_iff_exists_undiverted_www :
    (ofTexts ["*.example.com"]).contains "www.example.com" = true := by
  have concrete : mentions "www.example.com" '*' = false := by decide +kernel
  refine (contains_iff_exists_undiverted ["*.example.com"] (by decide +kernel) concrete
    (by decide +kernel)).mpr ?_
  refine ⟨"*.example.com", by simp, by decide +kernel, by decide +kernel, ?_⟩
  intro other member _
  obtain rfl : other = "*.example.com" := by simpa using member
  exact not_misleads_self concrete

/-- A pattern that is added can unblock a name: the name's own label leads away from the
wildcard, to where no pattern ends. -/
theorem insertion_unblocks :
    Accepted "*.example.com" ∧ Accepted "*.x.example.com" ∧
      isLegal "x.example.com" = true ∧ mentions "x.example.com" '*' = false ∧
      mentions "x.example.com" reservedMark = false ∧
      Matches "*.example.com" "x.example.com" ∧
      (ofTexts ["*.example.com"]).contains "x.example.com" = true ∧
      (ofTexts ["*.example.com", "*.x.example.com"]).contains "x.example.com" = false := by
  refine ⟨by decide +kernel, by decide +kernel, by decide +kernel, by decide +kernel,
    by decide +kernel, by decide +kernel, ?_, ?_⟩
  · refine (contains_ofTexts_iff _ _).mpr (Or.inr ⟨by decide +kernel, ?_⟩)
    refine ⟨"*.example.com", by simp, by decide +kernel, by decide +kernel,
      by decide +kernel, ?_⟩
    intro other member _
    obtain rfl : other = "*.example.com" := by simpa using member
    exact not_misleads_self (by decide +kernel)
  · rw [Bool.eq_false_iff]
    intro contained
    rcases (contains_ofTexts_iff _ _).mp contained with
      ⟨pattern, member, _, concrete, _⟩ | ⟨_, pattern, member, _, _, matched, undiverted⟩
    · have mentioned : ∀ text ∈ ["*.example.com", "*.x.example.com"],
          mentions text '*' = true := by decide +kernel
      simp [mentioned pattern member] at concrete
    · simp only [List.mem_cons, List.not_mem_nil, or_false] at member
      rcases member with rfl | rfl
      · refine undiverted "*.x.example.com" (by simp) (by decide +kernel)
          ⟨by decide +kernel, ?_⟩
        have first : levels "*.example.com" = ["com", "example", "*"] := by decide +kernel
        have second : levels "*.x.example.com" = ["com", "example", "x", "*"] := by
          decide +kernel
        have name : levels "x.example.com" = ["com", "example", "x"] := by decide +kernel
        rw [first, second, name]
        exact .later (.later (.here trivial))
      · exact absurd matched (by decide +kernel)

/-- What is blocked is an accepted name in another spelling, or a legal name of two
labels or more that an accepted pattern matches label by label. -/
theorem exists_match_of_contains
    {texts : List String}
    {name : String}
    (contained : (ofTexts texts).contains name = true) :
    mentions name '*' = false ∧
      ((∃ pattern ∈ texts, Accepted pattern ∧ mentions pattern '*' = false ∧
          canonical pattern = canonical name) ∨
        (isLegal name = true ∧ 2 ≤ (labels name).length ∧
          mentions name reservedMark = false ∧
          ∃ pattern ∈ texts, Accepted pattern ∧ mentions pattern '*' = true ∧
            (labels pattern).length = (labels name).length ∧ Matches pattern name)) := by
  rcases (contains_ofTexts_iff texts name).mp contained with
    ⟨pattern, member, accepted, concrete, equal⟩ |
    ⟨matchable, pattern, member, accepted, mentioned, matched, _⟩
  · refine ⟨?_, Or.inl ⟨pattern, member, accepted, concrete, equal⟩⟩
    have noLetter : '*'.toNat < 65 := by decide
    have noDot : '*' ≠ '.' := by decide
    rw [← mentions_canonical name noLetter noDot, ← equal,
      mentions_canonical pattern noLetter noDot, concrete]
  · simp only [PatternTrie.isMatchable, Bool.and_eq_true, Bool.not_eq_true',
      decide_eq_true_eq] at matchable
    obtain ⟨⟨⟨legal, unreserved⟩, concrete⟩, enough⟩ := matchable
    exact ⟨concrete, Or.inr ⟨legal, enough, unreserved, pattern, member, accepted, mentioned,
      length_eq_of_matches matched, matched⟩⟩

/-- One pattern and a name below it in another letter case. -/
theorem exists_match_of_contains_www :
    ∃ pattern ∈ ["*.example.com"], Matches pattern "WWW.example.com" := by
  have contained : (ofTexts ["*.example.com"]).contains "WWW.example.com" = true := by
    refine (contains_ofTexts_iff _ _).mpr (Or.inr ⟨by decide +kernel, ?_⟩)
    refine ⟨"*.example.com", by simp, by decide +kernel, by decide +kernel,
      by decide +kernel, ?_⟩
    intro other member _
    obtain rfl : other = "*.example.com" := by simpa using member
    exact not_misleads_self (by decide +kernel)
  rcases (exists_match_of_contains contained).2 with
    ⟨pattern, member, _, concrete, _⟩ | ⟨_, _, _, pattern, member, _, _, _, matched⟩
  · obtain rfl : pattern = "*.example.com" := by simpa using member
    exact absurd concrete (by decide +kernel)
  · exact ⟨pattern, member, matched⟩

end Blocklist
end Sinkhole
