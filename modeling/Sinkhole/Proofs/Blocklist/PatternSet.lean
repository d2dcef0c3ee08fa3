import Mathlib.Data.Finset.Card
import Sinkhole.Proofs.Blocklist.Membership

/-!
# A tree as a set of patterns

A tree is built by trying to insert patterns one after the other. What it holds is the set of
the accepted ones in canonical form, and its size is their number. A look-up can be told from
this set alone: it goes along the paths that begin a pattern, and asks at the end whether a
pattern ends there. So neither the order of the insertions nor their repetition can be told
from a tree.
-/

namespace Sinkhole

open Pattern

/-! ## Sets of patterns -/

namespace PatternSet

/-- Some pattern begins with a path. -/
def HasNode (patterns : Finset String) (path : List String) : Prop :=
  ∃ pattern ∈ patterns, path <+: PatternTrie.path pattern

/-- Some pattern is a whole path. -/
def IsTerminal (patterns : Finset String) (path : List String) : Prop :=
  ∃ pattern ∈ patterns, PatternTrie.path pattern = path

instance (patterns : Finset String) (path : List String) : Decidable (HasNode patterns path) :=
  inferInstanceAs (Decidable (∃ pattern ∈ patterns, _))

instance (patterns : Finset String) (path : List String) : Decidable (IsTerminal patterns path) :=
  inferInstanceAs (Decidable (∃ pattern ∈ patterns, _))

/-- Look labels up among some patterns: the labels still to come, the path that the last step
left by a label of its own, if it did, and the path gone so far. -/
def walk (patterns : Finset String) :
    List String → Option (List String) → List String → Bool
  | [], _, here => decide (IsTerminal patterns here)
  | label :: rest, previous, here =>
      if HasNode patterns (here ++ [label]) then
        walk patterns rest (some here) (here ++ [label])
      else if HasNode patterns (here ++ [wildcard]) then
        walk patterns rest none (here ++ [wildcard])
      else
        match previous with
        | some before =>
            if HasNode patterns (before ++ [wildcard]) then
              walk patterns (label :: rest) none (before ++ [wildcard])
            else
              false
        | none => false
  termination_by remaining previous => (remaining.length, previous.isSome.toNat)

/-- A node is there when a pattern ends at it or below it. -/
theorem hasNode_iff {patterns : Finset String} {path : List String} :
    HasNode patterns path ↔ ∃ rest, IsTerminal patterns (path ++ rest) := by
  constructor
  · rintro ⟨pattern, member, rest, path_eq⟩
    exact ⟨rest, pattern, member, path_eq.symm⟩
  · rintro ⟨rest, pattern, member, path_eq⟩
    exact ⟨pattern, member, rest, path_eq.symm⟩

end PatternSet

open PatternSet

/-! ## Trees that spell patterns -/

/-- The branches at the end of a path hold what some patterns have behind it. -/
structure Branches.Spells
    (branches : Branches)
    (patterns : Finset String)
    (path : List String) : Prop where
  fruitful : branches.Fruitful
  holds_iff (label : String) (rest : List String) :
    ({ below := branches } : Node).Holds (label :: rest) ↔
      IsTerminal patterns (path ++ label :: rest)

/-- A node at the end of a path holds what some patterns have behind it, and is marked when one
of them ends there. -/
structure Node.Spells (node : Node) (patterns : Finset String) (path : List String) : Prop where
  marked_iff : node.marked = true ↔ IsTerminal patterns path
  below : node.below.Spells patterns path

namespace Branches

variable {branches : Branches} {patterns : Finset String} {path : List String}

/-- A branch is there when some pattern goes on with its label. -/
theorem Spells.isSome_find?_iff (spells : branches.Spells patterns path) (label : String) :
    (branches.find? label).isSome = true ↔ HasNode patterns (path ++ [label]) := by
  simp only [hasNode_iff, List.append_assoc, List.singleton_append, ← spells.holds_iff,
    Node.holds_cons]
  constructor
  · intro found
    obtain ⟨next, found⟩ := Option.isSome_iff_exists.mp found
    obtain ⟨_, rest, held⟩ := spells.fruitful.of_find? found
    exact ⟨rest, next, found, held⟩
  · rintro ⟨rest, next, found, _⟩
    rw [found, Option.isSome_some]

/-- The node at the end of a branch spells what the patterns have behind its label. -/
theorem Spells.of_find?
    (spells : branches.Spells patterns path)
    {label : String}
    {next : Node}
    (found : branches.find? label = some next) :
    next.Spells patterns (path ++ [label]) := by
  have held_iff (rest : List String) :
      next.Holds rest ↔ IsTerminal patterns (path ++ label :: rest) := by
    rw [← spells.holds_iff, Node.holds_cons]
    simp [found]
  refine ⟨?_, (spells.fruitful.of_find? found).1, ?_⟩
  · rw [← Node.holds_nil, held_iff]
  · intro other rest
    rw [List.append_assoc, List.singleton_append, ← held_iff, Node.holds_cons, Node.holds_cons]

theorem Spells.exists_find?
    (spells : branches.Spells patterns path)
    {label : String}
    (there : HasNode patterns (path ++ [label])) :
    ∃ next, branches.find? label = some next ∧ next.Spells patterns (path ++ [label]) := by
  obtain ⟨next, found⟩ := Option.isSome_iff_exists.mp ((spells.isSome_find?_iff label).mpr there)
  exact ⟨next, found, spells.of_find? found⟩

theorem Spells.find?_eq_none
    (spells : branches.Spells patterns path)
    {label : String}
    (absent : ¬HasNode patterns (path ++ [label])) :
    branches.find? label = Option.none := by
  rwa [← spells.isSome_find?_iff, Bool.not_eq_true, Option.isSome_eq_false_iff,
    Option.isNone_iff_eq_none] at absent

end Branches

/-- A node from which no pattern goes on with a label or with a wildcard does not go on. -/
theorem Node.Spells.goesOn_eq_false
    {node : Node}
    {patterns : Finset String}
    {path : List String}
    (spells : node.Spells patterns path)
    {label : String}
    (absent : ¬HasNode patterns (path ++ [label]))
    (wildcardAbsent : ¬HasNode patterns (path ++ [wildcard]))
    (rest : List String) :
    node.goesOn (label :: rest) = false := by
  rw [goesOn, spells.below.find?_eq_none absent, spells.below.find?_eq_none wildcardAbsent]
  rfl

/-- A walk in a tree does what a walk among the patterns does that the tree spells. -/
theorem Walk.run_eq_walk
    {node : Node}
    {previous : Option Branches}
    {patterns : Finset String}
    {here : List String}
    {before : Option (List String)}
    (spells : node.Spells patterns here)
    (previousSpells :
      Option.Rel (fun branches path => branches.Spells patterns path) previous before)
    (remaining : List String) :
    run { node, previous, remaining } = walk patterns remaining before here := by
  -- The two stay at a node and at the path that it spells, and have as much to fall back to.
  fun_induction walk patterns remaining before here generalizing node previous with
  | case1 before here =>
      rw [run_of_step_inl rfl, Bool.eq_iff_iff, decide_eq_true_iff]
      exact spells.marked_iff
  | case2 label rest before here there hypothesis =>
      obtain ⟨next, found, nextSpells⟩ := spells.below.exists_find? there
      rw [run_of_step_inr (by simp only [step, found]; rfl)]
      exact hypothesis nextSpells (.some spells.below)
  | case3 label rest before here absent there hypothesis =>
      have missing := spells.below.find?_eq_none absent
      obtain ⟨next, found, nextSpells⟩ := spells.below.exists_find? there
      rw [run_of_step_inr (by simp only [step, missing, found]; rfl)]
      exact hypothesis nextSpells .none
  | case4 label rest here absent wildcardAbsent before there hypothesis =>
      rw [run_of_not_goesOn (spells.goesOn_eq_false absent wildcardAbsent rest)]
      cases previousSpells with
      | some beforeSpells =>
          obtain ⟨next, found, nextSpells⟩ := beforeSpells.exists_find? there
          rw [Option.bind_some, found]
          exact hypothesis nextSpells .none
  | case5 label rest here absent wildcardAbsent before nowhere =>
      rw [run_of_not_goesOn (spells.goesOn_eq_false absent wildcardAbsent rest)]
      cases previousSpells with
      | some beforeSpells => rw [Option.bind_some, beforeSpells.find?_eq_none nowhere]
  | case6 label rest here absent wildcardAbsent =>
      rw [run_of_not_goesOn (spells.goesOn_eq_false absent wildcardAbsent rest)]
      cases previousSpells with
      | none => rfl

/-- A node holds the paths behind it that end a pattern. -/
theorem Node.Spells.holds_iff
    {node : Node}
    {patterns : Finset String}
    {path : List String}
    (spells : node.Spells patterns path)
    (rest : List String) :
    node.Holds rest ↔ IsTerminal patterns (path ++ rest) := by
  cases rest with
  | nil => rw [holds_nil, spells.marked_iff, List.append_nil]
  | cons label rest =>
      rw [← spells.below.holds_iff, holds_cons, holds_cons]

/-! ## Trees that are built by insertion -/

namespace PatternTrie

/-- A pattern is not refused. -/
def Accepts (pattern : String) : Prop :=
  ∃ path, pathOf pattern = .ok path

theorem accepts_iff {pattern : String} :
    Accepts pattern ↔ wildcardFault? (lowercase pattern) = none := by
  rw [Accepts, pathOf]
  cases wildcardFault? (lowercase pattern) <;> simp

instance (pattern : String) : Decidable (Accepts pattern) :=
  decidable_of_iff _ accepts_iff.symm

/-- An accepted pattern has the path of its levels. -/
theorem pathOf_of_accepts {pattern : String} (accepts : Accepts pattern) :
    pathOf pattern = .ok (levels pattern) := by
  rw [pathOf, accepts_iff.mp accepts, path_lowercase]

theorem levels_ne_nil_of_accepts {pattern : String} (accepts : Accepts pattern) :
    levels pattern ≠ [] := by
  have enough := two_le_length_of_faultless (accepts_iff.mp accepts)
  rw [labels_lowercase, length_loweredLabels, ← length_levels] at enough
  exact List.ne_nil_of_length_pos (by omega)

/-- The tree that comes of trying to insert some patterns, from the first to the last. -/
def ofPatterns (patterns : List String) : PatternTrie :=
  patterns.foldl tryInsert {}

theorem tryInsert_of_accepts
    {pattern : String}
    (accepts : Accepts pattern)
    (trie : PatternTrie) :
    trie.tryInsert pattern = trie.mark (levels pattern) := by
  rw [tryInsert, insert_eq, pathOf_of_accepts accepts]

/-- A refused pattern leaves a tree as it is. -/
theorem tryInsert_of_refused
    {pattern : String}
    (refused : ¬Accepts pattern)
    (trie : PatternTrie) :
    trie.tryInsert pattern = trie := by
  cases path : pathOf pattern with
  | error error => rw [tryInsert, insert_eq, path]
  | ok path => exact absurd ⟨_, path⟩ refused

/-- The canonical forms of those that are accepted among some patterns. -/
def acceptedForms (patterns : List String) : Finset String :=
  ((patterns.filter fun pattern => Accepts pattern).map canonical).toFinset

theorem mem_acceptedForms {patterns : List String} {form : String} :
    form ∈ acceptedForms patterns ↔
      ∃ pattern ∈ patterns, Accepts pattern ∧ canonical pattern = form := by
  simp [acceptedForms, and_assoc]

@[simp] theorem acceptedForms_nil : acceptedForms [] = ∅ := rfl

theorem acceptedForms_cons_of_accepts
    {pattern : String}
    (accepts : Accepts pattern)
    (patterns : List String) :
    acceptedForms (pattern :: patterns) =
      Insert.insert (canonical pattern) (acceptedForms patterns) := by
  simp [acceptedForms, accepts]

theorem acceptedForms_cons_of_refused
    {pattern : String}
    (refused : ¬Accepts pattern)
    (patterns : List String) :
    acceptedForms (pattern :: patterns) = acceptedForms patterns := by
  simp [acceptedForms, refused]

/-- A tree represents a set of canonical patterns: it is in order, spells them, and has their
number. -/
structure Represents (trie : PatternTrie) (forms : Finset String) : Prop where
  ordered : trie.root.Ordered
  spells : ({ below := trie.root } : Node).Spells forms []
  canonical_eq : ∀ form ∈ forms, canonical form = form
  size_eq : trie.size = forms.card

theorem represents_empty : Represents {} ∅ where
  ordered := trivial
  spells := ⟨by simp [IsTerminal], trivial, by simp [IsTerminal]⟩
  canonical_eq := by simp
  size_eq := rfl

/-- Among canonical patterns a path belongs to one at most. -/
theorem isTerminal_levels_iff
    {forms : Finset String}
    (canonical_eq : ∀ form ∈ forms, canonical form = form)
    (pattern : String) :
    IsTerminal forms (levels pattern) ↔ canonical pattern ∈ forms := by
  constructor
  · rintro ⟨form, member, path_eq⟩
    rw [← canonical_eq form member, path_canonical, levels_eq_iff,
      canonical_eq form member] at path_eq
    rwa [← path_eq]
  · intro member
    exact ⟨canonical pattern, member, path_canonical pattern⟩

/-- Marking the path of a pattern adds its canonical form to what a tree represents. -/
theorem Represents.mark
    {trie : PatternTrie}
    {forms : Finset String}
    (represents : trie.Represents forms)
    {pattern : String}
    (accepts : Accepts pattern) :
    (trie.mark (levels pattern)).Represents (Insert.insert (canonical pattern) forms) := by
  have nonempty := levels_ne_nil_of_accepts accepts
  have terminal_iff (path : List String) :
      IsTerminal (Insert.insert (canonical pattern) forms) path ↔
        path = levels pattern ∨ IsTerminal forms path := by
    simp [IsTerminal, path_canonical, eq_comm]
  have present_iff : trie.isMarked (levels pattern) = true ↔ canonical pattern ∈ forms := by
    rw [isMarked_iff, represents.spells.holds_iff, List.nil_append,
      isTerminal_levels_iff represents.canonical_eq]
  refine ⟨ordered_mark represents.ordered _, ⟨?_, ?_, ?_⟩, ?_, ?_⟩
  · rw [terminal_iff, ← represents.spells.marked_iff]
    simp [nonempty.symm]
  · exact fruitful_mark represents.spells.below.fruitful _
  · intro label rest
    rw [holds_mark represents.ordered nonempty, represents.spells.holds_iff, List.nil_append,
      terminal_iff]
  · intro form member
    rcases Finset.mem_insert.mp member with rfl | member
    · exact canonical_canonical pattern
    · exact represents.canonical_eq form member
  · by_cases present : canonical pattern ∈ forms
    · rw [PatternTrie.mark, if_pos (present_iff.mpr present), Finset.insert_eq_of_mem present]
      exact represents.size_eq
    · rw [PatternTrie.mark, if_neg (mt present_iff.mp present),
        Finset.card_insert_of_notMem present, ← represents.size_eq]

/-- A tree that is built by insertion represents the accepted patterns. -/
theorem represents_ofPatterns (patterns : List String) :
    (ofPatterns patterns).Represents (acceptedForms patterns) := by
  have run (trie : PatternTrie) (forms : Finset String) (represents : trie.Represents forms) :
      (patterns.foldl tryInsert trie).Represents (forms ∪ acceptedForms patterns) := by
    induction patterns generalizing trie forms with
    | nil => rwa [acceptedForms_nil, Finset.union_empty]
    | cons pattern rest hypothesis =>
        rw [List.foldl_cons]
        by_cases accepts : Accepts pattern
        · rw [tryInsert_of_accepts accepts, acceptedForms_cons_of_accepts accepts,
            Finset.union_insert, ← Finset.insert_union]
          exact hypothesis _ _ (represents.mark accepts)
        · rw [tryInsert_of_refused accepts, acceptedForms_cons_of_refused accepts]
          exact hypothesis _ _ represents
  have whole := run {} ∅ represents_empty
  rwa [Finset.empty_union] at whole

/-- A look-up in a tree is a walk among the patterns that the tree represents. -/
theorem Represents.contains_eq
    {trie : PatternTrie}
    {forms : Finset String}
    (represents : trie.Represents forms)
    (name : String) :
    trie.contains name = (isMatchable name && walk forms (levels name) none []) := by
  rw [contains, isMatchable_lowercase, path_lowercase,
    Walk.run_eq_walk represents.spells .none]

/-- A tree that is built by insertion implements the set of the accepted patterns: a name is
looked up by walking among them, and the size is their number. So the answers and the size are
those of any other tree with the same accepted patterns, in whatever order they were inserted
and however often. -/
theorem ofPatterns_implements_set (patterns : List String) :
    (∀ name, (ofPatterns patterns).contains name =
        (isMatchable name && walk (acceptedForms patterns) (levels name) none [])) ∧
      (ofPatterns patterns).size = (acceptedForms patterns).card ∧
      ∀ others, acceptedForms others = acceptedForms patterns →
        (∀ name, (ofPatterns others).contains name = (ofPatterns patterns).contains name) ∧
          (ofPatterns others).size = (ofPatterns patterns).size := by
  have represents := represents_ofPatterns patterns
  refine ⟨represents.contains_eq, represents.size_eq, ?_⟩
  intro others same
  have othersRepresent := represents_ofPatterns others
  rw [same] at othersRepresent
  constructor
  · intro name
    rw [othersRepresent.contains_eq, represents.contains_eq]
  · rw [othersRepresent.size_eq, represents.size_eq]

/-- Two patterns in another order and another spelling, one of them twice, among patterns that
are refused. -/
theorem ofPatterns_implements_set_reordered :
    let patterns := ["*.b.a", "c.b.a.", "a"]
    let others := ["C.B.A", "*.b.a.", "!.b.a", "*.B.A"]
    acceptedForms others = acceptedForms patterns ∧
      (∀ name, (ofPatterns others).contains name = (ofPatterns patterns).contains name) ∧
      (ofPatterns others).size = 2 := by
  intro patterns others
  have same : acceptedForms others = acceptedForms patterns := by decide +kernel
  obtain ⟨_, size_eq, alike⟩ := ofPatterns_implements_set patterns
  have two : (acceptedForms patterns).card = 2 := by decide +kernel
  exact ⟨same, (alike others same).1, (alike others same).2.trans (size_eq.trans two)⟩

end PatternTrie
end Sinkhole
