import Sinkhole.Blocklist.Trie
import Mathlib.Data.String.Basic

/-!
# What a tree of labels holds

A node holds the paths at whose end there is a mark. Inserting a path adds it to the
paths that are held and takes none away, as long as the branches stand in ascending
order, because a branch is looked for in its place. In a tree made by insertions alone
every branch leads to a mark.
-/

namespace Sinkhole
namespace Branches

/-- The labels of the branches at one node, in their order. -/
def labels : Branches → List String
  | .none => []
  | .branch label _ _ others => label :: others.labels

/-- The labels at each node ascend strictly. -/
def Ordered : Branches → Prop
  | .none => True
  | .branch label _ below others =>
      (∀ other ∈ others.labels, label < other) ∧ below.Ordered ∧ others.Ordered

/-- Each branch ends at a mark or goes on. -/
def Fruitful : Branches → Prop
  | .none => True
  | .branch _ marked below others =>
      (marked = true ∨ below ≠ .none) ∧ below.Fruitful ∧ others.Fruitful

@[simp] theorem find?_none (sought : String) : Branches.none.find? sought = Option.none :=
  rfl

@[simp] theorem find?_branch
    (sought label : String)
    (marked : Bool)
    (below others : Branches) :
    (Branches.branch label marked below others).find? sought =
      if sought = label then some { marked, below } else others.find? sought :=
  rfl

/-- A label that is found is one of the labels. -/
theorem mem_labels_of_find?
    {branches : Branches}
    {sought : String}
    {node : Node}
    (found : branches.find? sought = some node) :
    sought ∈ branches.labels := by
  induction branches with
  | none => simp at found
  | branch label marked below others _ hypothesis =>
      rw [find?_branch] at found
      rw [labels, List.mem_cons]
      split at found
      · next equal => exact Or.inl equal
      · exact Or.inr (hypothesis found)

/-- A label that comes before all others is not found among them. -/
theorem find?_eq_none_of_forall_lt
    {branches : Branches}
    {sought : String}
    (before : ∀ label ∈ branches.labels, sought < label) :
    branches.find? sought = Option.none := by
  cases found : branches.find? sought with
  | none => rfl
  | some node => exact absurd (before sought (mem_labels_of_find? found)) (lt_irrefl sought)

/-- What is below a branch of ordered branches is ordered. -/
theorem Ordered.of_find?
    {branches : Branches}
    {sought : String}
    {node : Node}
    (ordered : branches.Ordered)
    (found : branches.find? sought = some node) :
    node.below.Ordered := by
  induction branches with
  | none => simp at found
  | branch label marked below others _ hypothesis =>
      obtain ⟨_, belowOrdered, othersOrdered⟩ := ordered
      rw [find?_branch] at found
      split at found
      · cases found
        exact belowOrdered
      · exact hypothesis othersOrdered found

end Branches

namespace Node

/-- A node with the end of a path below it marked. -/
def insert (path : List String) (node : Node) : Node :=
  { marked := node.marked || path.isEmpty
    below := node.below.insert path }

/-- There is a mark at the end of a path. -/
def Holds (node : Node) (path : List String) : Prop :=
  ∃ last, Branches.atPath? path node = some last ∧ last.marked = true

@[simp] theorem holds_nil (node : Node) : node.Holds [] ↔ node.marked = true := by
  simp [Holds, Branches.atPath?]

@[simp] theorem holds_cons (node : Node) (label : String) (path : List String) :
    node.Holds (label :: path) ↔
      ∃ next, node.below.find? label = some next ∧ next.Holds path := by
  unfold Holds
  rw [Branches.atPath?]
  cases node.below.find? label with
  | none => simp
  | some next => simp

end Node

namespace Branches

/-! ## Insertion -/

@[simp] theorem insert_nil (branches : Branches) : branches.insert [] = branches := by
  simp [insert]

theorem insert_cons_none (label : String) (path : List String) :
    Branches.none.insert (label :: path) =
      .branch label path.isEmpty (Branches.none.insert path) .none := by
  rw [insert]

theorem insert_cons_branch
    (label : String)
    (path : List String)
    (present : String)
    (marked : Bool)
    (below others : Branches) :
    (Branches.branch present marked below others).insert (label :: path) =
      if label = present then
        .branch present (marked || path.isEmpty) (below.insert path) others
      else if label < present then
        .branch label path.isEmpty (Branches.none.insert path)
          (.branch present marked below others)
      else
        .branch present marked below (others.insert (label :: path)) := by
  rw [insert]

/-- Insertion adds the first label of the path to the labels. -/
theorem mem_labels_insert
    {branches : Branches}
    {label other : String}
    {path : List String} :
    other ∈ (branches.insert (label :: path)).labels ↔
      other = label ∨ other ∈ branches.labels := by
  induction branches with
  | none => simp [insert_cons_none, labels]
  | branch present marked below others _ hypothesis =>
      rw [insert_cons_branch]
      split
      · next equal => simp [labels, equal]
      · split
        · simp [labels]
        · rw [labels, List.mem_cons, hypothesis, labels, List.mem_cons]
          exact or_left_comm

/-- After an insertion the branch of the first label has the rest of the path inserted,
and all other branches are as they were. -/
theorem find?_insert
    {branches : Branches}
    (ordered : branches.Ordered)
    (label : String)
    (path : List String)
    (sought : String) :
    (branches.insert (label :: path)).find? sought =
      if sought = label then some (((branches.find? label).getD {}).insert path)
      else branches.find? sought := by
  induction branches with
  | none =>
      rw [insert_cons_none, find?_branch]
      simp [Node.insert]
  | branch present marked below others _ hypothesis =>
      obtain ⟨before, _, othersOrdered⟩ := ordered
      rw [insert_cons_branch]
      split
      · next equal =>
          subst equal
          by_cases atLabel : sought = label <;> simp [atLabel, Node.insert]
      · next different =>
          split
          · next less =>
              -- The label comes before all that is there, so it had no branch yet.
              have absent : others.find? label = Option.none :=
                find?_eq_none_of_forall_lt fun other member =>
                  lt_trans less (before other member)
              by_cases atLabel : sought = label <;>
                simp [atLabel, different, absent, Node.insert]
          · rw [find?_branch, hypothesis othersOrdered, find?_branch, find?_branch,
              if_neg different]
            by_cases atPresent : sought = present
            · subst atPresent
              simp [Ne.symm different]
            · simp [atPresent]

theorem insert_ne_none (branches : Branches) (label : String) (path : List String) :
    branches.insert (label :: path) ≠ .none := by
  cases branches with
  | none => simp [insert_cons_none]
  | branch present marked below others =>
      rw [insert_cons_branch]
      split
      · simp
      · split <;> simp

/-- Insertion keeps the order of the branches. -/
theorem Ordered.insert
    {branches : Branches}
    (ordered : branches.Ordered)
    (path : List String) :
    (branches.insert path).Ordered := by
  induction path generalizing branches with
  | nil => rwa [insert_nil]
  | cons label path pathHypothesis =>
      have newOrdered : (Branches.none.insert path).Ordered := pathHypothesis trivial
      induction branches with
      | none =>
          rw [insert_cons_none]
          exact ⟨by simp [labels], newOrdered, trivial⟩
      | branch present marked below others _ othersHypothesis =>
          obtain ⟨before, belowOrdered, othersOrdered⟩ := ordered
          rw [insert_cons_branch]
          split
          · exact ⟨before, pathHypothesis belowOrdered, othersOrdered⟩
          · next different =>
              split
              · next less =>
                  refine ⟨?_, newOrdered, before, belowOrdered, othersOrdered⟩
                  intro other member
                  rw [labels, List.mem_cons] at member
                  rcases member with rfl | member
                  · exact less
                  · exact lt_trans less (before other member)
              · next notLess =>
                  refine ⟨?_, belowOrdered, othersHypothesis othersOrdered⟩
                  intro other member
                  rcases mem_labels_insert.mp member with rfl | member
                  · exact lt_of_le_of_ne (not_lt.mp notLess) (Ne.symm different)
                  · exact before other member

/-- Insertion adds no branch that leads nowhere. -/
theorem Fruitful.insert
    {branches : Branches}
    (fruitful : branches.Fruitful)
    (path : List String) :
    (branches.insert path).Fruitful := by
  induction path generalizing branches with
  | nil => rwa [insert_nil]
  | cons label path pathHypothesis =>
      have newFruitful : (Branches.none.insert path).Fruitful := pathHypothesis trivial
      have goesOn (below : Branches) : path.isEmpty = true ∨ below.insert path ≠ .none := by
        cases path with
        | nil => exact Or.inl rfl
        | cons next rest => exact Or.inr (insert_ne_none below next rest)
      induction branches with
      | none =>
          rw [insert_cons_none]
          exact ⟨goesOn .none, newFruitful, trivial⟩
      | branch present marked below others _ othersHypothesis =>
          obtain ⟨leads, belowFruitful, othersFruitful⟩ := fruitful
          rw [insert_cons_branch]
          split
          · refine ⟨?_, pathHypothesis belowFruitful, othersFruitful⟩
            rw [Bool.or_eq_true, or_assoc]
            exact Or.inr (goesOn below)
          · split
            · exact ⟨goesOn .none, newFruitful, leads, belowFruitful, othersFruitful⟩
            · exact ⟨leads, belowFruitful, othersHypothesis othersFruitful⟩

end Branches

namespace Node

/-- Insertion adds one path to those that a node holds. -/
theorem holds_insert
    {node : Node}
    (ordered : node.below.Ordered)
    (path sought : List String) :
    (node.insert path).Holds sought ↔ sought = path ∨ node.Holds sought := by
  induction path generalizing node sought with
  | nil =>
      cases sought with
      | nil => simp [insert]
      | cons label rest => simp [insert]
  | cons label path hypothesis =>
      cases sought with
      | nil => simp [insert]
      | cons soughtLabel rest =>
          rw [holds_cons, holds_cons, insert, Branches.find?_insert ordered]
          by_cases atLabel : soughtLabel = label
          · subst atLabel
            cases found : node.below.find? soughtLabel with
            | none =>
                have nothing : ¬({} : Node).Holds rest := by
                  cases rest <;> simp
                have fresh := @hypothesis {} trivial rest
                simp [fresh, nothing]
            | some next => simp [hypothesis (ordered.of_find? found)]
          · simp [atLabel]

/-- Something is held below each branch that goes on or is marked. -/
theorem exists_holds
    {branches : Branches}
    (fruitful : branches.Fruitful)
    (inhabited : branches ≠ .none)
    (marked : Bool) :
    ∃ path, ({ marked, below := branches } : Node).Holds path := by
  induction branches generalizing marked with
  | none => exact absurd rfl inhabited
  | branch label labelMarked below others belowHypothesis _ =>
      obtain ⟨leads, belowFruitful, _⟩ := fruitful
      rcases leads with rfl | goesOn
      · exact ⟨[label], by simp⟩
      · obtain ⟨path, held⟩ := belowHypothesis belowFruitful goesOn labelMarked
        exact ⟨label :: path, by simpa using held⟩

end Node

/-- A branch of fruitful branches is itself fruitful and leads to a mark. -/
theorem Branches.Fruitful.of_find?
    {branches : Branches}
    {label : String}
    {node : Node}
    (fruitful : branches.Fruitful)
    (found : branches.find? label = some node) :
    node.below.Fruitful ∧ ∃ path, node.Holds path := by
  induction branches with
  | none => simp at found
  | branch present marked below others _ hypothesis =>
      obtain ⟨leads, belowFruitful, othersFruitful⟩ := fruitful
      rw [find?_branch] at found
      split at found
      · cases found
        refine ⟨belowFruitful, ?_⟩
        rcases leads with rfl | goesOn
        · exact ⟨[], by simp⟩
        · exact Node.exists_holds belowFruitful goesOn marked
      · exact hypothesis othersFruitful found

namespace PatternTrie

/-! ## Marks -/

theorem isMarked_iff {trie : PatternTrie} {path : List String} :
    trie.isMarked path = true ↔ ({ below := trie.root } : Node).Holds path := by
  rw [isMarked, Option.any_eq_true, Node.Holds]

theorem insert_eq (pattern : String) (trie : PatternTrie) :
    insert pattern trie =
      match pathOf pattern with
      | .ok path => .ok () (trie.mark path)
      | .error error => .error error trie := by
  unfold insert
  cases pathOf pattern <;> rfl

theorem ordered_mark
    {trie : PatternTrie}
    (ordered : trie.root.Ordered)
    (path : List String) :
    (trie.mark path).root.Ordered := by
  unfold mark
  split
  · exact ordered
  · exact ordered.insert path

theorem fruitful_mark
    {trie : PatternTrie}
    (fruitful : trie.root.Fruitful)
    (path : List String) :
    (trie.mark path).root.Fruitful := by
  unfold mark
  split
  · exact fruitful
  · exact fruitful.insert path

/-- Marking a path adds it to the paths that are held, and nothing else. -/
theorem holds_mark
    {trie : PatternTrie}
    (ordered : trie.root.Ordered)
    {path : List String}
    (nonempty : path ≠ [])
    (sought : List String) :
    ({ below := (trie.mark path).root } : Node).Holds sought ↔
      sought = path ∨ ({ below := trie.root } : Node).Holds sought := by
  unfold mark
  split
  · next marked =>
      constructor
      · exact Or.inr
      · rintro (rfl | held)
        · exact isMarked_iff.mp marked
        · exact held
  · have inserted := @Node.holds_insert { below := trie.root } ordered path sought
    have unmarked : (false || path.isEmpty) = false := by simpa using nonempty
    rwa [Node.insert, unmarked] at inserted

end PatternTrie
end Sinkhole
