import Sinkhole.Proofs.Blocklist.Acceptance
import Sinkhole.Proofs.Blocklist.PatternSet

/-!
# The shape of a tree

What insertions make of a tree is told node by node. Below each node the labels ascend strictly, so
that a label has one place there. Each label could be that of a pattern. A node at which nothing
goes on is the end of a pattern, and no pattern ends at the root or right below it. The size of the
tree is the number of nodes at which a pattern ends.
-/

namespace Sinkhole

open Pattern PatternSet

/-! ## Labels -/

/-- A label that a tree may have: one to sixty-three octets without dots, reserved marks and capital
letters, and with a wildcard only if it is nothing else. -/
structure Pattern.TreeLabel (label : String) : Prop where
  nonempty : label ≠ ""
  size_le : label.utf8ByteSize ≤ 63
  dotless : '.' ∉ label.toList
  unreserved : '!' ∉ label.toList
  lowered : ∀ character ∈ label.toList, character.isUpper = false
  whole : '*' ∈ label.toList → label = "*"

namespace PatternTrie

/-- The labels of an accepted pattern can stand in a tree. -/
theorem treeLabel_of_mem_levels
    {pattern label : String}
    (accepts : Accepts pattern)
    (member : label ∈ levels pattern) :
    TreeLabel label := by
  obtain ⟨faultless, unreserved, enough, whole⟩ :=
    wildcardFault?_eq_none_iff.mp (accepts_iff.mp accepts)
  have nonempty : lowercase pattern ≠ "" := by
    intro empty
    rw [empty] at enough
    exact absurd enough (by decide)
  rw [levels, List.mem_reverse, ← labels_lowercase] at member
  have proper := ((fault?_eq_none_iff_proper nonempty).mp faultless).1 label member
  refine {
    nonempty := ?_
    size_le := proper.size_le
    dotless := proper.dotless
    unreserved := ?_
    lowered := ?_
    whole := fun wildcard => whole label member (mentions_iff.mpr wildcard) }
  · rintro rfl
    exact absurd proper.size_pos (by decide)
  · intro mark
    have mentioned := mentions_of_mem_labels member (mentions_iff.mpr mark)
    exact Bool.false_ne_true (unreserved.symm.trans mentioned)
  · rw [labels_lowercase, loweredLabels, List.mem_map] at member
    obtain ⟨given, _, rfl⟩ := member
    rw [toList_lowercase, List.forall_mem_map]
    intro character _
    exact Text.isUpper_toLower character

end PatternTrie

/-! ## Nodes -/

namespace Branches

/-- The nodes at the ends of branches and below them, each with the labels that lead there. -/
def nodes : Branches → List (List String × Node)
  | .none => []
  | .branch label marked below others =>
      ([label], { marked, below }) ::
        below.nodes.map (fun (path, node) => (label :: path, node)) ++ others.nodes

/-- The number of nodes that are marked. -/
def marks (branches : Branches) : Nat :=
  branches.nodes.countP fun (_, node) => node.marked

@[simp] theorem marks_none : Branches.none.marks = 0 := rfl

@[simp] theorem marks_branch
    (label : String)
    (marked : Bool)
    (below others : Branches) :
    (Branches.branch label marked below others).marks =
      marked.toNat + below.marks + others.marks := by
  have map_eq : (below.nodes.map fun (path, node) => (label :: path, node)).countP
      (fun (_, node) => node.marked) = below.marks := by
    rw [List.countP_map]
    rfl
  rw [marks, nodes, List.countP_append, List.countP_cons, map_eq, Nat.add_comm below.marks]
  cases marked <;> rfl

variable {branches : Branches}

theorem Ordered.pairwise_labels (ordered : branches.Ordered) :
    branches.labels.Pairwise (· < ·) := by
  induction branches with
  | none => exact .nil
  | branch label marked below others _ hypothesis =>
      obtain ⟨before, _, othersOrdered⟩ := ordered
      exact .cons before (hypothesis othersOrdered)

theorem Ordered.of_mem_nodes
    {path : List String}
    {node : Node}
    (ordered : branches.Ordered)
    (member : (path, node) ∈ branches.nodes) :
    node.below.Ordered := by
  induction branches generalizing path with
  | none => cases member
  | branch label marked below others belowHypothesis othersHypothesis =>
      obtain ⟨_, belowOrdered, othersOrdered⟩ := ordered
      rcases List.mem_append.mp member with inside | beside
      · rcases List.mem_cons.mp inside with equal | deeper
        · cases equal
          exact belowOrdered
        · obtain ⟨⟨rest, _⟩, deeper, equal⟩ := List.mem_map.mp deeper
          cases equal
          exact belowHypothesis belowOrdered deeper
      · exact othersHypothesis othersOrdered beside

/-- What leads to a node begins with one of the labels. -/
theorem exists_of_mem_nodes
    {path : List String}
    {node : Node}
    (member : (path, node) ∈ branches.nodes) :
    ∃ label ∈ branches.labels, ∃ rest, path = label :: rest := by
  induction branches with
  | none => cases member
  | branch label marked below others _ hypothesis =>
      rcases List.mem_append.mp member with inside | beside
      · refine ⟨label, List.mem_cons_self, ?_⟩
        rcases List.mem_cons.mp inside with equal | deeper
        · cases equal
          exact ⟨[], rfl⟩
        · obtain ⟨⟨rest, _⟩, _, equal⟩ := List.mem_map.mp deeper
          cases equal
          exact ⟨rest, rfl⟩
      · obtain ⟨other, isLabel, rest, path_eq⟩ := hypothesis beside
        exact ⟨other, List.mem_cons_of_mem _ isLabel, rest, path_eq⟩

/-- In an ordered tree each node is the one that is found at the end of the labels that lead to
it. -/
theorem Ordered.atPath?_of_mem_nodes
    {path : List String}
    {node : Node}
    (ordered : branches.Ordered)
    (member : (path, node) ∈ branches.nodes)
    (marked : Bool) :
    atPath? path { marked, below := branches } = some node := by
  induction branches generalizing path marked with
  | none => cases member
  | branch label labelMarked below others belowHypothesis othersHypothesis =>
      obtain ⟨before, belowOrdered, othersOrdered⟩ := ordered
      rcases List.mem_append.mp member with inside | beside
      · rcases List.mem_cons.mp inside with equal | deeper
        · cases equal
          simp [atPath?]
        · obtain ⟨⟨rest, _⟩, deeper, equal⟩ := List.mem_map.mp deeper
          cases equal
          simpa [atPath?] using belowHypothesis belowOrdered deeper labelMarked
      · obtain ⟨other, isLabel, rest, rfl⟩ := exists_of_mem_nodes beside
        have different : other ≠ label := (before other isLabel).ne'
        have found := othersHypothesis othersOrdered beside marked
        simpa [atPath?, different] using found

end Branches

namespace Node

/-- The number of nodes that are marked, from a node on. -/
def marks (node : Node) : Nat :=
  node.marked.toNat + node.below.marks

/-- Behind the branches one more node is marked, if the rest of the path does that to the node at
which the branch of the first label ends. -/
theorem marks_insert_below
    {label : String}
    {path : List String}
    (rest : ∀ node : Node, ¬node.Holds path → (node.insert path).marks = node.marks + 1)
    {branches : Branches}
    (unheld : ¬({ below := branches } : Node).Holds (label :: path)) :
    (branches.insert (label :: path)).marks = branches.marks + 1 := by
  have fresh : (({} : Node).insert path).marks = 1 :=
    rest {} (by cases path <;> simp)
  induction branches with
  | none =>
      rw [Branches.insert_cons_none]
      simpa [insert, marks] using fresh
  | branch present marked below others _ hypothesis =>
      rw [Branches.insert_cons_branch]
      split
      · next equal =>
          have inserted := rest { marked, below } (by simpa [equal] using unheld)
          simp only [insert, marks] at inserted
          simp only [Branches.marks_branch]
          omega
      · next different =>
          split
          · simp only [insert, marks, Bool.false_or] at fresh
            simp only [Branches.marks_branch]
            omega
          · have inserted := hypothesis (by simpa [different] using unheld)
            simp only [Branches.marks_branch, inserted]
            omega

/-- Inserting a path that was not held marks one more node. -/
theorem marks_insert
    {node : Node}
    {path : List String}
    (unheld : ¬node.Holds path) :
    (node.insert path).marks = node.marks + 1 := by
  induction path generalizing node with
  | nil =>
      rw [holds_nil, Bool.not_eq_true] at unheld
      simp [insert, marks, unheld, Nat.add_comm]
  | cons label path hypothesis =>
      -- The new mark is somewhere below the node, whose own mark stays.
      have unheldBelow : ¬({ below := node.below } : Node).Holds (label :: path) := by
        simpa using unheld
      have inserted := marks_insert_below (fun _ => hypothesis) unheldBelow
      simp only [insert, marks, inserted, List.isEmpty_cons, Bool.or_false]
      omega

/-- A node that is reached from one that spells patterns spells what they have behind the labels on
the way, and unless it is the same node some pattern goes there. -/
theorem Spells.of_atPath?
    {node last : Node}
    {patterns : Finset String}
    {here path : List String}
    (spells : node.Spells patterns here)
    (reached : Branches.atPath? path node = some last) :
    last.Spells patterns (here ++ path) ∧ (path ≠ [] → HasNode patterns (here ++ path)) := by
  induction path generalizing node here with
  | nil =>
      cases reached
      rw [List.append_nil]
      exact ⟨spells, fun nonempty => absurd rfl nonempty⟩
  | cons label rest hypothesis =>
      rw [Branches.atPath?] at reached
      cases found : node.below.find? label with
      | none =>
          rw [found] at reached
          cases reached
      | some next =>
          rw [found] at reached
          obtain ⟨lastSpells, goesThere⟩ := hypothesis (spells.below.of_find? found) reached
          rw [List.append_assoc, List.singleton_append] at lastSpells goesThere
          refine ⟨lastSpells, fun _ => ?_⟩
          by_cases last : rest = []
          · rw [last, ← spells.below.isSome_find?_iff, found, Option.isSome_some]
          · exact goesThere last

/-- Where some pattern goes and nothing goes on, a pattern ends. -/
theorem Spells.marked_of_below_eq_none
    {node : Node}
    {patterns : Finset String}
    {path : List String}
    (spells : node.Spells patterns path)
    (there : HasNode patterns path)
    (bare : node.below = .none) :
    node.marked = true := by
  obtain ⟨rest, terminal⟩ := hasNode_iff.mp there
  rw [← spells.holds_iff] at terminal
  cases rest with
  | nil => exact (holds_nil node).mp terminal
  | cons label rest =>
      obtain ⟨next, found, _⟩ := (holds_cons ..).mp terminal
      rw [bare] at found
      cases found

end Node

/-! ## Held paths -/

/-- Inserting what is there already changes nothing below a node. -/
theorem Branches.insert_of_find?
    {branches : Branches}
    {label : String}
    {path : List String}
    {node : Node}
    (ordered : branches.Ordered)
    (found : branches.find? label = some node)
    (unchanged : node.insert path = node) :
    branches.insert (label :: path) = branches := by
  induction branches with
  | none => cases found
  | branch present marked below others _ hypothesis =>
      obtain ⟨before, _, othersOrdered⟩ := ordered
      rw [find?_branch] at found
      rw [insert_cons_branch]
      split
      · next equal =>
          rw [if_pos equal] at found
          cases found
          injection unchanged with marked_eq below_eq
          rw [marked_eq, below_eq]
      · next different =>
          rw [if_neg different] at found
          have after : present < label := before label (mem_labels_of_find? found)
          rw [if_neg (lt_asymm after), hypothesis othersOrdered found]

theorem Node.insert_of_holds
    {node : Node}
    {path : List String}
    (ordered : node.below.Ordered)
    (held : node.Holds path) :
    node.insert path = node := by
  induction path generalizing node with
  | nil =>
      obtain ⟨marked, below⟩ := node
      obtain rfl : marked = true := (holds_nil _).mp held
      simp [insert]
  | cons label path hypothesis =>
      obtain ⟨next, found, held⟩ := (holds_cons ..).mp held
      have unchanged := hypothesis (ordered.of_find? found) held
      simp [insert, Branches.insert_of_find? ordered found unchanged]

/-! ## Trees that are built by insertion -/

namespace PatternTrie

/-- The root and all nodes below it, each with the labels that lead there. -/
def nodes (trie : PatternTrie) : List (List String × Node) :=
  ([], { below := trie.root }) :: trie.root.nodes

theorem countP_nodes (trie : PatternTrie) :
    trie.nodes.countP (fun (_, node) => node.marked) = trie.root.marks := by
  simp [nodes, Branches.marks]

/-- A tree in the shape that insertions give it. -/
structure Shaped (trie : PatternTrie) : Prop where
  ascending : ∀ path node, (path, node) ∈ trie.nodes → node.below.labels.Pairwise (· < ·)
  labelled : ∀ path node, (path, node) ∈ trie.nodes → ∀ label ∈ path, TreeLabel label
  fruitful : ∀ path node, (path, node) ∈ trie.nodes →
    path ≠ [] → node.below = .none → node.marked = true
  deep : ∀ path node, (path, node) ∈ trie.nodes → node.marked = true → 2 ≤ path.length
  size_eq : trie.size = trie.nodes.countP fun (_, node) => node.marked

variable {trie : PatternTrie} {forms : Finset String} {path : List String} {node : Node}

theorem Represents.ordered_of_mem_nodes
    (represents : trie.Represents forms)
    (member : (path, node) ∈ trie.nodes) :
    node.below.Ordered := by
  rcases List.mem_cons.mp member with equal | inside
  · cases equal
    exact represents.ordered
  · exact represents.ordered.of_mem_nodes inside

/-- A node of a tree spells what the patterns have behind the labels that lead to it, and other than
to the root some pattern goes there. -/
theorem Represents.spells_of_mem_nodes
    (represents : trie.Represents forms)
    (member : (path, node) ∈ trie.nodes) :
    node.Spells forms path ∧ (path ≠ [] → HasNode forms path) := by
  have reached : Branches.atPath? path { below := trie.root } = some node := by
    rcases List.mem_cons.mp member with equal | inside
    · cases equal
      rfl
    · exact represents.ordered.atPath?_of_mem_nodes inside false
  exact represents.spells.of_atPath? reached

theorem treeLabel_of_hasNode
    {patterns : List String}
    (there : HasNode (acceptedForms patterns) path) :
    ∀ label ∈ path, TreeLabel label := by
  obtain ⟨form, accepted, begins⟩ := there
  obtain ⟨pattern, _, accepts, rfl⟩ := mem_acceptedForms.mp accepted
  rw [path_canonical] at begins
  exact fun label member => treeLabel_of_mem_levels accepts (begins.subset member)

theorem two_le_length_of_isTerminal
    {patterns : List String}
    (terminal : IsTerminal (acceptedForms patterns) path) :
    2 ≤ path.length := by
  obtain ⟨form, accepted, rfl⟩ := terminal
  obtain ⟨pattern, _, accepts, rfl⟩ := mem_acceptedForms.mp accepted
  have enough := two_le_length_of_faultless (accepts_iff.mp accepts)
  rwa [path_canonical, length_levels, ← length_loweredLabels, ← labels_lowercase]

/-- Marking a path keeps the size the number of marks. -/
theorem size_mark_eq_marks
    (nonempty : path ≠ [])
    (size_eq : trie.size = trie.root.marks) :
    (trie.mark path).size = (trie.mark path).root.marks := by
  unfold mark
  split
  · exact size_eq
  · next unmarked =>
      have inserted := Node.marks_insert (mt isMarked_iff.mpr unmarked)
      have unmarkedRoot : (false || path.isEmpty) = false := by simpa using nonempty
      rw [Node.insert, Node.marks, Node.marks, unmarkedRoot] at inserted
      simpa [size_eq] using inserted.symm

theorem size_ofPatterns_eq_marks (patterns : List String) :
    (ofPatterns patterns).size = (ofPatterns patterns).root.marks := by
  refine List.foldlRecOn (motive := fun trie => trie.size = trie.root.marks) patterns tryInsert
    (b := {}) rfl ?_
  intro trie size_eq pattern _
  by_cases accepts : Accepts pattern
  · rw [tryInsert_of_accepts accepts]
    exact size_mark_eq_marks (levels_ne_nil_of_accepts accepts) size_eq
  · rwa [tryInsert_of_refused accepts]

/-- The paths of those that are accepted among some patterns. -/
def acceptedPaths (patterns : List String) : List (List String) :=
  (patterns.filter fun pattern => Accepts pattern).map levels

/-- Marking a path is inserting it at the root, which the path never ends at. -/
theorem below_mark
    (ordered : trie.root.Ordered)
    (nonempty : path ≠ []) :
    ({ below := (trie.mark path).root } : Node) = ({ below := trie.root } : Node).insert path := by
  unfold mark
  split
  · next marked => exact (Node.insert_of_holds ordered (isMarked_iff.mp marked)).symm
  · simpa [Node.insert] using nonempty

/-- No mark is lost at the root of a tree: trying some patterns inserts the paths of the accepted
ones, as if the root could be marked like any other node. -/
theorem below_ofPatterns (patterns : List String) :
    ({ below := (ofPatterns patterns).root } : Node) =
      (acceptedPaths patterns).foldl (fun node path => node.insert path) {} := by
  have run (trie : PatternTrie) (ordered : trie.root.Ordered) :
      ({ below := (patterns.foldl tryInsert trie).root } : Node) =
        (acceptedPaths patterns).foldl (fun node path => node.insert path)
          { below := trie.root } := by
    induction patterns generalizing trie with
    | nil => rfl
    | cons pattern rest hypothesis =>
        rw [List.foldl_cons]
        by_cases accepts : Accepts pattern
        · rw [tryInsert_of_accepts accepts, hypothesis _ (ordered_mark ordered _),
            below_mark ordered (levels_ne_nil_of_accepts accepts)]
          simp [acceptedPaths, accepts]
        · rw [tryInsert_of_refused accepts, hypothesis _ ordered]
          simp [acceptedPaths, accepts]
  exact run {} trivial

/-- Whatever patterns are tried, and whether they are accepted or not, the tree keeps its shape. It
is the tree of insertions at a root that could be marked like any other node, and is not. -/
theorem insertions_keep_shape (patterns : List String) :
    (ofPatterns patterns).Shaped ∧
      ({ below := (ofPatterns patterns).root } : Node) =
        (acceptedPaths patterns).foldl (fun node path => node.insert path) {} := by
  have represents := represents_ofPatterns patterns
  refine ⟨?_, below_ofPatterns patterns⟩
  exact {
    ascending := fun path node member => (represents.ordered_of_mem_nodes member).pairwise_labels
    labelled := fun path node member label inPath => by
      have nonempty : path ≠ [] := List.ne_nil_of_mem inPath
      exact treeLabel_of_hasNode ((represents.spells_of_mem_nodes member).2 nonempty) label inPath
    fruitful := fun path node member nonempty bare => by
      obtain ⟨spells, there⟩ := represents.spells_of_mem_nodes member
      exact spells.marked_of_below_eq_none (there nonempty) bare
    deep := fun path node member marked => by
      have spells := (represents.spells_of_mem_nodes member).1
      exact two_le_length_of_isTerminal (spells.marked_iff.mp marked)
    size_eq := (size_ofPatterns_eq_marks patterns).trans (countP_nodes _).symm }

end PatternTrie
end Sinkhole
