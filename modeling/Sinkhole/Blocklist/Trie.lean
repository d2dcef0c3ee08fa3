import Sinkhole.Blocklist.Pattern

/-!
# Wildcard patterns

Patterns are kept in a tree of labels read from right to left. A node has branches
in ascending order of their labels, and is marked when a pattern ends at it. The
wildcard label is a branch like any other.

A name is looked up by walking down its labels. At each node the branch of the
label itself is taken first, then the wildcard branch. When there is neither, the
wildcard branch of the node before is tried once with the same label, as if it had
been taken instead of the last step; after a step to a wildcard branch there is
nothing to fall back to.
-/

namespace Sinkhole

/-- The branches of a node: for each label whether a pattern ends there, and the
branches below. -/
inductive Branches
  | none
  | branch
      (label : String)
      (marked : Bool)
      (below : Branches)
      (others : Branches)
  deriving DecidableEq

/-- A node of the tree. -/
structure Node where
  marked : Bool := false
  below : Branches := .none
  deriving DecidableEq

namespace Branches

/-- The node at the end of the branch with a label. -/
def find? (sought : String) : Branches → Option Node
  | .none => Option.none
  | .branch label marked below others =>
      if sought = label then some { marked, below } else others.find? sought

/-- Mark the end of a path, given from the root down, adding what is missing of
it. -/
def insert : List String → Branches → Branches
  | [], branches => branches
  | label :: path, .none =>
      .branch label path.isEmpty (insert path .none) .none
  | label :: path, .branch present marked below others =>
      if label = present then
        .branch present (marked || path.isEmpty) (insert path below) others
      else if label < present then
        .branch label path.isEmpty (insert path .none)
          (.branch present marked below others)
      else
        .branch present marked below (insert (label :: path) others)
  termination_by path branches => (path.length, sizeOf branches)

/-- The node at the end of a path. -/
def atPath? : List String → Node → Option Node
  | [], node => some node
  | label :: path, node =>
      match node.below.find? label with
      | some next => atPath? path next
      | Option.none => Option.none

end Branches

/-- The state of a look-up: the node reached, the branches that the last step left
by a label of its own, if it did, and the labels still to come. -/
structure Walk where
  node : Node
  previous : Option Branches
  remaining : List String
  deriving DecidableEq

namespace Walk

/-- One step of a look-up, or its answer. -/
def step (walk : Walk) : Bool ⊕ Walk :=
  match walk.remaining with
  | [] => .inl walk.node.marked
  | label :: rest =>
      match walk.node.below.find? label with
      | some next => .inr ⟨next, some walk.node.below, rest⟩
      | none =>
          match walk.node.below.find? Pattern.wildcard with
          | some next => .inr ⟨next, none, rest⟩
          | none =>
              match walk.previous.bind fun branches => branches.find? Pattern.wildcard with
              | some next => .inr ⟨next, none, label :: rest⟩
              | none => .inl false

/-- Twice the labels to come, and one more while there is something to fall back
to. Each step lowers it. -/
def measure (walk : Walk) : Nat :=
  2 * walk.remaining.length + walk.previous.isSome.toNat

theorem measure_lt_of_step {walk next : Walk} (stepped : walk.step = .inr next) :
    next.measure < walk.measure := by
  obtain ⟨node, previous, remaining⟩ := walk
  unfold step at stepped
  cases remaining with
  | nil => simp at stepped
  | cons label rest =>
      simp only at stepped
      split at stepped
      · obtain rfl := Sum.inr.inj stepped
        simp only [measure, Option.isSome_some, Bool.toNat_true, List.length_cons]
        omega
      · split at stepped
        · obtain rfl := Sum.inr.inj stepped
          simp only [measure, Option.isSome_none, Bool.toNat_false, List.length_cons]
          omega
        · split at stepped
          · next found =>
              obtain rfl := Sum.inr.inj stepped
              cases previous with
              | none => simp at found
              | some branches => simp [measure]
          · simp at stepped

/-- The answer of a look-up. -/
def run (walk : Walk) : Bool :=
  match _stepped : walk.step with
  | .inl answer => answer
  | .inr next => next.run
  termination_by walk.measure
  decreasing_by exact measure_lt_of_step _stepped

end Walk

/-- A set of wildcard patterns. -/
structure PatternTrie where
  root : Branches := .none
  size : Nat := 0
  deriving DecidableEq

namespace PatternTrie

/-- The labels of a name or of a pattern, from right to left. -/
def path (text : String) : List String :=
  (Pattern.labels text).reverse

/-- Whether a pattern ends at a path. -/
def isMarked (trie : PatternTrie) (path : List String) : Bool :=
  (Branches.atPath? path { below := trie.root }).any fun node => node.marked

/-- Mark a path. The size grows when it was not marked. -/
def mark (trie : PatternTrie) (path : List String) : PatternTrie :=
  if trie.isMarked path then trie
  else { root := trie.root.insert path, size := trie.size + 1 }

/-- The path of a pattern, unless the pattern is refused. Letter case does not matter. -/
def pathOf (pattern : String) : Except PatternError (List String) :=
  let lowered := Pattern.lowercase pattern
  match Pattern.wildcardFault? lowered with
  | some reason => .error ⟨lowered, reason⟩
  | none => .ok (path lowered)

/-- Add a pattern. -/
def insert (pattern : String) : EStateM PatternError PatternTrie Unit := do
  match pathOf pattern with
  | .ok path => modify fun trie => trie.mark path
  | .error error => throw error

/-- The set that an attempt to add a pattern leaves, whether it fails or not. -/
def tryInsert (trie : PatternTrie) (pattern : String) : PatternTrie :=
  match insert pattern trie with
  | .ok _ next => next
  | .error _ next => next

/-- Whether a text can match a pattern at all: a legal name of at least two labels
without a wildcard or a reserved mark. -/
def isMatchable (name : String) : Bool :=
  Pattern.isLegal name && !Pattern.mentions name Pattern.reservedMark &&
    !Pattern.mentions name '*' && 2 ≤ (Pattern.labels name).length

/-- Whether a name matches a pattern. -/
def contains (trie : PatternTrie) (name : String) : Bool :=
  let lowered := Pattern.lowercase name
  isMatchable lowered &&
    Walk.run { node := { below := trie.root }, previous := none, remaining := path lowered }

end PatternTrie
end Sinkhole
