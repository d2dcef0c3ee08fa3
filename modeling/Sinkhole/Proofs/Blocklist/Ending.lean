import Sinkhole.Proofs.Blocklist.Lookup

/-!
# How a look-up ends

A look-up takes one label of the name at each step, except when it falls back. Then it stays at its
label and has nothing left to fall back to, so that the next step takes a label or is the last. It
stands at all times as deep in the tree as it has taken labels, at the end of a path that matches
them, and where it can fall back it came there from the node above. So it ends, and looks at labels
at most twice as often as the name has any.
-/

namespace Sinkhole

open Pattern

/-! ## Paths -/

theorem Branches.atPath?_concat
    {path : List String}
    {label : String}
    {node last : Node}
    (reached : atPath? path node = some last) :
    atPath? (path ++ [label]) node = last.below.find? label := by
  induction path generalizing node with
  | nil =>
      cases reached
      rw [List.nil_append, atPath?]
      cases last.below.find? label <;> rfl
  | cons first rest hypothesis =>
      rw [atPath?] at reached
      rw [List.cons_append, atPath?]
      cases found : node.below.find? first with
      | none =>
          rw [found] at reached
          cases reached
      | some next =>
          rw [found] at reached
          exact hypothesis reached

theorem Pattern.PathMatches.concat
    {path name : List String}
    (matched : PathMatches path name)
    {label own : String}
    (last : label = wildcard ∨ label = own) :
    PathMatches (path ++ [label]) (name ++ [own]) :=
  List.rel_append matched (.cons last .nil)

namespace Walk

/-! ## Single steps -/

variable {walk next : Walk}

/-- What a step can do: take the branch of the label, or else the wildcard branch, or else fall back
to the wildcard branch that the step before left aside. -/
inductive Moves : Walk → Walk → Prop
  | own
      {node next : Node}
      {previous : Option Branches}
      {label : String}
      {rest : List String}
      (found : node.below.find? label = some next) :
      Moves ⟨node, previous, label :: rest⟩ ⟨next, some node.below, rest⟩
  | glob
      {node next : Node}
      {previous : Option Branches}
      {label : String}
      {rest : List String}
      (missing : node.below.find? label = none)
      (found : node.below.find? wildcard = some next) :
      Moves ⟨node, previous, label :: rest⟩ ⟨next, none, rest⟩
  | back
      {node next : Node}
      {branches : Branches}
      {label : String}
      {rest : List String}
      (missing : node.below.find? label = none)
      (wildcardMissing : node.below.find? wildcard = none)
      (found : branches.find? wildcard = some next) :
      Moves ⟨node, some branches, label :: rest⟩ ⟨next, none, label :: rest⟩

theorem moves_of_step (stepped : walk.step = .inr next) : walk.Moves next := by
  obtain ⟨node, previous, remaining⟩ := walk
  cases remaining with
  | nil => cases stepped
  | cons label rest =>
      simp only [step] at stepped
      split at stepped
      · next found =>
          cases stepped
          exact .own found
      · next missing =>
          split at stepped
          · next found =>
              cases stepped
              exact .glob missing found
          · next wildcardMissing =>
              split at stepped
              · next found =>
                  cases stepped
                  obtain ⟨branches, rfl, found⟩ := Option.bind_eq_some_iff.mp found
                  exact .back missing wildcardMissing found
              · cases stepped

/-- A step takes the label that it looks at. -/
def Takes (walk next : Walk) : Prop :=
  ∃ label, walk.remaining = label :: next.remaining

/-- A step that does not take a label falls back, and the step after it takes one. -/
theorem takes_or_fallsBack (stepped : walk.step = .inr next) :
    walk.Takes next ∨
      next.remaining = walk.remaining ∧ ∀ after, next.step = .inr after → next.Takes after := by
  cases moves_of_step stepped with
  | own => exact Or.inl ⟨_, rfl⟩
  | glob => exact Or.inl ⟨_, rfl⟩
  | back =>
      refine Or.inr ⟨rfl, fun after afterStepped => ?_⟩
      -- There is nothing left to fall back to.
      cases moves_of_step afterStepped with
      | own => exact ⟨_, rfl⟩
      | glob => exact ⟨_, rfl⟩

/-! ## Where a look-up stands -/

/-- A look-up that has taken some labels stands at the end of a path that matches them. Where it can
fall back, it came there from the node above. -/
structure Stands (walk : Walk) (root : Node) (path taken : List String) : Prop where
  reached : Branches.atPath? path root = some walk.node
  matched : PathMatches path taken
  above : ∀ branches, walk.previous = some branches →
    ∃ parent before label earlier own,
      path = before ++ [label] ∧ taken = earlier ++ [own] ∧ PathMatches before earlier ∧
        Branches.atPath? before root = some parent ∧ parent.below = branches

/-- A step leads from where a look-up stands to where it stands then, and changes none of the labels
that are taken and to come. -/
theorem Stands.step
    {root : Node}
    {path taken : List String}
    (stands : walk.Stands root path taken)
    (stepped : walk.step = .inr next) :
    ∃ nextPath nextTaken, next.Stands root nextPath nextTaken ∧
      nextTaken ++ next.remaining = taken ++ walk.remaining := by
  cases moves_of_step stepped with
  | @own node next previous label rest found =>
      refine ⟨path ++ [label], taken ++ [label], ⟨?_, ?_, ?_⟩, List.append_assoc ..⟩
      · rw [Branches.atPath?_concat stands.reached, found]
      · exact stands.matched.concat (Or.inr rfl)
      · intro branches branches_eq
        cases branches_eq
        exact ⟨_, _, _, _, _, rfl, rfl, stands.matched, stands.reached, rfl⟩
  | @glob node next previous label rest _ found =>
      refine ⟨path ++ [wildcard], taken ++ [label], ⟨?_, ?_, ?_⟩, List.append_assoc ..⟩
      · rw [Branches.atPath?_concat stands.reached, found]
      · exact stands.matched.concat (Or.inl rfl)
      · intro branches branches_eq
        cases branches_eq
  | @back node next branches label rest _ _ found =>
      obtain ⟨parent, before, _, earlier, own, rfl, rfl, matched, reached, rfl⟩ :=
        stands.above branches rfl
      refine ⟨before ++ [wildcard], earlier ++ [own], ⟨?_, ?_, ?_⟩, rfl⟩
      · rw [Branches.atPath?_concat reached, found]
      · exact matched.concat (Or.inl rfl)
      · intro branches branches_eq
        cases branches_eq

/-! ## Runs -/

/-- A look-up is led from its start to a state by so many steps. -/
inductive Reaches (start : Walk) : Nat → Walk → Prop
  | start : Reaches start 0 start
  | step
      {count : Nat}
      {walk next : Walk}
      (reached : Reaches start count walk)
      (stepped : walk.step = .inr next) :
      Reaches start (count + 1) next

theorem Reaches.of_step
    {start last : Walk}
    {count : Nat}
    (stepped : start.step = .inr next)
    (reached : next.Reaches count last) :
    start.Reaches (count + 1) last := by
  induction reached with
  | start => exact .step .start stepped
  | step _ lastStepped hypothesis => exact .step hypothesis lastStepped

theorem Reaches.measure_add_le
    {start : Walk}
    {count : Nat}
    (reached : start.Reaches count walk) :
    walk.measure + count ≤ start.measure := by
  induction reached with
  | start => exact Nat.le_refl _
  | step _ stepped hypothesis =>
      have lowered := measure_lt_of_step stepped
      omega

theorem Reaches.exists_stands
    {start : Walk}
    {count : Nat}
    {root : Node}
    (stands : start.Stands root [] [])
    (reached : start.Reaches count walk) :
    ∃ path taken, walk.Stands root path taken ∧ taken ++ walk.remaining = start.remaining := by
  induction reached with
  | start => exact ⟨[], [], stands, rfl⟩
  | step _ stepped hypothesis =>
      obtain ⟨path, taken, walkStands, remaining_eq⟩ := hypothesis
      obtain ⟨nextPath, nextTaken, nextStands, next_eq⟩ := walkStands.step stepped
      exact ⟨nextPath, nextTaken, nextStands, next_eq.trans remaining_eq⟩

/-- Every look-up comes to an answer, which is that of the whole run. -/
theorem exists_reaches_answer (start : Walk) :
    ∃ count last, start.Reaches count last ∧ last.step = .inl start.run := by
  cases stepped : start.step with
  | inl answer =>
      exact ⟨0, start, .start, by rw [stepped, run_of_step_inl stepped]⟩
  | inr next =>
      obtain ⟨count, last, reached, answered⟩ := exists_reaches_answer next
      exact ⟨count + 1, last, .of_step stepped reached, by rw [answered, run_of_step_inr stepped]⟩
  termination_by start.measure
  decreasing_by exact measure_lt_of_step stepped

end Walk

namespace PatternTrie

/-- The state of a look-up before its first step. -/
def lookUp (trie : PatternTrie) (name : String) : Walk :=
  { node := { below := trie.root }, previous := none, remaining := path (lowercase name) }

theorem stands_lookUp (trie : PatternTrie) (name : String) :
    (trie.lookUp name).Stands { below := trie.root } [] [] where
  reached := rfl
  matched := .nil
  above _ previous_eq := by cases previous_eq

theorem measure_lookUp (trie : PatternTrie) (name : String) :
    (trie.lookUp name).measure = 2 * (labels (lowercase name)).length := by
  simp [lookUp, Walk.measure, path]

/-- The label that a look-up comes to next is found by the number of those to come. -/
theorem getElem?_labels_of_remaining_eq
    {text label : String}
    {taken rest : List String}
    (remaining_eq : taken ++ label :: rest = path text) :
    (labels text)[rest.length]? = some label := by
  rw [← (labels text).reverse_reverse, ← path, ← remaining_eq, List.reverse_append,
    List.reverse_cons, List.append_assoc, List.getElem?_append_right (by simp)]
  simp

/-- A look-up ends, in whatever tree and for whatever name. At all times it stands as deep as it has
taken labels, at the end of a path that matches them, and looks at the label that the number of
those to come tells. Each step takes that label, or falls back and then the next step takes it. So
labels are looked at at most twice as often as the name has any, and then there is an answer. -/
theorem look_up_ends (trie : PatternTrie) (name : String) :
    let labels := Pattern.labels (lowercase name)
    let start := trie.lookUp name
    (∀ count walk, start.Reaches count walk →
        (∃ gone taken, taken ++ walk.remaining = labels.reverse ∧ gone.length = taken.length ∧
          Branches.atPath? gone { below := trie.root } = some walk.node ∧
          PathMatches gone taken) ∧
        (∀ label rest, walk.remaining = label :: rest →
          labels[rest.length]? = some label ∧ count < 2 * labels.length) ∧
        ∀ next, walk.step = .inr next →
          walk.Takes next ∨
            next.remaining = walk.remaining ∧
              ∀ after, next.step = .inr after → next.Takes after) ∧
      ∃ count last answer, start.Reaches count last ∧ count ≤ 2 * labels.length ∧
        last.step = .inl answer ∧
        trie.contains name = (isMatchable (lowercase name) && answer) := by
  intro labels start
  have bounded {count : Nat} {walk : Walk} (reached : start.Reaches count walk) :
      walk.measure + count ≤ 2 * labels.length :=
    reached.measure_add_le.trans_eq (measure_lookUp trie name)
  refine ⟨fun count walk reached => ⟨?stands, ?looks, ?steps⟩, ?ends⟩
  case stands =>
    obtain ⟨gone, taken, stands, remaining_eq⟩ := reached.exists_stands (stands_lookUp trie name)
    exact ⟨gone, taken, remaining_eq, stands.matched.length_eq, stands.reached, stands.matched⟩
  case looks =>
    intro label rest label_eq
    obtain ⟨_, taken, _, remaining_eq⟩ := reached.exists_stands (stands_lookUp trie name)
    rw [label_eq] at remaining_eq
    refine ⟨getElem?_labels_of_remaining_eq remaining_eq, ?_⟩
    have room := bounded reached
    rw [Walk.measure, label_eq, List.length_cons] at room
    omega
  case steps => exact fun next => Walk.takes_or_fallsBack
  case ends =>
    obtain ⟨count, last, reached, answered⟩ := Walk.exists_reaches_answer start
    have room := bounded reached
    exact ⟨count, last, start.run, reached, by omega, answered, rfl⟩

/-- A tree in which a look-up can go astray: nothing goes on from its branch for a label of its own,
and something does from the wildcard beside it. -/
def detourTrie : PatternTrie where
  root := .branch "a" false
    (.branch "*" false (.branch "c" true .none .none) (.branch "b" true .none .none)) .none
  size := 2

/-- The third step falls back and the fourth takes the last label. -/
theorem look_up_ends_detour :
    let start := detourTrie.lookUp "C.b.a."
    ∃ walk next after, start.Reaches 2 walk ∧ walk.step = .inr next ∧
      next.remaining = walk.remaining ∧ next.step = .inr after ∧ next.Takes after ∧
      after.step = .inl true := by
  intro start
  let beside : Branches := .branch "*" false (.branch "c" true .none .none)
    (.branch "b" true .none .none)
  let first : Walk := ⟨⟨false, beside⟩, some detourTrie.root, ["b", "c"]⟩
  let walk : Walk := ⟨⟨true, .none⟩, some beside, ["c"]⟩
  let next : Walk := ⟨⟨false, .branch "c" true .none .none⟩, none, ["c"]⟩
  let after : Walk := ⟨⟨true, .none⟩, some (.branch "c" true .none .none), []⟩
  have atFirst : start.Reaches 1 first := .step .start (by decide +kernel)
  have reached : start.Reaches 2 walk := .step atFirst (by decide +kernel)
  have stepped : walk.step = .inr next := by decide +kernel
  have afterStepped : next.step = .inr after := by decide +kernel
  obtain ⟨_, _, steps⟩ := (look_up_ends detourTrie "C.b.a.").1 2 walk reached
  rcases steps next stepped with ⟨_, taken⟩ | ⟨stayed, takes⟩
  · cases taken
  · exact ⟨walk, next, after, reached, stepped, stayed, afterStepped, takes after afterStepped, rfl⟩

end PatternTrie
end Sinkhole
