import Mathlib.Data.List.Forall2
import Sinkhole.Proofs.Blocklist.Insertion

/-!
# What a look-up finds

The fallback of a look-up comes to one label of foresight: the branch of the label
itself is taken when the name can go on by one more label from there, and the wildcard
branch otherwise. From this follows which names a node's paths let through. A matching
path is found unless another path diverts the look-up from it, by having the name's own
label, and one label more, where the matching path has the wildcard.
-/

namespace Sinkhole
namespace Pattern

/-- Each label of a path is the wildcard or the label of the name at its place. -/
def PathMatches (path name : List String) : Prop :=
  List.Forall₂ (fun label own => label = wildcard ∨ label = own) path name

/-- The first label of a path lets the first label of a name through, if there is one. -/
def Continues (path : List String) : List String → Prop
  | [] => True
  | own :: _ => path.head? = some own ∨ path.head? = some wildcard

/-- One path diverts the look-up of a name from another: they agree up to a place where
the other has the wildcard, and there the one has the name's own label and continues
with the name. -/
inductive Diverts : List String → List String → List String → Prop
  | here
      {own : String}
      {rest path name : List String}
      (continues : Continues rest name) :
      Diverts (own :: rest) (wildcard :: path) (own :: name)
  | later
      {label own : String}
      {rest path name : List String}
      (diverts : Diverts rest path name) :
      Diverts (label :: rest) (label :: path) (own :: name)

end Pattern

namespace Node

open Pattern

/-- There is a branch for the first of the labels, if there is a first. -/
def goesOn (node : Node) : List String → Bool
  | [] => true
  | own :: _ => (node.below.find? own).isSome || (node.below.find? wildcard).isSome

/-- Look a name up with one label of foresight. -/
def leads : List String → Node → Bool
  | [], node => node.marked
  | own :: rest, node =>
      match (node.below.find? own).filter fun next => next.goesOn rest with
      | some next => next.leads rest
      | none =>
          match node.below.find? wildcard with
          | some next => next.leads rest
          | none => false

/-! ## The walk has one label of foresight -/

theorem leads_eq_false_of_not_goesOn
    {node : Node}
    {name : List String}
    (stuck : node.goesOn name = false) :
    node.leads name = false := by
  cases name with
  | nil => simp [goesOn] at stuck
  | cons own rest =>
      simp only [goesOn, Bool.or_eq_false_iff, Option.isSome_eq_false_iff,
        Option.isNone_iff_eq_none] at stuck
      simp [leads, stuck]

end Node

namespace Walk

open Pattern

theorem run_of_step_inl {walk : Walk} {answer : Bool} (stepped : walk.step = .inl answer) :
    walk.run = answer := by
  rw [run]
  split <;> simp_all

theorem run_of_step_inr {walk next : Walk} (stepped : walk.step = .inr next) :
    walk.run = next.run := by
  rw [run]
  split <;> simp_all

/-- A walk that cannot go on falls back once, if it can. -/
theorem run_of_not_goesOn
    {node : Node}
    {name : List String}
    (stuck : node.goesOn name = false)
    (previous : Option Branches) :
    run { node, previous, remaining := name } =
      match previous.bind fun branches => branches.find? wildcard with
      | some next => run { node := next, previous := none, remaining := name }
      | none => false := by
  cases name with
  | nil => simp [Node.goesOn] at stuck
  | cons own rest =>
      simp only [Node.goesOn, Bool.or_eq_false_iff, Option.isSome_eq_false_iff,
        Option.isNone_iff_eq_none] at stuck
      split
      · next next found => exact run_of_step_inr (by simp [step, stuck, found])
      · next found => exact run_of_step_inl (by simp [step, stuck, found])

/-- A walk does what foresight says. When it cannot go on it does so from the wildcard
branch that it left behind. -/
theorem run_eq
    (node : Node)
    (previous : Option Branches)
    (name : List String) :
    run { node, previous, remaining := name } =
      if node.goesOn name then node.leads name
      else
        match previous.bind fun branches => branches.find? wildcard with
        | some next => next.leads name
        | none => false := by
  induction name generalizing node previous with
  | nil => exact run_of_step_inl rfl
  | cons own rest hypothesis =>
      have forward (node : Node) (previous : Option Branches)
          (onward : node.goesOn (own :: rest) = true) :
          run { node, previous, remaining := own :: rest } = node.leads (own :: rest) := by
        cases found : node.below.find? own with
        | some next =>
            rw [run_of_step_inr (by simp only [step, found]; rfl), hypothesis]
            cases onwardNext : next.goesOn rest <;>
              simp [Node.leads, found, Option.filter, onwardNext]
        | none =>
            rw [Node.goesOn, found, Option.isSome_none, Bool.false_or,
              Option.isSome_iff_exists] at onward
            obtain ⟨next, wildcardFound⟩ := onward
            rw [run_of_step_inr (by simp only [step, found, wildcardFound]; rfl), hypothesis]
            cases onwardNext : next.goesOn rest with
            | true => simp [Node.leads, found, wildcardFound]
            | false =>
                simp [Node.leads, found, wildcardFound,
                  Node.leads_eq_false_of_not_goesOn onwardNext]
      cases onward : node.goesOn (own :: rest) with
      | true => exact forward node previous onward
      | false =>
          rw [run_of_not_goesOn onward]
          cases previous.bind fun branches => branches.find? wildcard with
          | none => rfl
          | some next =>
              cases onwardNext : next.goesOn (own :: rest) with
              | true => exact forward next none onwardNext
              | false =>
                  simp only [run_of_not_goesOn onwardNext, Option.bind_none,
                    Node.leads_eq_false_of_not_goesOn onwardNext]
                  rfl

/-- A walk from a node on does what foresight says. -/
theorem run_start (node : Node) (name : List String) :
    run { node, previous := none, remaining := name } = node.leads name := by
  rw [run_eq]
  cases onward : node.goesOn name with
  | true => rfl
  | false => exact (Node.leads_eq_false_of_not_goesOn onward).symm

end Walk

namespace Node

open Pattern

/-! ## What lets a name through -/

/-- A node below which something is held goes on with a name when one of the paths that
it holds does. -/
theorem goesOn_iff
    {node : Node}
    (fruitful : node.below.Fruitful)
    (inhabited : ∃ path, node.Holds path)
    {name : List String} :
    node.goesOn name = true ↔ ∃ path, node.Holds path ∧ Continues path name := by
  cases name with
  | nil => simpa [goesOn, Continues] using inhabited
  | cons own rest =>
      have throughBranch (label : String) :
          (node.below.find? label).isSome = true ↔
            ∃ path, node.Holds path ∧ path.head? = some label := by
        constructor
        · intro found
          obtain ⟨next, found⟩ := Option.isSome_iff_exists.mp found
          obtain ⟨_, path, held⟩ := fruitful.of_find? found
          exact ⟨label :: path, (holds_cons ..).mpr ⟨next, found, held⟩, rfl⟩
        · rintro ⟨path, held, first⟩
          obtain ⟨path, rfl⟩ := List.head?_eq_some_iff.mp first
          obtain ⟨next, found, _⟩ := (holds_cons ..).mp held
          rw [found, Option.isSome_some]
      simp only [goesOn, Bool.or_eq_true, throughBranch, Continues, and_or_left, exists_or]

theorem leads_of_onward
    {node next : Node}
    {own : String}
    {rest : List String}
    (found : node.below.find? own = some next)
    (onward : next.goesOn rest = true) :
    node.leads (own :: rest) = next.leads rest := by
  simp [leads, found, Option.filter, onward]

theorem leads_of_not_onward
    {node : Node}
    {own : String}
    {rest : List String}
    (stuck : ∀ next, node.below.find? own = some next → next.goesOn rest = false) :
    node.leads (own :: rest) = true ↔
      ∃ next, node.below.find? wildcard = some next ∧ next.leads rest = true := by
  have skipped : (node.below.find? own).filter (fun next => next.goesOn rest) = none := by
    simpa [Option.filter_eq_none_iff] using stuck
  rw [leads, skipped]
  cases node.below.find? wildcard <;> simp

/-- A path that a node holds matches a name, and no other path that the node holds
diverts the look-up of the name from it. -/
structure Finds (node : Node) (path name : List String) : Prop where
  held : node.Holds path
  matched : PathMatches path name
  undiverted : ∀ other, node.Holds other → ¬Diverts other path name

/-- Nothing diverts a look-up from a path by the label that the path has itself. -/
theorem finds_own_iff
    {node next : Node}
    {own : String}
    {path rest : List String}
    (found : node.below.find? own = some next)
    (concrete : own ≠ wildcard) :
    node.Finds (own :: path) (own :: rest) ↔ next.Finds path rest := by
  have held_iff (path : List String) : node.Holds (own :: path) ↔ next.Holds path := by
    simp [found]
  constructor
  · rintro ⟨held, matched, undiverted⟩
    refine ⟨(held_iff path).mp held, (List.forall₂_cons.mp matched).2, ?_⟩
    intro other otherHeld diverts
    exact undiverted _ ((held_iff other).mpr otherHeld) (.later diverts)
  · rintro ⟨held, matched, undiverted⟩
    refine ⟨(held_iff path).mpr held, .cons (Or.inr rfl) matched, ?_⟩
    intro other otherHeld diverts
    cases diverts with
    | here => exact concrete rfl
    | later diverts => exact undiverted _ ((held_iff _).mp otherHeld) diverts

/-- A look-up is diverted from a wildcard when it goes on from the name's own label. -/
theorem finds_wildcard_iff
    {node next : Node}
    {own : String}
    {path rest : List String}
    (fruitful : node.below.Fruitful)
    (found : node.below.find? wildcard = some next) :
    node.Finds (wildcard :: path) (own :: rest) ↔
      next.Finds path rest ∧
        ∀ ownNext, node.below.find? own = some ownNext → ownNext.goesOn rest = false := by
  have held_iff (path : List String) : node.Holds (wildcard :: path) ↔ next.Holds path := by
    simp [found]
  constructor
  · rintro ⟨held, matched, undiverted⟩
    refine ⟨⟨(held_iff path).mp held, (List.forall₂_cons.mp matched).2, ?_⟩, ?_⟩
    · intro other otherHeld diverts
      exact undiverted _ ((held_iff other).mpr otherHeld) (.later diverts)
    · intro ownNext ownFound
      obtain ⟨ownFruitful, inhabited⟩ := fruitful.of_find? ownFound
      rw [Bool.eq_false_iff]
      intro onward
      obtain ⟨other, otherHeld, continues⟩ := (goesOn_iff ownFruitful inhabited).mp onward
      exact undiverted (own :: other) (by simp [ownFound, otherHeld]) (.here continues)
  · rintro ⟨⟨held, matched, undiverted⟩, stuck⟩
    refine ⟨(held_iff path).mpr held, .cons (Or.inl rfl) matched, ?_⟩
    intro other otherHeld diverts
    cases diverts with
    | here continues =>
        obtain ⟨ownNext, ownFound, otherHeld⟩ := (holds_cons ..).mp otherHeld
        obtain ⟨ownFruitful, inhabited⟩ := fruitful.of_find? ownFound
        have onward := (goesOn_iff ownFruitful inhabited).mpr ⟨_, otherHeld, continues⟩
        exact Bool.eq_false_iff.mp (stuck ownNext ownFound) onward
    | later diverts => exact undiverted _ ((held_iff _).mp otherHeld) diverts

/-- A node goes on with each name that it finds. -/
theorem Finds.goesOn
    {node : Node}
    {path name : List String}
    (fruitful : node.below.Fruitful)
    (finds : node.Finds path name) :
    node.goesOn name = true := by
  refine (goesOn_iff fruitful ⟨path, finds.held⟩).mpr ⟨path, finds.held, ?_⟩
  cases finds.matched with
  | nil => trivial
  | cons first _ =>
      rcases first with rfl | rfl
      · exact Or.inr rfl
      · exact Or.inl rfl

/-- When the look-up can go on from the name's own label, what is found is found below it. -/
theorem exists_finds_iff_of_onward
    {node next : Node}
    {own : String}
    {rest : List String}
    (fruitful : node.below.Fruitful)
    (concrete : own ≠ wildcard)
    (found : node.below.find? own = some next)
    (onward : next.goesOn rest = true) :
    (∃ path, node.Finds path (own :: rest)) ↔ ∃ path, next.Finds path rest := by
  constructor
  · rintro ⟨path, finds⟩
    cases finds.matched with
    | cons first _ =>
        rcases first with rfl | rfl
        · obtain ⟨_, wildcardFound, _⟩ := (holds_cons ..).mp finds.held
          have stuck := ((finds_wildcard_iff fruitful wildcardFound).mp finds).2 next found
          exact absurd onward (Bool.eq_false_iff.mp stuck)
        · exact ⟨_, (finds_own_iff found concrete).mp finds⟩
  · rintro ⟨path, finds⟩
    exact ⟨own :: path, (finds_own_iff found concrete).mpr finds⟩

/-- When the look-up cannot go on from the name's own label, what is found is found below the
wildcard. -/
theorem exists_finds_iff_of_stuck
    {node : Node}
    {own : String}
    {rest : List String}
    (fruitful : node.below.Fruitful)
    (concrete : own ≠ wildcard)
    (stuck : ∀ next, node.below.find? own = some next → next.goesOn rest = false) :
    (∃ path, node.Finds path (own :: rest)) ↔
      ∃ next, node.below.find? wildcard = some next ∧ ∃ path, next.Finds path rest := by
  constructor
  · rintro ⟨path, finds⟩
    cases finds.matched with
    | cons first _ =>
        obtain ⟨next, found, _⟩ := (holds_cons ..).mp finds.held
        rcases first with rfl | rfl
        · exact ⟨next, found, _, ((finds_wildcard_iff fruitful found).mp finds).1⟩
        · have nextFinds := (finds_own_iff found concrete).mp finds
          exact absurd (nextFinds.goesOn (fruitful.of_find? found).1)
            (Bool.eq_false_iff.mp (stuck next found))
  · rintro ⟨next, found, path, finds⟩
    exact ⟨wildcard :: path, (finds_wildcard_iff fruitful found).mpr ⟨finds, stuck⟩⟩

/-- A name is found by a path that matches it and from which no other path diverts the
look-up. -/
theorem leads_iff
    {node : Node}
    (fruitful : node.below.Fruitful)
    {name : List String}
    (concrete : wildcard ∉ name) :
    node.leads name = true ↔ ∃ path, node.Finds path name := by
  induction name generalizing node with
  | nil =>
      rw [leads]
      constructor
      · intro marked
        refine ⟨[], (holds_nil node).mpr marked, .nil, ?_⟩
        intro other _ diverts
        cases diverts
      · rintro ⟨path, held, matched, _⟩
        cases matched
        exact (holds_nil node).mp held
  | cons own rest hypothesis =>
      have ownConcrete : own ≠ wildcard := fun equal => concrete (by simp [equal])
      have restConcrete : wildcard ∉ rest := fun member => concrete (by simp [member])
      by_cases onward : ∃ next, node.below.find? own = some next ∧ next.goesOn rest = true
      · obtain ⟨next, found, goes⟩ := onward
        rw [leads_of_onward found goes, exists_finds_iff_of_onward fruitful ownConcrete found goes]
        exact hypothesis (fruitful.of_find? found).1 restConcrete
      · have stuck (next : Node) (found : node.below.find? own = some next) :
            next.goesOn rest = false :=
          Bool.eq_false_iff.mpr fun goes => onward ⟨next, found, goes⟩
        rw [leads_of_not_onward stuck, exists_finds_iff_of_stuck fruitful ownConcrete stuck]
        refine exists_congr fun next => and_congr_right fun found => ?_
        exact hypothesis (fruitful.of_find? found).1 restConcrete

end Node
end Sinkhole
