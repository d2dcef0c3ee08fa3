import Mathlib.Algebra.Order.Floor.Div
import Mathlib.Data.Int.CardIntervalMod
import Mathlib.Order.Interval.Finset.Nat
import Sinkhole.Proofs.Resolver.Rotation
import Sinkhole.Resolver.Turnstile

/-!
# Even turns

However the steps of takers are mixed, the lock makes their turns follow each other: they are
what the rotation serves when the takers come one after the other, in the order in which they
were inside. So the places of the turns go around the items. Of consecutive turns, as many as
there are items, each place has one, and of any number of turns each place has its share,
rounded down or up.
-/

namespace Sinkhole

variable {τ α : Type}

/-! ## Going around -/

/-- The places of a number of turns, the first of which is at the first item. -/
def placesAround (size count : Nat) : List Nat :=
  (List.range count).map (· % size)

theorem perm_range_map_mod (start size : Nat) :
    ((List.range' start size).map (· % size)).Perm (List.range size) := by
  have interval : Multiset.Ico start (start + size) =
      (List.range' start (start + size - start) : List Nat) := rfl
  have around := Nat.multiset_Ico_map_mod start size
  rw [interval, Nat.add_sub_cancel_left, Multiset.map_coe] at around
  exact Multiset.coe_eq_coe.mp around

/-- As many consecutive places as there are items are all of them. -/
theorem perm_range_of_infix
    {size count : Nat}
    {window : List Nat}
    (consecutive : window <:+: placesAround size count)
    (length_eq : window.length = size) :
    window.Perm (List.range size) := by
  obtain ⟨turns, ⟨before, after, whole⟩, rfl⟩ := List.infix_map_iff.mp consecutive
  rw [List.range_eq_range', List.append_assoc, eq_comm, List.range'_eq_append_iff] at whole
  obtain ⟨_, _, _, rest⟩ := whole
  obtain ⟨number, _, rfl, _⟩ := List.range'_eq_append_iff.mp rest.symm
  rw [List.length_map, List.length_range'] at length_eq
  subst length_eq
  exact perm_range_map_mod _ number

/-- Each place has its share of the turns, and the first places one more until all are dealt. -/
theorem count_placesAround
    {size place : Nat}
    (inside : place < size)
    (count : Nat) :
    (placesAround size count).count place =
      count / size + if place < count % size then 1 else 0 := by
  have congruent (turn : Nat) : (turn % size == place) = decide (turn ≡ place [MOD size]) := by
    rw [Bool.eq_iff_iff, beq_iff_eq, decide_eq_true_iff, Nat.ModEq, Nat.mod_eq_of_lt inside]
  have counted := Nat.count_modEq_card count (Nat.zero_lt_of_lt inside) place
  rw [Nat.mod_eq_of_lt inside] at counted
  rw [← counted, Nat.count, placesAround, List.count, List.countP_map]
  congr 1
  funext turn
  exact congruent turn

theorem count_placesAround_eq_or
    {size place : Nat}
    (inside : place < size)
    (count : Nat) :
    (placesAround size count).count place = count / size ∨
      (placesAround size count).count place = count ⌈/⌉ size := by
  rw [count_placesAround inside]
  split
  · next early =>
      right
      rw [Nat.ceilDiv_eq_add_pred_div]
      have whole := Nat.div_add_mod count size
      have rest_lt := Nat.mod_lt count (Nat.zero_lt_of_lt inside)
      symm
      apply Nat.div_eq_of_lt_le
      · rw [Nat.succ_mul, Nat.mul_comm]
        omega
      · rw [Nat.succ_mul, Nat.succ_mul, Nat.mul_comm]
        omega
  · left
    rfl

namespace Turnstile

/-! ## What holds throughout a run -/

/-- Who is inside and what has been done there, when the last turn left a rotation behind. -/
inductive Inside (before : Rotation α) : Option (τ × Passage α) → Rotation α → Prop
  | nobody : Inside before none before
  | entered (taker : τ) : Inside before (some (taker, .entered)) before
  | read (taker : τ) :
      Inside before (some (taker, .read before.cursor.val before.current)) before
  | moved (taker : τ) :
      Inside before (some (taker, .moved before.cursor.val before.current)) before.advance

theorem Inside.items_eq
    {before rotation : Rotation α}
    {inside : Option (τ × Passage α)}
    (own : Inside before inside rotation) :
    rotation.items = before.items := by
  cases own <;> rfl

/-- The turns are what the rotation serves to their takers, from places that go around, and
whoever is inside works on the rotation that they left behind. -/
structure InOrder (start before : Rotation α) (turnstile : Turnstile τ α) : Prop where
  served : start.serve (turnstile.turns.map Turn.taker) =
    (turnstile.turns.map fun turn => (turn.taker, turn.item), before)
  places_eq : turnstile.turns.map Turn.place =
    placesAround start.items.size turnstile.turns.length
  inside : Inside before turnstile.inside turnstile.rotation

variable
  {start before : Rotation α}
  {turnstile : Turnstile τ α}

theorem inOrder_start (start : Rotation α) :
    InOrder start start ({ rotation := start } : Turnstile τ α) where
  served := rfl
  places_eq := rfl
  inside := .nobody

namespace InOrder

theorem items_eq (inOrder : InOrder start before turnstile) : before.items = start.items := by
  have kept := Rotation.items_serve (turnstile.turns.map Turn.taker) start
  rwa [inOrder.served] at kept

/-- The next place is as far from the first as there have been turns. -/
theorem cursor_eq
    (inOrder : InOrder start before turnstile)
    (first : start.cursor.val = 0) :
    before.cursor.val = turnstile.turns.length % start.items.size := by
  have moved := Rotation.cursor_serve (turnstile.turns.map Turn.taker) start
  rwa [inOrder.served, first, Nat.zero_add, List.length_map] at moved

end InOrder

/-! ## Even turns -/

/-- The turns of some items are even. -/
structure EvenTurns (items : Array α) (turnstile : Turnstile τ α) : Prop where
  cursor_lt : turnstile.rotation.cursor.val < items.size
  /-- The turns go around, and each hands out the item at its place. -/
  turn_eq : ∀ index turn, turnstile.turns[index]? = some turn →
    turn.place = index % items.size ∧ items[turn.place]? = some turn.item
  /-- As many turns in a row as there are items have every place once. -/
  window : ∀ places, places <:+: turnstile.turns.map Turn.place → places.length = items.size →
    places.Perm (List.range items.size)
  /-- Every place has its share of the turns, rounded down or up. -/
  share : ∀ place < items.size,
    (turnstile.turns.map Turn.place).count place = turnstile.turns.length / items.size ∨
      (turnstile.turns.map Turn.place).count place = turnstile.turns.length ⌈/⌉ items.size

theorem InOrder.even
    (inOrder : InOrder start before turnstile)
    (first : start.cursor.val = 0) :
    EvenTurns start.items turnstile := by
  refine ⟨?_, ?_, ?_, ?_⟩
  · rw [← inOrder.items_eq, ← inOrder.inside.items_eq]
    exact turnstile.rotation.cursor.isLt
  · intro index turn taken
    have place_eq : turn.place = index % start.items.size := by
      have placed : (turnstile.turns.map Turn.place)[index]? = some turn.place := by
        rw [List.getElem?_map, taken, Option.map_some]
      rw [inOrder.places_eq, placesAround, List.getElem?_map] at placed
      obtain ⟨_, ranged, place_eq⟩ := Option.map_eq_some_iff.mp placed
      obtain ⟨_, rfl⟩ := List.getElem?_eq_some_iff.mp ranged
      rw [← place_eq, List.getElem_range]
    have served : (start.serve (turnstile.turns.map Turn.taker)).1[index]? =
        some (turn.taker, turn.item) := by
      rw [inOrder.served, List.getElem?_map, taken, Option.map_some]
    have item := Rotation.getElem?_items_of_serve served
    rw [first, Nat.zero_add] at item
    exact ⟨place_eq, place_eq ▸ item⟩
  · rw [inOrder.places_eq]
    intro places consecutive length_eq
    exact perm_range_of_infix consecutive length_eq
  · rw [inOrder.places_eq]
    intro place inside
    exact count_placesAround_eq_or inside turnstile.turns.length

/-! ## Steps -/

variable [DecidableEq τ]

/-- Who finds somebody else inside waits. -/
theorem step_of_ne
    {taker holder : τ}
    {passage : Passage α}
    (taken : turnstile.inside = some (holder, passage))
    (other : taker ≠ holder) :
    turnstile.step taker = turnstile := by
  simp only [step, taken, if_neg other]

/-- A step keeps the order. Only who leaves completes a turn. -/
theorem InOrder.step
    (inOrder : InOrder start before turnstile)
    (first : start.cursor.val = 0)
    (taker : τ) :
    ∃ after, InOrder start after (turnstile.step taker) := by
  have cursor_eq := inOrder.cursor_eq first
  obtain ⟨rotation, inside, turns⟩ := turnstile
  obtain ⟨served, places_eq, stage⟩ := inOrder
  -- While somebody else is inside nothing happens. Otherwise the taker's own passage decides.
  by_cases waits : ∃ holder passage, inside = some (holder, passage) ∧ taker ≠ holder
  · obtain ⟨holder, passage, taken, other⟩ := waits
    rw [step_of_ne taken other]
    exact ⟨before, served, places_eq, stage⟩
  · have own (holder : τ) (passage : Passage α) (taken : inside = some (holder, passage)) :
        taker = holder := by
      by_contra other
      exact waits ⟨holder, passage, taken, other⟩
    dsimp only at stage
    cases stage with
    | nobody => exact ⟨before, served, places_eq, .entered taker⟩
    | entered holder =>
        obtain rfl := own holder _ rfl
        simp only [Turnstile.step, if_true]
        exact ⟨before, served, places_eq, .read taker⟩
    | read holder =>
        obtain rfl := own holder _ rfl
        simp only [Turnstile.step, if_true]
        exact ⟨before, served, places_eq, .moved taker⟩
    | moved holder =>
        obtain rfl := own holder _ rfl
        simp only [Turnstile.step, if_true]
        refine ⟨before.advance, ?_, ?_, .nobody⟩
        · simp only [List.map_append, List.map_cons, List.map_nil]
          rw [Rotation.serve_append, served]
          rfl
        · simp only at places_eq cursor_eq
          rw [List.map_append, places_eq, List.length_append, placesAround, placesAround,
            List.length_singleton, List.range_succ, List.map_append, cursor_eq]
          rfl

/-- A run keeps the order. -/
theorem InOrder.run
    (inOrder : InOrder start before turnstile)
    (first : start.cursor.val = 0)
    (schedule : List τ) :
    ∃ after, InOrder start after (turnstile.run schedule) := by
  induction schedule generalizing before turnstile with
  | nil => exact ⟨before, inOrder⟩
  | cons taker schedule hypothesis =>
      obtain ⟨after, stepped⟩ := inOrder.step first taker
      exact hypothesis stepped

/-- What has been handed out stays so. -/
theorem prefix_run (turnstile : Turnstile τ α) (further : List τ) :
    turnstile.turns <+: (turnstile.run further).turns := by
  have kept (turnstile : Turnstile τ α) (taker : τ) :
      turnstile.turns <+: (turnstile.step taker).turns := by
    unfold step
    split
    · exact List.prefix_rfl
    · split
      · split
        · exact List.prefix_rfl
        · exact List.prefix_rfl
        · exact List.prefix_append _ _
      · exact List.prefix_rfl
  induction further generalizing turnstile with
  | nil => exact List.prefix_rfl
  | cons taker further hypothesis => exact (kept turnstile taker).trans (hypothesis _)

/-- The lock is never stuck: whoever is inside can leave with the next item, and if nobody is,
any taker can go in and come out with it. -/
theorem exists_next (turnstile : Turnstile τ α) (taker : τ) :
    ∃ further turn, (turnstile.run further).turns = turnstile.turns ++ [turn] ∧
      turn.taker = turnstile.inside.elim taker Prod.fst := by
  obtain ⟨rotation, inside, turns⟩ := turnstile
  let own (holder : τ) : Turn τ α := ⟨holder, rotation.cursor.val, rotation.current⟩
  cases inside with
  | none => exact ⟨[taker, taker, taker, taker], own taker, by simp [step, own]⟩
  | some occupied =>
      obtain ⟨holder, passage⟩ := occupied
      cases passage with
      | entered => exact ⟨[holder, holder, holder], own holder, by simp [step, own]⟩
      | read place item => exact ⟨[holder, holder], ⟨holder, place, item⟩, by simp [step]⟩
      | moved place item => exact ⟨[holder], ⟨holder, place, item⟩, by simp [step]⟩

/-- Turns at a rotation of some items are even, however the steps of the takers are mixed: they
are those of takers who come one after the other, and there is always a next one, which is at
the place whose turn it is. -/
theorem turns_are_even
    {items : Array α}
    (nonempty : 0 < items.size) :
    ∃ start, Rotation.ofArray? items = some start ∧
      ∀ schedule : List τ,
        let turnstile := run { rotation := start } schedule
        let count := turnstile.turns.length
        turnstile.EvenTurns items ∧
          (start.serve (turnstile.turns.map Turn.taker)).1 =
            turnstile.turns.map (fun turn => (turn.taker, turn.item)) ∧
          (∀ further, turnstile.turns <+: (turnstile.run further).turns ∧
            ∀ turn, (turnstile.run further).turns[count]? = some turn →
              turn.place = count % items.size ∧ items[count % items.size]? = some turn.item) ∧
          ∀ taker, ∃ further turn, (turnstile.run further).turns = turnstile.turns ++ [turn] ∧
            turn.taker = turnstile.inside.elim taker Prod.fst := by
  refine ⟨⟨items, ⟨0, nonempty⟩⟩, dif_pos nonempty, ?_⟩
  intro schedule turnstile count
  have run_even (longer : List τ) :
      ∃ after, InOrder ⟨items, ⟨0, nonempty⟩⟩ after (turnstile.run longer) ∧
        EvenTurns items (turnstile.run longer) := by
    obtain ⟨after, inOrder⟩ := (inOrder_start ⟨items, ⟨0, nonempty⟩⟩).run rfl (schedule ++ longer)
    rw [run_append] at inOrder
    exact ⟨after, inOrder, inOrder.even rfl⟩
  obtain ⟨after, inOrder, even⟩ := run_even []
  refine ⟨even, congrArg Prod.fst inOrder.served, ?_, turnstile.exists_next⟩
  intro further
  refine ⟨prefix_run turnstile further, ?_⟩
  intro turn taken
  obtain ⟨_, _, later⟩ := run_even further
  obtain ⟨place_eq, item_eq⟩ := later.turn_eq count turn taken
  exact ⟨place_eq, place_eq ▸ item_eq⟩

/-- Two takers and three items, two of which are the same: the second taker is kept waiting in
the middle of a turn, and another turn is not finished. -/
theorem turns_are_even_contended :
    let items := #["a", "b", "a"]
    let start : Rotation String := ⟨items, ⟨0, by decide⟩⟩
    let schedule := [true, false, true, true, false, true, false, false, false, false, true,
      true, true, true, false, false, true]
    let turnstile : Turnstile Bool String := run { rotation := start } schedule
    0 < items.size ∧ Rotation.ofArray? items = some start ∧
      turnstile.turns.map Turn.item = ["a", "b", "a"] ∧ turnstile.EvenTurns items ∧
      ∀ further turn, (turnstile.run further).turns[3]? = some turn →
        turn.place = 0 ∧ turn.item = "a" := by
  intro items start schedule turnstile
  have nonempty : 0 < items.size := by decide
  obtain ⟨made, made_eq, runs⟩ := @turns_are_even Bool _ _ items nonempty
  obtain rfl : start = made := Option.some.inj ((dif_pos nonempty).symm.trans made_eq)
  obtain ⟨even, _, next, _⟩ := runs schedule
  refine ⟨nonempty, made_eq, by decide, even, ?_⟩
  intro further turn taken
  have count : 3 = turnstile.turns.length := by decide
  rw [count] at taken
  obtain ⟨place_eq, item_eq⟩ := (next further).2 turn taken
  have around : turnstile.turns.length % items.size = 0 := by decide
  rw [around] at place_eq item_eq
  exact ⟨place_eq, (Option.some.inj item_eq).symm⟩

end Turnstile
end Sinkhole
