import Sinkhole.Resolver.Rotation

/-!
# Turns in order

However many takers come to a rotation, and in whatever order, the turns follow each other
around the items: each one is at the place of the cursor moved on by the number of turns
before it. What a rotation does for a schedule it does for one part after the other.
-/

namespace Sinkhole.Rotation

variable {α τ : Type}

/-- A rotation made from items has all of them and starts at the first. -/
theorem exists_of_ofArray?_eq_some
    {items : Array α}
    {rotation : Rotation α}
    (made : ofArray? items = some rotation) :
    rotation.items = items ∧ rotation.cursor.val = 0 := by
  unfold ofArray? at made
  split at made
  · cases made
    exact ⟨rfl, rfl⟩
  · cases made

theorem serve_append
    (schedule further : List τ)
    (rotation : Rotation α) :
    serve (schedule ++ further) rotation =
      ((serve schedule rotation).1 ++ (serve further (serve schedule rotation).2).1,
        (serve further (serve schedule rotation).2).2) := by
  induction schedule generalizing rotation with
  | nil => rfl
  | cons taker schedule hypothesis =>
      rw [List.cons_append, serve_cons, hypothesis]
      rfl

@[simp] theorem items_serve (schedule : List τ) (rotation : Rotation α) :
    (serve schedule rotation).2.items = rotation.items := by
  induction schedule generalizing rotation with
  | nil => rfl
  | cons taker schedule hypothesis =>
      rw [serve_cons]
      exact hypothesis rotation.advance

/-- The cursor moves on by the number of turns. -/
theorem cursor_serve (schedule : List τ) (rotation : Rotation α) :
    (serve schedule rotation).2.cursor.val =
      (rotation.cursor.val + schedule.length) % rotation.items.size := by
  induction schedule generalizing rotation with
  | nil => exact (Nat.mod_eq_of_lt rotation.cursor.isLt).symm
  | cons taker schedule hypothesis =>
      rw [serve_cons]
      calc
        (serve schedule rotation.advance).2.cursor.val =
            (rotation.advance.cursor.val + schedule.length) % rotation.items.size :=
          hypothesis rotation.advance
        _ = (rotation.cursor.val + (taker :: schedule).length) % rotation.items.size := by
          rw [advance_cursor, Nat.mod_add_mod, List.length_cons]
          congr 1
          omega

@[simp] theorem length_serve (schedule : List τ) (rotation : Rotation α) :
    (serve schedule rotation).1.length = schedule.length := by
  induction schedule generalizing rotation with
  | nil => rfl
  | cons taker schedule hypothesis =>
      rw [serve_cons, List.length_cons, List.length_cons, hypothesis]

/-- The turn at a position goes to the item that is as far from the cursor. -/
theorem getElem?_items_of_serve
    {schedule : List τ}
    {rotation : Rotation α}
    {position : Nat}
    {turn : τ × α}
    (served : (serve schedule rotation).1[position]? = some turn) :
    rotation.items[(rotation.cursor.val + position) % rotation.items.size]? = some turn.2 := by
  induction schedule generalizing rotation position with
  | nil => cases served
  | cons taker schedule hypothesis =>
      rw [serve_cons] at served
      cases position with
      | zero =>
          cases served
          rw [Nat.add_zero, Nat.mod_eq_of_lt rotation.cursor.isLt]
          exact Array.getElem?_eq_getElem rotation.cursor.isLt
      | succ position =>
          have moved :
              rotation.items[(rotation.advance.cursor.val + position) % rotation.items.size]? =
                some turn.2 :=
            hypothesis served
          rw [advance_cursor, Nat.mod_add_mod] at moved
          rwa [Nat.add_comm position 1, ← Nat.add_assoc]

/-- As long as no item has had its turn twice, items are handed out in their order. -/
theorem take_eq_take_items
    {items : Array α}
    {rotation : Rotation α}
    {count : Nat}
    (made : ofArray? items = some rotation)
    (enough : count ≤ items.size) :
    (rotation.take count).1 = items.toList.take count := by
  obtain ⟨rfl, cursor_eq⟩ := exists_of_ofArray?_eq_some made
  have length_eq : (serve (List.replicate count ()) rotation).1.length = count := by
    rw [length_serve, List.length_replicate]
  refine List.ext_getElem ?_ fun position picked inside => ?_
  · rw [take, List.length_map, length_eq, List.length_take, Array.length_toList,
      Nat.min_eq_left enough]
  · have before : position < count := by
      rw [List.length_take] at inside
      exact Nat.lt_of_lt_of_le inside (Nat.min_le_left _ _)
    have turn := getElem?_items_of_serve
      (List.getElem?_eq_getElem (by rwa [length_eq]))
    rw [cursor_eq, Nat.zero_add, Nat.mod_eq_of_lt (Nat.lt_of_lt_of_le before enough)] at turn
    obtain ⟨_, item_eq⟩ := Array.getElem?_eq_some_iff.mp turn
    simp only [take, List.getElem_map, List.getElem_take, Array.getElem_toList, item_eq]

end Sinkhole.Rotation
