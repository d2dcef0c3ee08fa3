/-!
# Taking turns

A rotation hands out the items of a nonempty array in order and starts again after
the last. Its state is a cursor on the item whose turn is next. Several takers may
share one rotation; the order in which they come is a schedule.
-/

namespace Sinkhole

/-- Items that are handed out in turn, and a cursor on the next. -/
structure Rotation (α : Type) where
  items : Array α
  cursor : Fin items.size

namespace Rotation

variable {α τ : Type}

/-- A rotation that starts at the first item, if there is one. -/
def ofArray? (items : Array α) : Option (Rotation α) :=
  if nonempty : 0 < items.size then some { items, cursor := ⟨0, nonempty⟩ } else none

/-- The report of an attempt to rotate nothing. -/
def needsItems : String :=
  "round robin needs at least one item"

/-- The number of items. -/
def size (rotation : Rotation α) : Nat :=
  rotation.items.size

/-- The item whose turn it is. -/
def current (rotation : Rotation α) : α :=
  rotation.items[rotation.cursor]

/-- The rotation after the current item has had its turn. -/
def advance (rotation : Rotation α) : Rotation α :=
  { items := rotation.items
    cursor :=
      ⟨(rotation.cursor.val + 1) % rotation.items.size,
        Nat.mod_lt _ (Nat.zero_lt_of_lt rotation.cursor.isLt)⟩ }

/-- Hand out the item whose turn it is. -/
def next (rotation : Rotation α) : α × Rotation α :=
  (rotation.current, rotation.advance)

/-- Hand out an item to each taker of a schedule. -/
def serve : List τ → Rotation α → List (τ × α) × Rotation α
  | [], rotation => ([], rotation)
  | taker :: schedule, rotation =>
      let (item, rotation) := rotation.next
      let (picked, rotation) := serve schedule rotation
      ((taker, item) :: picked, rotation)

/-- Hand out a number of items. -/
def take (count : Nat) (rotation : Rotation α) : List α × Rotation α :=
  let (picked, rotation) := serve (List.replicate count ()) rotation
  (picked.map Prod.snd, rotation)

@[simp] theorem advance_items (rotation : Rotation α) :
    rotation.advance.items = rotation.items :=
  rfl

@[simp] theorem advance_cursor (rotation : Rotation α) :
    rotation.advance.cursor.val = (rotation.cursor.val + 1) % rotation.items.size :=
  rfl

@[simp] theorem serve_nil (rotation : Rotation α) :
    serve ([] : List τ) rotation = ([], rotation) :=
  rfl

@[simp] theorem serve_cons
    (taker : τ)
    (schedule : List τ)
    (rotation : Rotation α) :
    serve (taker :: schedule) rotation =
      ((taker, rotation.current) :: (serve schedule rotation.advance).1,
        (serve schedule rotation.advance).2) :=
  rfl

end Rotation
end Sinkhole
