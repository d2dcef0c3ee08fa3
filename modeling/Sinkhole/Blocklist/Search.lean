import Sinkhole.Blocklist.Trie

/-!
# Searching a row

The branches of a node are kept in a row, in ascending order of their labels. So a branch can
be found by halving the row again and again, and so can the place at which a missing one
belongs.
-/

namespace Sinkhole

namespace Search

variable {α : Type} (order : α → Ordering) (items : Array α)

/-- Halve a stretch of a row until one place is left. The middle begins the half that is kept,
unless its item comes too late. -/
def narrow
    (base : Fin items.size)
    (size : Nat)
    (within : base + size ≤ items.size) :
    Fin items.size :=
  if several : 1 < size then
    let middle : Fin items.size := ⟨base + size / 2, by omega⟩
    if order items[middle] = .gt then
      narrow base (size - size / 2) (by omega)
    else
      narrow middle (size - size / 2) (by simp only [middle]; omega)
  else
    base
  termination_by size

/-- The place of an item that comes neither too early nor too late, or the place at which it
would have to be put. -/
def place : Except Nat (Fin items.size) :=
  if nonempty : 0 < items.size then
    let last := narrow order items ⟨0, nonempty⟩ items.size (by simp)
    match order items[last] with
    | .eq => .ok last
    | .lt => .error (last + 1)
    | .gt => .error last
  else
    .error 0

end Search

namespace Branches

/-- The branches in a row, each with its label and the node at its end. -/
def entries : Branches → List (String × Node)
  | .none => []
  | .branch label marked below others => (label, { marked, below }) :: others.entries

/-- The place of a label in the row, or where it belongs. -/
def place (branches : Branches) (label : String) :
    Except Nat (Fin branches.entries.toArray.size) :=
  Search.place (fun entry => compare entry.1 label) branches.entries.toArray

/-- The node at the end of the branch with a label, found by halving the row. -/
def child (branches : Branches) (label : String) : Option Node :=
  match branches.place label with
  | .ok place => some branches.entries.toArray[place].2
  | .error _ => Option.none

/-- The row after a change to the node at the end of the branch with a label. If there is no
such branch, one with a new node is put where it belongs. -/
def entriesWith
    (branches : Branches)
    (label : String)
    (change : Node → Node) :
    List (String × Node) :=
  match branches.place label with
  | .ok place =>
      branches.entries.set place (label, change branches.entries.toArray[place].2)
  | .error place => branches.entries.insertIdx place (label, change {})

end Branches
end Sinkhole
