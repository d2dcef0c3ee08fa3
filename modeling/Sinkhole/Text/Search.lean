/-!
# Binary search

A table in ascending order is searched by comparing what is wanted with the row in
the middle of what is left of it.
-/

namespace Sinkhole
namespace Text

/-- Search the rows numbered from `low` and below `high`. The comparison says whether
what is wanted comes before a row, is in it, or comes after it. -/
def searchBetween
    {α : Type}
    (compare : α → Ordering)
    (rows : Array α)
    (low high : Nat) :
    Option α :=
  if low < high then
    let middle := (low + high) / 2
    match rows[middle]? with
    | none => none
    | some row =>
        match compare row with
        | .lt => searchBetween compare rows low middle
        | .gt => searchBetween compare rows (middle + 1) high
        | .eq => some row
  else
    none
termination_by high - low

/-- Search a table. -/
def search? {α : Type} (compare : α → Ordering) (rows : Array α) : Option α :=
  searchBetween compare rows 0 rows.size

/-- How a code point lies to a closed range. -/
def comparePoint (code first last : Nat) : Ordering :=
  if code < first then .lt else if last < code then .gt else .eq

end Text
end Sinkhole
