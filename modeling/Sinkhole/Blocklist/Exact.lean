import Std.Data.HashSet
import Sinkhole.Blocklist.Pattern

/-!
# Exact names

A set of names that are blocked as they are written. Names are kept in canonical
form, so neither letter case nor a trailing dot distinguishes them.
-/

namespace Sinkhole

/-- A set of names in canonical form. -/
structure ExactSet where
  names : Std.HashSet String := {}

namespace ExactSet

/-- Add a name. Any text is taken. -/
def insert (set : ExactSet) (name : String) : ExactSet :=
  ⟨set.names.insert (Pattern.canonical name)⟩

/-- Whether a name is in the set. -/
def contains (set : ExactSet) (name : String) : Bool :=
  set.names.contains (Pattern.canonical name)

/-- The number of names. -/
def size (set : ExactSet) : Nat :=
  set.names.size

/-- The set without names contains none. -/
@[simp] theorem contains_empty (name : String) :
    ({} : ExactSet).contains name = false := by
  simp [contains]

/-- A name is found after an insertion when it was there before or has the
canonical form of the inserted name. -/
@[simp] theorem contains_insert (set : ExactSet) (inserted name : String) :
    (set.insert inserted).contains name =
      (Pattern.canonical inserted == Pattern.canonical name || set.contains name) := by
  simp [contains, insert, Std.HashSet.contains_insert]

end ExactSet
end Sinkhole
