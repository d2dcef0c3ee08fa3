import Sinkhole.Toml.Value

/-!
# Building tables

Entries and headers are put into a table at the end of a path. A table on the way is
made if it is not there. What may be changed depends on how a table came about: a
header may complete a table that other headers implied, dotted keys may add to a
table that dotted keys made, a table between braces is closed, and in an array of
tables the last one counts.
-/

namespace Sinkhole
namespace Toml

/-- A key: the tables on the way and the last part. -/
structure Key where
  parents : List String
  last : String
  deriving DecidableEq

/-- A table by itself. -/
structure Table where
  origin : Origin
  entries : Entries := []

/-- A way on from one table to the next: headers and dotted keys differ in the tables
that they make and in those that they may enter. -/
inductive Route
  | header
  | dotted
  deriving DecidableEq

/-- The origin of the tables that a route makes. -/
def Route.origin : Route → Origin
  | .header => .implied
  | .dotted => .dotted

/-- Whether a route may enter a table. -/
def Route.mayEnter : Route → Origin → Bool
  | _, .inline => false
  | _, .implied | _, .dotted => true
  | .header, .header => true
  | .dotted, .header => false

namespace Table

/-- A table as a value. -/
def value (table : Table) : Value :=
  .table table.origin table.entries

/-- The value under a key. -/
def find? (table : Table) (key : String) : Option Value :=
  table.entries.lookup key

/-- Put a value under a key, in place of the one that is there. -/
def put (table : Table) (key : String) (value : Value) : Table :=
  let others := table.entries.filter fun entry => entry.1 != key
  { table with entries := others ++ [(key, value)] }

/-- Change the table at the end of a path, and with it those on the way. -/
def changeAt
    (route : Route)
    (change : Table → Option Table) :
    List String → Table → Option Table
  | [], table => change table
  | key :: path, table =>
      match table.find? key with
      | none => do
          let inner ← changeAt route change path { origin := route.origin }
          pure (table.put key inner.value)
      | some (.table origin entries) =>
          if route.mayEnter origin then do
            let inner ← changeAt route change path { origin, entries }
            pure (table.put key inner.value)
          else none
      | some (.array true elements) =>
          match elements.getLast? with
          | some (.table origin entries) => do
              let inner ← changeAt route change path { origin, entries }
              pure (table.put key (.array true (elements.dropLast ++ [inner.value])))
          | _ => none
      | some _ => none

/-- Add an entry to the table that it belongs to, which a dotted key has to have
made. -/
def addEntry (key : Key) (value : Value) (table : Table) : Option Table :=
  changeAt .dotted
    (fun inner =>
      if !key.parents.isEmpty && inner.origin != .dotted then none
      else if (inner.find? key.last).isSome then none
      else some (inner.put key.last value))
    key.parents table

/-- The table between braces that has the given entries. -/
def ofEntries? (entries : List (Key × Value)) : Option Table :=
  entries.foldlM (fun table (key, value) => table.addEntry key value) { origin := .inline }

/-- Open the table of a header. -/
def openTable (key : Key) (table : Table) : Option Table :=
  changeAt .header
    (fun inner =>
      match inner.find? key.last with
      | none => some (inner.put key.last (.table .header []))
      | some (.table .implied entries) => some (inner.put key.last (.table .header entries))
      | some _ => none)
    key.parents table

/-- Open one more table of an array of tables. -/
def openElement (key : Key) (table : Table) : Option Table :=
  changeAt .header
    (fun inner =>
      match inner.find? key.last with
      | none => some (inner.put key.last (.array true [.table .header []]))
      | some (.array true elements) =>
          some (inner.put key.last (.array true (elements ++ [.table .header []])))
      | some _ => none)
    key.parents table

end Table
end Toml
end Sinkhole
