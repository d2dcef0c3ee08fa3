import Sinkhole.Toml.Statement

/-!
# Documents

The statements of a document build one table. An entry belongs to the table that the
last header before it opened.
-/

namespace Sinkhole
namespace Toml

/-- A document that is being built: its table and the path to the open one. -/
structure Draft where
  table : Table := { origin := .header }
  path : List String := []

/-- The document after one more statement. -/
def Draft.apply (draft : Draft) : Statement → Option Draft
  | .header key => do
      let table ← draft.table.openTable key
      pure { table, path := key.parents ++ [key.last] }
  | .arrayHeader key => do
      let table ← draft.table.openElement key
      pure { table, path := key.parents ++ [key.last] }
  | .entry key value => do
      let table ← draft.table.changeAt .header (Table.addEntry key value) draft.path
      pure { draft with table }

/-- The table of a document, if it is one. -/
def parse? (text : String) : Option Table := do
  let statements ← statements? text
  let draft ← statements.foldlM Draft.apply {}
  pure draft.table

end Toml
end Sinkhole
