import Columnar.Relation.Basic
import Columnar.Table

/-!
# Relations as tables

A relation is shown as a table of its column names and rows.

## Main definitions

* `Relation.table` — the names and the texts of the cells.
* `Relation.render` — the drawn table.
-/

namespace Columnar

namespace Relation

/-- The column names and the texts of the cells.  A missing cell is a fault. -/
def table (r : Relation) : Except Fault Table :=
  r.rows.map fun rows => ⟨r.header, rows.map (·.map Value.display)⟩

/-- The relation drawn as a table.  That there are no columns to draw is reported. -/
def render (r : Relation) : Run String := do
  if r.columns.isEmpty then
    .report (.emptyTable r.name)
  let table ← r.table
  pure table.render

end Relation

end Columnar
