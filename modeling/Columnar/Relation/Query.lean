import Columnar.Relation.Basic

/-!
# Queries on one relation

Projection, selection and search by index.  Each gives a relation of its own and
leaves its source alone, except that a search builds the index it needs.

## Main definitions

* `Relation.project`, `Relation.scan` — the columns of given names, in that order.
* `Relation.select` — the rows whose cell satisfies a comparison, in order.
* `Relation.makeIndex` — builds the index on a column if there is none.
* `Relation.indexScan` — the rows that hold a key, found through the index.
-/

namespace Columnar

namespace Relation

/-! ### Projection -/

/-- The columns of the given names, in the order of the names.  An unknown name is left
out and a repeated name repeats its column; indexes are kept. -/
def project (r : Relation) (names : List String) : Relation :=
  ⟨s!"scan of {r.name}", names.filterMap r.column?⟩

/-- Projection, with a report of every name that was left out. -/
def scan (r : Relation) (names : List String) : Run Relation where
  events := (names.filter fun name => (r.column? name).isNone).map (.columnSkipped r.name)
  outcome := .ok (r.project names)

/-! ### Selection -/

/-- The rows for which `cell OP value` holds in the given column, in row order. -/
def select (r : Relation) (column : String) (op : Comparison) (value : Value) :
    Run Relation := do
  let (_, source) ← r.resolve column
  match source.cells.mask? op value with
  | none => .refuse (.valueTypeMismatch column source.type value.type)
  | some mask => do
    let rows := hits mask
    .report (.rowsSelected r.name column op value rows.length r.rowCount)
    r.gatherRows s!"select from {r.name}" rows

/-! ### Search by index -/

/-- Builds the index on a column if it has none, and answers whether it did. -/
def makeIndex (r : Relation) (column : String) : Step Relation Bool :=
  match r.resolve column with
  | .error e => .ask r (.refuse e)
  | .ok (position, source) =>
    match source.buildIndex with
    | (false, _) => .ask r (pure false)
    | (true, indexed) =>
      ⟨do .report (.indexBuilt r.name column); pure true,
        { r with columns := r.columns.set position indexed }⟩

/-- The rows whose cell equals the key, found through the index on the column, which is
built first if there is none.  A key of another type than the column finds nothing. -/
def indexScan (r : Relation) (column : String) (key : Value) : Step Relation Relation :=
  (r.makeIndex column).andThen fun _ r => .ask r do
    let (_, source) ← r.resolve column
    r.gatherRows s!"index scan on {r.name}" (source.lookup key)

end Relation

end Columnar
