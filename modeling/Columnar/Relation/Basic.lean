import Columnar.Column
import Columnar.Run

/-!
# Relations

A relation is a named, ordered list of columns.  Columns are looked up by name, and
where a name is repeated the first column wins.

The columns are meant to have equal lengths (`Relation.Rectangular`), and every
operation on whole relations keeps that.  Appending to a single column breaks it; the
number of rows is then that of the first column, and reading a missing cell of another
one is a fault.

## Main definitions

* `Relation`, `Relation.ofColumns` — relations, from columns of equal length.
* `Relation.Rectangular` — the columns have equal lengths.
* `Relation.column?`, `Relation.position?` — look-up by name.
* `Relation.row?`, `Relation.rows` — the rows, as lists of values.
* `Relation.insert` — appends a row, checked in full before any column is touched.
* `Relation.gatherRows` — the rows at given positions.
-/

namespace Columnar

/-- A named list of columns. -/
structure Relation where
  /-- The name, for messages, and under which the relation is registered. -/
  name : String
  /-- The columns, in order. -/
  columns : List Column

namespace Relation

/-! ### Construction and shape -/

/-- A relation without rows. -/
def empty (name : String) (schema : List Signature) : Relation :=
  ⟨name, schema.map .empty⟩

/-- A relation from columns, which must all be as long as the first. -/
def ofColumns (name : String) (columns : List Column) : Except Error Relation :=
  match columns with
  | [] => .ok ⟨name, columns⟩
  | first :: _ =>
    match columns.find? fun column => column.size != first.size with
    | some odd => .error (.columnLength odd.name first.size odd.size)
    | none => .ok ⟨name, columns⟩

/-- The names and types of the columns. -/
def schema (r : Relation) : List Signature := r.columns.map Column.signature

/-- The names of the columns. -/
def header (r : Relation) : List String := r.columns.map Column.name

/-- The number of rows: that of the first column, and none without columns. -/
def rowCount (r : Relation) : Nat :=
  match r.columns with
  | [] => 0
  | first :: _ => first.size

/-- The number of columns. -/
def columnCount (r : Relation) : Nat := r.columns.length

/-- All columns have as many rows as the relation. -/
def Rectangular (r : Relation) : Prop := ∀ column ∈ r.columns, column.size = r.rowCount

instance (r : Relation) : Decidable r.Rectangular :=
  inferInstanceAs (Decidable (∀ column ∈ r.columns, _))

/-! ### Look-up by name -/

/-- The first column of a given name. -/
def column? (r : Relation) (name : String) : Option Column :=
  r.columns.find? fun column => column.name == name

/-- The position of the first column of a given name. -/
def position? (r : Relation) (name : String) : Option Nat :=
  r.columns.findIdx? fun column => column.name == name

/-- The position and the first column of a given name, which must exist. -/
def resolve (r : Relation) (name : String) : Except Error (Nat × Column) :=
  match r.position? name, r.column? name with
  | some position, some column => .ok (position, column)
  | _, _ => .error (.unknownColumn r.name name)

/-- Changes the first column of a given name. -/
def updateColumn (r : Relation) (name : String) (f : Column → Column) : Relation :=
  match r.position? name with
  | some position => { r with columns := r.columns.modify position f }
  | none => r

/-! ### Rows -/

/-- The cells of a row; none if the row is beyond the relation or beyond any column. -/
def row? (r : Relation) (row : Nat) : Option (List Value) :=
  if row < r.rowCount then r.columns.mapM (·.get? row) else none

/-- The cells of a row that is expected to be in range. -/
def rowAt (r : Relation) (row : Nat) : Except Fault (List Value) :=
  r.columns.mapM (·.cellAt row)

/-- All rows, in order. -/
def rows (r : Relation) : Except Fault (List (List Value)) :=
  (List.range r.rowCount).mapM r.rowAt

/-- The columns restricted to the rows at given positions. -/
def gatherColumns (r : Relation) (rows : List Nat) : Except Fault (List Column) :=
  r.columns.mapM (·.take rows)

/-- A relation of the same columns with the rows at given positions. -/
def gatherRows (r : Relation) (name : String) (rows : List Nat) : Except Fault Relation :=
  (r.gatherColumns rows).map (⟨name, ·⟩)

/-! ### Appending a row -/

/-- The leftmost column whose value has another type than its cells. -/
def firstMismatch : List Column → List Value → Option (Column × Value)
  | column :: columns, value :: values =>
    if value.type = column.type then firstMismatch columns values else some (column, value)
  | _, _ => none

/-- Appends each value to its column, from the left.  Stops at a value that its column
does not take, the columns before it having grown. -/
def pushRow : List Column → List Value → Step (List Column) Unit
  | column :: columns, value :: values =>
    match column.push value with
    | .ok grown => (pushRow columns values).within (grown :: ·)
    | .error e => .ask (column :: columns) (.refuse e)
  | columns, _ => .ask columns (pure ())

/-- Appends a row.  The number of values and their types are checked before any column
is touched. -/
def insert (r : Relation) (row : List Value) : Step Relation Unit :=
  if row.length ≠ r.columnCount then
    .ask r (.refuse (.rowLength r.columnCount row.length))
  else
    match firstMismatch r.columns row with
    | some (column, value) =>
      .ask r (.refuse (.valueTypeMismatch column.name column.type value.type))
    | none => (pushRow r.columns row).within fun columns => { r with columns }

end Relation

end Columnar
