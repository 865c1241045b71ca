import Columnar.Index

/-!
# Columns

A column is a name, the cells under it, and possibly an index over them.  Appending a
cell leaves the index alone, which then covers only the rows it was built over; taking
rows out of a column gives a column without one.

## Main definitions

* `Signature` — the name and type of a column.
* `Column` — a column; its cells have the type that its signature declares.
* `Column.push` — appends a value of the right type.
* `Column.cellAt` — the cell that must be at a position.
* `Column.buildIndex`, `Column.lookup` — search through an index.
* `Column.take` — the rows at given positions, as a column of their own.
-/

namespace Columnar

/-- The name and type of a column. -/
structure Signature where
  /-- The name, by which columns are looked up. -/
  name : String
  /-- The type of the cells. -/
  type : DataType
  deriving DecidableEq, Repr

/-- A column of a relation. -/
structure Column where
  /-- The name, by which the column is looked up, and the declared type. -/
  signature : Signature
  /-- The cells, in row order. -/
  cells : Cells
  /-- The index, if one was built. -/
  index : Option Index
  /-- The cells have the declared type. -/
  type_cells : cells.type = signature.type

namespace Column

/-- The name, by which the column is looked up. -/
def name (column : Column) : String := column.signature.name

/-- The declared type. -/
def type (column : Column) : DataType := column.signature.type

/-- A column over given cells, without an index.  Its type is that of the cells. -/
def ofCells (name : String) (cells : Cells) : Column where
  signature := ⟨name, cells.type⟩
  cells := cells
  index := none
  type_cells := rfl

/-- A column without rows. -/
def empty (signature : Signature) : Column := ofCells signature.name (.empty signature.type)

/-- The number of rows. -/
def size (column : Column) : Nat := column.cells.size

/-- The cell at a position, if there is one. -/
def get? (column : Column) (row : Nat) : Option Value := column.cells.get? row

/-- The cell at a position that is expected to be in range. -/
def cellAt (column : Column) (row : Nat) : Except Fault Value :=
  match column.get? row with
  | some value => .ok value
  | none => .error (.rowOutOfRange row column.name column.size)

/-- Appends a value.  The index, if there is one, does not learn of it. -/
def push (column : Column) (value : Value) : Except Error Column :=
  match h : column.cells.push? value with
  | some cells =>
    .ok { column with cells, type_cells := (Cells.type_push? h).trans column.type_cells }
  | none => .error (.valueTypeMismatch column.name column.type value.type)

/-- Whether the column has an index. -/
def isIndexed (column : Column) : Bool := column.index.isSome

/-- The column with an index, and whether it had to be built.  An index that is there
is kept, even if rows were appended since. -/
def buildIndex (column : Column) : Bool × Column :=
  match column.index with
  | some _ => (false, column)
  | none => (true, { column with index := some (.build column.cells) })

/-- The rows that hold a value, by the index; none without one. -/
def lookup (column : Column) (key : Value) : List Nat :=
  match column.index with
  | some index => index.lookup key
  | none => []

/-- The rows at the given positions, as a column without an index. -/
def take (column : Column) (rows : List Nat) : Except Fault Column :=
  match h : column.cells.take rows with
  | .ok cells =>
    .ok ⟨column.signature, cells, none, (Cells.type_take h).trans column.type_cells⟩
  | .error f => .error f

/-- The same column under another name. -/
def rename (column : Column) (name : String) : Column :=
  { column with signature := ⟨name, column.type⟩ }

/-! ### What the operations leave in place -/

@[simp] theorem name_ofCells (name : String) (cells : Cells) :
    (ofCells name cells).name = name := rfl

@[simp] theorem type_ofCells (name : String) (cells : Cells) :
    (ofCells name cells).type = cells.type := rfl

@[simp] theorem size_ofCells (name : String) (cells : Cells) :
    (ofCells name cells).size = cells.size := rfl

@[simp] theorem cells_buildIndex (column : Column) :
    column.buildIndex.2.cells = column.cells := by
  unfold buildIndex
  split <;> rfl

@[simp] theorem signature_buildIndex (column : Column) :
    column.buildIndex.2.signature = column.signature := by
  unfold buildIndex
  split <;> rfl

@[simp] theorem cells_rename (column : Column) (name : String) :
    (column.rename name).cells = column.cells := rfl

@[simp] theorem index_rename (column : Column) (name : String) :
    (column.rename name).index = column.index := rfl

end Column

end Columnar
