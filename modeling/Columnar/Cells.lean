import Columnar.Positions

/-!
# The cells of a column

The storage of a column: a contiguous array of cells of one type.  The type of a
column is the type of its storage, so the two cannot disagree.

`Cells.toList` is the view under which the operations are described: the cells as
values, from the first row to the last.

## Main definitions

* `Cells` — the storage, one array type for each type of cell.
* `Cells.get?`, `Cells.push?` — reading and appending one cell.
* `Cells.take` — the cells at given positions.
* `Cells.mask?` — which cells satisfy a comparison with a value.
-/

namespace Columnar

/-! ### Cells -/

/-- The cells of a column. -/
inductive Cells where
  /-- Integer cells. -/
  | int (values : Array Int64)
  /-- Float cells. -/
  | float (values : Array Binary64)
  /-- Text cells. -/
  | text (values : Array String)
  deriving DecidableEq, Repr

namespace Cells

/-- No cells, of the given type. -/
def empty : DataType → Cells
  | .int => .int #[]
  | .float => .float #[]
  | .text => .text #[]

/-- The type of the cells. -/
def type : Cells → DataType
  | .int _ => .int
  | .float _ => .float
  | .text _ => .text

/-- The number of cells. -/
def size : Cells → Nat
  | .int values => values.size
  | .float values => values.size
  | .text values => values.size

/-- Whether there are no cells. -/
def isEmpty (cells : Cells) : Bool := cells.size == 0

/-- The cells as values, in row order. -/
def toList : Cells → List Value
  | .int values => values.toList.map .int
  | .float values => values.toList.map .float
  | .text values => values.toList.map .text

/-- The cell at a position. -/
def get? : Cells → Nat → Option Value
  | .int values, row => values[row]?.map .int
  | .float values, row => values[row]?.map .float
  | .text values, row => values[row]?.map .text

/-- The cells with a value appended; none if it has another type. -/
def push? : Cells → Value → Option Cells
  | .int values, .int value => some (.int (values.push value))
  | .float values, .float value => some (.float (values.push value))
  | .text values, .text value => some (.text (values.push value))
  | _, _ => none

/-- The cells at the given positions, in the order of the positions, which may repeat. -/
def take : Cells → List Nat → Except Fault Cells
  | .int values, rows => (gather values rows).map fun taken => .int taken.toArray
  | .float values, rows => (gather values rows).map fun taken => .float taken.toArray
  | .text values, rows => (gather values rows).map fun taken => .text taken.toArray

/-- The first `n` cells. -/
def firstRows : Cells → Nat → Cells
  | .int values, n => .int (values.extract 0 n)
  | .float values, n => .float (values.extract 0 n)
  | .text values, n => .text (values.extract 0 n)

/-- For every cell in row order, whether `cell OP bound` holds; none if the bound has
another type than the cells. -/
def mask? (op : Comparison) : Cells → Value → Option (List Bool)
  | .int values, .int bound => some (values.toList.map (op.holds · bound))
  | .float values, .float bound => some (values.toList.map (op.holds · bound))
  | .text values, .text bound => some (values.toList.map (op.holds · bound))
  | _, _ => none

/-- Whether two columns hold natively equal cells in the same order.  A column with a NaN
is not even equal to itself. -/
def same (x y : Cells) : Bool :=
  x.type == y.type && x.size == y.size && (x.toList.zip y.toList).all fun (a, b) => a.same b

/-! ### The cells as a list -/

@[simp] theorem length_toList (cells : Cells) : cells.toList.length = cells.size := by
  cases cells <;> simp [toList, size]

theorem get?_eq_getElem? (cells : Cells) (row : Nat) : cells.get? row = cells.toList[row]? := by
  cases cells <;> simp [get?, toList]

theorem toList_push? {cells taken : Cells} {value : Value}
    (h : cells.push? value = some taken) : taken.toList = cells.toList ++ [value] := by
  cases cells <;> cases value <;> simp_all [push?] <;> subst h <;> simp [toList]

/-- Appending a value keeps the type of the cells. -/
theorem type_push? {cells taken : Cells} {value : Value}
    (h : cells.push? value = some taken) : taken.type = cells.type := by
  cases cells <;> cases value <;> simp_all [push?] <;> subst h <;> rfl

/-- Taking rows keeps the type of the cells. -/
theorem type_take {cells taken : Cells} {rows : List Nat}
    (h : cells.take rows = .ok taken) : taken.type = cells.type := by
  cases cells with
  | int values | float values | text values =>
    rw [take] at h
    cases hrows : gather values rows with
    | error f => rw [hrows] at h; cases h
    | ok found => rw [hrows] at h; cases h; rfl

/-- A value is accepted exactly when it has the type of the cells. -/
theorem isSome_push? (cells : Cells) (value : Value) :
    (cells.push? value).isSome = (value.type == cells.type) := by
  cases cells <;> cases value <;> rfl

/-- A mask is there exactly when the bound has the type of the cells. -/
theorem isSome_mask? (op : Comparison) (cells : Cells) (bound : Value) :
    (cells.mask? op bound).isSome = (bound.type == cells.type) := by
  cases cells <;> cases bound <;> rfl

end Cells

end Columnar
