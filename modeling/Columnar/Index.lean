import Columnar.Cells
import Std.Data.ExtTreeMap

/-!
# Column indexes

An index over a column maps every distinct cell to the ascending positions of the rows
that hold it.  Float cells are entered under `Binary64.indexKey`, so that the zeros
share an entry and NaNs have none.

An index is built from the cells a column has at the time and never changes after
that: rows appended later are unknown to it.  It records how many rows it covers.

## Main definitions

* `Posting` — the entries of an index whose keys have one type.
* `Index`, `Index.build` — an index over cells of any type.
* `Index.lookup` — the rows that hold a value.
-/

namespace Columnar

/-! ### Entries of one key type -/

/-- For each key, the positions of the rows that hold it, in row order. -/
abbrev Posting (κ : Type) [Ord κ] := Std.ExtTreeMap κ (Array Nat)

namespace Posting

variable {κ α : Type} [Ord κ] [Std.TransOrd κ]

/-- Enters a row under its key. -/
def enter (posting : Posting κ) (key : κ) (row : Nat) : Posting κ :=
  posting.alter key fun rows => some ((rows.getD #[]).push row)

/-- Enters the rows that have a key, in row order. -/
def enterAll (keyOf : α → Option κ) (posting : Posting κ) (rows : List (α × Nat)) :
    Posting κ :=
  rows.foldl (fun posting (value, row) =>
    match keyOf value with
    | some key => posting.enter key row
    | none => posting) posting

/-- The entries of a whole column; cells without a key are left out. -/
def build (keyOf : α → Option κ) (values : Array α) : Posting κ :=
  enterAll keyOf ∅ values.toList.zipIdx

/-- The rows under a key. -/
def rows (posting : Posting κ) (key : κ) : List Nat := (posting.getD key #[]).toList

end Posting

/-! ### Indexes -/

/-- The entries of an index, by the type of its keys. -/
inductive Index.Entries where
  /-- Entries under integers. -/
  | int (posting : Posting Int64)
  /-- Entries under the bit patterns of floats. -/
  | float (posting : Posting UInt64)
  /-- Entries under texts. -/
  | text (posting : Posting String)

/-- An index over the first rows of a column. -/
structure Index where
  /-- How many rows the column had when the index was built. -/
  rowsCovered : Nat
  /-- The rows under each key. -/
  entries : Index.Entries

namespace Index

/-- The index over all cells of a column. -/
def build (cells : Cells) : Index where
  rowsCovered := cells.size
  entries := match cells with
    | .int values => .int (Posting.build some values)
    | .float values => .float (Posting.build Binary64.indexKey values)
    | .text values => .text (Posting.build some values)

/-- The rows that hold an integer; none in an index of another type. -/
def lookupInt (index : Index) (key : Int64) : List Nat :=
  match index.entries with
  | .int posting => posting.rows key
  | _ => []

/-- The rows that hold a float; none in an index of another type, or for a NaN. -/
def lookupFloat (index : Index) (key : Binary64) : List Nat :=
  match index.entries, key.indexKey with
  | .float posting, some key => posting.rows key
  | _, _ => []

/-- The rows that hold a text; none in an index of another type. -/
def lookupText (index : Index) (key : String) : List Nat :=
  match index.entries with
  | .text posting => posting.rows key
  | _ => []

/-- The rows that hold a value, ascending. -/
def lookup (index : Index) : Value → List Nat
  | .int key => index.lookupInt key
  | .float key => index.lookupFloat key
  | .text key => index.lookupText key

/-- The number of distinct keys. -/
def size (index : Index) : Nat :=
  match index.entries with
  | .int posting => posting.size
  | .float posting => posting.size
  | .text posting => posting.size

/-- Whether the index has no key. -/
def isEmpty (index : Index) : Bool := index.size == 0

end Index

end Columnar
