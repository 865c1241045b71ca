/-!
# Column types

Every column holds cells of one of three types, fixed for the column's whole
lifetime.  Values of different types never compare equal and never meet in a
join.

## Main definitions

* `DataType` — the three types.
* `DataType.name` — the name under which a type is reported.
-/

namespace Columnar

/-- The type of the cells of a column. -/
inductive DataType where
  /-- Signed 64-bit integers. -/
  | int
  /-- Floating-point numbers in the binary64 format. -/
  | float
  /-- Unicode text of any length. -/
  | text
  deriving DecidableEq, Repr, Inhabited

/-- The name of a type in messages and schemas. -/
def DataType.name : DataType → String
  | .int => "INT"
  | .float => "FLOAT"
  | .text => "TEXT"

end Columnar
