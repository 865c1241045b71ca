import Columnar.DataType
import Columnar.Binary64.Shortest
import Columnar.Comparison

/-!
# Values

A value is a single typed cell.  Values are what crosses the boundary between the
columns and their users: the bound of a selection, the key of a search, the cells of
a row.

## Main definitions

* `Value` — a cell of any type.
* `Value.same` — native equality; values of different types are never equal.
* `Value.holds?` — a comparison of two values, none when their types differ.
* `Value.display` — the text of a cell.
-/

namespace Columnar

/-- A single typed cell. -/
inductive Value where
  /-- An integer cell. -/
  | int (value : Int64)
  /-- A float cell. -/
  | float (value : Binary64)
  /-- A text cell. -/
  | text (value : String)
  deriving DecidableEq, Repr

namespace Value

/-- The type of a value. -/
def type : Value → DataType
  | .int _ => .int
  | .float _ => .float
  | .text _ => .text

/-- The integer in an integer cell. -/
def int? : Value → Option Int64
  | .int value => some value
  | _ => none

/-- The float in a float cell. -/
def float? : Value → Option Binary64
  | .float value => some value
  | _ => none

/-- The text in a text cell. -/
def text? : Value → Option String
  | .text value => some value
  | _ => none

/-- The comparison of two values of one type. -/
def holds? (op : Comparison) (candidate bound : Value) : Option Bool :=
  match candidate, bound with
  | .int x, .int y => some (op.holds x y)
  | .float x, .float y => some (op.holds x y)
  | .text x, .text y => some (op.holds x y)
  | _, _ => none

/-- Native equality. -/
def same (x y : Value) : Bool := (holds? .eq x y).getD false

/-- The text of a cell: integers in decimal, floats by their shortest decimal, texts as
they are. -/
def display : Value → String
  | .int value => toString value.toInt
  | .float value => value.display
  | .text value => value

end Value

end Columnar
