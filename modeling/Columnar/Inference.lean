import Columnar.Cells
import Columnar.Literal

/-!
# Column types from text

The cells of a column given as text.  A column gets the narrowest type that all its
fields can be read as: integer, then float, then text.  A column without fields is one
of integers.

Words such as `inf` and `NaN`, which denote floats on the command line, do not make a
column one of floats: a field has to look like a number.

## Main definitions

* `looksNumeric` — a digit, and nothing but the characters of decimal literals.
* `inferCells` — the cells of a column of fields.
-/

namespace Columnar

/-- The characters of decimal literals. -/
def isNumeric (c : Char) : Bool :=
  c.isDigit || c == '.' || c == '-' || c == '+' || c == 'e' || c == 'E'

/-- Whether a field has a digit and nothing but characters of decimal literals.  This
keeps the words for infinities and NaNs out of float columns. -/
def looksNumeric (field : String) : Bool :=
  field.toList.any Char.isDigit && field.toList.all isNumeric

/-- The float that a field of a file denotes. -/
def readNumericField (field : String) : Option Binary64 :=
  if looksNumeric field then readBinary64 field else none

/-- The cells of a column, of the narrowest type that all fields can be read as. -/
def inferCells (fields : List String) : Cells :=
  match fields.mapM readInt64 with
  | some values => .int values.toArray
  | none =>
    match fields.mapM readNumericField with
    | some values => .float values.toArray
    | none => .text fields.toArray

end Columnar
