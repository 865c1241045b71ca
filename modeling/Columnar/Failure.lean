import Columnar.Value
import Columnar.Join.Strategy

/-!
# Refusals and faults

An operation that cannot be carried out is *refused* with an error, which says why
in terms of what was asked.  A *fault* is different in kind: it reports a row position
outside its column, which happens only on relations whose columns have different
lengths, and so marks a broken precondition and not a wrong request.

## Main definitions

* `FileError`, `Csv.Error` — what can go wrong while a file is read.
* `Error` — the reasons for refusing an operation, and `Error.message`, their wording.
* `Fault` — the two ways to run into a position that is not there.
* `Failure` — a refusal or a fault.
-/

namespace Columnar

/-! ### Files and their contents -/

/-- Why a file could not be read. -/
inductive FileError where
  /-- Nothing has the given path. -/
  | notFound
  /-- The path goes through a file as if it were a directory. -/
  | notADirectory
  /-- The path leads to a directory. -/
  | isADirectory
  /-- The path or one of its components is too long. -/
  | nameTooLong
  /-- The path contains the character that ends a path for the system. -/
  | nulInPath
  deriving DecidableEq, Repr

/-- The wording of a file error, with the number that the system knows it by if the error
comes from the system. -/
def FileError.message : FileError → String
  | .notFound => "No such file or directory (os error 2)"
  | .notADirectory => "Not a directory (os error 20)"
  | .isADirectory => "Is a directory (os error 21)"
  | .nameTooLong => "File name too long (os error 36)"
  | .nulInPath => "file name contained an unexpected NUL byte"

namespace Csv

/-- Where reading stood when a record was begun. -/
structure Position where
  /-- How many records were read before; the header is record 0. -/
  record : Nat
  /-- The line, counted from 1. -/
  line : Nat
  /-- The bytes read before. -/
  byte : Nat
  deriving DecidableEq, Repr

/-- Why a document could not be read as records. -/
inductive Error where
  /-- The document could not be read to its end. -/
  | unreadable (cause : FileError)
  /-- A field is not valid UTF-8 from a byte on. -/
  | invalidText (position : Position) (field byte : Nat)
  /-- A record has another number of fields than the one before. -/
  | unequalLengths (position : Position) (expected found : Nat)
  deriving DecidableEq, Repr

/-- The wording of a reading error. -/
def Error.message : Error → String
  | .unreadable cause => cause.message
  | .invalidText p field byte =>
    s!"CSV parse error: record {p.record} (line {p.line}, field: {field}, byte: {p.byte}): " ++
      s!"invalid utf-8: invalid UTF-8 in field {field} near byte index {byte}"
  | .unequalLengths p expected found =>
    s!"CSV error: record {p.record} (line: {p.line}, byte: {p.byte}): found record with " ++
      s!"{found} fields, but the previous record has {expected} fields"

end Csv

/-! ### Refusals -/

/-- Why an operation was refused.  An error is raised before any row of a result is
produced, so an operation gives a complete result or none. -/
inductive Error where
  /-- No relation is registered under the name. -/
  | unknownRelation (name : String)
  /-- The relation has no column of that name. -/
  | unknownColumn (relation column : String)
  /-- The two key columns of a join differ in type. -/
  | joinTypeMismatch (left right : DataType)
  /-- A value has another type than the column it is meant for. -/
  | valueTypeMismatch (column : String) (expected found : DataType)
  /-- A row has another number of values than the relation has columns. -/
  | rowLength (expected found : Nat)
  /-- A column has another number of rows than the first column of its relation. -/
  | columnLength (column : String) (expected found : Nat)
  /-- The text names no comparison. -/
  | unknownComparison (text : String)
  /-- The strategy cannot carry out the comparison. -/
  | unsupportedComparison (strategy : JoinStrategy) (comparison : Comparison)
  /-- The text names no join strategy. -/
  | unknownStrategy (text : String)
  /-- The contents of a file could not be read as records. -/
  | csv (cause : Csv.Error)
  /-- A file could not be opened. -/
  | file (cause : FileError)
  deriving DecidableEq, Repr

/-- The wording of an error. -/
def Error.message : Error → String
  | .unknownRelation name => s!"no relation with name '{name}'"
  | .unknownColumn relation column => s!"relation '{relation}' has no column '{column}'"
  | .joinTypeMismatch left right =>
    s!"join key types do not match: {left.name} vs {right.name}"
  | .valueTypeMismatch column expected found =>
    s!"column '{column}' holds {expected.name} values, got {found.name}"
  | .rowLength expected found =>
    s!"row has {found} values while the relation has {expected} columns"
  | .columnLength column expected found =>
    s!"column '{column}' has {found} rows, expected {expected}"
  | .unknownComparison text => s!"unknown comparison operator '{text}'"
  | .unsupportedComparison strategy comparison =>
    s!"{strategy.name} join does not support comparison '{comparison.symbol}'"
  | .unknownStrategy text => s!"unknown join algorithm '{text}'"
  | .csv cause => cause.message
  | .file cause => cause.message

/-! ### Faults -/

/-- A row position that is not below the length of a column. -/
inductive Fault where
  /-- A cell was read by its position. -/
  | rowOutOfRange (row : Nat) (column : String) (length : Nat)
  /-- Cells were gathered by their positions. -/
  | gatherOutOfRange (row length : Nat)
  deriving DecidableEq, Repr

/-- The wording of a fault. -/
def Fault.message : Fault → String
  | .rowOutOfRange row column length =>
    s!"row {row} out of range for column '{column}' with {length} rows"
  | .gatherOutOfRange row length => s!"row {row} gathered from {length} rows"

/-- How an operation can fail. -/
inductive Failure where
  /-- The operation was refused. -/
  | refused (error : Error)
  /-- The operation ran into a broken precondition. -/
  | fault (fault : Fault)
  deriving DecidableEq, Repr

end Columnar
