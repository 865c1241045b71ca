import Columnar.Catalog.Join
import Columnar.CommandLine.Arguments
import Columnar.Load
import Columnar.Relation.Render

/-!
# Running the program

What the program prints and how it ends, as a function of its arguments and of the files
it can see.  Files are loaded one after the other into a catalog that starts out empty.
What was printed before a failure stays printed.

## Main definitions

* `CommandLine.Failure` — why the program fails once its arguments are understood.
* `CommandLine.Report` — the printed text, and whether the program failed.
* `filterRows` — the filter of `show`, its value read in the type of the column.
* `Invocation.run` — the report of an invocation.
* `CommandLine.run` — the report of a list of arguments, with its exit status.
-/

namespace Columnar

namespace CommandLine

/-- Why the program fails once its arguments are understood. -/
inductive Failure where
  /-- An operation of the store failed. -/
  | store (cause : Columnar.Failure)
  /-- A value for an integer column is no integer. -/
  | notAnInteger
  /-- A value for a float column is no float. -/
  | notAFloat
  /-- The filter does not consist of a column, an operator and a value. -/
  | malformedFilter
  /-- The filter names a column that the relation does not have. -/
  | noSuchColumn (relation column : String)
  deriving DecidableEq, Repr

/-- The wording of a failure. -/
def Failure.message : Failure → String
  | .store (.refused error) => error.message
  | .store (.fault fault) => fault.message
  | .notAnInteger => "the value is no integer"
  | .notAFloat => "the value is no float"
  | .malformedFilter => "--where takes COLUMN OP VALUE"
  | .noSuchColumn relation column => s!"relation '{relation}' has no column '{column}'"

/-- The result of a run, or why it failed. -/
def outcomeOf {α : Type} (run : Run α) : Except Failure α := run.outcome.mapError .store

/-- What a command printed, and how it ended. -/
structure Report where
  /-- The printed text. -/
  output : String
  /-- Whether the command failed, and why. -/
  outcome : Except Failure Unit

/-! ### Filtering -/

/-- The value that a text denotes in a column of the given type. -/
def readValue (type : DataType) (text : String) : Except Failure Value :=
  match type with
  | .int =>
    match readInt64 text with
    | some n => .ok (.int n)
    | none => .error .notAnInteger
  | .float =>
    match readBinary64 text with
    | some x => .ok (.float x)
    | none => .error .notAFloat
  | .text => .ok (.text text)

/-- The comparison that a text names. -/
def readComparison (text : String) : Except Failure Comparison :=
  match Comparison.ofSymbol? text with
  | some op => .ok op
  | none => .error (.store (.refused (.unknownComparison text)))

/-- The rows that satisfy a filter, which is empty or gives a column, an operator and a
value.  The operator is understood first, then the column is looked up, and last the value
is read in the type of the column. -/
def filterRows (r : Relation) (filter : List String) : Except Failure Relation :=
  match filter with
  | [] => .ok r
  | [column, symbol, text] => do
    let op ← readComparison symbol
    match r.column? column with
    | none => .error (.noSuchColumn r.name column)
    | some source => do
      let value ← readValue source.type text
      outcomeOf (r.select column op value)
  | _ => .error .malformedFilter

/-! ### Commands -/

/-- The text that is printed for a loaded relation: its name and its table, after the
filter and the choice of columns. -/
def shownText (filter columns : List String) (r : Relation) : Except Failure String := do
  let rows ← filterRows r filter
  let shown ← if columns = [] then .ok rows else outcomeOf (rows.scan columns)
  let table ← outcomeOf shown.render
  .ok (shown.name ++ "\n" ++ table ++ "\n")

/-- Loads files one after the other and prints each, up to the first that fails. -/
def showFiles (directory : Directory) (delimiter : UInt8) (filter columns : List String)
    (c : Catalog) : List String → Report
  | [] => ⟨"", .ok ()⟩
  | file :: files =>
    let step := c.load directory file delimiter
    match outcomeOf step.run >>= shownText filter columns with
    | .error failure => ⟨"", .error failure⟩
    | .ok text =>
      let rest := showFiles directory delimiter filter columns step.after files
      ⟨text ++ rest.output, rest.outcome⟩

/-- Loads two files into the catalog, joins their relations by name, and gives the text
that is printed for the result: its table and its number of rows. -/
def joinedText (directory : Directory) (delimiter : UInt8)
    (left leftColumn right rightColumn : String) (strategy : JoinStrategy)
    (op : Comparison) : Except Failure String := do
  let loadedLeft := Catalog.empty.load directory left delimiter
  let l ← outcomeOf loadedLeft.run
  let loadedRight := loadedLeft.after.load directory right delimiter
  let r ← outcomeOf loadedRight.run
  let joined ← outcomeOf
    (loadedRight.after.join .inOrder strategy l.name leftColumn r.name rightColumn op).run
  let table ← outcomeOf joined.render
  .ok s!"{table}\n{joined.rowCount} rows\n"

/-- The report of an invocation. -/
def Invocation.run (invocation : Invocation) (directory : Directory) : Report :=
  match invocation.command with
  | .show files filter columns =>
    showFiles directory invocation.delimiter filter columns .empty files
  | .join left leftColumn right rightColumn strategy op =>
    match joinedText directory invocation.delimiter left leftColumn right rightColumn
        strategy op with
    | .ok text => ⟨text, .ok ()⟩
    | .error failure => ⟨"", .error failure⟩

/-- The paths of the files that an invocation may load. -/
def Invocation.paths (invocation : Invocation) : List String :=
  match invocation.command with
  | .show files _ _ => files
  | .join left _ right _ _ _ => [left, right]

/-! ### Exit status -/

/-- The exit status of a command: whether it failed. -/
def Report.exitStatus (report : Report) : Nat :=
  match report.outcome with
  | .ok () => 0
  | .error _ => 1

/-- The report of a list of arguments, or why there is none. -/
def run (directory : Directory) (arguments : List String) : Except Stop Report := do
  let invocation ← Invocation.parse arguments
  .ok (invocation.run directory)

end CommandLine

end Columnar
