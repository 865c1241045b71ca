import Columnar.Catalog.Basic
import Columnar.Csv.Reader
import Columnar.Directory
import Columnar.Inference

/-!
# Loading relations

A relation is loaded from a document of delimited text: the header names the columns,
and each column takes the narrowest type its fields can be read as.  A file gives a
relation named after its stem.

## Main definitions

* `Relation.ofDocument`, `Relation.ofCsv` — a relation from a document.
* `Relation.load`, `Catalog.load` — a relation from a file.
-/

namespace Columnar

/-! ### Documents -/

/-- The fields at a position, one from each record. -/
def fieldsAt (records : List (List String)) (position : Nat) : List String :=
  records.filterMap (·[position]?)

/-- The columns of a document. -/
def columnsOf (document : Csv.Document) : List Column :=
  document.header.zipIdx.map fun (name, position) =>
    .ofCells name (inferCells (fieldsAt document.records position))

/-- The relation that a document holds. -/
def Relation.ofDocument (name : String) (document : Csv.Document) : Run Relation := do
  let r ← Relation.ofColumns name (columnsOf document)
  .report (.recordsLoaded r.name r.rowCount r.columnCount)
  pure r

/-- The relation that a delimited text holds. -/
def Relation.ofCsv (name : String) (delimiter : UInt8) (text : ByteArray) : Run Relation := do
  let document ← (Csv.read delimiter text).mapError Error.csv
  Relation.ofDocument name document

/-! ### Files -/

/-- The relation that a file holds, named after the file.  A directory can be opened but
not read. -/
def Relation.load (directory : Directory) (path : String) (delimiter : UInt8) :
    Run Relation :=
  match directory path with
  | .file contents => Relation.ofCsv (fileStem path) delimiter contents
  | .directory => .refuse (.csv (.unreadable .isADirectory))
  | .absent cause => .refuse (.file cause)

/-- Loads a file and registers its relation. -/
def Catalog.load (c : Catalog) (directory : Directory) (path : String) (delimiter : UInt8) :
    Step Catalog Relation :=
  (Step.ask c do
    let r ← Relation.load directory path delimiter
    .report (.relationLoaded r.name r.rowCount)
    pure r).andThen
  fun r c => (c.register r).andThen fun _ c => .ask c (pure r)

end Columnar
