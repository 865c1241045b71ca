import Columnar.Failure

/-!
# Events

What the store reports about its work while it goes on: an index built, a relation
replaced, the size of a join.  Events are for the observer only; no operation depends
on them.

## Main definitions

* `Event` — the reports, by what happened.
* `Event.level`, `Event.message` — their severity and wording.
-/

namespace Columnar

/-- The severity of an event. -/
inductive Event.Level where
  /-- Something asked for was left out. -/
  | warn
  /-- A result the user may want to know of. -/
  | info
  /-- A detail of how a result came about. -/
  | debug
  deriving DecidableEq, Repr

/-- The name of a severity. -/
def Event.Level.name : Event.Level → String
  | .warn => "WARN"
  | .info => "INFO"
  | .debug => "DEBUG"

/-- Something that happened during an operation. -/
inductive Event where
  /-- A projection left out a column that the relation does not have. -/
  | columnSkipped (relation column : String)
  /-- A relation without columns was rendered. -/
  | emptyTable (relation : String)
  /-- A relation was registered from a file. -/
  | relationLoaded (relation : String) (rows : Nat)
  /-- Records were turned into a relation. -/
  | recordsLoaded (relation : String) (rows columns : Nat)
  /-- A registered relation was replaced. -/
  | relationReplaced (relation : String)
  /-- A selection found its rows. -/
  | rowsSelected (relation column : String) (comparison : Comparison) (value : Value)
      (hits rows : Nat)
  /-- An index was built and kept. -/
  | indexBuilt (relation column : String)
  /-- An index was built for the length of one join. -/
  | indexMissing (relation column : String)
  /-- A hash join chose its sides. -/
  | hashJoinStarted (side : BuildSide) (column : String) (buildRows probeRows : Nat)
  /-- A join found its pairs. -/
  | rowsJoined (strategy : JoinStrategy) (left right : String) (rows : Nat)
  deriving DecidableEq, Repr

namespace Event

/-- The severity of an event. -/
def level : Event → Level
  | .columnSkipped .. => .warn
  | .emptyTable .. | .relationLoaded .. => .info
  | _ => .debug

/-- The wording of an event. -/
def message : Event → String
  | .columnSkipped relation column =>
    s!"unable to find column '{column}' in '{relation}'; skipping this column"
  | .emptyTable relation => s!"'{relation}' is an empty table."
  | .relationLoaded relation rows => s!"loaded relation '{relation}' ({rows} rows)"
  | .recordsLoaded relation rows columns =>
    s!"loaded '{relation}': {rows} rows, {columns} columns"
  | .relationReplaced relation => s!"replacing relation '{relation}'"
  | .rowsSelected relation column comparison value hits rows =>
    s!"select {column} {comparison.symbol} {value.display} on '{relation}': " ++
      s!"{hits} of {rows} rows"
  | .indexBuilt relation column => s!"built index on '{relation}'.'{column}'"
  | .indexMissing relation column =>
    s!"no index on '{relation}'.'{column}', building one for this join"
  | .hashJoinStarted side column buildRows probeRows =>
    s!"hash join: building on {side.name} '{column}' ({buildRows} rows), " ++
      s!"probing {probeRows} rows"
  | .rowsJoined strategy left right rows =>
    s!"{strategy.name} join of '{left}' and '{right}' produced {rows} rows"

/-- The line under which an event is logged. -/
def line (e : Event) : String := s!"{e.level.name} {e.message}"

end Event

end Columnar
