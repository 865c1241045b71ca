import Columnar.Index
import Columnar.Join.Bucket
import Columnar.Join.Schedule
import Columnar.Join.Strategy

/-!
# The matching pairs of a join

Each strategy of a join is a way to list pairs of a left and a right row position.  The
comparison is always tested as `right OP left`, whichever input a strategy goes
through first.

## Main definitions

* `KeyCells` — the cells of two key columns of one type.
* `nestedLoopPairs` — all matches, by left row and then right row.
* `indexPairs` — the equality matches that an index over the right keys finds.
* `hashPairs` — the matches within shared buckets, by probed row and then hashed row.
-/

namespace Columnar

/-! ### Two key columns of one type -/

/-- The cells of the left and of the right key column, which have one type. -/
inductive KeyCells where
  /-- Integer keys. -/
  | int (left right : Array Int64)
  /-- Float keys. -/
  | float (left right : Array Binary64)
  /-- Text keys. -/
  | text (left right : Array String)

namespace KeyCells

/-- The cells of two key columns, if they have one type. -/
def ofCells? : Cells → Cells → Option KeyCells
  | .int left, .int right => some (.int left right)
  | .float left, .float right => some (.float left right)
  | .text left, .text right => some (.text left right)
  | _, _ => none

/-- Applies an operation that works for keys of every type. -/
def apply {β : Type} (cells : KeyCells)
    (f : {α : Type} → [Key α] → Array α → Array α → β) : β :=
  match cells with
  | .int left right => f left right
  | .float left right => f left right
  | .text left right => f left right

end KeyCells

/-- The position of a left row and that of a right row. -/
abbrev RowPair := Nat × Nat

section

variable {α : Type} [Key α]

/-! ### Nested loop -/

/-- All pairs of rows whose keys satisfy the comparison, by left row and then right
row. -/
def nestedLoopPairs (op : Comparison) (left right : Array α) : List RowPair :=
  left.toList.zipIdx.flatMap fun (l, i) =>
    right.toList.zipIdx.filterMap fun (r, j) => if op.holds r l then some (i, j) else none

/-! ### Hashing -/

namespace BuildSide

/-- The comparison `right OP left` between a hashed key and a probing key. -/
def holds (side : BuildSide) (op : Comparison) (hashed probing : α) : Bool :=
  match side with
  | .left => op.holds probing hashed
  | .right => op.holds hashed probing

/-- The pair of a hashed row and a probing row. -/
def pair (side : BuildSide) (hashed probing : Nat) : RowPair :=
  match side with
  | .left => (hashed, probing)
  | .right => (probing, hashed)

end BuildSide

/-- The matches of one probing row: the rows in its bucket whose keys satisfy the
comparison, in ascending order. -/
def probeRow (side : BuildSide) (op : Comparison) (hashed probing : Array α)
    (table : BucketTable) (p : Nat) : List RowPair :=
  match probing[p]? with
  | none => []
  | some key =>
    (table.candidates key).filterMap fun b =>
      match hashed[b]? with
      | none => none
      | some hashedKey => if side.holds op hashedKey key then some (side.pair b p) else none

/-- The matches within shared buckets, by probing row and then hashed row. -/
def probePairs (side : BuildSide) (op : Comparison) (hashed probing : Array α) :
    List RowPair :=
  let table := BucketTable.build hashed
  (List.range probing.size).flatMap (probeRow side op hashed probing table)

/-- The same, each probing row in a task of its own. -/
def probePairsBy (schedule : Schedule) (side : BuildSide) (op : Comparison)
    (hashed probing : Array α) : List RowPair :=
  let table := BucketTable.build hashed
  schedule.collect probing.size (probeRow side op hashed probing table)

/-- The matches of a hash join that hashes the keys of the given side. -/
def hashPairs (side : BuildSide) (op : Comparison) (left right : Array α) : List RowPair :=
  match side with
  | .left => probePairs side op left right
  | .right => probePairs side op right left

/-- The matches of a parallel hash join that hashes the keys of the given side. -/
def hashPairsBy (schedule : Schedule) (side : BuildSide) (op : Comparison)
    (left right : Array α) : List RowPair :=
  match side with
  | .left => probePairsBy schedule side op left right
  | .right => probePairsBy schedule side op right left

/-- Carrying out the probes as tasks changes nothing, in whatever order they run. -/
theorem hashPairsBy_eq (schedule : Schedule) (side : BuildSide) (op : Comparison)
    (left right : Array α) :
    hashPairsBy schedule side op left right = hashPairs side op left right := by
  cases side <;> simp [hashPairsBy, hashPairs, probePairsBy, probePairs, Schedule.collect_eq]

end

/-! ### Index -/

/-- The pairs that an index over the right keys finds for the left keys, by left row and
then right row. -/
def indexPairs (index : Index) (left : Cells) : List RowPair :=
  left.toList.zipIdx.flatMap fun (key, i) => (index.lookup key).map fun j => (i, j)

end Columnar
