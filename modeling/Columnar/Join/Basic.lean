import Columnar.Relation.Query
import Columnar.Join.Pairs

/-!
# Joins of two relations

A join pairs rows of two relations by their key columns.  The result has the left
columns followed by the right columns, the left key renamed with ` (first)` and the
right key with ` (second)`, and one row for each pair.  Before any row is touched both
key columns are looked up, the left one first, and their types compared.

The strategies differ in the pairs they find and in their order.  A nested loop finds
every match of any comparison.  An index over the right keys finds the matches of an
equality, as far as the index reaches.  The hash joins compare only rows in the same
bucket: all matches of an equality, but in general not those of another comparison.

## Main definitions

* `JoinKeys`, `JoinKeys.resolve` — the key columns of a join.
* `JoinKeys.combine` — the relation of the paired rows.
* `nestedLoopJoin`, `indexNestedLoopJoin`, `hashJoin`, `parallelHashJoin`.
* `joinBy` — the join by a given strategy.
-/

namespace Columnar

/-! ### Key columns -/

/-- What a key column is named in the result of a join. -/
def firstKeyName (name : String) : String := name ++ " (first)"

/-- What the other key column is named in the result of a join. -/
def secondKeyName (name : String) : String := name ++ " (second)"

/-- The two relations of a join with their key columns. -/
structure JoinKeys where
  /-- The left relation. -/
  left : Relation
  /-- The right relation. -/
  right : Relation
  /-- The position of the left key column. -/
  leftPosition : Nat
  /-- The position of the right key column. -/
  rightPosition : Nat
  /-- The left key column. -/
  leftKey : Column
  /-- The right key column. -/
  rightKey : Column
  /-- The cells of both, which have one type. -/
  cells : KeyCells

namespace JoinKeys

/-- Looks both key columns up, the left one first, and compares their types. -/
def resolve (left : Relation) (leftColumn : String) (right : Relation)
    (rightColumn : String) : Except Error JoinKeys := do
  let (leftPosition, leftKey) ← left.resolve leftColumn
  let (rightPosition, rightKey) ← right.resolve rightColumn
  match KeyCells.ofCells? leftKey.cells rightKey.cells with
  | some cells => .ok { left, right, leftPosition, rightPosition, leftKey, rightKey, cells }
  | none => .error (.joinTypeMismatch leftKey.type rightKey.type)

/-! ### The result of a join -/

/-- The relation of the paired rows, in the order of the pairs. -/
def combine (keys : JoinKeys) (strategy : JoinStrategy) (pairs : List RowPair) :
    Run Relation := do
  .report (.rowsJoined strategy keys.left.name keys.right.name pairs.length)
  let left ← keys.left.gatherColumns (pairs.map (·.1))
  let right ← keys.right.gatherColumns (pairs.map (·.2))
  let named :=
    left.modify keys.leftPosition (fun key => key.rename (firstKeyName key.name)) ++
      right.modify keys.rightPosition (fun key => key.rename (secondKeyName key.name))
  pure ⟨strategy.resultName, named⟩

/-- The side that a hash join hashes: that of the smaller relation. -/
def buildSide (keys : JoinKeys) : BuildSide :=
  .choose keys.left.rowCount keys.right.rowCount

/-- Reports which side is hashed. -/
def reportBuildSide (keys : JoinKeys) : Run Unit :=
  .report <|
    match keys.buildSide with
    | .left => .hashJoinStarted .left keys.leftKey.name keys.leftKey.size keys.rightKey.size
    | .right => .hashJoinStarted .right keys.rightKey.name keys.rightKey.size keys.leftKey.size

/-- The index over the right key column: its own, or one built for the occasion. -/
def rightIndex (keys : JoinKeys) : Index :=
  match keys.rightKey.index with
  | some index => index
  | none => .build keys.rightKey.cells

end JoinKeys

/-! ### The strategies -/

/-- Compares every left row with every right row. -/
def nestedLoopJoin (left : Relation) (leftColumn : String) (right : Relation)
    (rightColumn : String) (op : Comparison) : Run Relation := do
  let keys ← JoinKeys.resolve left leftColumn right rightColumn
  keys.combine .nestedLoop (keys.cells.apply (nestedLoopPairs op))

/-- Looks every left key up in the index of the right key column, or in one built for this
join alone.  The comparison is equality. -/
def indexNestedLoopJoin (left : Relation) (leftColumn : String) (right : Relation)
    (rightColumn : String) : Run Relation := do
  let keys ← JoinKeys.resolve left leftColumn right rightColumn
  if !keys.rightKey.isIndexed then
    .report (.indexMissing right.name rightColumn)
  keys.combine .indexNestedLoop (indexPairs keys.rightIndex keys.leftKey.cells)

/-- Hashes the smaller relation and probes with the rows of the other. -/
def hashJoin (left : Relation) (leftColumn : String) (right : Relation)
    (rightColumn : String) (op : Comparison) : Run Relation := do
  let keys ← JoinKeys.resolve left leftColumn right rightColumn
  keys.reportBuildSide
  keys.combine .hash (keys.cells.apply (hashPairs keys.buildSide op))

/-- A hash join whose probes are independent tasks. -/
def parallelHashJoin (schedule : Schedule) (left : Relation) (leftColumn : String)
    (right : Relation) (rightColumn : String) (op : Comparison) : Run Relation := do
  let keys ← JoinKeys.resolve left leftColumn right rightColumn
  keys.reportBuildSide
  keys.combine .parallelHash (keys.cells.apply (hashPairsBy schedule keys.buildSide op))

/-- The join by a given strategy.  An index serves equality alone. -/
def joinBy (schedule : Schedule) (strategy : JoinStrategy) (left : Relation)
    (leftColumn : String) (right : Relation) (rightColumn : String) (op : Comparison) :
    Run Relation :=
  match strategy with
  | .nestedLoop => nestedLoopJoin left leftColumn right rightColumn op
  | .indexNestedLoop =>
    if op = .eq then indexNestedLoopJoin left leftColumn right rightColumn
    else .refuse (.unsupportedComparison strategy op)
  | .hash => hashJoin left leftColumn right rightColumn op
  | .parallelHash => parallelHashJoin schedule left leftColumn right rightColumn op

end Columnar
