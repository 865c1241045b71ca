/-!
# Join strategies

The four ways to carry out a join.  The choice is the caller's: nothing is planned.

## Main definitions

* `JoinStrategy` — the strategies, with their names and the names of their results.
* `JoinStrategy.ofName?` — the strategy that a name denotes.
* `BuildSide` — which input of a hash join is hashed.
-/

namespace Columnar

/-- A way to carry out a join. -/
inductive JoinStrategy where
  /-- Compare every left row with every right row. -/
  | nestedLoop
  /-- Look every left key up in an index over the right keys. -/
  | indexNestedLoop
  /-- Compare the rows that share a hash bucket. -/
  | hash
  /-- The same, each row of the larger input in a task of its own. -/
  | parallelHash
  deriving DecidableEq, Repr, Inhabited

namespace JoinStrategy

/-- All strategies. -/
def all : List JoinStrategy := [.nestedLoop, .indexNestedLoop, .hash, .parallelHash]

/-- The name by which a strategy is chosen. -/
def name : JoinStrategy → String
  | .nestedLoop => "nested-loop"
  | .indexNestedLoop => "index-nested-loop"
  | .hash => "hash"
  | .parallelHash => "parallel-hash"

/-- The name of the relations that a strategy produces. -/
def resultName : JoinStrategy → String
  | .nestedLoop => "NestedLoopJoin"
  | .indexNestedLoop => "IndexNestedLoopJoin"
  | .hash => "HashJoin"
  | .parallelHash => "ParallelHashJoin"

/-- The strategy of a given name. -/
def ofName? (text : String) : Option JoinStrategy :=
  all.find? fun strategy => strategy.name == text

theorem ofName?_name (s : JoinStrategy) : ofName? s.name = some s := by
  cases s <;> decide

end JoinStrategy

/-- The input of a hash join whose keys are put into buckets.  The other is probed, row
by row. -/
inductive BuildSide where
  /-- The left relation is hashed. -/
  | left
  /-- The right relation is hashed. -/
  | right
  deriving DecidableEq, Repr, Inhabited

namespace BuildSide

/-- The smaller relation is hashed, the right one on a tie. -/
def choose (leftRows rightRows : Nat) : BuildSide :=
  if leftRows < rightRows then .left else .right

/-- The name of a side in messages. -/
def name : BuildSide → String
  | .left => "Left"
  | .right => "Right"

end BuildSide

end Columnar
