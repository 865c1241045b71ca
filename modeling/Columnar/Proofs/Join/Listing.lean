import Columnar.Proofs.Join.Hash
import Columnar.Proofs.Join.Indexed

/-!
# What each strategy lists

For relations with columns of equal length a strategy is known by the set of pairs that it
finds and the order in which it lists them.  Neither mentions anything but the keys, the
numbers of rows, and how far an index reaches.  So what is said of all strategies at once
is said about `JoinStrategy.Finds` and `JoinStrategy.order`.

## Main definitions

* `JoinStrategy.Finds` — the pairs that a strategy finds.
* `JoinStrategy.order` — the order in which it lists them.
* `JoinKeys.Covers` — how many right rows the index of a join covers.

## Main results

* `JoinKeys.Of.enumerates_pairs` — the pairs of a join are those, in that order.
* `joinBy_isJoin` — the join is made up of them.
-/

namespace Columnar

namespace JoinStrategy

/-- The pairs of rows that a strategy finds: those matches that share a bucket if it hashes the
keys, those among the first `covered` right rows if it looks them up in an index, and
otherwise all. -/
def Finds (strategy : JoinStrategy) (op : Comparison) (leftRows rightRows covered : Nat)
    (leftKey rightKey : Column) (p : RowPair) : Prop :=
  Matches op leftKey rightKey p ∧
    match strategy with
    | .nestedLoop => True
    | .indexNestedLoop => p.2 < covered
    | .hash | .parallelHash => SharesBucket (min leftRows rightRows) leftKey rightKey p

/-- The order in which a strategy lists pairs: by left row, unless the left rows are hashed. -/
def order (strategy : JoinStrategy) (leftRows rightRows : Nat) : RowPair → RowPair → Prop :=
  match strategy with
  | .nestedLoop | .indexNestedLoop => ByLeft
  | .hash | .parallelHash => if leftRows < rightRows then ByRight else ByLeft

instance (strategy : JoinStrategy) (leftRows rightRows : Nat) :
    Std.Asymm (strategy.order leftRows rightRows) := by
  cases strategy <;> unfold order <;> infer_instance

end JoinStrategy

/-- If the strategy uses an index, that is one over the first `covered` right rows. -/
def JoinKeys.Covers (keys : JoinKeys) (strategy : JoinStrategy) (covered : Nat) : Prop :=
  strategy = .indexNestedLoop →
    keys.rightIndex = .build (keys.rightKey.cells.firstRows covered)

variable {left right : Relation} {leftColumn rightColumn : String} {keys : JoinKeys}
  {strategy : JoinStrategy} {op : Comparison} {covered : Nat}

/-- In a session an index always covers some first rows. -/
theorem JoinKeys.exists_covers {commands : List Command} (h : keys.rightKey.Traced commands)
    (strategy : JoinStrategy) : ∃ covered, keys.Covers strategy covered := by
  obtain ⟨covered, -, -, hindex⟩ := JoinKeys.exists_rightIndex_eq h
  exact ⟨covered, fun _ => hindex⟩

/-- The pairs of a join are those that its strategy finds. -/
theorem JoinKeys.Of.enumerates_pairs
    (hkeys : JoinKeys.Of left leftColumn right rightColumn keys) (hl : left.Rectangular)
    (hr : right.Rectangular) (h : strategy.Supports op) (hcovers : keys.Covers strategy covered) :
    Enumerates (strategy.order left.rowCount right.rowCount)
      (strategy.Finds op left.rowCount right.rowCount covered keys.leftKey keys.rightKey)
      (keys.pairs op strategy) := by
  cases strategy with
  | nestedLoop =>
    have hpairs := KeyCells.enumerates_nestedLoop hkeys.cells_eq op
    exact hpairs.congr fun p => (and_iff_left trivial).symm
  | indexNestedLoop =>
    obtain rfl := h rfl
    have hpairs := enumerates_indexPairs keys.leftKey keys.rightKey covered
    rw [← hcovers rfl] at hpairs
    exact hpairs
  | hash | parallelHash => exact hkeys.enumerates_hash hl hr op

/-- **A join is made up of the pairs that its strategy lists.** -/
theorem joinBy_isJoin (hkeys : JoinKeys.Of left leftColumn right rightColumn keys)
    (hl : left.Rectangular) (hr : right.Rectangular) (h : strategy.Supports op)
    (hcovers : keys.Covers strategy covered) (schedule : Schedule) :
    ∃ joined, (joinBy schedule strategy left leftColumn right rightColumn op).outcome
        = .ok joined ∧
      joined.name = strategy.resultName ∧
      IsJoin left leftColumn right rightColumn (keys.pairs op strategy) joined := by
  have hpairs := hkeys.enumerates_pairs hl hr h hcovers
  rw [outcome_joinBy h hkeys]
  refine JoinKeys.combine_ok hkeys hl hr (fun p hp => ?_) strategy
  exact hkeys.lt_rowCount hl hr ((hpairs.mem_iff p).1 hp).1

end Columnar
