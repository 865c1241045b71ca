import Columnar.Proofs.Join.Result

/-!
# The nested loop join

A nested loop compares every left key with every right key, so it finds all matches of any
comparison; the outer loop goes over the left rows.  It is the yardstick for the other
strategies, which look at fewer pairs.

## Main results

* `enumerates_nestedLoopPairs` — all matches, by left row and then right row.
* `nestedLoopJoin_ok` — the join of two relations with columns of equal length.
* `nestedLoopJoin_eq_comprehension` — **the join written out**, schema and rows.
-/

namespace Columnar

/-! ### The pairs of a nested loop -/

section

variable {α : Type} [Key α]

/-- For each left row, the loop lists the right rows that pass the comparison. -/
theorem nestedLoopPairs_eq (op : Comparison) (left right : Array α) :
    nestedLoopPairs op left right
      = left.toList.zipIdx.flatMap fun (l, i) =>
          (rowsWhere (op.holds · l) right.toList.zipIdx).map fun j => (i, j) := by
  unfold nestedLoopPairs rowsWhere
  congr 1
  funext ⟨l, i⟩
  dsimp only
  rw [List.map_filterMap]
  congr 1
  funext ⟨r, j⟩
  by_cases h : op.holds r l = true <;> simp [h]

/-- A nested loop lists all matches, by left row and then right row. -/
theorem enumerates_nestedLoopPairs (op : Comparison) (left right : Array α) :
    Enumerates ByLeft (Paired (left[·]?) (right[·]?) fun l r => op.holds r l = true)
      (nestedLoopPairs op left right) := by
  have hrows := fun l => pairwise_rowsWhere (op.holds · l) right
  rw [nestedLoopPairs_eq]
  refine (enumerates_byLeft left.toList hrows).congr fun p => ?_
  constructor
  · rintro ⟨l, hl, hmem⟩
    obtain ⟨r, hr, hholds⟩ := mem_rowsWhere.1 hmem
    exact ⟨l, r, Array.getElem?_toList.symm.trans hl, hr, hholds⟩
  · rintro ⟨l, r, hl, hr, hholds⟩
    exact ⟨l, Array.getElem?_toList.trans hl, mem_rowsWhere.2 ⟨r, hr, hholds⟩⟩

end

/-- A nested loop lists the matches of two key columns. -/
theorem KeyCells.enumerates_nestedLoop {left right : Column} {cells : KeyCells}
    (hcells : ofCells? left.cells right.cells = some cells) (op : Comparison) :
    Enumerates ByLeft (Matches op left right) (cells.apply (nestedLoopPairs op)) := by
  refine KeyCells.enumerates_apply (fun _ _ l r => op.holds r l = true) _
    (enumerates_nestedLoopPairs op) hcells ?_ ?_ ?_
  all_goals
    intro l r
    simp [Value.holds?]

/-! ### The join -/

variable {left right : Relation} {leftColumn rightColumn : String}

/-- What a strategy lists lies within the two relations, if it lists matches alone. -/
theorem JoinKeys.Of.lt_rowCount {keys : JoinKeys}
    (hkeys : JoinKeys.Of left leftColumn right rightColumn keys) (hl : left.Rectangular)
    (hr : right.Rectangular) {op : Comparison} {p : RowPair}
    (hp : Matches op keys.leftKey keys.rightKey p) :
    p.1 < left.rowCount ∧ p.2 < right.rowCount := by
  rw [← hl _ hkeys.leftKey_mem, ← hr _ hkeys.rightKey_mem]
  exact hp.lt_size

/-- **A nested loop join gives all matches**, by left row and then right row. -/
theorem nestedLoopJoin_ok {keys : JoinKeys}
    (hkeys : JoinKeys.Of left leftColumn right rightColumn keys) (hl : left.Rectangular)
    (hr : right.Rectangular) (op : Comparison) :
    ∃ joined pairs, (nestedLoopJoin left leftColumn right rightColumn op).outcome = .ok joined ∧
      joined.name = JoinStrategy.nestedLoop.resultName ∧
      Enumerates ByLeft (Matches op keys.leftKey keys.rightKey) pairs ∧
      IsJoin left leftColumn right rightColumn pairs joined := by
  have hpairs := KeyCells.enumerates_nestedLoop hkeys.cells_eq op
  obtain ⟨joined, hrun, hname, hjoin⟩ := JoinKeys.combine_ok hkeys hl hr
    (fun p hp => hkeys.lt_rowCount hl hr ((hpairs.mem_iff p).1 hp)) .nestedLoop
  refine ⟨joined, _, ?_, hname, hpairs, hjoin⟩
  unfold nestedLoopJoin
  rw [JoinKeys.resolve_eq_ok_iff.2 hkeys]
  exact hrun

/-- Renaming the key at its position, on both sides, gives the signatures of the join. -/
theorem joinedSchema_eq_modify {leftPosition rightPosition : Nat} {leftKey rightKey : Column}
    (hlk : left.FirstNamed leftColumn leftPosition leftKey)
    (hrk : right.FirstNamed rightColumn rightPosition rightKey) :
    joinedSchema left leftColumn right rightColumn
      = left.schema.modify leftPosition (fun s => ⟨s.name ++ " (first)", s.type⟩) ++
          right.schema.modify rightPosition (fun s => ⟨s.name ++ " (second)", s.type⟩) := by
  have hl := map_signature_modify (Relation.firstNamed_iff.1 hlk).1 firstKeyName
  have hr := map_signature_modify (Relation.firstNamed_iff.1 hrk).1 secondKeyName
  unfold joinedSchema Relation.schema
  rw [← hl, ← hr]
  rfl

/-- **The nested loop join, written out.**  The signatures are those of both relations, with
the two keys renamed where they stand; the columns have equal lengths and no index; and the
rows are a left row followed by a right row, for each left row in turn and for each right row
whose key satisfies the comparison with the left key. -/
theorem nestedLoopJoin_eq_comprehension (hl : left.Rectangular) (hr : right.Rectangular)
    {leftPosition rightPosition : Nat} {leftKey rightKey : Column}
    (hlk : left.FirstNamed leftColumn leftPosition leftKey)
    (hrk : right.FirstNamed rightColumn rightPosition rightKey)
    (htype : leftKey.type = rightKey.type) (op : Comparison) :
    ∃ joined, (nestedLoopJoin left leftColumn right rightColumn op).outcome = .ok joined ∧
      joined.schema
        = left.schema.modify leftPosition (fun s => ⟨s.name ++ " (first)", s.type⟩) ++
            right.schema.modify rightPosition (fun s => ⟨s.name ++ " (second)", s.type⟩) ∧
      joined.Rectangular ∧ (∀ column ∈ joined.columns, column.index = none) ∧
      joined.rows = .ok ((List.range left.rowCount).flatMap fun i =>
        ((List.range right.rowCount).filter fun j => Matches op leftKey rightKey (i, j)).map
          fun j => left.rowOf i ++ right.rowOf j) := by
  obtain ⟨keys, hresolve, rfl, rfl⟩ := JoinKeys.exists_resolve
    (Relation.firstNamed_iff.1 hlk).2 (Relation.firstNamed_iff.1 hrk).2 htype
  have hkeys := JoinKeys.resolve_eq_ok_iff.1 hresolve
  obtain ⟨joined, pairs, hrun, -, hpairs, hjoin⟩ := nestedLoopJoin_ok hkeys hl hr op
  -- a list of all matches in this order is the one that goes through all positions
  have hall := hpairs.unique (enumerates_range fun _ => hkeys.lt_rowCount hl hr)
  refine ⟨joined, hrun, hjoin.schema_eq.trans (joinedSchema_eq_modify hlk hrk),
    hjoin.rectangular, hjoin.unindexed, ?_⟩
  rw [hjoin.rows_eq, hall, List.map_flatMap]
  simp only [List.map_map]
  rfl

/-- Readings with two columns of one name, and a NaN among the first of them. -/
def readings : Relation :=
  ⟨"readings", [.ofCells "k" (.float #[⟨0x3ff8000000000000⟩, ⟨0x7ff8000000000000⟩]),
    .ofCells "k" (.text #["a", "b"])]⟩

/-- Limits, the last of them a NaN. -/
def limits : Relation :=
  ⟨"limits", [.ofCells "x" (.int #[1, 2, 3]),
    .ofCells "k" (.float #[⟨0x4000000000000000⟩, ⟨0⟩, ⟨0x7ff8000000000000⟩])]⟩

/-- Only the limit below the reading is found: the comparison is that of a limit with a
reading, a NaN is below nothing, and the second column of the name is not looked at. -/
theorem nestedLoopJoin_eq_comprehension_repeated :
    readings.Rectangular ∧ limits.Rectangular ∧
      ∃ joined, (nestedLoopJoin readings "k" limits "k" .lt).outcome = .ok joined ∧
        joined.schema = [⟨"k (first)", .float⟩, ⟨"k", .text⟩, ⟨"x", .int⟩,
          ⟨"k (second)", .float⟩] ∧
        joined.rows = .ok [[.float ⟨0x3ff8000000000000⟩, .text "a", .int 2, .float ⟨0⟩]] := by
  have hl : readings.Rectangular := by decide
  have hr : limits.Rectangular := by decide
  have hlk : readings.FirstNamed "k" 0 (.ofCells "k" (.float #[⟨0x3ff8000000000000⟩,
      ⟨0x7ff8000000000000⟩])) :=
    ⟨rfl, rfl, fun i hi => absurd hi (Nat.not_lt_zero i)⟩
  have hrk : limits.FirstNamed "k" 1 (.ofCells "k" (.float #[⟨0x4000000000000000⟩, ⟨0⟩,
      ⟨0x7ff8000000000000⟩])) := by
    refine ⟨rfl, rfl, fun i hi earlier hearlier => ?_⟩
    obtain rfl : i = 0 := by omega
    cases hearlier
    decide
  obtain ⟨joined, hrun, hschema, -, -, hrows⟩ :=
    nestedLoopJoin_eq_comprehension hl hr hlk hrk rfl .lt
  exact ⟨hl, hr, joined, hrun, hschema, hrows.trans (congrArg _ (by decide))⟩

end Columnar
