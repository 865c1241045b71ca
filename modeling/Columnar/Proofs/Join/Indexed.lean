import Columnar.Proofs.Index.Validity
import Columnar.Proofs.Join.NestedLoop

/-!
# The join through an index

The join looks every left key up in the index of the right key column, or in one that it
builds for itself.  An index of its own covers the whole column.  An index that was there
covers the rows that the column had when it was built, and of the matches of a nested loop
the join then gives those that it covers.  Nothing else changes: within a left row a search
gives the right rows in ascending order, as the inner loop does, and what the keys of an
index distinguish is what native comparison distinguishes.

## Main definitions

* `Column.IndexedTo` — how many rows a column had when its index was built.

## Main results

* `KeyCells.enumerates_indexPairs` — the matches that an index finds.
* `indexNestedLoopJoin_eq_filter` — **a join through an index gives the rows of the nested
  loop join as far as the index reaches.**
-/

namespace Columnar

/-! ### The pairs that an index finds -/

theorem Value.same_iff {x y : Value} : x.same y = true ↔ Value.holds? .eq x y = some true := by
  unfold same
  cases holds? .eq x y <;> simp

/-- An index over the first `k` rows of the right key finds the matches among them, by left
row and then right row. -/
theorem enumerates_indexPairs (left right : Column) (k : Nat) :
    Enumerates ByLeft (fun p => Matches .eq left right p ∧ p.2 < k)
      (indexPairs (.build (right.cells.firstRows k)) left.cells) := by
  have hrows := Index.pairwise_lookup_build (right.cells.firstRows k)
  refine (enumerates_byLeft left.cells.toList hrows).congr fun p => ?_
  constructor
  · rintro ⟨l, hl, hmem⟩
    obtain ⟨hlt, r, hr, hsame⟩ := Index.mem_lookup_firstRows.1 hmem
    rw [← Cells.get?_eq_getElem?] at hl
    exact ⟨⟨l, r, hl, hr, Value.same_iff.1 hsame⟩, hlt⟩
  · rintro ⟨⟨l, r, hl, hr, hholds⟩, hlt⟩
    have hl' := (Cells.get?_eq_getElem? left.cells p.1).symm.trans hl
    exact ⟨l, hl', Index.mem_lookup_firstRows.2 ⟨hlt, r, hr, Value.same_iff.2 hholds⟩⟩

/-! ### How far an index reaches -/

/-- In the session after a run, `k` is the number of rows that a column, or the one it was
copied from, had when its index was built; without an index it is the length. -/
def Column.IndexedTo (commands : List Command) (column : Column) (k : Nat) : Prop :=
  match column.index with
  | none => k = column.size
  | some index =>
    ∃ earlier later built, commands = earlier ++ later ∧ (Session.run earlier).Has built ∧
      built.index = some index ∧ index = .build built.cells ∧ built.size = k ∧
      built.cells = column.cells.firstRows k

/-- The index that a search uses, the one that is there or one over all the rows, is an index
over the first rows of its column, as many as it reaches. -/
theorem Column.exists_usedIndex_eq {commands : List Command} {column : Column}
    (h : column.Traced commands) :
    ∃ k, column.IndexedTo commands k ∧ k ≤ column.size ∧
      column.index.getD (.build column.cells) = .build (column.cells.firstRows k) := by
  unfold IndexedTo
  cases hindex : column.index with
  | none =>
    refine ⟨column.size, rfl, Nat.le_refl _, ?_⟩
    rw [size, Cells.firstRows_size, Option.getD_none]
  | some index =>
    obtain ⟨earlier, later, built, hrun, hhas, hbuilt, heq, hle, hfirst⟩ := h index hindex
    refine ⟨built.size, ?_, hle, ?_⟩
    · exact ⟨earlier, later, built, hrun, hhas, hbuilt, heq, rfl, hfirst.symm⟩
    · rw [hfirst]
      exact heq

variable {left right : Relation} {leftColumn rightColumn : String} {keys : JoinKeys}

/-- The index that a join uses is one over the first rows of the right key, as many as the
index reaches. -/
theorem JoinKeys.exists_rightIndex_eq {commands : List Command}
    (h : keys.rightKey.Traced commands) :
    ∃ k, keys.rightKey.IndexedTo commands k ∧ k ≤ keys.rightKey.size ∧
      keys.rightIndex = .build (keys.rightKey.cells.firstRows k) := by
  have hused : keys.rightIndex = keys.rightKey.index.getD (.build keys.rightKey.cells) := by
    unfold rightIndex
    cases keys.rightKey.index <;> rfl
  rw [hused]
  exact Column.exists_usedIndex_eq h

/-! ### The join -/

/-- Whether or not the missing index is reported, the pairs are combined. -/
theorem outcome_indexNestedLoopJoin
    (hkeys : JoinKeys.Of left leftColumn right rightColumn keys) :
    (indexNestedLoopJoin left leftColumn right rightColumn).outcome
      = (keys.combine .indexNestedLoop
          (indexPairs keys.rightIndex keys.leftKey.cells)).outcome := by
  show (joinBy .inOrder .indexNestedLoop left leftColumn right rightColumn .eq).outcome = _
  rw [outcome_joinBy (fun _ => rfl) hkeys]
  rfl

/-- A join through an index over the first `k` rows of the right key gives the matches among
them. -/
theorem indexNestedLoopJoin_ok (hkeys : JoinKeys.Of left leftColumn right rightColumn keys)
    (hl : left.Rectangular) (hr : right.Rectangular) {k : Nat}
    (hindex : keys.rightIndex = .build (keys.rightKey.cells.firstRows k)) :
    ∃ joined pairs, (indexNestedLoopJoin left leftColumn right rightColumn).outcome = .ok joined ∧
      joined.name = JoinStrategy.indexNestedLoop.resultName ∧
      Enumerates ByLeft (fun p => Matches .eq keys.leftKey keys.rightKey p ∧ p.2 < k) pairs ∧
      IsJoin left leftColumn right rightColumn pairs joined := by
  -- what the index finds are matches, so it cannot lead out of the right relation
  have hpairs := enumerates_indexPairs keys.leftKey keys.rightKey k
  rw [← hindex] at hpairs
  obtain ⟨joined, hrun, hname, hjoin⟩ := JoinKeys.combine_ok hkeys hl hr
    (fun p hp => hkeys.lt_rowCount hl hr ((hpairs.mem_iff p).1 hp).1) .indexNestedLoop
  exact ⟨joined, _, (outcome_indexNestedLoopJoin hkeys).trans hrun, hname, hpairs, hjoin⟩

/-- **A join through an index gives the rows of the nested loop join as far as the index
reaches**, in the same order: those that come from right rows below `k`, where `k` is the
number of rows that the right key had when its index was built.  Without an index, or with
one that is up to date, these are all. -/
theorem indexNestedLoopJoin_eq_filter (commands : List Command)
    (hheld : (Session.run commands).Holds right) (hl : left.Rectangular)
    (hr : right.Rectangular) {leftKey rightKey : Column}
    (hlk : left.column? leftColumn = some leftKey)
    (hrk : right.column? rightColumn = some rightKey) (htype : leftKey.type = rightKey.type) :
    ∃ (found looped : Relation) (pairs : List RowPair) (k : Nat),
      rightKey.IndexedTo commands k ∧ k ≤ right.rowCount ∧
      (indexNestedLoopJoin left leftColumn right rightColumn).outcome = .ok found ∧
      (nestedLoopJoin left leftColumn right rightColumn .eq).outcome = .ok looped ∧
      found.schema = looped.schema ∧
      Enumerates ByLeft (Matches .eq leftKey rightKey) pairs ∧
      looped.rows = .ok (pairs.map (pairedRow left right)) ∧
      found.rows = .ok ((pairs.filter (·.2 < k)).map (pairedRow left right)) ∧
      (k = right.rowCount → found.rows = looped.rows) := by
  obtain ⟨keys, hresolve, rfl, rfl⟩ := JoinKeys.exists_resolve hlk hrk htype
  have hkeys := JoinKeys.resolve_eq_ok_iff.1 hresolve
  -- the right key is a column of the session, so its index covers its first rows
  have htraced : keys.rightKey.Traced commands :=
    (Session.all_traced commands).of_holds hheld _ hkeys.rightKey_mem
  obtain ⟨k, hk, hle, hindex⟩ := JoinKeys.exists_rightIndex_eq htraced
  rw [hr _ hkeys.rightKey_mem] at hle
  obtain ⟨found, foundPairs, hfound, -, hfoundPairs, hfoundJoin⟩ :=
    indexNestedLoopJoin_ok hkeys hl hr hindex
  obtain ⟨looped, pairs, hlooped, -, hpairs, hloopedJoin⟩ := nestedLoopJoin_ok hkeys hl hr .eq
  -- there is only one list of the matches below `k`
  have hfilter : foundPairs = pairs.filter (·.2 < k) := by
    refine hfoundPairs.unique ((hpairs.filter _).congr fun p => ?_)
    rw [decide_eq_true_iff]
  have hrows := hfoundJoin.rows_eq
  rw [hfilter] at hrows
  refine ⟨found, looped, pairs, k, hk, hle, hfound, hlooped,
    hfoundJoin.schema_eq.trans hloopedJoin.schema_eq.symm, hpairs, hloopedJoin.rows_eq, hrows,
    fun hall => ?_⟩
  have hself : pairs.filter (·.2 < k) = pairs := by
    refine List.filter_eq_self.2 fun p hp => decide_eq_true ?_
    rw [hall]
    exact (hkeys.lt_rowCount hl hr ((hpairs.mem_iff p).1 hp)).2
  rw [hrows, hself, hloopedJoin.rows_eq]

/-- A relation whose index knows the first of its two rows. -/
def staleNumbers : Relation := ⟨"numbers", [Session.staleColumn]⟩

/-- Joined with itself, the second row meets the first one and not itself, although all its
keys are equal. -/
theorem indexNestedLoopJoin_eq_filter_stale :
    (Session.run Session.staleCommands).Holds staleNumbers ∧ staleNumbers.Rectangular ∧
      ∃ (found : Relation) (pairs : List RowPair),
        (indexNestedLoopJoin staleNumbers "n" staleNumbers "n").outcome = .ok found ∧
        found.rows = .ok (pairs.map (pairedRow staleNumbers staleNumbers)) ∧
        (1, 0) ∈ pairs ∧ (1, 1) ∉ pairs := by
  have hheld : (Session.run Session.staleCommands).Holds staleNumbers :=
    .inl (List.mem_singleton.2 rfl)
  have hrect : staleNumbers.Rectangular := by
    intro column hc
    rw [List.mem_singleton.1 hc]
    rfl
  have hkey : staleNumbers.column? "n" = some Session.staleColumn := rfl
  obtain ⟨found, _, pairs, k, hk, -, hfound, -, -, hpairs, -, hrows, -⟩ :=
    indexNestedLoopJoin_eq_filter Session.staleCommands hheld hrect hrect hkey hkey rfl
  -- the column had one row when its index was built
  have hone : k = 1 := by
    obtain ⟨_, _, built, -, -, -, heq, rfl, -⟩ := hk
    exact (congrArg Index.rowsCovered heq).symm
  refine ⟨hheld, hrect, found, _, hfound, hrows, ?_, ?_⟩
  · rw [List.mem_filter, hpairs.mem_iff, hone]
    exact ⟨⟨.int 5, .int 5, rfl, rfl, by decide⟩, by decide⟩
  · rw [List.mem_filter, hone]
    rintro ⟨-, hlt⟩
    revert hlt
    decide

end Columnar
