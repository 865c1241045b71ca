import Columnar.Join.Basic
import Columnar.Proofs.ColumnNames
import Columnar.Proofs.Join.Matches

/-!
# The relation that a join gives

Every strategy ends in the same way: the pairs it found are unzipped into left and right
positions, the columns of both relations are gathered, and the two keys are renamed.  So
what a join gives is said once for a list of pairs (`IsJoin`), and each strategy is left
with the question which pairs it lists.  For relations with columns of equal length and
pairs in range nothing can go wrong on the way (`JoinKeys.combine_ok`).

## Main definitions

* `joinedSchema`, `pairedRow` — the signatures and a row of a join.
* `IsJoin` — a relation holds the paired rows of two others.
* `JoinKeys.Of` — the key columns that two names stand for.
* `JoinKeys.pairs` — the pairs that a strategy lists.
* `JoinStrategy.Supports` — a strategy can carry out a comparison.

## Main results

* `JoinKeys.resolve_eq_ok_iff`, `JoinKeys.exists_resolve` — when the keys are found.
* `JoinKeys.combine_ok` — the rows of the pairs, under the schema of the join.
* `outcome_joinBy` — every strategy combines the pairs that it lists.
* `exists_isJoin_of_joinBy` — every strategy gives paired rows, if it gives anything.
-/

namespace Columnar

/-! ### Joined rows -/

/-- The signatures of a join: the left ones and the right ones, each with its key renamed. -/
def joinedSchema (left : Relation) (leftColumn : String) (right : Relation)
    (rightColumn : String) : List Signature :=
  renameFirst leftColumn firstKeyName left.schema ++
    renameFirst rightColumn secondKeyName right.schema

/-- The row of a pair: the left row followed by the right row. -/
def pairedRow (left right : Relation) (p : RowPair) : List Value :=
  left.rowOf p.1 ++ right.rowOf p.2

/-- A relation holds the paired rows of two others, in the order of the pairs. -/
structure IsJoin (left : Relation) (leftColumn : String) (right : Relation)
    (rightColumn : String) (pairs : List RowPair) (joined : Relation) : Prop where
  /-- The columns are those of both relations. -/
  schema_eq : joined.schema = joinedSchema left leftColumn right rightColumn
  /-- The columns have equal lengths. -/
  rectangular : joined.Rectangular
  /-- No column has an index. -/
  unindexed : ∀ column ∈ joined.columns, column.index = none
  /-- The rows are those of the pairs. -/
  rows_eq : joined.rows = .ok (pairs.map (pairedRow left right))

theorem IsJoin.rowCount_eq {left right joined : Relation} {leftColumn rightColumn : String}
    {pairs : List RowPair} (h : IsJoin left leftColumn right rightColumn pairs joined) :
    joined.rowCount = pairs.length := by
  have hrows := (Relation.rows_eq h.rectangular).symm.trans h.rows_eq
  rw [← joined.length_rowList, Except.ok.inj hrows, List.length_map]

/-! ### The key columns -/

/-- The keys of a join are those that two names stand for. -/
structure JoinKeys.Of (left : Relation) (leftColumn : String) (right : Relation)
    (rightColumn : String) (keys : JoinKeys) : Prop where
  /-- The left relation. -/
  left_eq : keys.left = left
  /-- The right relation. -/
  right_eq : keys.right = right
  /-- The left key stands at its position. -/
  leftPosition_eq : left.position? leftColumn = some keys.leftPosition
  /-- The right key stands at its position. -/
  rightPosition_eq : right.position? rightColumn = some keys.rightPosition
  /-- The left key is the first column of its name. -/
  leftKey_eq : left.column? leftColumn = some keys.leftKey
  /-- The right key is the first column of its name. -/
  rightKey_eq : right.column? rightColumn = some keys.rightKey
  /-- The keys to compare are the cells of the two. -/
  cells_eq : KeyCells.ofCells? keys.leftKey.cells keys.rightKey.cells = some keys.cells

namespace JoinKeys

variable {left right : Relation} {leftColumn rightColumn : String} {keys : JoinKeys}

theorem resolve_eq_ok_iff :
    resolve left leftColumn right rightColumn = .ok keys ↔
      JoinKeys.Of left leftColumn right rightColumn keys := by
  unfold resolve
  constructor
  · intro h
    obtain ⟨⟨leftPosition, leftKey⟩, hl, h⟩ := exists_of_bind_eq_ok h
    obtain ⟨⟨rightPosition, rightKey⟩, hr, h⟩ := exists_of_bind_eq_ok h
    obtain ⟨hlp, hlk⟩ := Relation.resolve_eq_ok_iff.1 hl
    obtain ⟨hrp, hrk⟩ := Relation.resolve_eq_ok_iff.1 hr
    dsimp only at h
    split at h
    · next cells hcells =>
      cases h
      exact ⟨rfl, rfl, hlp, hrp, hlk, hrk, hcells⟩
    · cases h
  · intro h
    have hl := Relation.resolve_eq_ok_iff.2 ⟨h.leftPosition_eq, h.leftKey_eq⟩
    have hr := Relation.resolve_eq_ok_iff.2 ⟨h.rightPosition_eq, h.rightKey_eq⟩
    simp only [hl, hr, bind, Except.bind, h.cells_eq]
    obtain ⟨rfl, rfl⟩ := And.intro h.left_eq h.right_eq
    rfl

/-- Two columns of one type can be joined. -/
theorem exists_resolve {leftKey rightKey : Column} (hl : left.column? leftColumn = some leftKey)
    (hr : right.column? rightColumn = some rightKey) (htype : leftKey.type = rightKey.type) :
    ∃ keys, resolve left leftColumn right rightColumn = .ok keys ∧
      keys.leftKey = leftKey ∧ keys.rightKey = rightKey := by
  have htypes : leftKey.cells.type = rightKey.cells.type := by
    rw [leftKey.type_cells, rightKey.type_cells]
    exact htype
  have hcells := KeyCells.isSome_ofCells? leftKey.cells rightKey.cells
  rw [htypes, beq_self_eq_true] at hcells
  obtain ⟨cells, hcells⟩ := Option.isSome_iff_exists.1 hcells
  obtain ⟨leftPosition, hlp⟩ := Relation.exists_position? hl
  obtain ⟨rightPosition, hrp⟩ := Relation.exists_position? hr
  refine ⟨⟨left, right, leftPosition, rightPosition, leftKey, rightKey, cells⟩, ?_, rfl, rfl⟩
  exact resolve_eq_ok_iff.2 ⟨rfl, rfl, hlp, hrp, hl, hr, hcells⟩

/-- A join that goes well has found its keys, whatever it does with them. -/
theorem exists_of_outcome {f : JoinKeys → Run Relation} {joined : Relation}
    (h : (Run.ofCheck (resolve left leftColumn right rightColumn) >>= f).outcome = .ok joined) :
    ∃ keys, JoinKeys.Of left leftColumn right rightColumn keys := by
  obtain ⟨keys, hkeys, -⟩ := Run.exists_of_bind h
  exact ⟨keys, resolve_eq_ok_iff.1 (Run.ofCheck_eq_ok hkeys)⟩

/-- The left key is the first column of its name, and stands where that one does. -/
theorem Of.leftFirst (h : JoinKeys.Of left leftColumn right rightColumn keys) :
    left.FirstNamed leftColumn keys.leftPosition keys.leftKey :=
  Relation.firstNamed_iff.2 ⟨h.leftPosition_eq, h.leftKey_eq⟩

/-- The right key is the first column of its name, and stands where that one does. -/
theorem Of.rightFirst (h : JoinKeys.Of left leftColumn right rightColumn keys) :
    right.FirstNamed rightColumn keys.rightPosition keys.rightKey :=
  Relation.firstNamed_iff.2 ⟨h.rightPosition_eq, h.rightKey_eq⟩

theorem Of.leftKey_mem (h : JoinKeys.Of left leftColumn right rightColumn keys) :
    keys.leftKey ∈ left.columns :=
  Relation.mem_of_column? h.leftKey_eq

theorem Of.rightKey_mem (h : JoinKeys.Of left leftColumn right rightColumn keys) :
    keys.rightKey ∈ right.columns :=
  Relation.mem_of_column? h.rightKey_eq

end JoinKeys

/-! ### Gathering the pairs -/

/-- The columns of one side of a join: those taken at its positions, with its key renamed. -/
def renamedAt (position : Nat) (f : String → String) (columns : List Column) : List Column :=
  columns.modify position fun key => key.rename (f key.name)

theorem map_signature_renamedAt (position : Nat) (f : String → String)
    (columns : List Column) :
    (renamedAt position f columns).map Column.signature
      = (columns.map Column.signature).modify position fun s => ⟨f s.name, s.type⟩ := by
  unfold renamedAt
  induction columns generalizing position with
  | nil => simp
  | cons column columns ih =>
    cases position with
    | zero => rfl
    | succ position => simp only [List.modify_succ_cons, List.map_cons, ih]

theorem map_cells_renamedAt (position : Nat) (f : String → String) (columns : List Column) :
    (renamedAt position f columns).map Column.cells = columns.map Column.cells := by
  unfold renamedAt
  induction columns generalizing position with
  | nil => simp
  | cons column columns ih =>
    cases position with
    | zero => rfl
    | succ position => simp only [List.modify_succ_cons, List.map_cons, ih]

theorem cellsAt_renamedAt (position : Nat) (f : String → String) (columns : List Column)
    (row : Nat) : cellsAt (renamedAt position f columns) row = cellsAt columns row := by
  have hcells := map_cells_renamedAt position f columns
  have hread := congrArg (List.filterMap (Cells.get? · row)) hcells
  rwa [List.filterMap_map, List.filterMap_map] at hread

/-- A renamed column has the cells and the index of one of the columns. -/
theorem exists_of_mem_renamedAt {position : Nat} {f : String → String} {columns : List Column}
    {column : Column} (h : column ∈ renamedAt position f columns) :
    ∃ source ∈ columns, column.cells = source.cells ∧ column.index = source.index := by
  obtain ⟨i, hi⟩ := List.mem_iff_getElem?.1 h
  unfold renamedAt at hi
  rw [List.getElem?_modify] at hi
  obtain ⟨source, hsource, rfl⟩ := Option.map_eq_some_iff.1 hi
  refine ⟨source, List.mem_iff_getElem?.2 ⟨i, hsource⟩, ?_⟩
  split <;> exact ⟨rfl, rfl⟩

theorem AllTaken.of_mem_renamedAt {rows : List Nat} {columns taken : List Column}
    (h : AllTaken rows columns taken) {position : Nat} {f : String → String} {column : Column}
    (hc : column ∈ renamedAt position f taken) :
    column.size = rows.length ∧ column.index = none := by
  obtain ⟨source, hsource, hcells, hindex⟩ := exists_of_mem_renamedAt hc
  rw [Column.size, hcells, hindex]
  exact h.of_mem hsource

/-- The columns that are gathered for a list of pairs make up the join of its rows. -/
theorem IsJoin.of_allTaken {left right : Relation} {leftColumn rightColumn : String}
    {keys : JoinKeys} (hkeys : JoinKeys.Of left leftColumn right rightColumn keys)
    {pairs : List RowPair} {lefts rights : List Column}
    (hl : AllTaken (pairs.map (·.1)) left.columns lefts)
    (hr : AllTaken (pairs.map (·.2)) right.columns rights) (name : String) :
    IsJoin left leftColumn right rightColumn pairs
      ⟨name, renamedAt keys.leftPosition firstKeyName lefts ++
        renamedAt keys.rightPosition secondKeyName rights⟩ := by
  set joined : Relation := ⟨name, _⟩ with hjoined
  have hcolumn : ∀ column ∈ joined.columns, column.size = pairs.length ∧ column.index = none := by
    intro column hc
    rcases List.mem_append.1 hc with hc | hc
    · simpa using hl.of_mem_renamedAt hc
    · simpa using hr.of_mem_renamedAt hc
  -- there is a first column, whose length is the number of rows
  have hne : joined.columns ≠ [] := by
    have hlefts : lefts.length ≠ 0 := by
      rw [← hl.length_eq]
      exact Nat.ne_of_gt (List.length_pos_of_mem hkeys.leftKey_mem)
    intro hnil
    rw [hjoined, List.append_eq_nil_iff, renamedAt, List.modify_eq_nil_iff] at hnil
    exact hlefts (List.length_eq_zero_iff.2 hnil.1)
  have hcount := Relation.rowCount_eq hne fun column hc => (hcolumn column hc).1
  have hrect : joined.Rectangular := fun column hc => by rw [hcount, (hcolumn column hc).1]
  have hrow : ∀ n p, pairs[n]? = some p → joined.rowOf n = pairedRow left right p := by
    intro n p hp
    have hleft : (pairs.map (·.1))[n]? = some p.1 := by rw [List.getElem?_map, hp]; rfl
    have hright : (pairs.map (·.2))[n]? = some p.2 := by rw [List.getElem?_map, hp]; rfl
    rw [Relation.rowOf, cellsAt_append, cellsAt_renamedAt, cellsAt_renamedAt,
      hl.cellsAt_eq hleft, hr.cellsAt_eq hright]
    rfl
  refine ⟨?_, hrect, fun column hc => (hcolumn column hc).2, ?_⟩
  · -- a renamed column stands where the first column of its name stood
    unfold joinedSchema Relation.schema
    rw [← map_signature_modify hkeys.leftPosition_eq, ← map_signature_modify hkeys.rightPosition_eq,
      ← hl.map_signature, ← hr.map_signature, ← map_signature_renamedAt,
      ← map_signature_renamedAt, ← List.map_append]
  · rw [Relation.rows_eq hrect, Relation.rowList_eq_map hcount hrow]

/-- **Pairs of rows are joined** if every column on either side reaches its rows. -/
theorem JoinKeys.combine_of_reaches {left right : Relation} {leftColumn rightColumn : String}
    {keys : JoinKeys} (hkeys : JoinKeys.Of left leftColumn right rightColumn keys)
    {pairs : List RowPair} (hpairs : ∀ p ∈ pairs, left.Reaches p.1 ∧ right.Reaches p.2)
    (strategy : JoinStrategy) :
    ∃ joined, (keys.combine strategy pairs).outcome = .ok joined ∧
      joined.name = strategy.resultName ∧
      IsJoin left leftColumn right rightColumn pairs joined := by
  have hlpairs : ∀ row ∈ pairs.map (·.1), left.Reaches row := by
    intro row hrow
    obtain ⟨p, hp, rfl⟩ := List.mem_map.1 hrow
    exact (hpairs p hp).1
  have hrpairs : ∀ row ∈ pairs.map (·.2), right.Reaches row := by
    intro row hrow
    obtain ⟨p, hp, rfl⟩ := List.mem_map.1 hrow
    exact (hpairs p hp).2
  obtain ⟨lefts, hlefts, hltaken⟩ := Relation.gatherColumns_of_reaches hlpairs
  obtain ⟨rights, hrights, hrtaken⟩ := Relation.gatherColumns_of_reaches hrpairs
  refine ⟨_, ?_, rfl, IsJoin.of_allTaken hkeys hltaken hrtaken strategy.resultName⟩
  unfold combine
  rw [hkeys.left_eq, hkeys.right_eq, hlefts, hrights]
  rfl

/-- With columns of equal length on both sides no position in range can miss a cell. -/
theorem JoinKeys.combine_ok {left right : Relation} {leftColumn rightColumn : String}
    {keys : JoinKeys} (hkeys : JoinKeys.Of left leftColumn right rightColumn keys)
    (hl : left.Rectangular) (hr : right.Rectangular) {pairs : List RowPair}
    (hpairs : ∀ p ∈ pairs, p.1 < left.rowCount ∧ p.2 < right.rowCount)
    (strategy : JoinStrategy) :
    ∃ joined, (keys.combine strategy pairs).outcome = .ok joined ∧
      joined.name = strategy.resultName ∧
      IsJoin left leftColumn right rightColumn pairs joined :=
  JoinKeys.combine_of_reaches hkeys
    (fun p hp => ⟨hl.reaches (hpairs p hp).1, hr.reaches (hpairs p hp).2⟩) strategy

/-- What is combined from pairs is gathered from both sides. -/
theorem JoinKeys.exists_gathered {keys : JoinKeys} {strategy : JoinStrategy}
    {pairs : List RowPair} {joined : Relation}
    (h : (keys.combine strategy pairs).outcome = .ok joined) :
    ∃ lefts rights, keys.left.gatherColumns (pairs.map (·.1)) = .ok lefts ∧
      keys.right.gatherColumns (pairs.map (·.2)) = .ok rights ∧
      joined = ⟨strategy.resultName, renamedAt keys.leftPosition firstKeyName lefts ++
        renamedAt keys.rightPosition secondKeyName rights⟩ := by
  obtain ⟨_, -, h⟩ := Run.exists_of_bind h
  obtain ⟨lefts, hlefts, h⟩ := Run.exists_of_bind h
  obtain ⟨rights, hrights, h⟩ := Run.exists_of_bind h
  cases h
  exact ⟨lefts, rights, Run.ofRead_eq_ok hlefts, Run.ofRead_eq_ok hrights, rfl⟩

/-- Whatever the pairs are, what is combined from them are the paired rows. -/
theorem JoinKeys.isJoin_of_combine {left right joined : Relation}
    {leftColumn rightColumn : String} {keys : JoinKeys}
    (hkeys : JoinKeys.Of left leftColumn right rightColumn keys) {strategy : JoinStrategy}
    {pairs : List RowPair} (h : (keys.combine strategy pairs).outcome = .ok joined) :
    IsJoin left leftColumn right rightColumn pairs joined := by
  obtain ⟨lefts, rights, hlefts, hrights, rfl⟩ := JoinKeys.exists_gathered h
  rw [hkeys.left_eq] at hlefts
  rw [hkeys.right_eq] at hrights
  exact IsJoin.of_allTaken hkeys (Relation.allTaken_of_gatherColumns hlefts)
    (Relation.allTaken_of_gatherColumns hrights) strategy.resultName

/-! ### What the strategies have in common -/

namespace JoinKeys

/-- The pairs that a strategy lists for the keys of a join. -/
def pairs (keys : JoinKeys) (op : Comparison) : JoinStrategy → List RowPair
  | .nestedLoop => keys.cells.apply (nestedLoopPairs op)
  | .indexNestedLoop => indexPairs keys.rightIndex keys.leftKey.cells
  | .hash | .parallelHash => keys.cells.apply (hashPairs keys.buildSide op)

/-- The pairs of a parallel join are those of a sequential one, in whatever order the tasks
run. -/
theorem apply_hashPairsBy_eq (keys : JoinKeys) (schedule : Schedule) (op : Comparison) :
    keys.cells.apply (hashPairsBy schedule keys.buildSide op) = keys.pairs op .parallelHash := by
  rw [pairs]
  cases keys.cells <;> exact hashPairsBy_eq schedule keys.buildSide op _ _

end JoinKeys

/-- A strategy can carry out a comparison: an index serves equality alone. -/
def JoinStrategy.Supports (strategy : JoinStrategy) (op : Comparison) : Prop :=
  strategy = .indexNestedLoop → op = .eq

section

variable {left right joined : Relation} {leftColumn rightColumn : String} {keys : JoinKeys}
  {schedule : Schedule} {strategy : JoinStrategy} {op : Comparison} {e : Error}

/-- A comparison that the strategy cannot carry out is refused first of all. -/
theorem joinBy_of_not_supports (h : ¬strategy.Supports op) :
    joinBy schedule strategy left leftColumn right rightColumn op
      = .refuse (.unsupportedComparison strategy op) := by
  obtain ⟨rfl, hop⟩ := Classical.not_imp.1 h
  exact if_neg hop

/-- Without keys there is no join. -/
theorem joinBy_of_resolve_error (h : strategy.Supports op)
    (hkeys : JoinKeys.resolve left leftColumn right rightColumn = .error e) :
    (joinBy schedule strategy left leftColumn right rightColumn op).outcome
      = .error (.refused e) := by
  cases strategy with
  | nestedLoop => rw [joinBy, nestedLoopJoin, hkeys]; rfl
  | hash => rw [joinBy, hashJoin, hkeys]; rfl
  | parallelHash => rw [joinBy, parallelHashJoin, hkeys]; rfl
  | indexNestedLoop => rw [joinBy, if_pos (h rfl), indexNestedLoopJoin, hkeys]; rfl

/-- With keys, every strategy combines the pairs it lists, whatever it reports before. -/
theorem outcome_joinBy (h : strategy.Supports op)
    (hkeys : JoinKeys.Of left leftColumn right rightColumn keys) :
    (joinBy schedule strategy left leftColumn right rightColumn op).outcome
      = (keys.combine strategy (keys.pairs op strategy)).outcome := by
  have hresolve := JoinKeys.resolve_eq_ok_iff.2 hkeys
  cases strategy with
  | nestedLoop => rw [joinBy, nestedLoopJoin, hresolve]; rfl
  | hash => rw [joinBy, hashJoin, hresolve]; rfl
  | parallelHash =>
    rw [joinBy, parallelHashJoin, hresolve, ← keys.apply_hashPairsBy_eq schedule op]
    rfl
  | indexNestedLoop =>
    rw [joinBy, if_pos (h rfl), indexNestedLoopJoin, hresolve, Run.outcome_bind]
    -- a missing index is reported first
    show (ite ((!keys.rightKey.isIndexed) = true) _ _ : Run Relation).outcome = _
    split <;> rfl

/-- Whatever the strategy, what a join gives are paired rows. -/
theorem exists_isJoin_of_joinBy
    (h : (joinBy schedule strategy left leftColumn right rightColumn op).outcome = .ok joined) :
    ∃ pairs, IsJoin left leftColumn right rightColumn pairs joined := by
  by_cases hsupports : strategy.Supports op
  · cases hkeys : JoinKeys.resolve left leftColumn right rightColumn with
    | error e => rw [joinBy_of_resolve_error hsupports hkeys] at h; cases h
    | ok keys =>
      have hkeys := JoinKeys.resolve_eq_ok_iff.1 hkeys
      exact ⟨_, JoinKeys.isJoin_of_combine hkeys ((outcome_joinBy hsupports hkeys).symm.trans h)⟩
  · rw [joinBy_of_not_supports hsupports] at h
    cases h

end

end Columnar
