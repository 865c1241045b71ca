import Columnar.Proofs.Index.Building
import Columnar.Proofs.Join.Refusals
import Columnar.Proofs.Selection

/-!
# Relations whose columns have different lengths

Appending to a single column leaves a relation ragged.  Its number of rows is then that of the
first column, a condition is tested on the cells of one column, an index may be about more rows
or fewer, and rows are taken out of all columns.  These lengths need not agree, so that a row can
be selected that one of the columns does not have.

No operation passes over that in silence.  Each first settles which rows it wants, and for that it
looks at key columns alone; then it takes these rows out of every column, and the first one that is
not there is a fault.  So either all of the rows that were wanted are given, in full, or the
operation ends in a fault; and what decides between the two is whether every column reaches every
row that was wanted (`Relation.Reaches`).

## Main definitions

* `TakesInFull` — an operation gives the selected rows in full, or ends in a fault.
* `JoinKeys.Selects` — the pairs of rows that a join wants, by the key columns alone.

## Main results

* `Relation.takesInFull_select`, `Relation.takesInFull_indexScan`, `takesInFull_joinBy` — the
  operations.
* `JoinKeys.Of.mem_pairs_iff` — which pairs a join wants.
* `Relation.row?_eq_some_iff`, `Relation.row?_eq_none_iff` — the two ways to read a row.
* `Relation.ragged_takesInFull` — **no operation gives wrong rows.**
-/

namespace Columnar

/-! ### All rows or a fault -/

/-- An operation wants the rows at certain places.  It ends in a fault exactly if one of them is
not there in full, and otherwise gives all of them. -/
structure TakesInFull {α : Type} (x : Run Relation) (wanted : List α) (full : α → Prop)
    (row : α → List Value) : Prop where
  /-- A row that is not there in full is a fault, and there is no other. -/
  fault_iff : (∃ fault, x.outcome = .error (.fault fault)) ↔ ∃ place ∈ wanted, ¬full place
  /-- Without one, there are as many rows as places, and each is the row at its place. -/
  ok_of_full : (∀ place ∈ wanted, full place) → ∃ given, x.outcome = .ok given ∧
    given.Rectangular ∧ given.rowCount = wanted.length ∧ given.rows = .ok (wanted.map row)

namespace TakesInFull

variable {α : Type} {x : Run Relation} {wanted : List α} {full : α → Prop} {row : α → List Value}

/-- An operation that is not refused, and goes well only with rows that are there. -/
theorem of_ok (hrefused : ∀ e, x.outcome ≠ .error (.refused e))
    (hok : ∀ given, x.outcome = .ok given → ∀ place ∈ wanted, full place)
    (hfull : (∀ place ∈ wanted, full place) → ∃ given, x.outcome = .ok given ∧
      given.Rectangular ∧ given.rowCount = wanted.length ∧ given.rows = .ok (wanted.map row)) :
    TakesInFull x wanted full row where
  fault_iff := by
    constructor
    · rintro ⟨fault, hfault⟩
      by_contra hnone
      push Not at hnone
      obtain ⟨given, hgiven, -⟩ := hfull hnone
      rw [hfault] at hgiven
      cases hgiven
    · rintro ⟨place, hplace, hmissing⟩
      -- it has not gone well, and it is not refused
      cases houtcome : x.outcome with
      | ok given => exact absurd (hok given houtcome place hplace) hmissing
      | error failure =>
        cases failure with
        | refused e => exact absurd houtcome (hrefused e)
        | fault fault => exact ⟨fault, rfl⟩
  ok_of_full := hfull

/-- Only the outcome counts. -/
theorem congr {y : Run Relation} (h : TakesInFull y wanted full row)
    (hsame : x.outcome = y.outcome) : TakesInFull x wanted full row where
  fault_iff := by
    rw [hsame]
    exact h.fault_iff
  ok_of_full hfull := by
    rw [hsame]
    exact h.ok_of_full hfull

end TakesInFull

/-! ### Operations on one relation -/

namespace Relation

variable {r : Relation} {name : String} {position : Nat} {column : Column}

/-- Rows are taken out of all columns, or one of them is a fault. -/
theorem takesInFull_gatherRows (hne : r.columns ≠ []) (given : String) (rows : List Nat) :
    TakesInFull (Run.ofRead (r.gatherRows given rows)) rows r.Reaches r.rowOf := by
  refine .of_ok (Run.ofRead_ne_refused _) (fun taken htaken => ?_) fun hreaches => ?_
  · have hrows := Run.ofRead_eq_ok htaken
    rw [← isOk_gatherColumns_iff]
    unfold gatherRows at hrows
    cases hcolumns : r.gatherColumns rows with
    | ok columns => exact ⟨columns, rfl⟩
    | error fault => rw [hcolumns] at hrows; cases hrows
  · obtain ⟨taken, htaken, hrows⟩ :=
      gatherRows_of_reaches hreaches (fun hnil => absurd hnil hne) given
    refine ⟨taken, ?_, hrows.rectangular, hrows.rowCount_eq, hrows.rows_eq⟩
    rw [htaken]
    rfl

theorem FirstNamed.columns_ne_nil (h : r.FirstNamed name position column) : r.columns ≠ [] :=
  List.ne_nil_of_mem (List.mem_of_getElem? h.getElem?_eq)

/-- A selection wants the rows whose cells pass. -/
theorem takesInFull_select (hcolumn : r.FirstNamed name position column) {value : Value}
    (htype : value.type = column.type) (op : Comparison) :
    TakesInFull (r.select name op value) (column.passing op value) r.Reaches r.rowOf :=
  (takesInFull_gatherRows hcolumn.columns_ne_nil _ _).congr (outcome_select hcolumn htype op)

/-- A search wants the rows under the key. -/
theorem takesInFull_indexScan (hcolumn : r.FirstNamed name position column) (key : Value) :
    TakesInFull (r.indexScan name key).run (column.buildIndex.2.lookup key) r.Reaches r.rowOf := by
  rw [column.lookup_buildIndex]
  exact (takesInFull_gatherRows hcolumn.columns_ne_nil _ _).congr (outcome_indexScan hcolumn key)

end Relation

/-! ### Joins -/

/-- The pairs of rows that a join wants.  They are decided by the keys, however long the other
columns are; the buckets are as many as there are keys on the side that is hashed. -/
def JoinKeys.Selects (keys : JoinKeys) (op : Comparison) (strategy : JoinStrategy) (p : RowPair) :
    Prop :=
  match strategy with
  | .nestedLoop => Matches op keys.leftKey keys.rightKey p
  | .indexNestedLoop =>
    ∃ key, keys.leftKey.get? p.1 = some key ∧ p.2 ∈ keys.rightIndex.lookup key
  | .hash | .parallelHash =>
    Matches op keys.leftKey keys.rightKey p ∧
      SharesBucket (keys.buildSide.hashed keys.leftKey.size keys.rightKey.size)
        keys.leftKey keys.rightKey p

section

variable {left right : Relation} {leftColumn rightColumn : String} {keys : JoinKeys}
  {strategy : JoinStrategy} {op : Comparison}

/-- A join pairs the rows that its strategy wants. -/
theorem JoinKeys.Of.mem_pairs_iff (hkeys : JoinKeys.Of left leftColumn right rightColumn keys)
    {p : RowPair} : p ∈ keys.pairs op strategy ↔ keys.Selects op strategy p := by
  cases strategy with
  | nestedLoop => exact (KeyCells.enumerates_nestedLoop hkeys.cells_eq op).mem_iff p
  | hash | parallelHash =>
    exact (KeyCells.enumerates_hash hkeys.cells_eq keys.buildSide op).mem_iff p
  | indexNestedLoop =>
    obtain ⟨i, j⟩ := p
    rw [pairs, indexPairs, Selects, Column.get?, Cells.get?_eq_getElem?, List.mem_flatMap]
    constructor
    · rintro ⟨⟨key, i'⟩, hkey, hpair⟩
      obtain ⟨j', hj', heq⟩ := List.mem_map.1 hpair
      cases heq
      exact ⟨key, List.mem_zipIdx_iff_getElem?.1 hkey, hj'⟩
    · rintro ⟨key, hkey, hj⟩
      exact ⟨(key, i), List.mem_zipIdx_iff_getElem?.2 hkey, List.mem_map_of_mem hj⟩

/-- Pairs of rows are taken out of both sides, or a row of one of them is a fault. -/
theorem JoinKeys.Of.takesInFull_combine
    (hkeys : JoinKeys.Of left leftColumn right rightColumn keys) (strategy : JoinStrategy)
    (pairs : List RowPair) :
    TakesInFull (keys.combine strategy pairs) pairs
      (fun p => left.Reaches p.1 ∧ right.Reaches p.2) (pairedRow left right) := by
  refine .of_ok (keys.outcome_combine_ne_refused strategy pairs) (fun joined hjoined => ?_)
    fun hreaches => ?_
  · -- a join that goes well has gathered from both sides
    obtain ⟨lefts, rights, hlefts, hrights, -⟩ := JoinKeys.exists_gathered hjoined
    rw [hkeys.left_eq] at hlefts
    rw [hkeys.right_eq] at hrights
    have hleft := Relation.isOk_gatherColumns_iff.1 ⟨lefts, hlefts⟩
    have hright := Relation.isOk_gatherColumns_iff.1 ⟨rights, hrights⟩
    exact fun p hp => ⟨hleft p.1 (List.mem_map_of_mem hp), hright p.2 (List.mem_map_of_mem hp)⟩
  · obtain ⟨joined, hjoined, -, hjoin⟩ := JoinKeys.combine_of_reaches hkeys hreaches strategy
    exact ⟨joined, hjoined, hjoin.rectangular, hjoin.rowCount_eq, hjoin.rows_eq⟩

/-- A join gives all the pairs it wants in full, or ends in a fault. -/
theorem takesInFull_joinBy (hkeys : JoinKeys.Of left leftColumn right rightColumn keys)
    (h : strategy.Supports op) (schedule : Schedule) :
    TakesInFull (joinBy schedule strategy left leftColumn right rightColumn op)
      (keys.pairs op strategy) (fun p => left.Reaches p.1 ∧ right.Reaches p.2)
      (pairedRow left right) :=
  (hkeys.takesInFull_combine strategy _).congr (outcome_joinBy h hkeys)

end

/-! ### Reading rows -/

namespace Relation

variable {r : Relation} {row : Nat}

/-- Within the relation, a row is there if it can be read. -/
theorem row?_eq_some_iff (hrow : row < r.rowCount) {values : List Value} :
    r.row? row = some values ↔ r.rowAt row = .ok values := by
  rw [row?, if_pos hrow, rowAt, mapM_eq_some_iff, mapM_eq_ok_iff]
  simp only [Column.cellAt_eq_ok_iff]

/-- It is missing if reading it is a fault. -/
theorem row?_eq_none_iff (hrow : row < r.rowCount) :
    r.row? row = none ↔ ∃ fault, r.rowAt row = .error fault := by
  cases hread : r.rowAt row with
  | ok values =>
    rw [(row?_eq_some_iff hrow).2 hread]
    exact iff_of_false nofun nofun
  | error fault =>
    refine iff_of_true ?_ ⟨fault, rfl⟩
    cases hget : r.row? row with
    | none => rfl
    | some values =>
      rw [(row?_eq_some_iff hrow).1 hget] at hread
      cases hread

/-- All rows can be read if none is missing. -/
theorem exists_rows_error_iff :
    (∃ fault, r.rows = .error fault) ↔ ∃ row < r.rowCount, r.row? row = none := by
  have hok : (∃ rows, r.rows = .ok rows) ↔ ∀ row < r.rowCount, r.row? row ≠ none := by
    simp only [rows, isOk_mapM_iff, List.mem_range]
    refine forall₂_congr fun row hrow => ?_
    rw [Option.ne_none_iff_exists']
    exact exists_congr fun values => (row?_eq_some_iff hrow).symm
  constructor
  · rintro ⟨fault, hfault⟩
    by_contra hnone
    push Not at hnone
    obtain ⟨rows, hrows⟩ := hok.2 hnone
    rw [hfault] at hrows
    cases hrows
  · rintro ⟨row, hrow, hmissing⟩
    cases hrows : r.rows with
    | ok rows => exact absurd hmissing (hok.1 ⟨rows, hrows⟩ row hrow)
    | error fault => exact ⟨fault, rfl⟩

/-- What is read are the rows one by one. -/
theorem getElem?_of_rows_eq {rows : List (List Value)} (h : r.rows = .ok rows)
    (hrow : row < r.rowCount) : rows[row]? = r.row? row := by
  have hall := mapM_eq_ok_iff.1 h
  have hlt : row < (List.range r.rowCount).length := by rwa [List.length_range]
  have hlt' : row < rows.length := by rwa [← hall.length_eq]
  have hread := hall.get hlt hlt'
  simp only [List.get_eq_getElem, List.getElem_range] at hread
  rw [(row?_eq_some_iff hrow).2 hread, List.getElem?_eq_getElem hlt']

/-- The row that is read has a value for each column. -/
theorem Reaches.length_rowOf (h : r.Reaches row) : (r.rowOf row).length = r.columnCount :=
  (mapM_eq_ok_iff.1 (rowAt_eq h)).length_eq.symm

/-- **No operation gives wrong rows**, whatever the lengths of the columns are.  A selection wants
the rows whose cells pass, a search those that the index has under the key, and a join the pairs
that its strategy matches by their keys.  If one of these rows is beyond a column of the relation
it belongs to, then the operation ends in a fault; if none is, it gives a relation of columns of
equal length, with one row for each row or pair that was wanted, and in it the cells that all
columns have there.  A row below the number of rows is missing exactly if reading it is a fault,
and otherwise is what is read. -/
theorem ragged_takesInFull :
    (∀ (r : Relation) name position column, r.FirstNamed name position column →
      (∀ op value, value.type = column.type →
        TakesInFull (r.select name op value) (column.passing op value) r.Reaches r.rowOf) ∧
      ∀ key, TakesInFull (r.indexScan name key).run (column.buildIndex.2.lookup key)
        r.Reaches r.rowOf) ∧
    (∀ (left right : Relation) leftColumn rightColumn leftKey rightKey,
      left.column? leftColumn = some leftKey → right.column? rightColumn = some rightKey →
      leftKey.type = rightKey.type →
      ∃ keys, JoinKeys.resolve left leftColumn right rightColumn = .ok keys ∧
        keys.leftKey = leftKey ∧ keys.rightKey = rightKey ∧
        ∀ schedule (strategy : JoinStrategy) op, strategy.Supports op →
          (∀ p, p ∈ keys.pairs op strategy ↔ keys.Selects op strategy p) ∧
          TakesInFull (joinBy schedule strategy left leftColumn right rightColumn op)
            (keys.pairs op strategy) (fun p => left.Reaches p.1 ∧ right.Reaches p.2)
            (pairedRow left right)) ∧
    ∀ r : Relation,
      (∀ row, r.Reaches row →
        r.rowAt row = .ok (r.rowOf row) ∧ (r.rowOf row).length = r.columnCount) ∧
      (∀ row < r.rowCount, (r.row? row = none ↔ ∃ fault, r.rowAt row = .error fault) ∧
        ∀ values, r.row? row = some values ↔ r.rowAt row = .ok values) ∧
      ((∃ fault, r.rows = .error fault) ↔ ∃ row < r.rowCount, r.row? row = none) ∧
      ∀ rows, r.rows = .ok rows → ∀ row < r.rowCount, rows[row]? = r.row? row := by
  refine ⟨fun r name position column hcolumn => ⟨fun op value htype => ?_, fun key => ?_⟩,
    fun left right leftColumn rightColumn leftKey rightKey hl hr htype => ?_,
    fun r => ⟨?_, ?_, exists_rows_error_iff, ?_⟩⟩
  · exact takesInFull_select hcolumn htype op
  · exact takesInFull_indexScan hcolumn key
  · obtain ⟨keys, hresolve, hleft, hright⟩ := JoinKeys.exists_resolve hl hr htype
    have hkeys := JoinKeys.resolve_eq_ok_iff.1 hresolve
    refine ⟨keys, hresolve, hleft, hright, fun schedule strategy op hsupports => ⟨?_, ?_⟩⟩
    · exact fun p => hkeys.mem_pairs_iff
    · exact takesInFull_joinBy hkeys hsupports schedule
  · exact fun row hreaches => ⟨rowAt_eq hreaches, hreaches.length_rowOf⟩
  · exact fun row hrow => ⟨row?_eq_none_iff hrow, fun values => row?_eq_some_iff hrow⟩
  · exact fun rows hrows row hrow => getElem?_of_rows_eq hrows hrow

/-- Two numbers, and a text for the first of them alone. -/
def lopsided : Relation := ⟨"lopsided", [.ofCells "n" (.int #[1, 2]), .ofCells "s" (.text #["x"])]⟩

/-- The first row can be selected.  The second one can be found by its number, and is then a
fault in a selection, in a search and in a join. -/
theorem ragged_takesInFull_lopsided :
    lopsided.FirstNamed "n" 0 lopsided.columns[0] ∧
      (∃ given, (lopsided.select "n" .eq (.int 1)).outcome = .ok given ∧
        given.rows = .ok [[.int 1, .text "x"]]) ∧
      (∃ fault, (lopsided.select "n" .eq (.int 2)).outcome = .error (.fault fault)) ∧
      (∃ fault, (lopsided.indexScan "n" (.int 2)).run.outcome = .error (.fault fault)) ∧
      (∃ fault, (joinBy .inOrder .hash lopsided "n" lopsided "n" .eq).outcome
        = .error (.fault fault)) ∧
      lopsided.row? 1 = none ∧ ∃ fault, lopsided.rowAt 1 = .error fault := by
  have hcolumn : lopsided.FirstNamed "n" 0 lopsided.columns[0] := firstNamed_iff.2 ⟨rfl, rfl⟩
  obtain ⟨hqueries, hjoins, hread⟩ := ragged_takesInFull
  obtain ⟨hselect, hscan⟩ := hqueries lopsided "n" 0 _ hcolumn
  obtain ⟨-, hrows, -, -⟩ := hread lopsided
  obtain ⟨keys, hresolve, -, -, hjoin⟩ := hjoins lopsided lopsided "n" "n" _ _ rfl rfl rfl
  obtain ⟨-, hhash⟩ := hjoin .inOrder .hash .eq nofun
  have hfirst : lopsided.Reaches 0 := by unfold Reaches; decide
  have hsecond : ¬lopsided.Reaches 1 := by unfold Reaches; decide
  have hmissing : lopsided.row? 1 = none := rfl
  obtain ⟨given, hgiven, -, -, hgivenRows⟩ := (hselect .eq (.int 1) rfl).ok_of_full
    fun row hrow => by rwa [List.mem_singleton.1 hrow]
  refine ⟨hcolumn, ⟨given, hgiven, hgivenRows⟩, (hselect .eq (.int 2) rfl).fault_iff.2 ?_,
    (hscan (.int 2)).fault_iff.2 ?_, hhash.fault_iff.2 ?_, hmissing,
    (hrows 1 (by decide)).1.1 hmissing⟩
  · exact ⟨1, by decide, hsecond⟩
  · exact ⟨1, by decide +kernel, hsecond⟩
  · cases hresolve
    exact ⟨(1, 1), by decide +kernel, fun h => hsecond h.1⟩

end Relation

end Columnar
