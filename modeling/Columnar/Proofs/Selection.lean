import Columnar.Proofs.ColumnNames
import Columnar.Relation.Query
import Mathlib.Data.List.Sort

/-!
# Selections

A selection goes through the cells of one column, marks those that pass, and takes the rows at
the marked positions out of every column.  Seen from the rows this is a filter: a row is kept
for the cell that it has in that column, and the rows that are kept stay in order.

## Main definitions

* `Column.passing` — the positions of the cells that pass.
* `cellPasses` — a row is kept for the cell at a position.
* `Relation.IsTaken` — a relation holds the rows of another at given positions.
* `IsSelection` — a relation holds those rows of another that pass a test.

## Main results

* `hits_eq_filter` — the marked positions.
* `Relation.outcome_select` — a selection takes the rows at the positions that pass.
* `Relation.select_ok` — **a selection filters the rows.**
-/

namespace Columnar

/-! ### Marked positions -/

/-- The hits of a mask are the positions at which it is set. -/
theorem hits_eq_filter (mask : List Bool) :
    hits mask = (List.range mask.length).filter fun row => mask[row]? == some true := by
  refine (pairwise_hits mask).eq_of_mem_iff (List.pairwise_lt_range.filter _) fun row => ?_
  rw [mem_hits, List.mem_filter, List.mem_range, beq_iff_eq]
  constructor
  · intro hmarked
    exact ⟨(List.getElem?_eq_some_iff.1 hmarked).1, hmarked⟩
  · rintro ⟨-, hmarked⟩
    exact hmarked

namespace Cells

variable {op : Comparison} {cells : Cells} {bound : Value} {mask : List Bool}

/-- A mask is as long as the column it was made for. -/
theorem length_mask? (h : cells.mask? op bound = some mask) : mask.length = cells.size := by
  cases cells <;> cases bound <;> cases h <;> simp [size]

/-- A mask marks the cells that satisfy the comparison. -/
theorem getElem?_mask? (h : cells.mask? op bound = some mask) (row : Nat) :
    mask[row]? = (cells.get? row).map fun cell => Value.holds? op cell bound == some true := by
  cases cells <;> cases bound <;> cases h <;>
    simp [get?, Value.holds?, Function.comp_def]

/-- The hits are the positions of the cells that satisfy the comparison. -/
theorem hits_mask? (h : cells.mask? op bound = some mask) :
    hits mask = (List.range cells.size).filter fun row =>
      (cells.get? row).any fun cell => Value.holds? op cell bound == some true := by
  rw [hits_eq_filter, length_mask? h]
  refine List.filter_congr fun row _ => ?_
  rw [getElem?_mask? h]
  cases cells.get? row <;> simp

end Cells

namespace Column

/-- The positions of the cells that satisfy a comparison with a value, ascending. -/
def passing (column : Column) (op : Comparison) (value : Value) : List Nat :=
  (List.range column.size).filter fun row =>
    (column.get? row).any fun cell => Value.holds? op cell value == some true

variable {column : Column} {op : Comparison} {value : Value} {row : Nat}

theorem mem_passing :
    row ∈ column.passing op value ↔
      ∃ cell, column.get? row = some cell ∧ Value.holds? op cell value = some true := by
  rw [passing, List.mem_filter, List.mem_range, Option.any_eq_true]
  simp only [beq_iff_eq]
  constructor
  · rintro ⟨-, hcell⟩
    exact hcell
  · rintro ⟨cell, hcell, hholds⟩
    exact ⟨Cells.get?_lt hcell, cell, hcell, hholds⟩

theorem lt_size_of_mem_passing (h : row ∈ column.passing op value) : row < column.size := by
  obtain ⟨cell, hcell, -⟩ := mem_passing.1 h
  exact Cells.get?_lt hcell

end Column

/-! ### Rows at positions -/

/-- A relation holds the rows of another at given positions, in the order of the positions. -/
structure Relation.IsTaken (r : Relation) (rows : List Nat) (taken : Relation) : Prop where
  /-- The columns are the same ones. -/
  schema_eq : taken.schema = r.schema
  /-- The columns have equal lengths. -/
  rectangular : taken.Rectangular
  /-- No column has an index. -/
  unindexed : ∀ column ∈ taken.columns, column.index = none
  /-- The rows are those at the positions. -/
  rows_eq : taken.rows = .ok (rows.map r.rowOf)

namespace Relation.IsTaken

variable {r taken : Relation} {rows : List Nat}

theorem rowList_eq (h : r.IsTaken rows taken) : taken.rowList = rows.map r.rowOf :=
  Except.ok.inj ((Relation.rows_eq h.rectangular).symm.trans h.rows_eq)

theorem rowCount_eq (h : r.IsTaken rows taken) : taken.rowCount = rows.length := by
  rw [← length_rowList, h.rowList_eq, List.length_map]

end Relation.IsTaken

/-! ### Selections as filters -/

/-- The cell of a row at a position satisfies a comparison with a value. -/
def cellPasses (position : Nat) (op : Comparison) (value : Value) (row : List Value) : Bool :=
  row[position]?.any fun cell => Value.holds? op cell value == some true

/-- A relation holds those rows of another that pass a test, in order. -/
structure IsSelection (r : Relation) (passes : List Value → Bool) (selected : Relation) :
    Prop where
  /-- The columns are the same ones. -/
  schema_eq : selected.schema = r.schema
  /-- The columns have equal lengths. -/
  rectangular : selected.Rectangular
  /-- No column has an index. -/
  unindexed : ∀ column ∈ selected.columns, column.index = none
  /-- The rows are those that pass. -/
  rowList_eq : selected.rowList = r.rowList.filter passes

namespace Relation

variable {r : Relation} {name : String} {position : Nat} {column : Column}

/-- Taking rows that every column reaches gives these rows.  Without columns there are none to
take. -/
theorem gatherRows_of_reaches {rows : List Nat} (hrows : ∀ row ∈ rows, r.Reaches row)
    (hempty : r.columns = [] → rows = []) (given : String) :
    ∃ taken, r.gatherRows given rows = .ok taken ∧ r.IsTaken rows taken := by
  obtain ⟨columns, hcolumns, htaken⟩ := gatherColumns_of_reaches hrows
  have hsize : ∀ column ∈ columns, column.size = rows.length := fun column hc =>
    (htaken.of_mem hc).1
  have hrect : Rectangular ⟨given, columns⟩ := rectangular_of_size _ hsize
  have hcount : rowCount ⟨given, columns⟩ = rows.length := by
    by_cases hnil : columns = []
    · subst hnil
      rw [hempty (List.length_eq_zero_iff.1 htaken.length_eq)]
      rfl
    · exact rowCount_eq hnil hsize
  refine ⟨⟨given, columns⟩, by rw [gatherRows, hcolumns]; rfl, htaken.map_signature, hrect,
    fun column hc => (htaken.of_mem hc).2, ?_⟩
  rw [rows_eq hrect, rowList_eq_map hcount fun n row hrow => htaken.cellsAt_eq hrow]
  rfl

/-- Taking rows that there are out of a rectangular relation gives these rows. -/
theorem gatherRows_ok (hr : r.Rectangular) {rows : List Nat}
    (hrows : ∀ row ∈ rows, row < r.rowCount) (given : String) :
    ∃ taken, r.gatherRows given rows = .ok taken ∧ r.IsTaken rows taken := by
  refine gatherRows_of_reaches (fun row hrow => hr.reaches (hrows row hrow)) (fun hnil => ?_) given
  have hzero : r.rowCount = 0 := by rw [rowCount, hnil]
  rw [hzero] at hrows
  exact List.eq_nil_iff_forall_not_mem.2 fun row hrow => Nat.not_lt_zero row (hrows row hrow)

/-- A name that no column has is refused. -/
theorem outcome_select_of_notMem (h : name ∉ r.header) (op : Comparison) (value : Value) :
    (r.select name op value).outcome = .error (.refused (.unknownColumn r.name name)) := by
  unfold select
  rw [resolve_eq_error_iff.2 ⟨h, rfl⟩]
  rfl

/-- A value of another type than the column is refused. -/
theorem outcome_select_of_type_ne (hcolumn : r.FirstNamed name position column) {value : Value}
    (htype : value.type ≠ column.type) (op : Comparison) :
    (r.select name op value).outcome
      = .error (.refused (.valueTypeMismatch name column.type value.type)) := by
  have hmask : column.cells.mask? op value = none := by
    rw [← Option.not_isSome_iff_eq_none, Cells.isSome_mask?, column.type_cells, beq_iff_eq]
    exact htype
  unfold select
  rw [resolve_eq_ok_iff.2 (firstNamed_iff.1 hcolumn)]
  change (Run.ofCheck (.ok (position, column)) >>= _).outcome = _
  rw [Run.outcome_bind, Run.outcome_ofCheck_ok]
  dsimp only [bind, Except.bind]
  rw [hmask]
  rfl

/-- A selection takes the rows whose cells pass, whatever the lengths of the columns are. -/
theorem outcome_select (hcolumn : r.FirstNamed name position column) {value : Value}
    (htype : value.type = column.type) (op : Comparison) :
    (r.select name op value).outcome
      = (Run.ofRead
          (r.gatherRows s!"select from {r.name}" (column.passing op value))).outcome := by
  obtain ⟨mask, hmask⟩ : ∃ mask, column.cells.mask? op value = some mask := by
    rw [← Option.isSome_iff_exists, Cells.isSome_mask?, column.type_cells, beq_iff_eq]
    exact htype
  have hhits : hits mask = column.passing op value := Cells.hits_mask? hmask
  unfold select
  rw [resolve_eq_ok_iff.2 (firstNamed_iff.1 hcolumn)]
  change (Run.ofCheck (.ok (position, column)) >>= _).outcome = _
  rw [Run.outcome_bind, Run.outcome_ofCheck_ok]
  dsimp only [bind, Except.bind]
  rw [hmask, ← hhits]
  rfl

/-- In a rectangular relation the rows whose cells pass are there to take. -/
theorem select_passing (hr : r.Rectangular) (hcolumn : r.FirstNamed name position column)
    {value : Value} (htype : value.type = column.type) (op : Comparison) :
    ∃ selected, (r.select name op value).outcome = .ok selected ∧
      r.IsTaken (column.passing op value) selected := by
  have hrows : ∀ row ∈ column.passing op value, row < r.rowCount := by
    intro row hrow
    rw [← hr column (List.mem_of_getElem? hcolumn.getElem?_eq)]
    exact Column.lt_size_of_mem_passing hrow
  obtain ⟨selected, hselected, htaken⟩ := gatherRows_ok hr hrows s!"select from {r.name}"
  refine ⟨selected, ?_, htaken⟩
  rw [outcome_select hcolumn htype, hselected]
  rfl

/-- A selection fails for a name that no column has, or for a value of another type than the
first column of the name, and for no other reason. -/
theorem select_eq_error_iff (hr : r.Rectangular) {op : Comparison} {value : Value}
    {failure : Failure} :
    (r.select name op value).outcome = .error failure ↔
      (name ∉ r.header ∧ failure = .refused (.unknownColumn r.name name)) ∨
      ∃ position column, r.FirstNamed name position column ∧ value.type ≠ column.type ∧
        failure = .refused (.valueTypeMismatch name column.type value.type) := by
  constructor
  · intro herror
    by_cases hmem : name ∈ r.header
    · obtain ⟨position, column, hcolumn⟩ := exists_firstNamed_of_mem hmem
      by_cases htype : value.type = column.type
      · obtain ⟨selected, hselected, -⟩ := select_passing hr hcolumn htype op
        rw [hselected] at herror
        cases herror
      · rw [outcome_select_of_type_ne hcolumn htype] at herror
        exact .inr ⟨position, column, hcolumn, htype, (Except.error.inj herror).symm⟩
    · rw [outcome_select_of_notMem hmem] at herror
      exact .inl ⟨hmem, (Except.error.inj herror).symm⟩
  · rintro (⟨hmem, rfl⟩ | ⟨position, column, hcolumn, htype, rfl⟩)
    · exact outcome_select_of_notMem hmem op value
    · exact outcome_select_of_type_ne hcolumn htype op

/-- **A selection filters the rows**: those are kept whose cell in the first column of the
name satisfies the comparison. -/
theorem select_ok (hr : r.Rectangular) (hcolumn : r.FirstNamed name position column)
    {value : Value} (htype : value.type = column.type) (op : Comparison) :
    ∃ selected, (r.select name op value).outcome = .ok selected ∧
      IsSelection r (cellPasses position op value) selected := by
  obtain ⟨selected, hselected, htaken⟩ := select_passing hr hcolumn htype op
  refine ⟨selected, hselected, htaken.schema_eq, htaken.rectangular, htaken.unindexed, ?_⟩
  have hpasses : ∀ row ∈ List.range r.rowCount,
      ((column.get? row).any fun cell => Value.holds? op cell value == some true)
        = cellPasses position op value (r.rowOf row) := by
    intro row hrow
    rw [cellPasses, getElem?_rowOf hr (List.mem_range.1 hrow) hcolumn.getElem?_eq]
  have hsize : column.size = r.rowCount := hr column (List.mem_of_getElem? hcolumn.getElem?_eq)
  rw [htaken.rowList_eq, Column.passing, hsize, List.filter_congr hpasses, rowList, List.filter_map]
  rfl

end Relation

end Columnar
