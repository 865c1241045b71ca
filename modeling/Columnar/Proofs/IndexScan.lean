import Columnar.Proofs.Index.Building
import Columnar.Proofs.Index.Postings
import Columnar.Proofs.Selection

/-!
# A search by index and a selection by equality

The same question can be put in two ways.  A selection goes through the cells of a column and
compares each with the value.  A search looks the value up in the index of the column, and
before that builds the index if there is none; it compares no cells at all.

An index knows the first `k` rows of its column, and among these a search finds exactly those
that a comparison would find, in the same order.  So the answers can differ for two reasons
only: rows were appended since the index was built, or the key has another type than the column,
which a selection refuses and a search does not find.  The index that a search leaves behind is
one that it would use itself, so that asking again gives the same answer.

## Main results

* `Index.lookup_build_firstRows` — a search in the index over the first rows of a column.
* `Relation.indexScan_ok` — the rows that it gives.
* `Relation.indexScan_twice` — searching again gives the same.
* `Relation.indexScan_eq_select` — **a search by index is a selection by equality as far as the
  index reaches.**
-/

namespace Columnar

/-! ### Searches in one column -/

/-- What is found among the first rows of a column are those of them that equal the key. -/
theorem Index.lookup_build_firstRows {cells : Cells} {k : Nat} (hk : k ≤ cells.size)
    (key : Value) :
    (build (cells.firstRows k)).lookup key
      = (List.range k).filter fun row => (cells.get? row).any (·.same key) := by
  rw [lookup_build, Cells.size_firstRows, Nat.min_eq_left hk]
  refine List.filter_congr fun row hrow => ?_
  rw [Cells.get?_firstRows, if_pos (List.mem_range.1 hrow)]

namespace Column

/-- The rows that equal a value are those whose cells pass the comparison `==`. -/
theorem passing_eq (column : Column) (key : Value) :
    column.passing .eq key
      = (List.range column.size).filter fun row => (column.get? row).any (·.same key) := by
  refine List.filter_congr fun row _ => congrArg (Option.any · _) (funext fun cell => ?_)
  rw [Bool.eq_iff_iff, beq_iff_eq, Value.same_iff]

end Column

namespace Relation

variable {r : Relation} {name : String} {position : Nat} {column : Column}

/-! ### Searches in a relation -/

/-- A search in an index over the first `k` rows of its column gives those of them that equal the
key. -/
theorem indexScan_ok (hr : r.Rectangular) (hcolumn : r.FirstNamed name position column) {k : Nat}
    (hle : k ≤ column.size)
    (hused : column.index.getD (.build column.cells) = .build (column.cells.firstRows k))
    (key : Value) :
    ∃ found, (r.indexScan name key).run.outcome = .ok found ∧
      r.IsTaken ((List.range k).filter fun row => (column.get? row).any (·.same key)) found := by
  have hfind : (column.index.getD (.build column.cells)).lookup key
      = (List.range k).filter fun row => (column.get? row).any (·.same key) := by
    rw [hused]
    exact Index.lookup_build_firstRows hle key
  have hbelow : ∀ row ∈ (column.index.getD (.build column.cells)).lookup key,
      row < r.rowCount := by
    intro row hrow
    rw [hfind, List.mem_filter, List.mem_range] at hrow
    rw [← hr column (List.mem_of_getElem? hcolumn.getElem?_eq)]
    omega
  obtain ⟨found, hfound, htaken⟩ := gatherRows_ok hr hbelow s!"index scan on {r.name}"
  refine ⟨found, ?_, hfind ▸ htaken⟩
  rw [outcome_indexScan hcolumn, hfound]
  rfl

/-- A search leaves the relation with the index used, and otherwise as it was. -/
theorem after_indexScan_eq_set (hcolumn : r.FirstNamed name position column) (key : Value) :
    (r.indexScan name key).after
      = { r with
          columns := r.columns.set position
            { column with index := some (column.index.getD (.build column.cells)) } } := by
  rw [after_indexScan, (makeIndex_ok (firstNamed_iff.1 hcolumn).2).2,
    updateColumn_eq_set hcolumn, Column.buildIndex_eq]

/-- Searching again finds the same, and leaves the relation as it is. -/
theorem indexScan_twice (hcolumn : r.FirstNamed name position column) (key : Value) :
    ((r.indexScan name key).after.indexScan name key).run.outcome
        = (r.indexScan name key).run.outcome ∧
      ((r.indexScan name key).after.indexScan name key).after
        = (r.indexScan name key).after := by
  have hsame := r.upToIndexes_makeIndex name
  have hafter : (r.indexScan name key).after = r.updateColumn name (·.buildIndex.2) :=
    (r.after_indexScan name key).trans (makeIndex_ok (firstNamed_iff.1 hcolumn).2).2
  rw [← after_indexScan r name key, hafter] at hsame
  -- the column stands where it stood, with the index that the search has used
  have hagain := hcolumn.updateColumn Column.UpToIndex.buildIndex
  have hindex : column.buildIndex.2.index = some (column.index.getD (.build column.cells)) := by
    rw [Column.buildIndex_eq]
  rw [hafter]
  constructor
  · rw [outcome_indexScan hagain, outcome_indexScan hcolumn, gatherRows, gatherRows,
      hsame.gatherColumns_eq, hsame.name_eq, hindex, Option.getD_some]
  · rw [after_indexScan, (makeIndex_ok (firstNamed_iff.1 hagain).2).2,
      updateColumn_buildIndex_twice]

/-- **A search by index is a selection by equality as far as the index reaches.**  Let `k` be the
number of rows that the first column of the name had when its index was built, or has now if there
is none.  A search gives a relation of the same columns, without indexes, that holds the rows below
`k` whose cells natively equal the key, in ascending order.  If these are all the rows and the key
has the type of the column, then a selection gives the same; a key of another type is found in no
row, and a selection refuses it.  The relation is left with the index, and otherwise as it was, and
searching again gives the same.  A name that no column has is refused, and nothing has changed. -/
theorem indexScan_eq_select (commands : List Command)
    (hheld : (Session.run commands).Holds r) (hr : r.Rectangular) (name : String)
    (key : Value) :
    (∀ position column, r.FirstNamed name position column →
      ∃ k found, column.IndexedTo commands k ∧ k ≤ r.rowCount ∧
        (column.index = none → k = r.rowCount) ∧
        (r.indexScan name key).run.outcome = .ok found ∧
        r.IsTaken ((List.range k).filter fun row => (column.get? row).any (·.same key)) found ∧
        (k = r.rowCount → key.type = column.type → ∃ selected,
          (r.select name .eq key).outcome = .ok selected ∧ found.rows = selected.rows) ∧
        (key.type ≠ column.type → found.rows = .ok [] ∧
          (r.select name .eq key).outcome
            = .error (.refused (.valueTypeMismatch name column.type key.type))) ∧
        (r.indexScan name key).after
          = { r with
              columns := r.columns.set position
                { column with index := some (column.index.getD (.build column.cells)) } } ∧
        ((r.indexScan name key).after.indexScan name key).run.outcome = .ok found ∧
        ((r.indexScan name key).after.indexScan name key).after
          = (r.indexScan name key).after) ∧
    (name ∉ r.header →
      (r.indexScan name key).run.outcome = .error (.refused (.unknownColumn r.name name)) ∧
        (r.indexScan name key).after = r) := by
  refine ⟨fun position column hcolumn => ?_, fun hunknown => ?_⟩
  · have hmem : column ∈ r.columns := List.mem_of_getElem? hcolumn.getElem?_eq
    have hsize : column.size = r.rowCount := hr column hmem
    -- the column is one of the session, so its index is one over its first rows
    obtain ⟨k, hk, hle, hused⟩ :=
      Column.exists_usedIndex_eq ((Session.all_traced commands).of_holds hheld column hmem)
    obtain ⟨found, hfound, htaken⟩ := indexScan_ok hr hcolumn hle hused key
    obtain ⟨hagain, hstays⟩ := indexScan_twice hcolumn key
    refine ⟨k, found, hk, hsize ▸ hle, fun hnone => ?_, hfound, htaken, fun hall htype => ?_,
      fun htype => ⟨?_, outcome_select_of_type_ne hcolumn htype .eq⟩,
      after_indexScan_eq_set hcolumn key, hagain.trans hfound, hstays⟩
    · unfold Column.IndexedTo at hk
      rw [hnone] at hk
      exact hk.trans hsize
    · obtain ⟨selected, hselected, hselection⟩ := select_passing hr hcolumn htype .eq
      refine ⟨selected, hselected, ?_⟩
      rw [htaken.rows_eq, hselection.rows_eq, column.passing_eq, hsize, hall]
    · have htype' : key.type ≠ (column.cells.firstRows k).type := by
        rw [Cells.type_firstRows, column.type_cells]
        exact htype
      have hnone := Index.lookup_build_of_type_ne htype'
      rw [Index.lookup_build_firstRows hle] at hnone
      rw [htaken.rows_eq]
      exact congrArg (fun rows => Except.ok (rows.map r.rowOf)) hnone
  · exact indexScan_of_notMem hunknown key

/-- The row that was appended since the index was built is selected and not found. -/
theorem indexScan_eq_select_stale :
    (Session.run Session.staleCommands).Holds staleNumbers ∧ staleNumbers.Rectangular ∧
      staleNumbers.FirstNamed "n" 0 Session.staleColumn ∧ "m" ∉ staleNumbers.header ∧
      (∃ found selected, (staleNumbers.indexScan "n" (.int 5)).run.outcome = .ok found ∧
        found.rows = .ok [[.int 5]] ∧
        (staleNumbers.select "n" .eq (.int 5)).outcome = .ok selected ∧
        selected.rows = .ok [[.int 5], [.int 5]]) ∧
      (staleNumbers.indexScan "m" (.int 5)).run.outcome
        = .error (.refused (.unknownColumn "numbers" "m")) := by
  have hheld : (Session.run Session.staleCommands).Holds staleNumbers :=
    .inl (List.mem_singleton.2 rfl)
  have hrect : staleNumbers.Rectangular := by
    intro column hc
    rw [List.mem_singleton.1 hc]
    rfl
  have hcolumn : staleNumbers.FirstNamed "n" 0 Session.staleColumn := firstNamed_iff.2 ⟨rfl, rfl⟩
  have hunknown : "m" ∉ staleNumbers.header := by decide
  obtain ⟨hknown, -⟩ :=
    indexScan_eq_select Session.staleCommands hheld hrect "n" (.int 5)
  obtain ⟨-, hrefused⟩ :=
    indexScan_eq_select Session.staleCommands hheld hrect "m" (.int 5)
  obtain ⟨k, found, hk, -, -, hfound, htaken, -⟩ := hknown 0 Session.staleColumn hcolumn
  -- the column had one row when its index was built
  have hone : k = 1 := by
    obtain ⟨_, _, built, -, -, -, heq, rfl, -⟩ := hk
    exact (congrArg Index.rowsCovered heq).symm
  have hrows := htaken.rows_eq
  rw [hone] at hrows
  exact ⟨hheld, hrect, hcolumn, hunknown, ⟨found, _, hfound, hrows, rfl, rfl⟩,
    (hrefused hunknown).1⟩

end Relation

end Columnar
