import Columnar.Proofs.CommandLine.Show
import Columnar.Proofs.Comparison
import Columnar.Proofs.Csv.Written
import Columnar.Proofs.IndexScan
import Columnar.Proofs.Inference

/-!
# Filters by the text of a field

The text of a cell is read twice in this library.  When a document is loaded, the fields of a
column are read together, and the type of the column comes out of that; when the loaded relation is
filtered, the text of the filter is read by itself, in the type that the column has by then.  The
readers of numbers are not the same: a filter takes words for infinities and NaNs, which a document
does not.

But every text that the first reading takes as a number is taken as the same number by the second
one.  So a filter by the text of a field looks for the cell that the field became, and since no
number that is loaded is a NaN, it finds at least the row where the field stands.

## Main results

* `readValue_of_inferCells` — a filter reads a field as the cell that it was loaded as.
* `filterRows_passing` — a filter takes the rows whose cells pass.
* `filterRows_ofCsv` — **a filter by the text of a field finds the rows that equal its own.**
-/

namespace Columnar

/-! ### Equal and unequal cells -/

theorem Value.holds?_ne {x y : Value} (h : x.type = y.type) :
    holds? .ne x y = some (!x.same y) := by
  cases x <;> cases y <;> first | rfl | cases h

namespace Column

variable {column : Column} {value : Value}

/-- The rows that pass the comparison `!=` are those whose cells do not equal the value. -/
theorem passing_ne (htype : value.type = column.type) :
    column.passing .ne value
      = (List.range column.size).filter fun row => !(column.get? row).any (·.same value) := by
  refine List.filter_congr fun row hrow => ?_
  obtain ⟨cell, hcell⟩ := Cells.exists_get? (List.mem_range.1 hrow)
  have hget : column.get? row = some cell := hcell
  have hsame : cell.type = value.type := by
    rw [Cells.type_of_get? hcell, column.type_cells]
    exact htype.symm
  rw [hget, Option.any_some, Option.any_some, Value.holds?_ne hsame]
  cases cell.same value <;> rfl

end Column

namespace CommandLine

/-! ### Reading a field twice -/

/-- A filter reads a field as the cell that it was loaded as. -/
theorem readValue_of_inferCells {fields : List String} {row : Nat} {field : String}
    (h : fields[row]? = some field) :
    ∃ cell, (inferCells fields).get? row = some cell ∧
      readValue (inferCells fields).type field = .ok cell := by
  obtain ⟨hlt, rfl⟩ := List.getElem?_eq_some_iff.1 h
  unfold inferCells
  split
  · next values hvalues =>
    have hall := mapM_eq_some_iff.1 hvalues
    have hlt' : row < values.length := hall.length_eq ▸ hlt
    have hread : readInt64 fields[row] = some values[row] := hall.get hlt hlt'
    refine ⟨.int values[row], by simp [Cells.get?, hlt'], ?_⟩
    show readValue .int _ = _
    rw [readValue, hread]
  · split
    · next values hvalues =>
      have hall := mapM_eq_some_iff.1 hvalues
      have hlt' : row < values.length := hall.length_eq ▸ hlt
      have hread : readNumericField fields[row] = some values[row] := hall.get hlt hlt'
      refine ⟨.float values[row], by simp [Cells.get?, hlt'], ?_⟩
      show readValue .float _ = _
      -- what is read for a float column is read by the same reader, behind a test
      rw [readValue, (Option.ite_none_right_eq_some.1 hread).2]
    · exact ⟨.text fields[row], by simp [Cells.get?, hlt], rfl⟩

/-- No cell that is loaded is a NaN. -/
theorem isNaN_of_get?_inferCells {fields : List String} {row : Nat} {cell : Value}
    (h : (inferCells fields).get? row = some cell) : cell.isNaN = false := by
  cases hcells : inferCells fields with
  | int values | text values =>
    rw [hcells] at h
    obtain ⟨x, -, rfl⟩ := Option.map_eq_some_iff.1 h
    rfl
  | float values =>
    rw [hcells] at h
    obtain ⟨x, hx, rfl⟩ := Option.map_eq_some_iff.1 h
    exact isNaN_of_inferCells_eq hcells x (Array.mem_toList_iff.2 (Array.mem_of_getElem? hx))

/-! ### Filters -/

/-- A filter whose parts are understood takes the rows whose cells pass. -/
theorem filterRows_passing {r : Relation} (hr : r.Rectangular) {column symbol text : String}
    {op : Comparison} {position : Nat} {source : Column} {value : Value}
    (hop : Comparison.ofSymbol? symbol = some op)
    (hcolumn : r.FirstNamed column position source)
    (hvalue : readValue source.type text = .ok value) :
    ∃ rows, filterRows r [column, symbol, text] = .ok rows ∧
      r.IsTaken (source.passing op value) rows := by
  obtain ⟨rows, hrows, htaken⟩ :=
    Relation.select_passing hr hcolumn (type_of_readValue hvalue) op
  refine ⟨rows, ?_, htaken⟩
  unfold filterRows
  dsimp only
  rw [readComparison, hop]
  dsimp only [bind, Except.bind]
  rw [(Relation.firstNamed_iff.1 hcolumn).2]
  dsimp only
  rw [hvalue]
  exact outcomeOf_eq_ok_iff.2 hrows

/-- A relation that is loaded is made of the columns of a document. -/
theorem exists_document_of_ofCsv {name : String} {delimiter : UInt8} {text : ByteArray}
    {r : Relation} (h : (Relation.ofCsv name delimiter text).outcome = .ok r) :
    ∃ document, Csv.read delimiter text = .ok document ∧ r.columns = columnsOf document := by
  cases hread : Csv.read delimiter text with
  | error cause =>
    rw [Relation.outcome_ofCsv_of_error hread] at h
    cases h
  | ok document =>
    rw [Relation.outcome_ofCsv_of_read hread] at h
    cases h
    exact ⟨document, rfl, rfl⟩

/-- **A filter by the text of a field finds the rows that equal its own.**  Let a relation be
loaded from a document, and let a field stand in some record below a name, in the first column of
the name.  A filter by the name, `==` and the text of the field is understood, and takes the rows
whose cells natively equal the cell that the field became, in the order of the records; the row of
the record is one of them.  With `!=` it takes all the others. -/
theorem filterRows_ofCsv {name : String} {delimiter : UInt8} {text : ByteArray} {r : Relation}
    (hload : (Relation.ofCsv name delimiter text).outcome = .ok r) :
    ∃ document, Csv.read delimiter text = .ok document ∧ r.header = document.header ∧
      ∀ title ∈ document.header, ∃ position source fields,
        r.FirstNamed title position source ∧ source.size = document.records.length ∧
        document.records.map (·[position]?) = fields.map some ∧ source.cells.ReadFrom fields ∧
        ∀ row field, fields[row]? = some field → ∃ cell equal others,
          source.get? row = some cell ∧
          filterRows r [title, "==", field] = .ok equal ∧
          r.IsTaken ((List.range r.rowCount).filter fun row =>
            (source.get? row).any (·.same cell)) equal ∧
          row ∈ (List.range r.rowCount).filter (fun row => (source.get? row).any (·.same cell)) ∧
          filterRows r [title, "!=", field] = .ok others ∧
          r.IsTaken ((List.range r.rowCount).filter fun row =>
            !(source.get? row).any (·.same cell)) others := by
  obtain ⟨document, hread, hcolumns⟩ := exists_document_of_ofCsv hload
  have hr : r.Rectangular := Relation.rectangular_of_ofCsv hload
  have hheader : r.header = document.header := by
    rw [Relation.header, hcolumns, map_name_columnsOf]
  refine ⟨document, hread, hheader, fun title htitle => ?_⟩
  rw [← hheader] at htitle
  obtain ⟨position, source, hcolumn⟩ := Relation.exists_firstNamed_of_mem htitle
  -- the column is the one that the loader made of the fields below the name
  have hsource := hcolumn.getElem?_eq
  rw [hcolumns, getElem?_columnsOf, Option.map_eq_some_iff] at hsource
  obtain ⟨title', htitle', rfl⟩ := hsource
  set fields := fieldsAt document.records position
  set source := Column.ofCells title' (inferCells fields)
  have hlength := Csv.length_of_read hread
  have hwide : ∀ record ∈ document.records, position < record.length := by
    intro record hrecord
    rw [hlength record hrecord]
    exact (List.getElem?_eq_some_iff.1 htitle').1
  have hmem : source ∈ r.columns := List.mem_of_getElem? hcolumn.getElem?_eq
  refine ⟨position, source, fields, hcolumn, ?_, map_getElem?_eq_fieldsAt hwide,
    readFrom_inferCells fields, fun row field hfield => ?_⟩
  · exact size_of_mem_columnsOf hlength source (hcolumns ▸ hmem)
  · obtain ⟨cell, hcell, hvalue⟩ := readValue_of_inferCells hfield
    have hget : source.get? row = some cell := hcell
    have htype : cell.type = source.type := type_of_readValue hvalue
    have hself : cell.same cell = true := Value.same_self (isNaN_of_get?_inferCells hcell)
    obtain ⟨equal, hequal, htaken⟩ :=
      filterRows_passing hr (Comparison.ofSymbol?_symbol .eq) hcolumn hvalue
    obtain ⟨others, hothers, htaken'⟩ :=
      filterRows_passing hr (Comparison.ofSymbol?_symbol .ne) hcolumn hvalue
    rw [Column.passing_eq, hr source hmem] at htaken
    rw [Column.passing_ne htype, hr source hmem] at htaken'
    refine ⟨cell, equal, others, hget, hequal, htaken, ?_, hothers, htaken'⟩
    rw [List.mem_filter, List.mem_range, hget, Option.any_some, ← hr source hmem]
    exact ⟨Cells.get?_lt hcell, hself⟩

/-- Both zeros, an integer and a number out of range, below a name that is repeated. -/
def readings : Csv.Document :=
  ⟨["x", "x"], [["-0", "a"], ["1", "b"], ["1e400", "c"], ["0.0", "d"]]⟩

/-- The text of the negative zero finds both zeros, and the others are left. -/
theorem filterRows_ofCsv_zeros :
    ∃ r equal others,
      (Relation.ofCsv "readings" 59 (Csv.write 59 readings)).outcome = .ok r ∧
      filterRows r ["x", "==", "-0"] = .ok equal ∧
      equal.rows = .ok [[.float ⟨0x8000000000000000⟩, .text "a"], [.float ⟨0⟩, .text "d"]] ∧
      filterRows r ["x", "!=", "-0"] = .ok others ∧
      others.rows = .ok [[.float ⟨0x3ff0000000000000⟩, .text "b"],
        [.float ⟨0x7ff0000000000000⟩, .text "c"]] := by
  have hread : Csv.read 59 (Csv.write 59 readings) = .ok readings :=
    Csv.read_write (by decide) (by decide) (by decide) (by decide)
  have hload := Relation.outcome_ofCsv_of_read hread "readings"
  obtain ⟨document, hdocument, -, htitles⟩ := filterRows_ofCsv hload
  obtain rfl := Except.ok.inj (hread.symm.trans hdocument)
  obtain ⟨position, source, fields, hcolumn, -, hfields, -, hfilters⟩ :=
    htitles "x" (by decide)
  -- the name stands for the first column
  obtain ⟨hposition, hsource⟩ := Relation.firstNamed_iff.1 hcolumn
  obtain rfl : 0 = position := Option.some.inj hposition
  obtain rfl : _ = source := Option.some.inj hsource
  obtain rfl : ["-0", "1", "1e400", "0.0"] = fields :=
    List.map_injective_iff.2 (Option.some_injective String) hfields
  obtain ⟨cell, equal, others, hcell, hequal, htaken, -, hothers, htaken'⟩ :=
    hfilters 0 "-0" rfl
  have hzero : (inferCells ["-0", "1", "1e400", "0.0"]).get? 0
      = some (.float ⟨0x8000000000000000⟩) := by decide +kernel
  obtain rfl : .float ⟨0x8000000000000000⟩ = cell := Option.some.inj (hzero.symm.trans hcell)
  refine ⟨_, equal, others, hload, hequal, ?_, hothers, ?_⟩
  · rw [htaken.rows_eq]
    decide +kernel
  · rw [htaken'.rows_eq]
    decide +kernel

end CommandLine

end Columnar
