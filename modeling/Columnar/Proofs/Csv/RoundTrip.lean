import Columnar.Proofs.Csv.Written
import Columnar.Proofs.Loading
import Mathlib.Data.Option.Basic

/-!
# Loading what was written

A table that is written as delimited text, every field in quotes, is found again when the text is
loaded: its names in order, and in each column what its fields are read as, in the order of the
records.  Nothing that a field holds can change that, be it a delimiter, a quote or the end of a
line.  Nor can a record be taken for a part of another one: if one of them is too short or too
long, loading is refused.

## Main results

* `Relation.ofCsv_write` — **loading gives back what was written.**
-/

namespace Columnar

namespace Relation

variable {delimiter : UInt8} {header : List String}

/-- **Loading gives back what was written.**  If the delimiter is neither the quote nor the line
feed, a table of records that are as long as its header comes back as a relation: its header, its
number of records, and in each column the cells that its fields are read as, in order.  If a
record is of another length, and not written as an empty line for lack of fields, there is an
error and no relation. -/
theorem ofCsv_write (hquote : delimiter ≠ Csv.quote) (hline : delimiter ≠ 10)
    (hheader : header ≠ []) (records : List (List String)) (name : String) :
    ((∀ record ∈ records, record.length = header.length) →
      ∃ r, (ofCsv name delimiter (Csv.write delimiter ⟨header, records⟩)).outcome = .ok r ∧
        r.name = name ∧ r.header = header ∧ r.columns.length = header.length ∧
        r.rowCount = records.length ∧ r.Rectangular ∧
        ∀ (position : Nat) (title : String), header[position]? = some title →
          ∃ fields, records.map (·[position]?) = fields.map some ∧
            r.columns[position]? = some (.ofCells title (inferCells fields))) ∧
    ((∃ record ∈ records, record ≠ [] ∧ record.length ≠ header.length) →
      ∃ position record, record ∈ records ∧ record ≠ [] ∧ record.length ≠ header.length ∧
        (ofCsv name delimiter (Csv.write delimiter ⟨header, records⟩)).outcome
          = .error (.refused (.csv
              (.unequalLengths position header.length record.length)))) := by
  constructor
  · intro hwidth
    have hread : Csv.read delimiter (Csv.write delimiter ⟨header, records⟩)
        = .ok ⟨header, records⟩ := by
      have hnonblank := Csv.nonblank_of_length (List.length_pos_iff.2 hheader) hwidth
      have hread := Csv.read_write hquote hline hheader (hnonblank.symm ▸ hwidth)
      rwa [hnonblank] at hread
    set document : Csv.Document := ⟨header, records⟩
    have hsize : ∀ column ∈ columnsOf document, column.size = records.length :=
      size_of_mem_columnsOf hwidth
    have hlength : (columnsOf document).length = header.length := by
      rw [← List.length_map (f := Column.name), map_name_columnsOf]
    have hne : columnsOf document ≠ [] := by
      rw [← List.length_pos_iff, hlength]
      exact List.length_pos_iff.2 hheader
    refine ⟨_, outcome_ofCsv_of_read hread name, rfl, map_name_columnsOf document, hlength,
      rowCount_eq hne hsize, rectangular_of_size _ hsize, fun position title htitle => ?_⟩
    have hposition : ∀ record ∈ records, position < record.length := by
      intro record hrecord
      rw [hwidth record hrecord]
      exact (List.getElem?_eq_some_iff.1 htitle).1
    refine ⟨fieldsAt records position, map_getElem?_eq_fieldsAt hposition, ?_⟩
    rw [getElem?_columnsOf, htitle, Option.map_some]
  · rintro ⟨record, hrecord, hfields, hwidth⟩
    have hmem : record ∈ Csv.nonblank records := Csv.mem_nonblank.2 ⟨hrecord, hfields⟩
    cases hodd : (Csv.nonblank records).find? (·.length != header.length) with
    | none => exact absurd hwidth (by simpa using List.find?_eq_none.1 hodd record hmem)
    | some odd =>
      obtain ⟨position, herror⟩ := Csv.read_write_error hquote hline hheader hodd
      obtain ⟨hmem', hfields'⟩ := Csv.mem_nonblank.1 (List.mem_of_find?_eq_some hodd)
      refine ⟨position, odd, hmem', hfields', ?_, outcome_ofCsv_of_error herror name⟩
      have hlength := List.find?_some hodd
      exact bne_iff_ne.1 hlength

/-- A delimiter, quotes, a line end and an empty field come back from where they were, and a
record that lacks a field is told from one that has none. -/
theorem ofCsv_write_quoted :
    (59 : UInt8) ≠ Csv.quote ∧ (59 : UInt8) ≠ 10 ∧
      (∃ r, (ofCsv "notes" 59 (Csv.write 59
          ⟨["said; by", "n"], [["\"yes\"\n", "1"], ["", "-2"]]⟩)).outcome = .ok r ∧
        r.header = ["said; by", "n"] ∧ r.rowCount = 2 ∧
        r.columns[0]? = some (.ofCells "said; by" (.text #["\"yes\"\n", ""])) ∧
        r.columns[1]? = some (.ofCells "n" (.int #[1, -2]))) ∧
      ∃ position, (ofCsv "notes" 59 (Csv.write 59 ⟨["said; by", "n"], [[], ["no"]]⟩)).outcome
        = .error (.refused (.csv (.unequalLengths position 2 1))) := by
  have hquote : (59 : UInt8) ≠ Csv.quote := by decide
  have hline : (59 : UInt8) ≠ 10 := by decide
  have hheader : ["said; by", "n"] ≠ [] := nofun
  refine ⟨hquote, hline, ?_, ?_⟩
  · obtain ⟨hread, -⟩ :=
      ofCsv_write hquote hline hheader [["\"yes\"\n", "1"], ["", "-2"]] "notes"
    obtain ⟨r, hrun, -, htitles, -, hcount, -, hcolumns⟩ := hread (by decide)
    have hsome := List.map_injective_iff.2 (Option.some_injective String)
    obtain ⟨said, hsaid, hcells⟩ := hcolumns 0 "said; by" rfl
    obtain ⟨n, hn, hcells'⟩ := hcolumns 1 "n" rfl
    obtain rfl : ["\"yes\"\n", ""] = said := hsome hsaid
    obtain rfl : ["1", "-2"] = n := hsome hn
    exact ⟨r, hrun, htitles, hcount, hcells, hcells'⟩
  · obtain ⟨-, hrefused⟩ := ofCsv_write hquote hline hheader [[], ["no"]] "notes"
    obtain ⟨position, record, hmem, hfields, -, hrun⟩ :=
      hrefused ⟨["no"], by decide, by decide, by decide⟩
    obtain rfl : record = ["no"] := by simpa [hfields] using hmem
    exact ⟨position, hrun⟩

end Relation

end Columnar
