import Columnar.Load
import Columnar.Proofs.Rows

/-!
# Documents with records of one length

Reading a document compares every record with the header, so a document that was read has a field
in each record for every name, and no column of it can come out shorter than another.  So whatever
can be read makes up a relation, and loading can go wrong only in reading.

## Main results

* `Csv.length_of_read` — the records of a document are as long as its header.
* `size_of_mem_columnsOf` — its columns have one cell for each record.
* `map_getElem?_eq_fieldsAt`, `getElem?_columnsOf` — what is in a column.
* `Relation.outcome_ofCsv_of_read`, `Relation.outcome_ofCsv_of_error` — what loading comes to.
* `Catalog.outcome_load`, `Catalog.after_load_eq` — loading into a catalog.
-/

namespace Columnar

namespace Csv

variable {record : RawRecord} {fields : List String} {width : Nat}

theorem length_of_decode (h : decode record = .ok fields) : fields.length = record.fields.size := by
  have hall := mapM_eq_ok_iff.1 h
  rw [← hall.length_eq, List.length_zipIdx, Array.length_toList]

theorem length_of_decodeWidth (h : decodeWidth width record = .ok fields) :
    fields.length = width := by
  unfold decodeWidth at h
  split at h
  · next hwidth => rw [length_of_decode h, hwidth]
  · cases h

/-- The records of a document are as long as its header. -/
theorem length_of_read {delimiter : UInt8} {text : ByteArray} {document : Document}
    (h : read delimiter text = .ok document) :
    ∀ record ∈ document.records, record.length = document.header.length := by
  unfold read at h
  split at h
  · cases h
    exact nofun
  · next first rest _ =>
    obtain ⟨header, hheader, h⟩ := exists_of_bind_eq_ok h
    obtain ⟨records, hrecords, h⟩ := exists_of_bind_eq_ok h
    cases h
    intro record hrecord
    obtain ⟨raw, -, hraw⟩ := exists_mem_of_forall₂ (mapM_eq_ok_iff.1 hrecords) hrecord
    exact (length_of_decodeWidth hraw).trans (length_of_decode hheader).symm

end Csv

/-- The fields at a position, if each record has one there. -/
theorem map_getElem?_eq_fieldsAt {records : List (List String)} {position : Nat}
    (h : ∀ record ∈ records, position < record.length) :
    records.map (·[position]?) = (fieldsAt records position).map some := by
  unfold fieldsAt
  induction records with
  | nil => rfl
  | cons record records ih =>
    have hfield := List.getElem?_eq_getElem (h record List.mem_cons_self)
    rw [List.map_cons, List.filterMap_cons, hfield, List.map_cons,
      ih fun record hrecord => h record (List.mem_cons_of_mem _ hrecord)]

theorem length_fieldsAt {records : List (List String)} {position : Nat}
    (h : ∀ record ∈ records, position < record.length) :
    (fieldsAt records position).length = records.length := by
  have hlength := congrArg List.length (map_getElem?_eq_fieldsAt h)
  rw [List.length_map, List.length_map] at hlength
  exact hlength.symm

/-- Whatever type the fields are read as, each becomes a cell. -/
theorem size_inferCells (fields : List String) : (inferCells fields).size = fields.length := by
  unfold inferCells
  split
  · next hints => exact (mapM_eq_some_iff.1 hints).length_eq.symm
  · split
    · next hfloats => exact (mapM_eq_some_iff.1 hfloats).length_eq.symm
    · rfl

/-- The columns of a document have one cell for each record. -/
theorem size_of_mem_columnsOf {document : Csv.Document}
    (h : ∀ record ∈ document.records, record.length = document.header.length) :
    ∀ column ∈ columnsOf document, column.size = document.records.length := by
  intro column hc
  obtain ⟨⟨name, position⟩, hentry, rfl⟩ := List.mem_map.1 hc
  have hlt := (List.getElem?_eq_some_iff.1 (List.mem_zipIdx_iff_getElem?.1 hentry)).1
  rw [Column.size_ofCells, size_inferCells, length_fieldsAt]
  intro record hrecord
  rw [h record hrecord]
  exact hlt

theorem getElem?_columnsOf (document : Csv.Document) (position : Nat) :
    (columnsOf document)[position]? = document.header[position]?.map fun name =>
      .ofCells name (inferCells (fieldsAt document.records position)) := by
  rw [columnsOf, List.getElem?_map, List.getElem?_zipIdx, Option.map_map, Nat.zero_add]
  rfl

theorem map_name_columnsOf (document : Csv.Document) :
    (columnsOf document).map Column.name = document.header := by
  rw [columnsOf, List.map_map]
  exact List.zipIdx_map_fst 0 document.header

/-! ### Loading -/

namespace Relation

variable {delimiter : UInt8} {text : ByteArray} {document : Csv.Document} {cause : Csv.Error}

/-- Columns of equal lengths make up a relation. -/
theorem ofColumns_ok {columns : List Column} {n : Nat}
    (h : ∀ column ∈ columns, column.size = n) (name : String) :
    ofColumns name columns = .ok ⟨name, columns⟩ := by
  unfold ofColumns
  split
  · rfl
  · next first rest =>
    have hnone : (first :: rest).find? (fun column => column.size != first.size) = none := by
      refine List.find?_eq_none.2 fun column hcolumn => ?_
      rw [h column hcolumn, h first List.mem_cons_self, bne_self_eq_false]
      exact Bool.false_ne_true
    rw [hnone]

/-- A document that is read makes up a relation. -/
theorem outcome_ofCsv_of_read (h : Csv.read delimiter text = .ok document) (name : String) :
    (ofCsv name delimiter text).outcome = .ok ⟨name, columnsOf document⟩ := by
  have hsize := size_of_mem_columnsOf (Csv.length_of_read h)
  rw [ofCsv, h]
  show (ofDocument name document).outcome = _
  rw [ofDocument, ofColumns_ok hsize]
  rfl

/-- A document that cannot be read is refused for that reason. -/
theorem outcome_ofCsv_of_error (h : Csv.read delimiter text = .error cause) (name : String) :
    (ofCsv name delimiter text).outcome = .error (.refused (.csv cause)) := by
  rw [ofCsv, h]
  rfl

end Relation

/-! ### Catalogs -/

namespace Catalog

/-- That a relation is replaced is reported, and no more. -/
theorem outcome_register (c : Catalog) (r : Relation) : (c.register r).run.outcome = .ok () := by
  unfold register
  dsimp only
  split <;> rfl

variable (c : Catalog) (directory : Directory) (path : String) (delimiter : UInt8)

/-- A file that is loaded into a catalog is handed back and registered, and else nothing is. -/
theorem load_eq :
    (c.load directory path delimiter).run.outcome
        = (Relation.load directory path delimiter).outcome ∧
      (c.load directory path delimiter).after =
        match (Relation.load directory path delimiter).outcome with
        | .ok r => c.put r.name r
        | .error _ => c := by
  set reading : Step Catalog Relation := .ask c do
    let r ← Relation.load directory path delimiter
    .report (.relationLoaded r.name r.rowCount)
    pure r with hreading
  have houtcome : reading.run.outcome = (Relation.load directory path delimiter).outcome := by
    rw [hreading, Step.ask_run, Run.outcome_bind]
    cases (Relation.load directory path delimiter).outcome <;> rfl
  unfold load
  rw [← hreading]
  cases hload : (Relation.load directory path delimiter).outcome with
  | ok r =>
    rw [hload] at houtcome
    have hregister := Step.andThen_ok (outcome_register reading.after r)
      fun _ c => Step.ask c (pure r)
    rw [(Step.andThen_ok houtcome _).1, (Step.andThen_ok houtcome _).2, hregister.1, hregister.2]
    exact ⟨rfl, rfl⟩
  | error e =>
    rw [hload] at houtcome
    exact Step.andThen_error houtcome _

/-- Loading into a catalog comes to the same as loading, whatever the catalog holds. -/
theorem outcome_load :
    (c.load directory path delimiter).run.outcome
      = (Relation.load directory path delimiter).outcome :=
  (c.load_eq directory path delimiter).1

theorem after_load_eq :
    (c.load directory path delimiter).after =
      match (Relation.load directory path delimiter).outcome with
      | .ok r => c.put r.name r
      | .error _ => c :=
  (c.load_eq directory path delimiter).2

end Catalog

end Columnar
