import Columnar.Proofs.Projection
import Columnar.Proofs.Selection
import Mathlib.Data.Option.Defs

/-!
# Selections and projections together

A selection keeps some of the rows and all of the columns, a projection some of the columns and
all of the rows, and neither looks at what the other one does: which rows are kept is said by one
column, and a column is looked up by its name.  So selections and projections can be done in any
order, as long as the projection keeps the column of the selection.

Two selections are compared through their rows.  Each is a filter of the rows, filters may be
exchanged, and a relation without indexes is known from its signatures and its rows
(`Relation.columns_eq_of_rowList_eq`).  A selection and a projection are compared column by
column, for taking rows out of a column does not depend on where the column stands.

## Main results

* `IsSelection.trans` — one selection after the other.
* `Relation.gatherRows_project` — rows may be taken before a projection or after it.
* `Relation.columns_project_project` — a projection of a projection.
* `Relation.select_scan_laws` — **selections and projections may be exchanged.**
-/

namespace Columnar

/-! ### Relations known from their rows -/

/-- Cells of one type are known from their values. -/
theorem Cells.eq_of_toList_eq {cells cells' : Cells} (htype : cells'.type = cells.type)
    (h : cells'.toList = cells.toList) : cells' = cells := by
  cases cells with
  | int values =>
    cases cells' with
    | int values' =>
      have hvalues := (List.map_inj_right fun _ _ => Value.int.inj).1 h
      rw [Array.toList_inj.1 hvalues]
    | float values' | text values' => cases htype
  | float values =>
    cases cells' with
    | float values' =>
      have hvalues := (List.map_inj_right fun _ _ => Value.float.inj).1 h
      rw [Array.toList_inj.1 hvalues]
    | int values' | text values' => cases htype
  | text values =>
    cases cells' with
    | text values' =>
      have hvalues := (List.map_inj_right fun _ _ => Value.text.inj).1 h
      rw [Array.toList_inj.1 hvalues]
    | int values' | float values' => cases htype

namespace Relation

variable {r r' : Relation} {name : String} {position : Nat} {column : Column}

/-- A relation without indexes is known from its signatures and its rows. -/
theorem columns_eq_of_rowList_eq (hr : r.Rectangular) (hr' : r'.Rectangular)
    (hindex : ∀ column ∈ r.columns, column.index = none)
    (hindex' : ∀ column ∈ r'.columns, column.index = none)
    (hschema : r'.schema = r.schema) (hrows : r'.rowList = r.rowList) :
    r'.columns = r.columns := by
  have hlength : r'.columns.length = r.columns.length := by
    simpa [schema] using congrArg List.length hschema
  refine List.ext_getElem hlength fun i hi' hi => ?_
  have hcolumn := List.getElem?_eq_getElem hi
  have hcolumn' := List.getElem?_eq_getElem hi'
  have hsignature : (r'.columns[i]).signature = (r.columns[i]).signature := by
    have hget := congrArg (·[i]?) hschema
    simpa [schema, hcolumn, hcolumn'] using hget
  have hcells : (r'.columns[i]).cells = (r.columns[i]).cells := by
    refine Cells.eq_of_toList_eq ?_ ?_
    · rw [Column.type_cells, Column.type_cells, hsignature]
    · have hmap := map_getElem?_rowList hr' hcolumn'
      rw [hrows, map_getElem?_rowList hr hcolumn] at hmap
      exact ((List.map_inj_right fun _ _ => Option.some.inj).1 hmap).symm
  have hnone := hindex _ (List.getElem_mem hi)
  have hnone' := hindex' _ (List.getElem_mem hi')
  -- the signature, the cells and the index are all that a column has
  generalize r.columns[i] = column at *
  generalize r'.columns[i] = column' at *
  obtain ⟨signature, cells, index, htype⟩ := column
  obtain ⟨signature', cells', index', htype'⟩ := column'
  subst hsignature hcells hnone hnone'
  rfl

end Relation

/-! ### Selections -/

namespace IsSelection

variable {r selected selected' : Relation} {passes passes' : List Value → Bool}

/-- A selection from a selection keeps the rows that pass both tests. -/
theorem trans (h : IsSelection r passes selected) (h' : IsSelection selected passes' selected') :
    IsSelection r (fun row => passes row && passes' row) selected' where
  schema_eq := h'.schema_eq.trans h.schema_eq
  rectangular := h'.rectangular
  unindexed := h'.unindexed
  rowList_eq := by
    rw [h'.rowList_eq, h.rowList_eq, List.filter_filter]
    exact List.filter_congr fun row _ => Bool.and_comm _ _

/-- Tests that agree select the same. -/
theorem columns_eq (h : IsSelection r passes selected) (h' : IsSelection r passes' selected')
    (hsame : ∀ row, passes' row = passes row) : selected'.columns = selected.columns := by
  refine Relation.columns_eq_of_rowList_eq h.rectangular h'.rectangular h.unindexed h'.unindexed
    (h'.schema_eq.trans h.schema_eq.symm) ?_
  rw [h'.rowList_eq, h.rowList_eq]
  exact List.filter_congr fun row _ => hsame row

end IsSelection

namespace Relation

variable {r : Relation} {name name' : String} {position position' : Nat} {column column' : Column}
  {value value' : Value}

/-- Two selections, one after the other, keep the rows that pass both. -/
theorem select_select (hr : r.Rectangular) (hcolumn : r.FirstNamed name position column)
    (htype : value.type = column.type) (hcolumn' : r.FirstNamed name' position' column')
    (htype' : value'.type = column'.type) (op op' : Comparison) :
    ∃ both, (r.select name op value >>= (·.select name' op' value')).outcome = .ok both ∧
      IsSelection r
        (fun row => cellPasses position op value row && cellPasses position' op' value' row)
        both := by
  obtain ⟨selected, hselected, hselection⟩ := select_ok hr hcolumn htype op
  -- the second column is found where it was, with another list of cells
  obtain ⟨found, hfound, hsignature⟩ := hcolumn'.of_schema_eq hselection.schema_eq
  have hfoundType : value'.type = found.type := by
    rw [htype', Column.type, Column.type, hsignature]
  obtain ⟨both, hboth, hselection'⟩ := select_ok hselection.rectangular hfound hfoundType op'
  refine ⟨both, ?_, hselection.trans hselection'⟩
  rw [Run.outcome_bind, hselected]
  exact hboth

/-! ### Projections -/

/-- What is found under a name, once rows were taken, are these rows of what was found. -/
theorem rel_column?_of_gatherColumns {rows : List Nat} {taken : List Column}
    (h : r.gatherColumns rows = .ok taken) (given name : String) :
    Option.Rel (fun column column' => column.take rows = .ok column') (r.column? name)
      (column? ⟨given, taken⟩ name) := by
  unfold gatherColumns at h
  unfold column?
  dsimp only
  have hall := mapM_eq_ok_iff.1 h
  clear h
  generalize r.columns = columns at hall
  induction hall with
  | nil => exact .none
  | @cons column column' columns taken htake hrest ih =>
    have hname : column'.name = column.name :=
      congrArg Signature.name (Column.isTaken_of_take htake).signature_eq
    rw [List.find?_cons, List.find?_cons, hname]
    cases column.name == name with
    | true => exact .some htake
    | false => exact ih

/-- Rows may be taken before a projection or after it. -/
theorem gatherRows_project {rows : List Nat} {taken : Relation} {given given' : String}
    (h : r.gatherRows given rows = .ok taken) (names : List String) :
    (r.project names).gatherRows given' rows = .ok ⟨given', (taken.project names).columns⟩ := by
  unfold gatherRows at h
  cases hcolumns : r.gatherColumns rows with
  | error fault =>
    rw [hcolumns] at h
    cases h
  | ok columns =>
    rw [hcolumns] at h
    cases h
    have hall : (r.project names).gatherColumns rows
        = .ok (names.filterMap (column? ⟨given, columns⟩)) := by
      refine mapM_eq_ok_iff.2 ?_
      unfold project
      dsimp only
      induction names with
      | nil => exact .nil
      | cons name names ih =>
        have hfound := rel_column?_of_gatherColumns hcolumns given name
        rw [List.filterMap_cons, List.filterMap_cons]
        generalize r.column? name = source, column? ⟨given, columns⟩ name = found at hfound ⊢
        cases hfound with
        | none => exact ih
        | some htake => exact .cons htake ih
    rw [gatherRows, hall]
    rfl

/-- A column that is asked for is found in a projection, perhaps elsewhere. -/
theorem FirstNamed.project {names : List String} (hmem : name ∈ names)
    (hcolumn : r.FirstNamed name position column) :
    ∃ position', (r.project names).FirstNamed name position' column := by
  refine exists_firstNamed_of_column? ?_
  rw [column?_project hmem]
  exact (firstNamed_iff.1 hcolumn).2

/-- A selection and a projection that keeps its column may be exchanged. -/
theorem select_project (hr : r.Rectangular) (hcolumn : r.FirstNamed name position column)
    (htype : value.type = column.type) (op : Comparison) {names : List String}
    (hmem : name ∈ names) :
    ∃ selected selected', (r.select name op value).outcome = .ok selected ∧
      ((r.project names).select name op value).outcome = .ok selected' ∧
      selected'.columns = (selected.project names).columns := by
  obtain ⟨selected, hselected, -⟩ := select_passing hr hcolumn htype op
  obtain ⟨position', hcolumn'⟩ := hcolumn.project hmem
  rw [outcome_select hcolumn' htype]
  have hgathered := Run.ofRead_eq_ok ((outcome_select hcolumn htype op).symm.trans hselected)
  rw [gatherRows_project hgathered names]
  exact ⟨selected, _, hselected, rfl, rfl⟩

/-- Of the names that are asked for last, a projection of a projection has those that were asked
for before. -/
theorem columns_project_project (r : Relation) (asked names : List String) :
    ((r.project asked).project names).columns
      = (r.project (names.filter (· ∈ asked))).columns := by
  show names.filterMap (r.project asked).column? = (names.filter (· ∈ asked)).filterMap r.column?
  rw [List.filterMap_filter]
  refine List.filterMap_congr fun name _ => ?_
  rw [column?_project_eq]
  simp only [decide_eq_true_eq]

/-! ### The laws -/

/-- **Selections and projections may be exchanged.**  Two selections with values of the right types
keep the rows that pass both, whichever comes first, and a selection that is repeated changes
nothing.  A selection and a projection that keeps its column give the same columns in either order,
or both are refused for the type of the value; that names are repeated or unknown makes no
difference.  A projection of a projection is one of the names that both ask for, and a projection
keeps the number of rows as long as it finds a column. -/
theorem select_scan_laws (hr : r.Rectangular) :
    (∀ name position column value name' position' column' value',
      r.FirstNamed name position column → value.type = column.type →
      r.FirstNamed name' position' column' → value'.type = column'.type →
      ∀ op op', ∃ both both',
        (r.select name op value >>= (·.select name' op' value')).outcome = .ok both ∧
        (r.select name' op' value' >>= (·.select name op value)).outcome = .ok both' ∧
        both'.columns = both.columns ∧
        IsSelection r (fun row =>
          cellPasses position op value row && cellPasses position' op' value' row) both) ∧
    (∀ name position column value,
      r.FirstNamed name position column → value.type = column.type → ∀ op, ∃ once twice,
        (r.select name op value).outcome = .ok once ∧
        (r.select name op value >>= (·.select name op value)).outcome = .ok twice ∧
        twice.columns = once.columns) ∧
    (∀ names name position column, name ∈ names → r.FirstNamed name position column →
      ∀ op value,
        (value.type = column.type → ∃ given given',
          (r.select name op value >>= (·.scan names)).outcome = .ok given ∧
          (r.scan names >>= (·.select name op value)).outcome = .ok given' ∧
          given'.columns = given.columns) ∧
        (value.type ≠ column.type → ∃ e, e = .valueTypeMismatch name column.type value.type ∧
          (r.select name op value >>= (·.scan names)).outcome = .error (.refused e) ∧
          (r.scan names >>= (·.select name op value)).outcome = .error (.refused e))) ∧
    (∀ asked names, ∃ given given',
      (r.scan asked >>= (·.scan names)).outcome = .ok given ∧
      (r.scan (names.filter (· ∈ asked))).outcome = .ok given' ∧
      given'.columns = given.columns) ∧
    ∀ names, (∃ name ∈ names, name ∈ r.header) → ∃ given,
      (r.scan names).outcome = .ok given ∧ given.rowCount = r.rowCount := by
  refine ⟨?exchange, ?repeated, ?project, ?scans, ?count⟩
  case exchange =>
    intro name position column value name' position' column' value' hcolumn htype hcolumn' htype'
      op op'
    obtain ⟨both, hboth, hselection⟩ := select_select hr hcolumn htype hcolumn' htype' op op'
    obtain ⟨both', hboth', hselection'⟩ := select_select hr hcolumn' htype' hcolumn htype op' op
    exact ⟨both, both', hboth, hboth',
      hselection.columns_eq hselection' fun row => Bool.and_comm _ _, hselection⟩
  case repeated =>
    intro name position column value hcolumn htype op
    obtain ⟨once, honce, hselection⟩ := select_ok hr hcolumn htype op
    obtain ⟨twice, htwice, hselection'⟩ := select_select hr hcolumn htype hcolumn htype op op
    exact ⟨once, twice, honce, htwice,
      hselection.columns_eq hselection' fun row => Bool.and_self _⟩
  case project =>
    intro names name position column hmem hcolumn op value
    constructor
    · intro htype
      obtain ⟨selected, selected', hselected, hselected', hcolumns⟩ :=
        select_project hr hcolumn htype op hmem
      refine ⟨selected.project names, selected', ?_, hselected', hcolumns⟩
      rw [Run.outcome_bind, hselected]
      rfl
    · intro htype
      obtain ⟨position', hcolumn'⟩ := hcolumn.project hmem
      refine ⟨_, rfl, ?_, outcome_select_of_type_ne hcolumn' htype op⟩
      rw [Run.outcome_bind, outcome_select_of_type_ne hcolumn htype]
      rfl
  case scans =>
    intro asked names
    exact ⟨_, _, rfl, rfl, (columns_project_project r asked names).symm⟩
  case count =>
    rintro names ⟨name, hmem, hname⟩
    obtain ⟨column, hcolumn⟩ := mem_header_iff.1 hname
    exact ⟨_, rfl, rowCount_project hr hmem hcolumn⟩

/-- Articles with their numbers and places, and another column of numbers behind them. -/
def articles : Relation :=
  ⟨"articles", [.ofCells "n" (.int #[3, 1, 2]), .ofCells "place" (.text #["x", "y", "x"]),
    .ofCells "n" (.int #[1, 1, 1])]⟩

/-- Of the articles at `x` the second is the one below `3`, also if the numbers come twice and the
places first.  It is the first column of numbers that counts, and it takes no text. -/
theorem select_scan_laws_repeated :
    articles.Rectangular ∧ articles.FirstNamed "n" 0 articles.columns[0] ∧
      articles.FirstNamed "place" 1 articles.columns[1] ∧
      (∃ both both',
        (articles.select "n" .lt (.int 3) >>= (·.select "place" .eq (.text "x"))).outcome
          = .ok both ∧
        (articles.select "place" .eq (.text "x") >>= (·.select "n" .lt (.int 3))).outcome
          = .ok both' ∧
        both'.columns = both.columns ∧ both.rowList = [[.int 2, .text "x", .int 1]]) ∧
      (∃ given given',
        (articles.select "n" .lt (.int 3) >>= (·.scan ["place", "none", "n", "n"])).outcome
          = .ok given ∧
        (articles.scan ["place", "none", "n", "n"] >>= (·.select "n" .lt (.int 3))).outcome
          = .ok given' ∧
        given'.columns = given.columns) ∧
      (articles.scan ["place", "n"] >>= (·.select "n" .lt (.text "3"))).outcome
        = .error (.refused (.valueTypeMismatch "n" .int .text)) ∧
      ∃ given, (articles.scan ["none", "place"]).outcome = .ok given ∧ given.rowCount = 3 := by
  have hr : articles.Rectangular := by decide
  have hnumber : articles.FirstNamed "n" 0 articles.columns[0] := firstNamed_iff.2 ⟨rfl, rfl⟩
  have hplace : articles.FirstNamed "place" 1 articles.columns[1] := firstNamed_iff.2 ⟨rfl, rfl⟩
  obtain ⟨hexchange, -, hproject, -, hcount⟩ := select_scan_laws hr
  obtain ⟨both, both', hboth, hboth', hcolumns, hselection⟩ :=
    hexchange _ _ _ (.int 3) _ _ _ (.text "x") hnumber rfl hplace rfl .lt .eq
  obtain ⟨hexchanged, -⟩ := hproject ["place", "none", "n", "n"] _ _ _ (by decide) hnumber .lt
    (.int 3)
  obtain ⟨-, hrefused⟩ := hproject ["place", "n"] _ _ _ (by decide) hnumber .lt (.text "3")
  obtain ⟨e, rfl, -, herror⟩ := hrefused (by decide)
  refine ⟨hr, hnumber, hplace, ⟨both, both', hboth, hboth', hcolumns, ?_⟩, hexchanged rfl, herror,
    hcount _ ⟨"place", by decide, by decide⟩⟩
  rw [hselection.rowList_eq]
  decide +kernel

end Relation

end Columnar
