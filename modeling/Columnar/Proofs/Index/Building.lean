import Columnar.Proofs.Join.Indexed

/-!
# What the building of an index leaves as it is

An index is built on a relation in place, and then everything but that index is as it was:
the name, the signatures and the cells of all columns.  Look-ups of names find the same
positions, rows are gathered into the same columns, and a join finds the same keys.

So it is a good question which operations can tell two relations apart that differ in their
indexes alone (`Relation.UpToIndexes`): a join through an index can, since an old index covers
fewer rows than a new one.  But an index that is built for a join, whether it is kept or not,
is one over all the rows, and the join cannot tell whether it was there before.

## Main definitions

* `Column.UpToIndex`, `Relation.UpToIndexes` — the same but for indexes.

## Main results

* `Relation.makeIndex_ok` — building an index on a column that is there.
* `Relation.updateColumn_buildIndex_twice` — building it once more changes nothing.
* `Relation.UpToIndexes.gatherColumns_eq` — the same rows are gathered.
* `Relation.outcome_indexScan` — a search takes the rows that are found in the index used.
* `Relation.UpToIndexes.exists_resolve` — the same keys are found.
* `outcome_indexNestedLoopJoin_makeIndex` — a join through an index, before and after it is
  built.
-/

namespace Columnar

/-! ### Columns and relations up to their indexes -/

/-- Two columns differ at most in their indexes. -/
structure Column.UpToIndex (column column' : Column) : Prop where
  signature_eq : column'.signature = column.signature
  cells_eq : column'.cells = column.cells

namespace Column

theorem UpToIndex.refl (column : Column) : column.UpToIndex column := ⟨rfl, rfl⟩

theorem UpToIndex.buildIndex (column : Column) : column.UpToIndex column.buildIndex.2 :=
  ⟨signature_buildIndex column, cells_buildIndex column⟩

/-- The index that was there is kept, and a missing one is built over the cells there are. -/
theorem buildIndex_eq (column : Column) :
    column.buildIndex.2
      = { column with index := some (column.index.getD (.build column.cells)) } := by
  obtain ⟨signature, cells, index, htype⟩ := column
  cases index <;> rfl

theorem buildIndex_twice (column : Column) :
    column.buildIndex.2.buildIndex.2 = column.buildIndex.2 := by
  simp only [buildIndex_eq, Option.getD_some]

/-- Once the index is there, a search is one in the index that was there before, or one over
all the rows. -/
theorem lookup_buildIndex (column : Column) (key : Value) :
    column.buildIndex.2.lookup key = (column.index.getD (.build column.cells)).lookup key := by
  rw [buildIndex_eq]
  rfl

/-- An index is not looked at when rows are taken. -/
theorem UpToIndex.take_eq {column column' : Column} (h : column.UpToIndex column')
    (rows : List Nat) : column'.take rows = column.take rows := by
  obtain ⟨signature, cells, index, htype⟩ := column
  obtain ⟨signature', cells', index', htype'⟩ := column'
  obtain ⟨rfl, rfl⟩ := h
  rfl

end Column

/-- Two relations differ at most in the indexes of their columns. -/
structure Relation.UpToIndexes (r r' : Relation) : Prop where
  name_eq : r'.name = r.name
  columns : List.Forall₂ Column.UpToIndex r.columns r'.columns

namespace Relation

variable {r r' : Relation} {name : String} {column : Column}

theorem UpToIndexes.refl (r : Relation) : r.UpToIndexes r :=
  ⟨rfl, List.forall₂_same.2 fun column _ => .refl column⟩

/-- Names are found where they were. -/
theorem UpToIndexes.position?_eq (h : r.UpToIndexes r') (name : String) :
    r'.position? name = r.position? name := by
  have hcolumns := h.columns
  unfold position?
  generalize r.columns = columns, r'.columns = columns' at hcolumns
  induction hcolumns with
  | nil => rfl
  | cons hcolumn _ ih =>
    rw [List.findIdx?_cons, List.findIdx?_cons, ih, Column.name, hcolumn.signature_eq]
    rfl

theorem UpToIndexes.exists_column? (h : r.UpToIndexes r') (hcolumn : r.column? name = some column) :
    ∃ column', r'.column? name = some column' ∧ column.UpToIndex column' := by
  obtain ⟨position, hfirst⟩ := exists_firstNamed_of_column? hcolumn
  have hposition := (firstNamed_iff.1 hfirst).1
  obtain ⟨hlt, hget⟩ := List.getElem?_eq_some_iff.1 hfirst.getElem?_eq
  have hlt' : position < r'.columns.length := by rw [← h.columns.length_eq]; exact hlt
  have hrel := h.columns.get hlt hlt'
  refine ⟨r'.columns[position], ?_, ?_⟩
  · rw [column?, List.find?_eq_bind_findIdx?_getElem?]
    show (r'.position? name).bind _ = _
    rw [h.position?_eq, hposition, Option.bind_some, List.getElem?_eq_getElem]
  · rw [← hget]
    exact hrel

/-- The same rows are gathered into the same columns. -/
theorem UpToIndexes.gatherColumns_eq (h : r.UpToIndexes r') (rows : List Nat) :
    r'.gatherColumns rows = r.gatherColumns rows := by
  have hcolumns := h.columns
  unfold gatherColumns
  generalize r.columns = columns, r'.columns = columns' at hcolumns
  induction hcolumns with
  | nil => rfl
  | cons hcolumn _ ih => rw [List.mapM_cons, List.mapM_cons, ih, hcolumn.take_eq]

/-! ### Changing one column -/

/-- Changing a column in its index changes the relation in no more. -/
theorem upToIndexes_updateColumn (r : Relation) (name : String) {f : Column → Column}
    (hf : ∀ column : Column, column.UpToIndex (f column)) :
    r.UpToIndexes (r.updateColumn name f) := by
  unfold updateColumn
  split
  · refine ⟨rfl, List.forall₂_iff_get.2 ⟨(List.length_modify ..).symm, fun i hi hi' => ?_⟩⟩
    simp only [List.get_eq_getElem, List.getElem_modify]
    split
    · exact hf _
    · exact .refl _
  · exact .refl r

/-- It is the first column of the name that changes, where it stands. -/
theorem updateColumn_eq_set {position : Nat} (h : r.FirstNamed name position column)
    (f : Column → Column) :
    r.updateColumn name f = { r with columns := r.columns.set position (f column) } := by
  simp only [updateColumn, (firstNamed_iff.1 h).1, List.modify_eq_set_getElem?, h.getElem?_eq,
    Option.map_eq_map, Option.map_some, Option.getD_some]

/-- A look-up of the name finds what was changed. -/
theorem column?_updateColumn (hcolumn : r.column? name = some column) {f : Column → Column}
    (hf : ∀ column : Column, column.UpToIndex (f column)) :
    (r.updateColumn name f).column? name = some (f column) := by
  obtain ⟨position, hfirst⟩ := exists_firstNamed_of_column? hcolumn
  have hposition := (firstNamed_iff.1 hfirst).1
  rw [column?, List.find?_eq_bind_findIdx?_getElem?]
  show ((r.updateColumn name f).position? name).bind _ = _
  rw [(r.upToIndexes_updateColumn name hf).position?_eq, hposition, Option.bind_some]
  simp only [updateColumn, hposition, List.getElem?_modify, hfirst.getElem?_eq,
    Option.map_eq_map, Option.map_some, if_true]

/-- It stands where it stood. -/
theorem FirstNamed.updateColumn {position : Nat} (h : r.FirstNamed name position column)
    {f : Column → Column} (hf : ∀ column : Column, column.UpToIndex (f column)) :
    (r.updateColumn name f).FirstNamed name position (f column) := by
  obtain ⟨hposition, hcolumn⟩ := firstNamed_iff.1 h
  have hsame := r.upToIndexes_updateColumn name hf
  exact firstNamed_iff.2
    ⟨(hsame.position?_eq name).trans hposition, column?_updateColumn hcolumn hf⟩

/-! ### Building an index -/

/-- Building an index on a column that is there goes well, and changes the first column of
the name. -/
theorem makeIndex_ok (hcolumn : r.column? name = some column) :
    (∃ built, (r.makeIndex name).run.outcome = .ok built) ∧
      (r.makeIndex name).after = r.updateColumn name (·.buildIndex.2) := by
  obtain ⟨position, hfirst⟩ := exists_firstNamed_of_column? hcolumn
  unfold makeIndex
  rw [resolve_eq_ok_iff.2 (firstNamed_iff.1 hfirst), updateColumn_eq_set hfirst]
  dsimp only
  cases hindex : column.index with
  | none =>
    have hbuild : column.buildIndex = (true, column.buildIndex.2) := by
      simp only [Column.buildIndex, hindex]
    rw [hbuild]
    exact ⟨⟨true, rfl⟩, rfl⟩
  | some index =>
    have hbuild : column.buildIndex = (false, column) := by
      simp only [Column.buildIndex, hindex]
    rw [hbuild]
    -- the column is put back where it stood
    refine ⟨⟨false, rfl⟩, ?_⟩
    obtain ⟨hlt, rfl⟩ := List.getElem?_eq_some_iff.1 hfirst.getElem?_eq
    rw [List.set_getElem_self]
    rfl

/-- Building an index once more changes nothing. -/
theorem updateColumn_buildIndex_twice (r : Relation) (name : String) :
    (r.updateColumn name (·.buildIndex.2)).updateColumn name (·.buildIndex.2)
      = r.updateColumn name (·.buildIndex.2) := by
  cases hposition : r.position? name with
  | none => simp only [updateColumn, hposition]
  | some position =>
    have hsame := r.upToIndexes_updateColumn name Column.UpToIndex.buildIndex
    have hposition' := (hsame.position?_eq name).trans hposition
    conv_lhs => rw [updateColumn, hposition']
    simp only [updateColumn, hposition, List.modify_modify_eq, Function.comp_def,
      Column.buildIndex_twice]

/-- Building an index on a column that is not there is refused, and nothing has changed. -/
theorem makeIndex_of_notMem (h : name ∉ r.header) :
    r.makeIndex name = .ask r (.refuse (.unknownColumn r.name name)) := by
  rw [makeIndex, resolve_eq_error_iff.2 ⟨h, rfl⟩]

/-- Building an index changes indexes alone, if it changes anything. -/
theorem upToIndexes_makeIndex (r : Relation) (name : String) :
    r.UpToIndexes (r.makeIndex name).after := by
  cases hresolve : r.resolve name with
  | error e =>
    rw [makeIndex, hresolve]
    exact .refl r
  | ok found =>
    rw [(makeIndex_ok (resolve_eq_ok_iff.1 hresolve).2).2]
    exact r.upToIndexes_updateColumn name Column.UpToIndex.buildIndex

/-! ### Searches -/

/-- A search leaves the relation as the building of its index does. -/
theorem after_indexScan (r : Relation) (name : String) (key : Value) :
    (r.indexScan name key).after = (r.makeIndex name).after :=
  Step.after_andThen (P := fun r' => r' = (r.makeIndex name).after) rfl fun _ _ => rfl

/-- A search takes the rows that are found in the index used: the one that was there, or one
over all the rows. -/
theorem outcome_indexScan (hcolumn : r.FirstNamed name position column) (key : Value) :
    (r.indexScan name key).run.outcome
      = (Run.ofRead (r.gatherRows s!"index scan on {r.name}"
          ((column.index.getD (.build column.cells)).lookup key))).outcome := by
  obtain ⟨⟨built, hbuilt⟩, hafter⟩ := makeIndex_ok (firstNamed_iff.1 hcolumn).2
  -- the column is found again, with its index
  have hagain := hcolumn.updateColumn Column.UpToIndex.buildIndex
  rw [← hafter] at hagain
  have hsame := r.upToIndexes_makeIndex name
  unfold indexScan
  rw [(Step.andThen_ok hbuilt _).1, Step.ask_run, resolve_eq_ok_iff.2 (firstNamed_iff.1 hagain)]
  change (Run.ofCheck (.ok (position, column.buildIndex.2)) >>= _).outcome = _
  rw [Run.outcome_bind, Run.outcome_ofCheck_ok, hsame.name_eq, ← column.lookup_buildIndex]
  change (Run.ofRead (gatherRows _ _ _)).outcome = _
  rw [gatherRows, hsame.gatherColumns_eq, gatherRows]

/-- A search in a column that is not there is refused, and nothing has changed. -/
theorem indexScan_of_notMem (h : name ∉ r.header) (key : Value) :
    (r.indexScan name key).run.outcome = .error (.refused (.unknownColumn r.name name)) ∧
      (r.indexScan name key).after = r := by
  have hmake := makeIndex_of_notMem h
  have hrefused : (r.makeIndex name).run.outcome
      = .error (.refused (.unknownColumn r.name name)) := by
    rw [hmake]
    rfl
  refine ⟨(Step.andThen_error hrefused _).1, ?_⟩
  rw [after_indexScan, hmake]
  rfl

end Relation

/-! ### Joins up to indexes -/

section

variable {left left' right right' : Relation} {leftColumn rightColumn : String} {keys : JoinKeys}

/-- The same keys are found, and pairs of rows are combined to the same relation. -/
theorem Relation.UpToIndexes.exists_resolve (hl : left.UpToIndexes left')
    (hr : right.UpToIndexes right')
    (hkeys : JoinKeys.Of left leftColumn right rightColumn keys) :
    ∃ keys', JoinKeys.Of left' leftColumn right' rightColumn keys' ∧
      keys.leftKey.UpToIndex keys'.leftKey ∧ keys.rightKey.UpToIndex keys'.rightKey ∧
      keys'.combine = keys.combine := by
  obtain ⟨leftKey', hlk, hleft⟩ := hl.exists_column? hkeys.leftKey_eq
  obtain ⟨rightKey', hrk, hright⟩ := hr.exists_column? hkeys.rightKey_eq
  refine ⟨⟨left', right', keys.leftPosition, keys.rightPosition, leftKey', rightKey',
    keys.cells⟩, ⟨rfl, rfl, ?_, ?_, hlk, hrk, ?_⟩, hleft, hright, ?_⟩
  · rw [hl.position?_eq, hkeys.leftPosition_eq]
  · rw [hr.position?_eq, hkeys.rightPosition_eq]
  · dsimp only
    rw [hleft.cells_eq, hright.cells_eq, hkeys.cells_eq]
  · funext strategy pairs
    unfold JoinKeys.combine
    simp only [hl.name_eq, hr.name_eq, hl.gatherColumns_eq, hr.gatherColumns_eq, hkeys.left_eq,
      hkeys.right_eq]

/-- A join through an index ends alike before and after the index it uses is built, on the
left relation too if that is the same. -/
theorem outcome_indexNestedLoopJoin_makeIndex
    (hkeys : JoinKeys.Of left leftColumn right rightColumn keys) (hl : left.UpToIndexes left') :
    (indexNestedLoopJoin left' leftColumn (right.updateColumn rightColumn (·.buildIndex.2))
        rightColumn).outcome
      = (indexNestedLoopJoin left leftColumn right rightColumn).outcome := by
  have hr := right.upToIndexes_updateColumn rightColumn Column.UpToIndex.buildIndex
  obtain ⟨keys', hkeys', hleft, -, hcombine⟩ := hl.exists_resolve hr hkeys
  have hrightKey : keys'.rightKey = keys.rightKey.buildIndex.2 :=
    Option.some.inj <| hkeys'.rightKey_eq.symm.trans
      (Relation.column?_updateColumn hkeys.rightKey_eq Column.UpToIndex.buildIndex)
  -- the index that was there, or one over all the rows
  have hindex : keys'.rightIndex = keys.rightIndex := by
    unfold JoinKeys.rightIndex
    rw [hrightKey]
    unfold Column.buildIndex
    cases hindex : keys.rightKey.index with
    | none => rfl
    | some index => simp only [hindex]
  rw [outcome_indexNestedLoopJoin hkeys', outcome_indexNestedLoopJoin hkeys, hcombine, hindex,
    hleft.cells_eq]

end

end Columnar
