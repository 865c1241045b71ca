import Columnar.Proofs.Catalog.Joins
import Columnar.Proofs.Drawing.Layout
import Columnar.Proofs.Insertion
import Columnar.Proofs.Projection

/-!
# Relations whose columns have equal lengths

Only some of the operations look at the lengths of columns.  The others give relations with
columns of equal length all the same: because all columns are empty, because rows were taken out
of all of them at the same positions, because a row went to all of them or to none, or because
the columns are those of a relation that has equal lengths.  The one operation that does not
belong here changes a single column.

## Main definitions

* `RelationEdit.KeepsShape` — the changes that concern all columns or no cells.

## Main results

* `Relation.Rectangular.edit` — such a change keeps the lengths equal.
* `Relation.rectangular_of_select`, `Relation.rectangular_of_indexScan`,
  `rectangular_of_joinBy`, `Relation.rectangular_of_load` — what is given has equal lengths.
* `Relation.exists_render` — what has equal lengths can be drawn.
-/

namespace Columnar

/-- A change of a relation that leaves the cells alone, or appends to all columns. -/
def RelationEdit.KeepsShape : RelationEdit → Prop
  | .editColumn _ (.push _) => False
  | _ => True

namespace Relation

variable {r given : Relation} {name column : String}

/-! ### Relations that are given -/

theorem rectangular_empty (name : String) (schema : List Signature) :
    (empty name schema).Rectangular := by
  refine rectangular_of_size 0 fun column hc => ?_
  obtain ⟨⟨name, type⟩, -, rfl⟩ := List.mem_map.1 hc
  cases type <;> rfl

/-- Columns that are given have been compared with the first of them. -/
theorem rectangular_of_ofColumns {columns : List Column} (h : ofColumns name columns = .ok given) :
    given.Rectangular := by
  unfold ofColumns at h
  split at h
  · cases h
    exact nofun
  · next first rest =>
    split at h
    · cases h
    · next hsame =>
      cases h
      intro column hc
      by_contra hne
      exact List.find?_eq_none.1 hsame column hc (bne_iff_ne.2 hne)

theorem rectangular_of_ofCsv {delimiter : UInt8} {text : ByteArray}
    (h : (ofCsv name delimiter text).outcome = .ok given) : given.Rectangular := by
  obtain ⟨document, -, h⟩ := Run.exists_of_bind h
  obtain ⟨r, hr, h⟩ := Run.exists_of_bind h
  obtain ⟨_, -, h⟩ := Run.exists_of_bind h
  cases h
  exact rectangular_of_ofColumns (Run.ofCheck_eq_ok hr)

theorem rectangular_of_load {directory : Directory} {path : String} {delimiter : UInt8}
    (h : (load directory path delimiter).outcome = .ok given) : given.Rectangular := by
  unfold load at h
  split at h
  · exact rectangular_of_ofCsv h
  · cases h
  · cases h

theorem rectangular_of_gatherRows {rows : List Nat} (h : r.gatherRows name rows = .ok given) :
    given.Rectangular := by
  unfold gatherRows at h
  cases htaken : r.gatherColumns rows with
  | error f => rw [htaken] at h; cases h
  | ok taken =>
    rw [htaken] at h
    cases h
    exact rectangular_of_size _ fun c hc => ((allTaken_of_gatherColumns htaken).of_mem hc).1

theorem rectangular_of_select {op : Comparison} {value : Value}
    (h : (r.select column op value).outcome = .ok given) : given.Rectangular := by
  obtain ⟨_, h⟩ := exists_gatherRows_of_select h
  exact rectangular_of_gatherRows h

theorem rectangular_of_indexScan {key : Value}
    (h : (r.indexScan column key).run.outcome = .ok given) : given.Rectangular := by
  obtain ⟨_, _, h⟩ := exists_gatherRows_of_indexScan h
  exact rectangular_of_gatherRows h

/-! ### Relations that are changed -/

/-- Indexes have no part in the lengths. -/
theorem UpToIndexes.rectangular {r' : Relation} (h : r.UpToIndexes r') (hr : r.Rectangular) :
    r'.Rectangular := by
  refine rectangular_of_size r.rowCount fun column' hc => ?_
  obtain ⟨column, hcolumn, hsame⟩ := exists_mem_of_forall₂ h.columns hc
  rw [← hr column hcolumn, Column.size, Column.size, hsame.cells_eq]

/-- A row goes to all columns or to none. -/
theorem Rectangular.insert (hr : r.Rectangular) (row : List Value) :
    (r.insert row).after.Rectangular := by
  rcases r.insert_cases row with ⟨e, hrefused⟩ | ⟨-, -, hall⟩
  · rw [hrefused]
    exact hr
  · exact rectangular_of_size _ (hall.size_eq hr)

theorem Rectangular.edit (hr : r.Rectangular) {edit : RelationEdit} (hedit : edit.KeepsShape) :
    (edit.perform r).after.Rectangular := by
  cases edit with
  | insert row => exact hr.insert row
  | makeIndex column => exact Step.after_forget ((r.upToIndexes_makeIndex column).rectangular hr)
  | rename name => exact hr
  | editColumn name edit =>
    cases edit with
    | push value => cases hedit
    | buildIndex =>
      simp only [RelationEdit.perform]
      split
      · exact (r.upToIndexes_updateColumn name Column.UpToIndex.buildIndex).rectangular hr
      · exact hr

end Relation

/-! ### Drawing -/

/-- A relation with columns of equal length can be drawn. -/
theorem Relation.exists_render {r : Relation} (h : r.Rectangular) :
    ∃ table, r.render.outcome = .ok table := by
  unfold render
  rw [table_eq h]
  split <;> exact ⟨_, rfl⟩

/-! ### Joins -/

theorem rectangular_of_joinBy {left right joined : Relation} {leftColumn rightColumn : String}
    {schedule : Schedule} {strategy : JoinStrategy} {op : Comparison}
    (h : (joinBy schedule strategy left leftColumn right rightColumn op).outcome = .ok joined) :
    joined.Rectangular := by
  obtain ⟨pairs, hjoin⟩ := exists_isJoin_of_joinBy h
  exact hjoin.rectangular

end Columnar
