import Columnar.Proofs.Rectangular
import Columnar.Proofs.Selection

/-!
# Operations without faults

A fault is a row position outside its column.  Positions come from a mask, which is as long as
the column it was made for; from an index, which covers the first rows of its column and no
others (`Column.Covered`); or from a join, which pairs rows of keys.  As long as all columns of
a relation are equally long, such a position is in range in every one of them, so that
operations are refused or go well.

## Main definitions

* `Run.Faultless` — an operation does not end in a fault.
* `Column.Covered` — an index knows the first rows of its column.

## Main results

* `Run.Faultless.bind`, `Step.faultless_andThen` — parts without faults make up a whole
  without.
* `Column.Covered.lt_size` — a search finds positions in range.
* `Relation.faultless_select`, `Relation.faultless_indexScan`, `faultless_joinBy`,
  `Catalog.faultless_join` — the operations that take rows out of columns.
-/

namespace Columnar

/-! ### Runs and steps without faults -/

/-- An operation does not end in a fault. -/
def Run.Faultless {α : Type} (x : Run α) : Prop := ∀ fault, x.outcome ≠ .error (.fault fault)

namespace Run

variable {α β : Type}

theorem faultless_of_ok {x : Run α} {a : α} (h : x.outcome = .ok a) : x.Faultless := by
  intro fault hfault
  rw [h] at hfault
  cases hfault

theorem faultless_of_refused {x : Run α} {e : Error} (h : x.outcome = .error (.refused e)) :
    x.Faultless := by
  intro fault hfault
  rw [h] at hfault
  cases hfault

theorem faultless_pure (a : α) : (pure a : Run α).Faultless := faultless_of_ok rfl

theorem faultless_report (e : Event) : (report e).Faultless := faultless_of_ok rfl

theorem faultless_refuse (e : Error) : (refuse e : Run α).Faultless := faultless_of_refused rfl

theorem faultless_ofCheck (x : Except Error α) : (ofCheck x).Faultless := by
  cases x with
  | ok a => exact faultless_of_ok rfl
  | error e => exact faultless_of_refused rfl

theorem Faultless.bind {x : Run α} {f : α → Run β} (hx : x.Faultless)
    (hf : ∀ a, x.outcome = .ok a → (f a).Faultless) : (x >>= f).Faultless := by
  intro fault hfault
  rw [outcome_bind] at hfault
  cases ha : x.outcome with
  | ok a =>
    rw [ha] at hfault
    exact hf a ha fault hfault
  | error e =>
    rw [ha] at hfault
    cases hfault
    exact hx fault ha

end Run

namespace Step

variable {σ α β : Type}

theorem faultless_andThen {x : Step σ α} {f : α → σ → Step σ β} (hx : x.run.Faultless)
    (hf : ∀ a, x.run.outcome = .ok a → (f a x.after).run.Faultless) :
    (x.andThen f).run.Faultless := by
  cases ha : x.run.outcome with
  | ok a =>
    intro fault hfault
    rw [(andThen_ok ha f).1] at hfault
    exact hf a ha fault hfault
  | error e =>
    intro fault hfault
    rw [(andThen_error ha f).1] at hfault
    cases hfault
    exact hx fault ha

theorem faultless_forget {x : Step σ α} (hx : x.run.Faultless) : x.forget.run.Faultless :=
  faultless_andThen hx fun _ _ => Run.faultless_pure ()

end Step

/-! ### Searches -/

namespace Column

/-- The index of a column, if it has one, is one over its first rows. -/
def Covered (column : Column) : Prop :=
  ∀ index, column.index = some index → ∃ k, index = .build (column.cells.firstRows k)

variable {column : Column}

theorem Traced.covered {commands : List Command} (h : column.Traced commands) :
    column.Covered := by
  intro index hindex
  obtain ⟨_, _, built, -, -, -, heq, -, hfirst⟩ := h index hindex
  exact ⟨built.size, heq.trans (congrArg _ hfirst.symm)⟩

/-- Whatever is made of columns, their indexes know first rows. -/
theorem From.covered (h : column.From Covered) : column.Covered := by
  intro index hindex
  cases h with
  | unindexed hnone =>
    rw [hnone] at hindex
    cases hindex
  | indexed hbuilt =>
    rw [hbuilt] at hindex
    cases hindex
    exact ⟨column.size, by rw [size, Cells.firstRows_size]⟩
  | grown source hold hextends =>
    rw [hextends.index_eq] at hindex
    obtain ⟨k, rfl⟩ := hold index hindex
    -- the first rows of the source are first rows of what it grew to
    exact ⟨min k source.size, by rw [← hextends.firstRows_eq, Cells.firstRows_firstRows]⟩

/-- A search finds positions in range. -/
theorem Covered.lt_size (h : column.Covered) {key : Value} {row : Nat}
    (hrow : row ∈ column.lookup key) : row < column.size := by
  unfold lookup at hrow
  cases hindex : column.index with
  | none => rw [hindex] at hrow; cases hrow
  | some index =>
    rw [hindex] at hrow
    obtain ⟨k, rfl⟩ := h index hindex
    obtain ⟨-, value, hvalue, -⟩ := Index.mem_lookup_firstRows.1 hrow
    exact Cells.get?_lt hvalue

end Column

/-! ### Operations on one relation -/

namespace Relation

variable {r : Relation} {column : String}

theorem faultless_gatherRows (hr : r.Rectangular) {rows : List Nat}
    (hrows : ∀ row ∈ rows, row < r.rowCount) (name : String) :
    (Run.ofRead (r.gatherRows name rows)).Faultless := by
  obtain ⟨given, hgiven, -⟩ := gatherRows_ok hr hrows name
  rw [hgiven]
  exact Run.faultless_of_ok rfl

theorem faultless_select (hr : r.Rectangular) (column : String) (op : Comparison)
    (value : Value) : (r.select column op value).Faultless := by
  intro fault hfault
  rcases (select_eq_error_iff hr).1 hfault with ⟨-, hrefused⟩ | ⟨_, _, -, -, hrefused⟩
  · cases hrefused
  · cases hrefused

theorem faultless_makeIndex (r : Relation) (column : String) :
    (r.makeIndex column).run.Faultless := by
  unfold makeIndex
  split
  · exact Run.faultless_refuse _
  · split
    · exact Run.faultless_pure _
    · exact (Run.faultless_report _).bind fun _ _ => Run.faultless_pure _

/-- A search finds its rows in an old index as well as in one that is built for it. -/
theorem faultless_indexScan (hr : r.Rectangular) (hcovered : r.All Column.Covered)
    (column : String) (key : Value) : (r.indexScan column key).run.Faultless := by
  intro fault hfault
  by_cases hmem : column ∈ r.header
  · obtain ⟨position, source, hsource⟩ := exists_firstNamed_of_mem hmem
    have hcolumn : source ∈ r.columns := List.mem_of_getElem? hsource.getElem?_eq
    have hindexed : source.buildIndex.2.Covered :=
      (Column.From.buildIndex (hcovered source hcolumn)).covered
    rw [outcome_indexScan hsource, ← source.lookup_buildIndex] at hfault
    refine faultless_gatherRows hr (fun row hrow => ?_) _ fault hfault
    rw [← hr source hcolumn, Column.size, ← source.cells_buildIndex]
    exact hindexed.lt_size hrow
  · rw [(indexScan_of_notMem hmem key).1] at hfault
    cases hfault

/-- A row is refused, or taken by every column. -/
theorem faultless_insert (r : Relation) (row : List Value) : (r.insert row).run.Faultless := by
  rcases r.insert_cases row with ⟨e, hrefused⟩ | ⟨hok, -⟩
  · rw [hrefused]
    exact Run.faultless_refuse e
  · exact Run.faultless_of_ok hok

theorem faultless_ofCsv (name : String) (delimiter : UInt8) (text : ByteArray) :
    (ofCsv name delimiter text).Faultless := by
  refine (Run.faultless_ofCheck _).bind fun document _ => ?_
  refine (Run.faultless_ofCheck _).bind fun r _ => ?_
  exact (Run.faultless_report _).bind fun _ _ => Run.faultless_pure r

theorem faultless_load (directory : Directory) (path : String) (delimiter : UInt8) :
    (load directory path delimiter).Faultless := by
  unfold load
  split
  · exact faultless_ofCsv _ _ _
  · exact Run.faultless_refuse _
  · exact Run.faultless_refuse _

end Relation

theorem faultless_columnEdit (column : Column) (edit : ColumnEdit) :
    (edit.perform column).run.Faultless := by
  cases edit with
  | push value =>
    simp only [ColumnEdit.perform]
    split
    · exact Run.faultless_pure ()
    · exact Run.faultless_refuse _
  | buildIndex => exact Run.faultless_pure ()

theorem faultless_relationEdit (r : Relation) (edit : RelationEdit) :
    (edit.perform r).run.Faultless := by
  cases edit with
  | insert row => exact r.faultless_insert row
  | makeIndex column => exact Step.faultless_forget (r.faultless_makeIndex column)
  | rename name => exact Run.faultless_pure ()
  | editColumn name edit =>
    simp only [RelationEdit.perform]
    split
    · next column _ => exact faultless_columnEdit column edit
    · exact Run.faultless_pure ()

/-! ### Joins -/

/-- A join that is not refused goes well. -/
theorem faultless_joinBy {commands : List Command} {left right : Relation}
    (hl : left.Rectangular) (hr : right.Rectangular)
    (htraced : right.All (Column.Traced commands)) (schedule : Schedule)
    (strategy : JoinStrategy) (leftColumn rightColumn : String) (op : Comparison) :
    (joinBy schedule strategy left leftColumn right rightColumn op).Faultless := by
  by_cases hsupports : strategy.Supports op
  · cases hresolve : JoinKeys.resolve left leftColumn right rightColumn with
    | error e => exact Run.faultless_of_refused (joinBy_of_resolve_error hsupports hresolve)
    | ok keys =>
      have hkeys := JoinKeys.resolve_eq_ok_iff.1 hresolve
      obtain ⟨joined, hjoined⟩ := joinBy_ok hsupports hkeys hl hr htraced
      exact Run.faultless_of_ok hjoined
  · rw [joinBy_of_not_supports hsupports]
    exact Run.faultless_refuse _

namespace Catalog

variable {c : Catalog}

theorem faultless_register (c : Catalog) (r : Relation) : (c.register r).run.Faultless := by
  unfold register
  dsimp only
  split
  · exact Run.faultless_report _
  · exact Run.faultless_pure ()

theorem faultless_create (c : Catalog) (name : String) (schema : List Signature) :
    (c.create name schema).run.Faultless :=
  Step.faultless_andThen (c.faultless_register _) fun _ _ => Run.faultless_pure _

theorem faultless_drop (c : Catalog) (name : String) : (c.drop name).run.Faultless := by
  unfold drop
  split
  · exact Run.faultless_pure _
  · exact Run.faultless_refuse _

theorem faultless_load (c : Catalog) (directory : Directory) (path : String)
    (delimiter : UInt8) : (c.load directory path delimiter).run.Faultless := by
  refine Step.faultless_andThen ?_ fun r _ => ?_
  · refine (Relation.faultless_load directory path delimiter).bind fun r _ => ?_
    exact (Run.faultless_report _).bind fun _ _ => Run.faultless_pure r
  · exact Step.faultless_andThen (faultless_register _ r) fun _ _ => Run.faultless_pure r

theorem faultless_join {commands : List Command}
    (h : ∀ name r, (Session.run commands).catalog.find? name = some r → r.Rectangular)
    (schedule : Schedule) (strategy : JoinStrategy)
    (left leftColumn right rightColumn : String) (op : Comparison) :
    ((Session.run commands).catalog.join schedule strategy left leftColumn right rightColumn
      op).run.Faultless := by
  rcases join_ok_or_refused rfl (h left) (h right) with ⟨joined, hok⟩ | ⟨e, hrefused⟩
  · exact Run.faultless_of_ok hok
  · exact Run.faultless_of_refused hrefused

end Catalog

end Columnar
