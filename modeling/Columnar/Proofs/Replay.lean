import Columnar.Proofs.Insertion

/-!
# Rows that are appended

A relation that takes a row takes it at the end of every column.  Read across, the cells that
are appended are that row, and the rows before it are made of the cells that were there.

So a list of inserts, accepted and refused ones mixed, can be replayed as rows: those that are
accepted stand behind the rows that were there, in the order of the calls, and the others have
left no trace.  Whether a row is accepted depends on the signatures of the columns alone, which
no insert changes; so it can be said beforehand.

## Main definitions

* `Relation.GrownBy` — a relation has grown by given rows, and by nothing else.
* `Relation.insertAll` — what a list of inserts makes of a relation.

## Main results

* `AllPushed.cellsAt_eq` — the rows of columns that have taken a value each.
* `Relation.grownBy_insert` — one insert.
* `Relation.grownBy_insertAll` — a list of inserts.
* `Relation.inserts_replay` — **inserts are atomic, and replay as rows.**
-/

namespace Columnar

/-! ### All columns -/

namespace Relation

/-- What no column changes when it takes a value, the columns keep. -/
theorem AllPushed.map_eq {β : Type} {columns grown : List Column} {values : List Value}
    (h : AllPushed columns values grown) (hlength : columns.length ≤ values.length)
    {f : Column → β}
    (hf : ∀ (column pushed : Column) (value : Value),
      column.push value = .ok pushed → f pushed = f column) :
    grown.map f = columns.map f := by
  have hcolumns : columns.map f = (columns.zip values).map fun entry => f entry.1 := by
    rw [← Function.comp_def f Prod.fst, ← List.map_map, List.map_fst_zip hlength]
  rw [hcolumns]
  unfold AllPushed at h
  generalize columns.zip values = entries at h
  induction h with
  | nil => rfl
  | cons hpush _ ih => rw [List.map_cons, List.map_cons, ih, hf _ _ _ hpush]

/-- Across the columns, a row is what it was or the one that was appended. -/
theorem AllPushed.cellsAt_eq {columns grown : List Column} {values : List Value} {n : Nat}
    (h : AllPushed columns values grown) (hlength : columns.length = values.length)
    (hsize : ∀ column ∈ columns, column.size = n) (row : Nat) :
    cellsAt grown row = if row = n then values else cellsAt columns row := by
  -- column by column, what is read is the value that was appended or what was there
  have hentries : cellsAt grown row = (columns.zip values).filterMap fun entry =>
      if row = n then some entry.2 else entry.1.get? row := by
    have hsize' : ∀ entry ∈ columns.zip values, entry.1.size = n := fun entry hentry =>
      hsize entry.1 (List.of_mem_zip hentry).1
    unfold AllPushed at h
    unfold cellsAt
    generalize columns.zip values = entries at h hsize'
    induction h with
    | nil => rfl
    | @cons entry pushed entries grown hpush _ ih =>
      rw [List.filterMap_cons, List.filterMap_cons,
        ih fun entry hentry => hsize' entry (List.mem_cons_of_mem _ hentry),
        Column.get?_push hpush, hsize' entry List.mem_cons_self]
  rw [hentries]
  by_cases hrow : row = n
  · simp only [if_pos hrow]
    show (columns.zip values).filterMap (some ∘ Prod.snd) = values
    rw [List.filterMap_eq_map, List.map_snd_zip (Nat.le_of_eq hlength.symm)]
  · simp only [if_neg hrow]
    have hcolumns : (columns.zip values).map Prod.fst = columns :=
      List.map_fst_zip (Nat.le_of_eq hlength)
    unfold cellsAt
    conv_rhs => rw [← hcolumns, List.filterMap_map]
    rfl

/-! ### What inserts leave -/

/-- A relation has grown by rows at its end, and is otherwise what it was. -/
structure GrownBy (r : Relation) (rows : List (List Value)) (grown : Relation) : Prop where
  /-- The name is kept. -/
  name_eq : grown.name = r.name
  /-- The columns are the same ones. -/
  schema_eq : grown.schema = r.schema
  /-- Their indexes are those that were there. -/
  indexes_eq : grown.columns.map Column.index = r.columns.map Column.index
  /-- They have equal lengths. -/
  rectangular : grown.Rectangular
  /-- The new rows come behind the old ones. -/
  rows_eq : grown.rows = .ok (r.rowList ++ rows)

namespace GrownBy

variable {r grown grown' : Relation} {rows rows' : List (List Value)}

theorem refl (hr : r.Rectangular) : r.GrownBy [] r :=
  ⟨rfl, rfl, rfl, hr, by rw [Relation.rows_eq hr, List.append_nil]⟩

theorem rowList_eq (h : r.GrownBy rows grown) : grown.rowList = r.rowList ++ rows :=
  Except.ok.inj ((Relation.rows_eq h.rectangular).symm.trans h.rows_eq)

theorem trans (h : r.GrownBy rows grown) (h' : grown.GrownBy rows' grown') :
    r.GrownBy (rows ++ rows') grown' where
  name_eq := h'.name_eq.trans h.name_eq
  schema_eq := h'.schema_eq.trans h.schema_eq
  indexes_eq := h'.indexes_eq.trans h.indexes_eq
  rectangular := h'.rectangular
  rows_eq := by rw [h'.rows_eq, h.rowList_eq, List.append_assoc]

/-- The same rows are admitted. -/
theorem admits_iff (h : r.GrownBy rows grown) {row : List Value} :
    grown.Admits row ↔ r.Admits row := by
  rw [Admits, Admits, h.schema_eq]

theorem columns_ne_nil (h : r.GrownBy rows grown) (hne : r.columns ≠ []) : grown.columns ≠ [] := by
  have hlength := congrArg List.length h.schema_eq
  simp only [schema, List.length_map] at hlength
  rw [← List.length_pos_iff] at hne ⊢
  omega

end GrownBy

variable {r : Relation}

/-- A row that is taken stands behind the others, and nothing else has changed. -/
theorem grownBy_insert (hne : r.columns ≠ []) (hr : r.Rectangular) {row : List Value}
    (hadmits : r.Admits row) : r.GrownBy [row] (r.insert row).after := by
  rcases r.insert_cases row with ⟨e, hrefused⟩ | ⟨-, hname, hall⟩
  · have hok := outcome_insert_eq_ok_iff.2 hadmits
    rw [hrefused] at hok
    cases hok
  · have hlength : r.columns.length = row.length := hadmits.length_eq.symm
    have hsizes := hall.size_eq hr
    have hrect : (r.insert row).after.Rectangular := rectangular_of_size _ hsizes
    have hindexes := hall.map_eq (Nat.le_of_eq hlength) fun _ _ _ hpush =>
      (Column.push_spec hpush).2.1
    have hschema : (r.insert row).after.schema = r.schema :=
      hall.map_eq (Nat.le_of_eq hlength) fun _ _ _ hpush => (Column.push_spec hpush).1
    have hcount : (r.insert row).after.rowCount = r.rowCount + 1 := by
      refine rowCount_eq (fun hnil => hne ?_) hsizes
      rw [hnil, List.map_nil] at hindexes
      exact List.map_eq_nil_iff.1 hindexes.symm
    have hrow (i : Nat) :
        (r.insert row).after.rowOf i = if i = r.rowCount then row else r.rowOf i :=
      hall.cellsAt_eq hlength hr i
    have hbefore : (List.range r.rowCount).map (r.insert row).after.rowOf = r.rowList := by
      refine List.map_congr_left fun i hi => ?_
      rw [hrow, if_neg (Nat.ne_of_lt (List.mem_range.1 hi))]
    refine ⟨hname, hschema, hindexes, hrect, ?_⟩
    rw [Relation.rows_eq hrect, rowList, hcount, List.range_succ, List.map_append, hbefore,
      List.map_singleton, hrow, if_pos rfl]

/-- The relation after a list of inserts, each on what the last one left, refused or not. -/
def insertAll (r : Relation) (rows : List (List Value)) : Relation :=
  rows.foldl (fun r row => (r.insert row).after) r

theorem insertAll_cons (r : Relation) (row : List Value) (rows : List (List Value)) :
    r.insertAll (row :: rows) = (r.insert row).after.insertAll rows := rfl

/-- A list of inserts appends the rows that are admitted. -/
theorem grownBy_insertAll (hne : r.columns ≠ []) (hr : r.Rectangular)
    (rows : List (List Value)) :
    r.GrownBy (rows.filter fun row => r.Admits row) (r.insertAll rows) := by
  -- each insert goes to what the last one left, which admits the same rows
  induction rows generalizing r with
  | nil => exact .refl hr
  | cons row rows ih =>
    rw [insertAll_cons]
    by_cases hadmits : r.Admits row
    · have hgrown := grownBy_insert hne hr hadmits
      have hrest := ih (hgrown.columns_ne_nil hne) hgrown.rectangular
      simp only [hgrown.admits_iff] at hrest
      rw [List.filter_cons, if_pos (decide_eq_true hadmits)]
      exact hgrown.trans hrest
    · -- the row is refused, and the relation what it was
      have hstays : (r.insert row).after = r := by
        cases hinsert : (r.insert row).run.outcome with
        | ok done => exact absurd (outcome_insert_eq_ok_iff.1 hinsert) hadmits
        | error failure => exact after_insert_of_error hinsert
      rw [hstays, List.filter_cons, if_neg (mt of_decide_eq_true hadmits)]
      exact ih hne hr

/-- **Inserts are atomic, and replay as rows.**  After any calls the rows are those that were there
and, behind them, those that were accepted, in the order of the calls; the signatures and the
indexes are what they were, and the columns have equal lengths.  A call is accepted if its row has
one value for each column, of the column's type.  It then appends the row and changes nothing else.
Otherwise it is refused, for the length of the row or else for its leftmost mismatch, and changes
nothing at all. -/
theorem inserts_replay (hne : r.columns ≠ []) (hr : r.Rectangular) (calls : List (List Value)) :
    r.rows = .ok r.rowList ∧
    r.GrownBy (calls.filter fun row => r.Admits row) (r.insertAll calls) ∧
    ∀ row,
      (((r.insertAll calls).insert row).run.outcome = .ok () ↔ r.Admits row) ∧
      (((r.insertAll calls).insert row).run.outcome = .ok () →
        (r.insertAll calls).GrownBy [row] ((r.insertAll calls).insert row).after) ∧
      ∀ failure,
        (((r.insertAll calls).insert row).run.outcome = .error failure ↔
          (row.length ≠ r.columnCount ∧
            failure = .refused (.rowLength r.columnCount row.length)) ∨
          (row.length = r.columnCount ∧ ∃ position signature value,
            LeftmostMismatch r.schema row position signature value ∧
            failure
              = .refused (.valueTypeMismatch signature.name signature.type value.type))) ∧
        (((r.insertAll calls).insert row).run.outcome = .error failure →
          ((r.insertAll calls).insert row).after = r.insertAll calls) := by
  have hgrown := grownBy_insertAll hne hr calls
  refine ⟨Relation.rows_eq hr, hgrown, fun row => ⟨?_, fun hok => ?_, fun failure => ⟨?_, ?_⟩⟩⟩
  · rw [outcome_insert_eq_ok_iff, hgrown.admits_iff]
  · exact grownBy_insert (hgrown.columns_ne_nil hne) hgrown.rectangular
      (outcome_insert_eq_ok_iff.1 hok)
  · have hcount : (r.insertAll calls).columnCount = r.columnCount := by
      have hlength := congrArg List.length hgrown.schema_eq
      simpa [schema, columnCount] using hlength
    rw [outcome_insert_eq_error_iff, hgrown.schema_eq, hcount]
  · exact after_insert_of_error

/-- One order, and an index over the counts. -/
def orders : Relation :=
  ⟨"orders", [.ofCells "item" (.text #["nut"]), (Column.ofCells "count" (.int #[7])).buildIndex.2]⟩

/-- Of four rows the second is too short, and the third has its values exchanged. -/
theorem inserts_replay_mixed :
    orders.columns ≠ [] ∧ orders.Rectangular ∧
      (orders.insertAll [[.text "bolt", .int 2], [.text "cog"], [.int 3, .text "pin"],
        [.text "rod", .int 5]]).rows
        = .ok [[.text "nut", .int 7], [.text "bolt", .int 2], [.text "rod", .int 5]] ∧
      (orders.insert [.int 3, .text "pin"]).run.outcome
        = .error (.refused (.valueTypeMismatch "item" .text .int)) := by
  have hne : orders.columns ≠ [] := List.cons_ne_nil _ _
  have hr : orders.Rectangular := by decide
  obtain ⟨-, hgrown, -⟩ := inserts_replay hne hr [[.text "bolt", .int 2], [.text "cog"],
    [.int 3, .text "pin"], [.text "rod", .int 5]]
  obtain ⟨-, -, hcalls⟩ := inserts_replay hne hr []
  obtain ⟨-, -, hrefused⟩ := hcalls [.int 3, .text "pin"]
  have hmismatch : LeftmostMismatch orders.schema [.int 3, .text "pin"] 0
      ⟨"item", .text⟩ (.int 3) := ⟨rfl, rfl, by decide, nofun⟩
  exact ⟨hne, hr, hgrown.rows_eq, (hrefused _).1.2 (.inr ⟨rfl, 0, _, _, hmismatch, rfl⟩)⟩

end Relation

end Columnar
