import Columnar.Proofs.Join.Result
import Columnar.Proofs.Session

/-!
# Where the columns of a session come from

No operation takes a value out of a column or changes one, and an index is never touched
once it is built.  So each column of a session is, after a command, in one of three states.
It has no index; or its index was built just now, over all of its cells; or it has the index
of a column that was there before the command, and that column's cells in front of its own
(`Column.From`).  This is all that is needed to know what indexes are good for, and it is
proved once, for each operation on its own and then for every command
(`Session.all_from_step`).

The second and the third case differ in more than time.  A column that is appended to keeps
its index, which then says less about it than it did; no operation ever brings it up to date.

## Main definitions

* `Column.Extends` — a column has the index and at least the cells of another.
* `Column.From` — what an operation can make of the columns that were there.

## Main results

* `Session.all_from_step` — **every column after a command comes from those before it.**
-/

namespace Columnar

/-! ### The first rows of a column -/

namespace Cells

theorem size_firstRows (cells : Cells) (n : Nat) :
    (cells.firstRows n).size = min n cells.size := by
  cases cells <;> simp [firstRows, size]

theorem type_firstRows (cells : Cells) (n : Nat) : (cells.firstRows n).type = cells.type := by
  cases cells <;> rfl

theorem get?_firstRows (cells : Cells) (n row : Nat) :
    (cells.firstRows n).get? row = if row < n then cells.get? row else none := by
  have hextract : ∀ {α : Type} (values : Array α),
      (values.extract 0 n)[row]? = if row < n then values[row]? else none := by
    intro α values
    rw [Array.getElem?_extract, Nat.zero_add, Nat.sub_zero]
    by_cases hrow : row < values.size
    · have hiff : row < min n values.size ↔ row < n := by omega
      simp only [hiff]
    · rw [if_neg (by omega), Array.getElem?_eq_none (by omega), ite_self]
  cases cells with
  | int values | float values | text values =>
    simp only [firstRows, get?, hextract]
    split <;> rfl

theorem firstRows_size (cells : Cells) : cells.firstRows cells.size = cells := by
  cases cells <;> simp [firstRows, size]

theorem firstRows_firstRows (cells : Cells) (m n : Nat) :
    (cells.firstRows m).firstRows n = cells.firstRows (min n m) := by
  cases cells <;> simp [firstRows, Array.extract_extract]

/-- A value that is appended comes behind the cells that were there. -/
theorem firstRows_push? {cells grown : Cells} {value : Value}
    (h : cells.push? value = some grown) :
    cells.size ≤ grown.size ∧ grown.firstRows cells.size = cells := by
  cases cells <;> cases value <;> simp only [push?, Option.some.injEq, reduceCtorEq] at h <;>
    subst h <;> simp [size, firstRows]

end Cells

/-! ### Columns that grow -/

namespace Column

/-- A column has the index of another one, and its cells in front of its own. -/
structure Extends (column source : Column) : Prop where
  index_eq : column.index = source.index
  size_le : source.size ≤ column.size
  firstRows_eq : column.cells.firstRows source.size = source.cells

theorem Extends.of_cells_eq {column source : Column} (hindex : column.index = source.index)
    (hcells : column.cells = source.cells) : column.Extends source where
  index_eq := hindex
  size_le := Nat.le_of_eq (by rw [size, size, hcells])
  firstRows_eq := by rw [size, hcells, Cells.firstRows_size]

theorem Extends.refl (column : Column) : column.Extends column := .of_cells_eq rfl rfl

theorem Extends.of_push {column grown : Column} {value : Value}
    (h : column.push value = .ok grown) : grown.Extends column := by
  unfold push at h
  split at h
  · next cells hcells =>
    cases h
    obtain ⟨hle, hfirst⟩ := Cells.firstRows_push? hcells
    exact ⟨rfl, hle, hfirst⟩
  · cases h

/-- A column, after an operation, in terms of the columns before it. -/
inductive From (old : Column → Prop) (column : Column) : Prop
  /-- It is without an index. -/
  | unindexed (hindex : column.index = none)
  /-- Its index has just been built. -/
  | indexed (hindex : column.index = some (.build column.cells))
  /-- It is an old column, or what became of a copy of one to which values were appended. -/
  | grown (source : Column) (hold : old source) (hextends : column.Extends source)

variable {old : Column → Prop} {column : Column}

theorem From.of_old (h : old column) : column.From old := .grown column h (.refl column)

theorem From.buildIndex (h : old column) : column.buildIndex.2.From old := by
  unfold Column.buildIndex
  split
  · exact .of_old h
  · exact .indexed rfl

theorem From.columnEdit (h : old column) (edit : ColumnEdit) :
    (edit.perform column).after.From old := by
  cases edit with
  | push value =>
    simp only [ColumnEdit.perform]
    split
    · next grown hpush => exact .grown column h (.of_push hpush)
    · exact .of_old h
  | buildIndex => exact From.buildIndex h

end Column

/-! ### Relations that are changed -/

namespace Relation

variable {old : Column → Prop} {r : Relation}

theorem All.from_old (h : r.All old) : r.All (Column.From old) := h.imp fun _ => .of_old

/-- However far the appending of a row gets, columns grow and nothing else. -/
theorem extends_of_mem_pushRow {columns : List Column} {values : List Value} {column : Column}
    (hc : column ∈ (pushRow columns values).after) :
    ∃ source ∈ columns, column.Extends source := by
  induction columns generalizing values with
  | nil =>
    unfold pushRow at hc
    cases hc
  | cons first columns ih =>
    have hunchanged : ∀ c ∈ first :: columns, ∃ source ∈ first :: columns, c.Extends source :=
      fun c hc => ⟨c, hc, .refl c⟩
    cases values with
    | nil => exact hunchanged column hc
    | cons value values =>
      rw [pushRow] at hc
      cases hpush : first.push value with
      | error e =>
        -- a value that is refused ends the row, and this column and the rest stay
        rw [hpush] at hc
        exact hunchanged column hc
      | ok grown =>
        rw [hpush] at hc
        rcases List.mem_cons.1 hc with rfl | hc
        · exact ⟨first, List.mem_cons_self, .of_push hpush⟩
        · obtain ⟨source, hsource, hextends⟩ := ih hc
          exact ⟨source, List.mem_cons_of_mem _ hsource, hextends⟩

theorem All.insert (h : r.All old) (row : List Value) :
    (r.insert row).after.All (Column.From old) := by
  unfold Relation.insert
  split
  · exact h.from_old
  · split
    · exact h.from_old
    · -- the checks are passed, but nothing here depends on that
      intro column hc
      obtain ⟨source, hsource, hextends⟩ := extends_of_mem_pushRow hc
      exact .grown source (h source hsource) hextends

theorem All.makeIndex (h : r.All old) (name : String) :
    (r.makeIndex name).after.All (Column.From old) := by
  unfold Relation.makeIndex
  cases hresolve : r.resolve name with
  | error e => exact h.from_old
  | ok found =>
    obtain ⟨position, source⟩ := found
    have hsource : old source := h source (mem_of_column? (resolve_eq_ok_iff.1 hresolve).2)
    dsimp only
    split
    · exact h.from_old
    · next indexed hbuilt =>
      intro column hc
      rcases List.mem_or_eq_of_mem_set hc with hc | rfl
      · exact .of_old (h column hc)
      · have hindexed := Column.From.buildIndex hsource
        rwa [hbuilt] at hindexed

theorem All.updateColumn (h : r.All old) (name : String) {f : Column → Column}
    (hf : ∀ column, old column → (f column).From old) :
    (r.updateColumn name f).All (Column.From old) := by
  unfold Relation.updateColumn
  split
  · next position _ =>
    intro column hc
    obtain ⟨i, hi⟩ := List.mem_iff_getElem?.1 hc
    rw [List.getElem?_modify] at hi
    obtain ⟨source, hsource, rfl⟩ := Option.map_eq_some_iff.1 hi
    have hold := h source (List.mem_of_getElem? hsource)
    split
    · exact hf source hold
    · exact .of_old hold
  · exact h.from_old

theorem All.edit (h : r.All old) (edit : RelationEdit) :
    (edit.perform r).after.All (Column.From old) := by
  cases edit with
  | insert row => exact h.insert row
  | makeIndex column => exact Step.after_forget (h.makeIndex column)
  | rename name => exact h.from_old
  | editColumn name edit =>
    simp only [RelationEdit.perform]
    split
    · exact h.updateColumn name fun c hc => .columnEdit hc edit
    · exact h.from_old

/-- A search changes what the building of its index changes. -/
theorem All.indexScan (h : r.All old) (name : String) (key : Value) :
    (r.indexScan name key).after.All (Column.From old) :=
  Step.after_andThen (h.makeIndex name) fun _ _ => h.makeIndex name

end Relation

/-! ### Relations that are given

Rows are always gathered into columns without an index. -/

/-- No column of a relation has an index. -/
abbrev Relation.Unindexed (r : Relation) : Prop := r.All (·.index = none)

theorem Relation.Unindexed.from_old {r : Relation} (h : r.Unindexed) (old : Column → Prop) :
    r.All (Column.From old) :=
  h.imp fun _ => .unindexed

namespace Relation

variable {r given : Relation} {name column : String}

theorem unindexed_of_gatherRows {rows : List Nat} (h : r.gatherRows name rows = .ok given) :
    given.Unindexed := by
  unfold gatherRows at h
  cases htaken : r.gatherColumns rows with
  | error f => rw [htaken] at h; cases h
  | ok taken =>
    rw [htaken] at h
    cases h
    exact fun c hc => ((allTaken_of_gatherColumns htaken).of_mem hc).2

theorem exists_gatherRows_of_select {op : Comparison} {value : Value}
    (h : (r.select column op value).outcome = .ok given) :
    ∃ rows, r.gatherRows s!"select from {r.name}" rows = .ok given := by
  obtain ⟨⟨_, source⟩, -, h⟩ := Run.exists_of_bind h
  dsimp only at h
  split at h
  · cases h
  · obtain ⟨_, -, h⟩ := Run.exists_of_bind h
    exact ⟨_, Run.ofRead_eq_ok h⟩

/-- A search gathers its rows once the index is there. -/
theorem exists_gatherRows_of_indexScan {key : Value}
    (h : (r.indexScan column key).run.outcome = .ok given) :
    ∃ name rows, (r.makeIndex column).after.gatherRows name rows = .ok given := by
  obtain ⟨_, -, h⟩ := Step.exists_of_andThen h
  obtain ⟨_, -, h⟩ := Run.exists_of_bind h
  exact ⟨_, _, Run.ofRead_eq_ok h⟩

theorem unindexed_of_select {op : Comparison} {value : Value}
    (h : (r.select column op value).outcome = .ok given) : given.Unindexed := by
  obtain ⟨_, h⟩ := exists_gatherRows_of_select h
  exact unindexed_of_gatherRows h

theorem unindexed_of_indexScan {key : Value}
    (h : (r.indexScan column key).run.outcome = .ok given) : given.Unindexed := by
  obtain ⟨_, _, h⟩ := exists_gatherRows_of_indexScan h
  exact unindexed_of_gatherRows h

theorem eq_of_ofColumns {columns : List Column} (h : ofColumns name columns = .ok given) :
    given = ⟨name, columns⟩ := by
  unfold ofColumns at h
  split at h
  · cases h
    rfl
  · split at h
    · cases h
    · cases h
      rfl

/-- A relation that was read has the columns of a document. -/
theorem exists_of_ofCsv {delimiter : UInt8} {text : ByteArray}
    (h : (ofCsv name delimiter text).outcome = .ok given) :
    ∃ document, given = ⟨name, columnsOf document⟩ := by
  obtain ⟨document, -, h⟩ := Run.exists_of_bind h
  obtain ⟨r, hr, h⟩ := Run.exists_of_bind h
  obtain ⟨_, -, h⟩ := Run.exists_of_bind h
  cases h
  exact ⟨document, eq_of_ofColumns (Run.ofCheck_eq_ok hr)⟩

/-- A relation that was loaded is named after its file. -/
theorem exists_of_load {directory : Directory} {path : String} {delimiter : UInt8}
    (h : (load directory path delimiter).outcome = .ok given) :
    ∃ document, given = ⟨fileStem path, columnsOf document⟩ := by
  unfold load at h
  split at h
  · exact exists_of_ofCsv h
  · cases h
  · cases h

theorem unindexed_columnsOf (name : String) (document : Csv.Document) :
    (⟨name, columnsOf document⟩ : Relation).Unindexed := by
  intro c hc
  obtain ⟨_, -, rfl⟩ := List.mem_map.1 hc
  rfl

theorem unindexed_of_ofCsv {delimiter : UInt8} {text : ByteArray}
    (h : (ofCsv name delimiter text).outcome = .ok given) : given.Unindexed := by
  obtain ⟨document, rfl⟩ := exists_of_ofCsv h
  exact unindexed_columnsOf name document

theorem unindexed_of_load {directory : Directory} {path : String} {delimiter : UInt8}
    (h : (load directory path delimiter).outcome = .ok given) : given.Unindexed := by
  obtain ⟨document, rfl⟩ := exists_of_load h
  exact unindexed_columnsOf _ document

end Relation

section

variable {left right joined : Relation} {leftColumn rightColumn : String}

/-- What a join gives has no indexes, whatever the strategy. -/
theorem unindexed_of_joinBy {schedule : Schedule} {strategy : JoinStrategy} {op : Comparison}
    (h : (joinBy schedule strategy left leftColumn right rightColumn op).outcome = .ok joined) :
    joined.Unindexed := by
  obtain ⟨pairs, hjoin⟩ := exists_isJoin_of_joinBy h
  exact hjoin.unindexed

theorem unindexed_of_indexNestedLoopJoin
    (h : (indexNestedLoopJoin left leftColumn right rightColumn).outcome = .ok joined) :
    joined.Unindexed := by
  have hjoin : (joinBy .inOrder .indexNestedLoop left leftColumn right rightColumn .eq).outcome
      = .ok joined := h
  exact unindexed_of_joinBy hjoin

end

/-! ### Catalogs -/

namespace Catalog

variable {old : Column → Prop} {c : Catalog}

theorem All.from_old (h : c.All old) : c.All (Column.From old) := h.imp fun _ => .of_old

theorem All.register {p : Column → Prop} (h : c.All p) {r : Relation} (hr : r.All p) :
    (c.register r).after.All p :=
  h.put hr r.name

theorem All.of_drop {p : Column → Prop} (h : c.All p) {name : String} {r : Relation}
    (hr : (c.drop name).run.outcome = .ok r) : r.All p :=
  h name r (find?_of_drop hr)

theorem All.load (h : c.All old) (directory : Directory) (path : String) (delimiter : UInt8) :
    (c.load directory path delimiter).after.All (Column.From old) :=
  after_load h.from_old fun _ hr =>
    h.from_old.register ((Relation.unindexed_of_load hr).from_old old)

/-- What a join by name changes is the right relation, and no more in it than an index. -/
theorem All.join (h : c.All old) (schedule : Schedule) (strategy : JoinStrategy)
    (left leftColumn right rightColumn : String) (op : Comparison) :
    (c.join schedule strategy left leftColumn right rightColumn op).after.All
      (Column.From old) :=
  after_join h.from_old fun r hr => h.from_old.put ((h right r hr).makeIndex rightColumn) right

variable {left leftColumn right rightColumn : String} {joined : Relation}

theorem unindexed_of_joinWith {f : Relation → Relation → Run Relation}
    (hf : ∀ l r joined, (f l r).outcome = .ok joined → joined.Unindexed)
    (h : (c.joinWith left right f).outcome = .ok joined) : joined.Unindexed := by
  obtain ⟨l, -, h⟩ := Run.exists_of_bind h
  obtain ⟨r, -, h⟩ := Run.exists_of_bind h
  exact hf l r joined h

theorem unindexed_of_join {schedule : Schedule} {strategy : JoinStrategy} {op : Comparison}
    (h : (c.join schedule strategy left leftColumn right rightColumn op).run.outcome
      = .ok joined) : joined.Unindexed := by
  unfold Catalog.join at h
  split at h
  · split at h
    · obtain ⟨_, -, h⟩ := Step.exists_of_andThen h
      obtain ⟨_, -, h⟩ := Step.exists_of_andThen h
      exact unindexed_of_joinWith (fun _ _ _ => unindexed_of_indexNestedLoopJoin) h
    · cases h
  · exact unindexed_of_joinWith (fun _ _ _ => unindexed_of_joinBy) h

end Catalog

/-! ### Sessions -/

namespace Session

variable {s : Session}

theorem all_has (s : Session) : s.All s.Has := fun _ h => h

theorem all_from_has (s : Session) : s.All (Column.From s.Has) := fun _ => .of_old

theorem from_of_columnFrom {source : ColumnSource} {x : Run Column} {column : Column}
    (hx : s.columnFrom source = some x) (hcolumn : x.outcome = .ok column) :
    column.From s.Has := by
  cases source with
  | empty signature | ofCells name cells =>
    cases hx
    cases hcolumn
    exact .unindexed rfl
  | copy position =>
    obtain ⟨source, hsource, rfl⟩ := Option.map_eq_some_iff.1 hx
    cases hcolumn
    exact .of_old (.inl (List.mem_of_getElem? hsource))
  | ofRelation handle name =>
    simp only [columnFrom, Option.bind_eq_bind, Option.bind_eq_some_iff] at hx
    obtain ⟨found, hfound, r, hr, source, hsource, hx⟩ := hx
    cases hx
    cases hcolumn
    cases found with
    | error e => cases hr
    | ok r' =>
      cases hr
      exact .of_old (.inr ⟨r, holds_of_lookUp hfound, Relation.mem_of_column? hsource⟩)
  | take position rows =>
    obtain ⟨source, -, rfl⟩ := Option.map_eq_some_iff.1 hx
    exact .unindexed (Column.isTaken_of_take (Run.ofRead_eq_ok hcolumn)).index_eq

theorem from_of_relationFrom {source : RelationSource} {x : Run Relation} {r : Relation}
    (hx : s.relationFrom source = some x) (hr : x.outcome = .ok r) :
    r.All (Column.From s.Has) := by
  cases source with
  | empty name schema =>
    cases hx
    cases hr
    intro column hc
    obtain ⟨_, -, rfl⟩ := List.mem_map.1 hc
    exact .unindexed rfl
  | ofColumns name positions =>
    cases hx
    intro column hc
    rw [Relation.eq_of_ofColumns (Run.ofCheck_eq_ok hr)] at hc
    obtain ⟨position, -, hposition⟩ := List.mem_filterMap.1 hc
    exact .of_old (.inl (List.mem_of_getElem? hposition))
  | ofCsv name delimiter text =>
    cases hx
    exact (Relation.unindexed_of_ofCsv hr).from_old _
  | load directory path delimiter =>
    cases hx
    exact (Relation.unindexed_of_load hr).from_old _
  | copy handle =>
    obtain ⟨source, hsource, hr⟩ := exists_of_read hx hr
    cases hr
    exact s.all_from_has.of_holds hsource
  | scan handle names =>
    obtain ⟨source, hsource, hr⟩ := exists_of_read hx hr
    cases hr
    intro column hc
    obtain ⟨name, -, hname⟩ := List.mem_filterMap.1 hc
    exact s.all_from_has.of_holds hsource column (Relation.mem_of_column? hname)
  | select handle column op value =>
    obtain ⟨source, -, hr⟩ := exists_of_read hx hr
    exact (Relation.unindexed_of_select hr).from_old _
  | join schedule strategy left leftColumn right rightColumn op =>
    simp only [relationFrom, Option.bind_eq_bind, Option.bind_eq_some_iff] at hx
    obtain ⟨_, -, _, -, hx⟩ := hx
    cases hx
    obtain ⟨l, -, hr⟩ := Run.exists_of_bind hr
    obtain ⟨r', -, hr⟩ := Run.exists_of_bind hr
    exact (unindexed_of_joinBy hr).from_old _

/-- **Every column after a command comes from those before it.** -/
theorem all_from_step (s : Session) (command : Command) :
    (s.step command).All (Column.From s.Has) := by
  -- what a command does not touch is as it was, and stays so in every part of the command
  have hold : s.All (Column.From s.Has) := s.all_from_has
  have hcatalog : s.catalog.All s.Has := s.all_has.catalog
  cases command with
  | newColumn source =>
    exact after_on hold fun x hx => after_keeping hold fun column hcolumn =>
      hold.keepColumn (from_of_columnFrom hx hcolumn)
  | editColumn position edit =>
    refine after_on hold fun column hcolumn => hold.setColumn ?_ position
    exact .columnEdit (.inl (List.mem_of_getElem? hcolumn)) edit
  | newRelation source =>
    exact after_on hold fun x hx => after_keeping hold fun r hr =>
      hold.keep (from_of_relationFrom hx hr)
  | editRelation handle edit =>
    exact after_onRelation hold fun r hr =>
      hold.put ((s.all_has.of_holds hr).edit edit) handle
  | indexScan handle column key =>
    -- the index stays with the relation even if the rows cannot be gathered
    refine after_onRelation hold fun r hr => ?_
    have hedited := hold.put ((s.all_has.of_holds hr).indexScan column key) handle
    exact after_keeping hedited fun found hfound =>
      hedited.keep ((Relation.unindexed_of_indexScan hfound).from_old _)
  | create name schema =>
    have hempty : (Relation.empty name schema).Unindexed := by
      intro column hc
      obtain ⟨_, -, rfl⟩ := List.mem_map.1 hc
      rfl
    exact Step.after_forget (hold.withCatalog
      (Catalog.after_create (hcatalog.from_old.register (hempty.from_old _))))
  | register handle =>
    exact after_onRelation hold fun r hr =>
      hold.withCatalog (hcatalog.from_old.register (hold.of_holds hr))
  | drop name =>
    have hdropped := hold.withCatalog
      (Catalog.after_drop hcatalog.from_old (hcatalog.from_old.erase name))
    exact after_keeping hdropped fun r hr => hdropped.keep (hcatalog.from_old.of_drop hr)
  | load directory path delimiter =>
    exact Step.after_forget (hold.withCatalog (hcatalog.load directory path delimiter))
  | join schedule strategy left leftColumn right rightColumn op =>
    have hjoined := hold.withCatalog
      (hcatalog.join schedule strategy left leftColumn right rightColumn op)
    exact after_keeping hjoined fun r hr =>
      hjoined.keep ((Catalog.unindexed_of_join hr).from_old _)

end Session

end Columnar
