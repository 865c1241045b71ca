import Columnar.Proofs.Faults
import Columnar.Proofs.Join.Buckets
import Columnar.Proofs.Loading

/-!
# Sessions without faults

A session keeps the columns of every relation equally long, as long as nobody appends to a single
column of one.  This is an invariant of a run: each command gives or changes relations in a way
that has it (`Session.Each.step`), whether what it works on was made, loaded, derived from others
or registered and found again.

So no command of a session runs into a position that is not there.  What it takes rows from has
equally long columns, and the positions it takes are those of a mask, of an index or of pairs of
keys, and in range.  Old indexes are no exception, since an index never knows more rows than there
are.  Only who takes rows out of a column in hand gives the positions himself.

## Main definitions

* `Command.KeepsShape` — a command that does not append to a single column of a relation.

## Main results

* `Session.each_rectangular` — the columns of all relations of a session have equal lengths.
* `Session.faultless_perform`, `Session.fault_newColumn` — when a command ends in a fault.
* `Session.safe` — **equal lengths and no faults, at any point of a run.**
-/

namespace Columnar

/-- A command that appends no value to a single column of a relation. -/
def Command.KeepsShape : Command → Prop
  | .editRelation _ edit => edit.KeepsShape
  | _ => True

namespace Session

variable {s : Session}

/-! ### Equal lengths -/

theorem rectangular_of_relationFrom (h : s.Each Relation.Rectangular) {source : RelationSource}
    {x : Run Relation} {r : Relation} (hx : s.relationFrom source = some x)
    (hr : x.outcome = .ok r) : r.Rectangular := by
  cases source with
  | empty name schema =>
    cases hx
    cases hr
    exact Relation.rectangular_empty name schema
  | ofColumns name positions =>
    cases hx
    exact Relation.rectangular_of_ofColumns (Run.ofCheck_eq_ok hr)
  | ofCsv name delimiter text =>
    cases hx
    exact Relation.rectangular_of_ofCsv hr
  | load directory path delimiter =>
    cases hx
    exact Relation.rectangular_of_load hr
  | copy handle =>
    obtain ⟨source, hsource, hr⟩ := exists_of_read hx hr
    cases hr
    exact h _ hsource
  | scan handle names =>
    obtain ⟨source, hsource, hr⟩ := exists_of_read hx hr
    cases hr
    exact Relation.rectangular_project (h source hsource) names
  | select handle column op value =>
    obtain ⟨source, -, hr⟩ := exists_of_read hx hr
    exact Relation.rectangular_of_select hr
  | join schedule strategy left leftColumn right rightColumn op =>
    simp only [relationFrom, Option.bind_eq_bind, Option.bind_eq_some_iff] at hx
    obtain ⟨_, -, _, -, hx⟩ := hx
    cases hx
    obtain ⟨l, -, hr⟩ := Run.exists_of_bind hr
    obtain ⟨r', -, hr⟩ := Run.exists_of_bind hr
    exact rectangular_of_joinBy hr

/-- A command that keeps the shape of relations keeps that of all of them. -/
theorem Each.step (h : s.Each Relation.Rectangular) {command : Command}
    (hcommand : command.KeepsShape) : (s.step command).Each Relation.Rectangular := by
  have hcatalog : s.catalog.Each Relation.Rectangular := h.catalog
  cases command with
  | newColumn source => exact after_on h fun x _ => after_keeping h fun _ _ => h
  | editColumn position edit => exact after_on h fun _ _ => h
  | newRelation source =>
    exact after_on h fun x hx => after_keeping h fun r hr =>
      h.keep (rectangular_of_relationFrom h hx hr)
  | editRelation handle edit =>
    exact after_onRelation h fun r hr => h.put ((h r hr).edit hcommand) handle
  | indexScan handle column key =>
    refine after_onRelation h fun r hr => ?_
    have hindexed : (r.indexScan column key).after.Rectangular := by
      rw [r.after_indexScan]
      exact (r.upToIndexes_makeIndex column).rectangular (h r hr)
    have hput := h.put hindexed handle
    exact after_keeping hput fun found hfound =>
      hput.keep (Relation.rectangular_of_indexScan hfound)
  | create name schema =>
    exact Step.after_forget (h.withCatalog (Catalog.after_create
      (hcatalog.put (Relation.rectangular_empty name schema) name)))
  | register handle =>
    exact after_onRelation h fun r hr => h.withCatalog (hcatalog.put (h r hr) r.name)
  | drop name =>
    have hdropped := h.withCatalog (Catalog.after_drop hcatalog (hcatalog.erase name))
    refine after_keeping hdropped fun r hr => hdropped.keep ?_
    have hfound : s.catalog.find? name = some r := Catalog.find?_of_drop hr
    exact hcatalog name r hfound
  | load directory path delimiter =>
    exact Step.after_forget (h.withCatalog (Catalog.after_load hcatalog fun r hr =>
      hcatalog.put (Relation.rectangular_of_load hr) r.name))
  | join schedule strategy left leftColumn right rightColumn op =>
    have hafter : (s.catalog.join schedule strategy left leftColumn right rightColumn
        op).after.Each Relation.Rectangular :=
      Catalog.after_join hcatalog fun r hr => hcatalog.put
        ((r.upToIndexes_makeIndex rightColumn).rectangular (hcatalog right r hr)) right
    have hjoined := h.withCatalog hafter
    refine after_keeping hjoined fun joined hr => hjoined.keep ?_
    obtain ⟨l, r, -, -, hr⟩ := Catalog.exists_of_join hr
    exact rectangular_of_joinBy hr

/-- The columns of all relations of a session have equal lengths. -/
theorem each_rectangular {commands : List Command}
    (h : ∀ command ∈ commands, command.KeepsShape) :
    (run commands).Each Relation.Rectangular := by
  induction commands using List.reverseRecOn with
  | nil => exact fun r hr => absurd hr (not_holds_start r)
  | append_singleton commands command ih =>
    rw [run_concat]
    have hbefore := ih fun command hc => h command (List.mem_append_left _ hc)
    exact hbefore.step (h command (List.mem_append_right _ (List.mem_singleton.2 rfl)))

/-! ### No faults -/

section

variable {α : Type} {handle : Handle}

theorem faultless_keeping {keep : Session → α → Session} {x : Step Session α}
    (hx : x.run.Faultless) : (keeping keep x).run.Faultless :=
  Step.faultless_andThen hx fun _ _ => Run.faultless_pure ()

theorem faultless_on {x : Option α} {f : α → Step Session Unit}
    (hf : ∀ a, x = some a → (f a).run.Faultless) : (s.on x f).run.Faultless := by
  cases x with
  | none => exact Run.faultless_pure ()
  | some a => exact hf a rfl

theorem faultless_onRelation {f : Relation → Step Session Unit}
    (hf : ∀ r, s.Holds r → (f r).run.Faultless) : (s.onRelation handle f).run.Faultless := by
  refine faultless_on fun found hfound => ?_
  cases found with
  | error e => exact Run.faultless_refuse e
  | ok r => exact hf r (holds_of_lookUp hfound)

theorem faultless_read {f : Relation → Run α} {x : Run α} (hx : s.read handle f = some x)
    (hf : ∀ r, s.Holds r → (f r).Faultless) : x.Faultless := by
  obtain ⟨found, hfound, rfl⟩ := Option.map_eq_some_iff.1 hx
  refine (Run.faultless_ofCheck found).bind fun r hr => hf r ?_
  rw [Run.ofCheck_eq_ok hr] at hfound
  exact holds_of_lookUp hfound

end

variable {commands : List Command}

theorem faultless_relationFrom (h : (run commands).Each Relation.Rectangular)
    {source : RelationSource} {x : Run Relation}
    (hx : (run commands).relationFrom source = some x) : x.Faultless := by
  cases source with
  | empty name schema =>
    cases hx
    exact Run.faultless_pure _
  | ofColumns name positions =>
    cases hx
    exact Run.faultless_ofCheck _
  | ofCsv name delimiter text =>
    cases hx
    exact Relation.faultless_ofCsv name delimiter text
  | load directory path delimiter =>
    cases hx
    exact Relation.faultless_load directory path delimiter
  | copy handle => exact faultless_read hx fun r _ => Run.faultless_pure r
  | scan handle names => exact faultless_read hx fun r _ => Run.faultless_of_ok rfl
  | select handle column op value =>
    exact faultless_read hx fun r hr => Relation.faultless_select (h r hr) column op value
  | join schedule strategy left leftColumn right rightColumn op =>
    simp only [relationFrom, Option.bind_eq_bind, Option.bind_eq_some_iff] at hx
    obtain ⟨foundLeft, hleft, foundRight, hright, hx⟩ := hx
    cases hx
    refine (Run.faultless_ofCheck foundLeft).bind fun l hl => ?_
    refine (Run.faultless_ofCheck foundRight).bind fun r hr => ?_
    rw [Run.ofCheck_eq_ok hl] at hleft
    rw [Run.ofCheck_eq_ok hr] at hright
    exact faultless_joinBy (h l (holds_of_lookUp hleft)) (h r (holds_of_lookUp hright))
      ((all_traced commands).of_holds (holds_of_lookUp hright)) schedule strategy leftColumn
      rightColumn op

/-- A command that makes no column runs into no position that is not there. -/
theorem faultless_perform (h : (run commands).Each Relation.Rectangular) {command : Command}
    (hcommand : ∀ source, command ≠ .newColumn source) :
    ((run commands).perform command).run.Faultless := by
  cases command with
  | newColumn source => exact absurd rfl (hcommand source)
  | editColumn position edit => exact faultless_on fun column _ => faultless_columnEdit column edit
  | newRelation source =>
    exact faultless_on fun x hx => faultless_keeping (faultless_relationFrom h hx)
  | editRelation handle edit => exact faultless_onRelation fun r _ => faultless_relationEdit r edit
  | indexScan handle column key =>
    refine faultless_onRelation fun r hr => faultless_keeping ?_
    have hcovered : r.All Column.Covered :=
      ((all_traced commands).of_holds hr).imp fun _ => Column.Traced.covered
    exact Relation.faultless_indexScan (h r hr) hcovered column key
  | create name schema => exact Step.faultless_forget (Catalog.faultless_create _ name schema)
  | register handle => exact faultless_onRelation fun r _ => Catalog.faultless_register _ r
  | drop name => exact faultless_keeping (Catalog.faultless_drop _ name)
  | load directory path delimiter =>
    exact Step.faultless_forget (Catalog.faultless_load _ directory path delimiter)
  | join schedule strategy left leftColumn right rightColumn op =>
    exact faultless_keeping (Catalog.faultless_join h.catalog schedule strategy left leftColumn
      right rightColumn op)

theorem faultless_columnFrom {source : ColumnSource} {x : Run Column}
    (hx : s.columnFrom source = some x) (hsource : ∀ position rows, source ≠ .take position rows) :
    x.Faultless := by
  cases source with
  | empty signature | ofCells name cells =>
    cases hx
    exact Run.faultless_pure _
  | copy position =>
    obtain ⟨column, -, rfl⟩ := Option.map_eq_some_iff.1 hx
    exact Run.faultless_pure column
  | ofRelation handle name =>
    simp only [columnFrom, Option.bind_eq_bind, Option.bind_eq_some_iff] at hx
    obtain ⟨_, -, _, -, column, -, hx⟩ := hx
    cases hx
    exact Run.faultless_pure column
  | take position rows => exact absurd rfl (hsource position rows)

/-- The making of a column ends in a fault only if rows are taken that are not there. -/
theorem fault_newColumn {source : ColumnSource} {fault : Fault}
    (h : (s.perform (.newColumn source)).run.outcome = .error (.fault fault)) :
    ∃ position rows column row, source = .take position rows ∧
      s.columns[position]? = some column ∧ row ∈ rows ∧ column.size ≤ row := by
  have hfault : ¬∀ x, s.columnFrom source = some x → x.Faultless := fun hfaultless =>
    faultless_on (fun x hx => faultless_keeping (hfaultless x hx)) fault h
  by_contra hnone
  refine hfault fun x hx => ?_
  cases source with
  | take position rows =>
    obtain ⟨column, hcolumn, rfl⟩ := Option.map_eq_some_iff.1 hx
    have hall : ∀ row ∈ rows, row < column.size := fun row hrow =>
      Nat.lt_of_not_le fun hle => hnone ⟨position, rows, column, row, rfl, hcolumn, hrow, hle⟩
    obtain ⟨taken, htaken⟩ := Column.isOk_take_iff.2 hall
    rw [htaken]
    exact Run.faultless_of_ok rfl
  | empty | ofCells | copy | ofRelation => exact faultless_columnFrom hx nofun

/-! ### Any point of any run -/

/-- **Equal lengths and no faults, at any point of a run** in which no value is appended to a
single column of a relation.  The columns of each relation that is registered or in hand have
equal lengths, each that of the next, and all its rows can be read.  Of the operations that may
follow, only one ends in a fault: that which takes rows out of a column in hand, and it only if one
of them is not there.

In particular a search finds rows that are there, also in an old index; a row that has passed the
checks of an insertion is taken by every column; a document that is loaded has a field in each
record for every column; and a probe finds a bucket, and rows in it that were hashed. -/
theorem safe {commands : List Command} (h : ∀ command ∈ commands, command.KeepsShape) :
    (∀ r, (run commands).Holds r → r.Rectangular ∧ r.rows = .ok r.rowList ∧
      r.columns.IsChain fun column next => column.size = next.size) ∧
    (∀ command fault,
      ((run commands).perform command).run.outcome = .error (.fault fault) →
      ∃ position rows column row, command = .newColumn (.take position rows) ∧
        (run commands).columns[position]? = some column ∧ row ∈ rows ∧ column.size ≤ row) ∧
    (∀ column, (run commands).Has column →
      ∀ key, ∀ row ∈ column.lookup key, row < column.size) ∧
    (∀ (r : Relation) (row : List Value), row.length = r.columnCount →
      Relation.firstMismatch r.columns row = none →
      (Relation.pushRow r.columns row).run.outcome = .ok ()) ∧
    (∀ delimiter text document, Csv.read delimiter text = .ok document →
      (∀ record ∈ document.records, record.length = document.header.length) ∧
      ∀ column ∈ columnsOf document, column.size = document.records.length) ∧
    ∀ {α : Type} [Key α] (keys : Array α) (key : α),
      (0 < keys.size →
        bucketOf (Key.bucketHash key) keys.size < (BucketTable.build keys).buckets.size) ∧
      ∀ row ∈ (BucketTable.build keys).candidates key, row < keys.size := by
  have hshape := each_rectangular h
  refine ⟨?_, ?_, ?_, ?_, ?_, ?_⟩
  · intro r hr
    have hrect := hshape r hr
    have hsame : r.columns.Pairwise fun column next => column.size = next.size := by
      refine List.pairwise_of_forall_mem_list ?_
      intro column hc next hnext
      rw [hrect column hc, hrect next hnext]
    exact ⟨hrect, Relation.rows_eq hrect, hsame.isChain⟩
  · intro command fault hfault
    by_cases hcommand : ∃ source, command = .newColumn source
    · obtain ⟨source, rfl⟩ := hcommand
      obtain ⟨position, rows, column, row, rfl, hcolumn, hrow, hle⟩ := fault_newColumn hfault
      exact ⟨position, rows, column, row, rfl, hcolumn, hrow, hle⟩
    · have hfaultless := faultless_perform hshape fun source hsource => hcommand ⟨source, hsource⟩
      exact absurd hfault (hfaultless fault)
  · intro column hc key row hrow
    have hcovered := (all_traced commands column hc).covered
    exact hcovered.lt_size hrow
  · intro r row hlength htypes
    exact (Relation.pushRow_ok hlength htypes).1
  · intro delimiter text document hread
    have hlengths := Csv.length_of_read hread
    exact ⟨hlengths, size_of_mem_columnsOf hlengths⟩
  · intro α _ keys key
    constructor
    · intro hpos
      rw [BucketTable.size_buckets_build]
      exact bucketOf_lt _ hpos
    · intro row hrow
      obtain ⟨hashed, hkey, -⟩ := BucketTable.mem_candidates.1 hrow
      exact (Array.getElem?_eq_some_iff.1 hkey).1

/-- A search in an old index, for whichever key, does not fault. -/
theorem safe_stale :
    (∀ command ∈ staleCommands, command.KeepsShape) ∧
      (∀ r, (run staleCommands).Holds r → r.Rectangular) ∧
      ∀ key fault, ((run staleCommands).perform (.indexScan (.held 0) "n" key)).run.outcome
        ≠ .error (.fault fault) := by
  have hshape : ∀ command ∈ staleCommands, command.KeepsShape := by
    simp [staleCommands, Command.KeepsShape, RelationEdit.KeepsShape]
  obtain ⟨hheld, hfaults, -⟩ := safe hshape
  refine ⟨hshape, fun r hr => (hheld r hr).1, fun key fault hfault => ?_⟩
  obtain ⟨_, _, _, _, hcommand, -⟩ := hfaults _ fault hfault
  cases hcommand

/-- Once a value is appended to a single column, a row of it is missing in the other. -/
example :
    ((run [.newRelation (.empty "pairs" [⟨"a", .int⟩, ⟨"b", .int⟩]),
        .editRelation (.held 0) (.editColumn "a" (.push (.int 1)))]).perform
      (.newRelation (.select (.held 0) "a" .eq (.int 1)))).run.outcome
      = .error (.fault (.gatherOutOfRange 0 0)) := rfl

end Session

end Columnar
