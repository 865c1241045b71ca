import Columnar.Proofs.Session.Safety

/-!
# Commands that are refused

An operation makes its checks before it changes anything.  So when it is refused, everything is
as it was before (`Step.Atomic`).  For an operation in several parts this is so if the first part
makes all the checks: what comes after it can no longer be refused.

A fault is another matter.  It comes in the middle of an operation, and what was changed until
then stays changed.  But as long as the columns of every relation are equally long, the only
operation that can end in a fault changes nothing at all.

## Main definitions

* `Step.Atomic` — a step leaves the state as it was when it is refused.

## Main results

* `Relation.atomic_insert`, `Relation.atomic_makeIndex`, `Relation.atomic_indexScan`,
  `Catalog.atomic_load`, `Catalog.atomic_join` — the operations.
* `Session.atomic_perform` — all commands.
* `Session.step_of_error` — commands that fail in whichever way.
-/

namespace Columnar

/-- A step leaves the state as it was when it is refused. -/
def Step.Atomic {σ α : Type} (s : σ) (x : Step σ α) : Prop :=
  ∀ e, x.run.outcome = .error (.refused e) → x.after = s

namespace Step

variable {σ τ α β : Type} {s : σ} {x : Step σ α}

theorem atomic_ask (s : σ) (x : Run α) : (ask s x).Atomic s := fun _ _ => rfl

theorem atomic_of_ok {a : α} (h : x.run.outcome = .ok a) : x.Atomic s := by
  intro e he
  rw [h] at he
  cases he

theorem Atomic.within (h : x.Atomic s) (put : σ → τ) : (x.within put).Atomic (put s) :=
  fun e he => congrArg put (h e he)

/-- A step may be followed by one that is not refused. -/
theorem Atomic.andThen (h : x.Atomic s) {f : α → σ → Step σ β}
    (hf : ∀ a, x.run.outcome = .ok a → ∀ e, (f a x.after).run.outcome ≠ .error (.refused e)) :
    (x.andThen f).Atomic s := by
  intro e he
  cases hx : x.run.outcome with
  | ok a =>
    rw [(andThen_ok hx f).1] at he
    exact absurd he (hf a hx e)
  | error failure =>
    obtain ⟨houtcome, hafter⟩ := andThen_error hx f
    rw [houtcome] at he
    cases he
    rw [hafter, h e hx]

theorem Atomic.forget (h : x.Atomic s) : x.forget.Atomic s := h.andThen nofun

end Step

/-! ### Operations -/

theorem atomic_columnEdit (column : Column) (edit : ColumnEdit) :
    (edit.perform column).Atomic column := by
  cases edit with
  | push value =>
    simp only [ColumnEdit.perform]
    split
    · exact Step.atomic_of_ok rfl
    · exact Step.atomic_ask _ _
  | buildIndex => exact Step.atomic_of_ok rfl

namespace Relation

variable (r : Relation)

theorem atomic_insert (row : List Value) : (r.insert row).Atomic r := by
  rcases r.insert_cases row with ⟨e, hrefused⟩ | ⟨hok, -⟩
  · rw [hrefused]
    exact Step.atomic_ask _ _
  · exact Step.atomic_of_ok hok

/-- An index is built, or the column is not there. -/
theorem atomic_makeIndex (column : String) : (r.makeIndex column).Atomic r := by
  by_cases hmem : column ∈ r.header
  · obtain ⟨found, hfound⟩ := mem_header_iff.1 hmem
    obtain ⟨⟨built, hbuilt⟩, -⟩ := makeIndex_ok hfound
    exact Step.atomic_of_ok hbuilt
  · rw [makeIndex_of_notMem hmem]
    exact Step.atomic_ask _ _

/-- Once there is an index a search is not refused. -/
theorem atomic_indexScan (column : String) (key : Value) :
    (r.indexScan column key).Atomic r := by
  intro e he
  by_cases hmem : column ∈ r.header
  · obtain ⟨position, found, hfound⟩ := exists_firstNamed_of_mem hmem
    rw [outcome_indexScan hfound] at he
    exact absurd he (Run.ofRead_ne_refused _ e)
  · exact (indexScan_of_notMem hmem key).2

end Relation

theorem atomic_relationEdit (r : Relation) (edit : RelationEdit) : (edit.perform r).Atomic r := by
  cases edit with
  | insert row => exact r.atomic_insert row
  | makeIndex column => exact (r.atomic_makeIndex column).forget
  | rename name => exact Step.atomic_of_ok rfl
  | editColumn name edit =>
    simp only [RelationEdit.perform]
    cases hcolumn : r.column? name with
    | none => exact Step.atomic_ask _ _
    | some column =>
      intro e he
      have hsame := atomic_columnEdit column edit e he
      obtain ⟨position, hfirst⟩ := Relation.exists_firstNamed_of_column? hcolumn
      obtain ⟨hlt, hget⟩ := List.getElem?_eq_some_iff.1 hfirst.getElem?_eq
      -- the column is put back where it stood
      show r.updateColumn name _ = r
      rw [Relation.updateColumn_eq_set hfirst, hsame, ← hget, List.set_getElem_self]

namespace Catalog

variable (c : Catalog)

theorem atomic_create (name : String) (schema : List Signature) :
    (c.create name schema).Atomic c :=
  (Step.atomic_of_ok (c.outcome_register _)).andThen nofun

theorem atomic_drop (name : String) : (c.drop name).Atomic c := by
  unfold drop
  split
  · exact Step.atomic_of_ok rfl
  · exact Step.atomic_ask _ _

theorem atomic_load (directory : Directory) (path : String) (delimiter : UInt8) :
    (c.load directory path delimiter).Atomic c := by
  refine (Step.atomic_ask c _).andThen fun r _ e he => ?_
  rw [(Step.andThen_ok (outcome_register _ r) _).1] at he
  cases he

theorem atomic_join (schedule : Schedule) (strategy : JoinStrategy)
    (left leftColumn right rightColumn : String) (op : Comparison) :
    (c.join schedule strategy left leftColumn right rightColumn op).Atomic c :=
  fun _ => after_join_of_refused

end Catalog

/-! ### Commands -/

namespace Session

variable {s : Session} {handle : Handle} {α : Type}

theorem atomic_on {x : Option α} {f : α → Step Session Unit}
    (hf : ∀ a, x = some a → (f a).Atomic s) : (s.on x f).Atomic s := by
  cases x with
  | none => exact Step.atomic_ask _ _
  | some a => exact hf a rfl

theorem atomic_onRelation {f : Relation → Step Session Unit}
    (hf : ∀ r, s.lookUp handle = some (.ok r) → (f r).Atomic s) :
    (s.onRelation handle f).Atomic s := by
  refine atomic_on fun found hfound => ?_
  cases found with
  | error e => exact Step.atomic_ask _ _
  | ok r => exact hf r hfound

theorem atomic_keeping {keep : Session → α → Session} {x : Step Session α} (h : x.Atomic s) :
    (keeping keep x).Atomic s := h.andThen nofun

/-- Putting a relation back where it was changes nothing. -/
theorem put_of_lookUp {r : Relation} (h : s.lookUp handle = some (.ok r)) :
    s.put r handle = s := by
  cases handle with
  | held position =>
    obtain ⟨_, hr, ⟨⟩⟩ := Option.map_eq_some_iff.1 h
    obtain ⟨hlt, rfl⟩ := List.getElem?_eq_some_iff.1 hr
    rw [put, List.set_getElem_self]
  | registered name =>
    have hr := Catalog.find_eq_ok_iff.1 (Option.some.inj h)
    rw [put, Catalog.put_find? hr]
    rfl

/-- A step on the relation where a handle leads. -/
theorem atomic_within_put {r : Relation} (h : s.lookUp handle = some (.ok r))
    {x : Step Relation α} (hx : x.Atomic r) : (x.within (s.put · handle)).Atomic s := by
  have hput := hx.within (s.put · handle)
  rwa [put_of_lookUp h] at hput

/-- A command that is refused leaves everything as it was. -/
theorem atomic_perform (s : Session) (command : Command) : (s.perform command).Atomic s := by
  cases command with
  | newColumn source => exact atomic_on fun x _ => atomic_keeping (Step.atomic_ask s x)
  | editColumn position edit =>
    refine atomic_on fun column hcolumn => ?_
    have hput := (atomic_columnEdit column edit).within fun column =>
      { s with columns := s.columns.set position column }
    obtain ⟨hlt, rfl⟩ := List.getElem?_eq_some_iff.1 hcolumn
    rwa [List.set_getElem_self] at hput
  | newRelation source => exact atomic_on fun x _ => atomic_keeping (Step.atomic_ask s x)
  | editRelation handle edit =>
    exact atomic_onRelation fun r hr => atomic_within_put hr (atomic_relationEdit r edit)
  | indexScan handle column key =>
    exact atomic_onRelation fun r hr =>
      atomic_keeping (atomic_within_put hr (r.atomic_indexScan column key))
  | create name schema =>
    exact ((s.catalog.atomic_create name schema).within s.withCatalog).forget
  | register handle =>
    exact atomic_onRelation fun r _ => Step.atomic_of_ok (s.catalog.outcome_register r)
  | drop name => exact atomic_keeping ((s.catalog.atomic_drop name).within s.withCatalog)
  | load directory path delimiter =>
    exact ((s.catalog.atomic_load directory path delimiter).within s.withCatalog).forget
  | join schedule strategy left leftColumn right rightColumn op =>
    exact atomic_keeping ((s.catalog.atomic_join schedule strategy left leftColumn right
      rightColumn op).within s.withCatalog)

/-- Nothing comes to hand when there is no result, whatever the reason. -/
theorem after_keeping_ask_of_error {keep : Session → α → Session} {x : Run α} {failure : Failure}
    (h : (keeping keep (.ask s x)).run.outcome = .error failure) :
    (keeping keep (.ask s x)).after = s := by
  cases hx : (Step.ask s x).run.outcome with
  | ok a =>
    rw [keeping, (Step.andThen_ok hx _).1] at h
    cases h
  | error e => exact (Step.andThen_error hx _).2

theorem step_newColumn_of_error {source : ColumnSource} {failure : Failure}
    (h : (s.perform (.newColumn source)).run.outcome = .error failure) :
    s.step (.newColumn source) = s := by
  simp only [step, perform] at h ⊢
  cases hx : s.columnFrom source with
  | none => rfl
  | some x =>
    rw [hx] at h
    exact after_keeping_ask_of_error h

/-- A command that fails leaves everything as it was, if no value has been appended to a single
column of a relation. -/
theorem step_of_error {commands : List Command} (h : ∀ command ∈ commands, command.KeepsShape)
    {command : Command} {failure : Failure}
    (hfails : ((run commands).perform command).run.outcome = .error failure) :
    (run commands).step command = run commands := by
  cases failure with
  | refused e => exact atomic_perform _ command e hfails
  | fault fault =>
    by_cases hcommand : ∃ source, command = .newColumn source
    · obtain ⟨source, rfl⟩ := hcommand
      exact step_newColumn_of_error hfails
    · have hfaultless : ((run commands).perform command).run.Faultless :=
        faultless_perform (each_rectangular h) fun source hsource => hcommand ⟨source, hsource⟩
      exact absurd hfails (hfaultless fault)

end Session

end Columnar
