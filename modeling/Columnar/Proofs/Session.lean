import Columnar.Catalog.Join
import Columnar.Load

/-!
# Sessions

A session is everything that a user of the library has at a time: the columns and the
relations in hand, and the catalog.  A command calls one operation.  What it returns comes
to hand, and what it changes is changed in place, wherever that is kept.  A command that
fails leaves behind what its operation leaves behind, and one that refers to something not
in hand does nothing.  A run is any list of commands, carried out from the empty session.

Columns and relations in hand are referred to by the order in which they came.  They stay in
hand, which is no restriction: a user may as well forget them.

## Main definitions

* `Session`, `Handle` — what there is, and how a command refers to a relation.
* `Command`, `Session.perform` — the operations, and how a session goes through one.
* `Session.run` — the session after a list of commands.
* `Session.Holds`, `Session.Has` — the relations and the columns of a session.
* `Session.Each`, `Session.All` — a property of all relations, or of all columns.

## Main results

* `Session.Each.put`, `Session.Each.keep`, `Session.Each.withCatalog` — a property of all
  relations is kept by a change, if what comes in has it; the same for all columns.
* `Catalog.after_load`, `Catalog.after_join` — what holds after an operation of the catalog.
* `Session.after_on`, `Session.after_onRelation`, `Session.after_keeping` — the same for a
  command in several parts.
-/

namespace Columnar

/-! ### Commands -/

/-- The columns and relations in hand, and the catalog. -/
structure Session where
  columns : List Column
  relations : List Relation
  catalog : Catalog

/-- A relation in hand, or one in the catalog. -/
inductive Handle where
  | held (position : Nat)
  | registered (name : String)

/-- A way to come by a column: a new one without rows or over given cells, a copy of one in
hand or of a relation's, or rows taken out of one in hand. -/
inductive ColumnSource where
  | empty (signature : Signature)
  | ofCells (name : String) (cells : Cells)
  | copy (position : Nat)
  | ofRelation (relation : Handle) (name : String)
  | take (position : Nat) (rows : List Nat)

/-- A change to a single column. -/
inductive ColumnEdit where
  | push (value : Value)
  | buildIndex

/-- A way to come by a relation that leaves everything else as it is: construction, loading,
copying, projection, selection, and the joins of two relations. -/
inductive RelationSource where
  | empty (name : String) (schema : List Signature)
  | ofColumns (name : String) (positions : List Nat)
  | ofCsv (name : String) (delimiter : UInt8) (text : ByteArray)
  | load (directory : Directory) (path : String) (delimiter : UInt8)
  | copy (relation : Handle)
  | scan (relation : Handle) (names : List String)
  | select (relation : Handle) (column : String) (op : Comparison) (value : Value)
  | join (schedule : Schedule) (strategy : JoinStrategy) (left : Handle) (leftColumn : String)
      (right : Handle) (rightColumn : String) (op : Comparison)

/-- A change to a relation, or through it to one of its columns. -/
inductive RelationEdit where
  | insert (row : List Value)
  | makeIndex (column : String)
  | rename (name : String)
  | editColumn (name : String) (edit : ColumnEdit)

/-- One call of an operation. -/
inductive Command where
  | newColumn (source : ColumnSource)
  | editColumn (position : Nat) (edit : ColumnEdit)
  | newRelation (source : RelationSource)
  | editRelation (relation : Handle) (edit : RelationEdit)
  | indexScan (relation : Handle) (column : String) (key : Value)
  | create (name : String) (schema : List Signature)
  | register (relation : Handle)
  | drop (name : String)
  | load (directory : Directory) (path : String) (delimiter : UInt8)
  | join (schedule : Schedule) (strategy : JoinStrategy)
      (left leftColumn right rightColumn : String) (op : Comparison)

/-! ### Edits -/

/-- A step whose result is not needed. -/
def Step.forget {σ α : Type} (x : Step σ α) : Step σ Unit :=
  x.andThen fun _ s => .ask s (pure ())

/-- Changes a column. -/
def ColumnEdit.perform (column : Column) : ColumnEdit → Step Column Unit
  | .push value =>
    match column.push value with
    | .ok grown => ⟨pure (), grown⟩
    | .error e => .ask column (.refuse e)
  | .buildIndex => ⟨pure (), column.buildIndex.2⟩

/-- Changes a relation.  A column that is not there cannot be changed. -/
def RelationEdit.perform (r : Relation) : RelationEdit → Step Relation Unit
  | .insert row => r.insert row
  | .makeIndex column => (r.makeIndex column).forget
  | .rename name => ⟨pure (), { r with name }⟩
  | .editColumn name edit =>
    match r.column? name with
    | some column =>
      ⟨(edit.perform column).run, r.updateColumn name fun c => (edit.perform c).after⟩
    | none => .ask r (pure ())

namespace Session

/-! ### Going through a command -/

/-- Nothing in hand, and nothing registered. -/
def start : Session := ⟨[], [], .empty⟩

/-- Takes a column in hand. -/
def keepColumn (s : Session) (column : Column) : Session :=
  { s with columns := s.columns ++ [column] }

/-- Takes a relation in hand. -/
def keep (s : Session) (r : Relation) : Session := { s with relations := s.relations ++ [r] }

/-- The session with another catalog. -/
def withCatalog (s : Session) (catalog : Catalog) : Session := { s with catalog }

/-- The session with another relation where a handle leads. -/
def put (s : Session) (r : Relation) : Handle → Session
  | .held position => { s with relations := s.relations.set position r }
  | .registered name => s.withCatalog (s.catalog.put name r)

/-- Where a handle leads.  A name in the catalog may be unknown; a relation that is not in
hand cannot be referred to at all. -/
def lookUp (s : Session) : Handle → Option (Except Error Relation)
  | .held position => s.relations[position]?.map .ok
  | .registered name => some (s.catalog.find name)

/-- Reads a relation. -/
def read {α : Type} (s : Session) (handle : Handle) (f : Relation → Run α) : Option (Run α) :=
  (s.lookUp handle).map fun found => .ofCheck found >>= f

/-- How a column is come by. -/
def columnFrom (s : Session) : ColumnSource → Option (Run Column)
  | .empty signature => some (pure (.empty signature))
  | .ofCells name cells => some (pure (.ofCells name cells))
  | .copy position => s.columns[position]?.map pure
  | .take position rows => s.columns[position]?.map fun column => .ofRead (column.take rows)
  | .ofRelation handle name => do
    let r ← (← s.lookUp handle).toOption
    let column ← r.column? name
    return pure column

/-- How a relation is come by. -/
def relationFrom (s : Session) : RelationSource → Option (Run Relation)
  | .empty name schema => some (pure (.empty name schema))
  | .ofColumns name positions =>
    some (.ofCheck (Relation.ofColumns name (positions.filterMap (s.columns[·]?))))
  | .ofCsv name delimiter text => some (Relation.ofCsv name delimiter text)
  | .load directory path delimiter => some (Relation.load directory path delimiter)
  | .copy handle => s.read handle pure
  | .scan handle names => s.read handle (·.scan names)
  | .select handle column op value => s.read handle (·.select column op value)
  | .join schedule strategy left leftColumn right rightColumn op => do
    let foundLeft ← s.lookUp left
    let foundRight ← s.lookUp right
    return do
      let l ← foundLeft
      let r ← foundRight
      joinBy schedule strategy l leftColumn r rightColumn op

/-- Goes on with what there is, or does nothing. -/
def on {α : Type} (s : Session) (x : Option α) (f : α → Step Session Unit) :
    Step Session Unit :=
  match x with
  | some a => f a
  | none => .ask s (pure ())

/-- Goes on with the relation where a handle leads. -/
def onRelation (s : Session) (handle : Handle) (f : Relation → Step Session Unit) :
    Step Session Unit :=
  s.on (s.lookUp handle) fun
    | .ok r => f r
    | .error e => .ask s (.refuse e)

/-- Carries out a step and takes its result in hand. -/
def keeping {α : Type} (keep : Session → α → Session) (x : Step Session α) :
    Step Session Unit :=
  x.andThen fun a s => ⟨pure (), keep s a⟩

/-- Carries out a command. -/
def perform (s : Session) : Command → Step Session Unit
  | .newColumn source => s.on (s.columnFrom source) fun x => keeping keepColumn (.ask s x)
  | .editColumn position edit =>
    s.on s.columns[position]? fun column =>
      (edit.perform column).within fun column =>
        { s with columns := s.columns.set position column }
  | .newRelation source => s.on (s.relationFrom source) fun x => keeping keep (.ask s x)
  | .editRelation handle edit =>
    s.onRelation handle fun r => (edit.perform r).within (s.put · handle)
  | .indexScan handle column key =>
    s.onRelation handle fun r => keeping keep ((r.indexScan column key).within (s.put · handle))
  | .create name schema => ((s.catalog.create name schema).within s.withCatalog).forget
  | .register handle => s.onRelation handle fun r => (s.catalog.register r).within s.withCatalog
  | .drop name => keeping keep ((s.catalog.drop name).within s.withCatalog)
  | .load directory path delimiter =>
    ((s.catalog.load directory path delimiter).within s.withCatalog).forget
  | .join schedule strategy left leftColumn right rightColumn op =>
    keeping keep
      ((s.catalog.join schedule strategy left leftColumn right rightColumn op).within
        s.withCatalog)

/-- The session after a command. -/
def step (s : Session) (command : Command) : Session := (s.perform command).after

/-- The session after a list of commands. -/
def run (commands : List Command) : Session := commands.foldl step start

theorem run_concat (commands : List Command) (command : Command) :
    run (commands ++ [command]) = (run commands).step command := by
  simp [run]

/-! ### What a session holds -/

/-- A relation is in hand or in the catalog. -/
def Holds (s : Session) (r : Relation) : Prop :=
  r ∈ s.relations ∨ ∃ name, s.catalog.find? name = some r

/-- A column is in hand, or in a relation that is in hand or in the catalog. -/
def Has (s : Session) (column : Column) : Prop :=
  column ∈ s.columns ∨ ∃ r, s.Holds r ∧ column ∈ r.columns

end Session

theorem Session.not_holds_start (r : Relation) : ¬Session.start.Holds r := by
  rintro (h | ⟨name, h⟩)
  · cases h
  · rw [start, Catalog.find?_empty] at h
    cases h

/-! ### The relations of a session -/

/-- All registered relations have a property. -/
def Catalog.Each (p : Relation → Prop) (c : Catalog) : Prop :=
  ∀ name r, c.find? name = some r → p r

/-- All relations of a session have a property. -/
def Session.Each (p : Relation → Prop) (s : Session) : Prop := ∀ r, s.Holds r → p r

section

variable {p : Relation → Prop} {c : Catalog} {s : Session}

theorem Catalog.Each.put (h : c.Each p) {r : Relation} (hr : p r) (name : String) :
    (c.put name r).Each p := by
  intro other r' hr'
  rw [find?_put] at hr'
  split at hr'
  · cases hr'
    exact hr
  · exact h other r' hr'

theorem Catalog.Each.erase (h : c.Each p) (name : String) : (c.erase name).Each p := by
  intro other r hr
  rw [find?_erase] at hr
  split at hr
  · cases hr
  · exact h other r hr

theorem Session.Each.catalog (h : s.Each p) : s.catalog.Each p :=
  fun name r hr => h r (.inr ⟨name, hr⟩)

theorem Session.Each.keep (h : s.Each p) {r : Relation} (hr : p r) : (s.keep r).Each p := by
  rintro r' (hr' | hr')
  · rcases List.mem_append.1 hr' with hr' | hr'
    · exact h r' (.inl hr')
    · rw [List.mem_singleton.1 hr']
      exact hr
  · exact h r' (.inr hr')

theorem Session.Each.withCatalog (h : s.Each p) {catalog : Catalog} (hcatalog : catalog.Each p) :
    (s.withCatalog catalog).Each p := by
  rintro r (hr | ⟨name, hr⟩)
  · exact h r (.inl hr)
  · exact hcatalog name r hr

theorem Session.Each.put (h : s.Each p) {r : Relation} (hr : p r) (handle : Handle) :
    (s.put r handle).Each p := by
  cases handle with
  | held position =>
    rintro r' (hr' | hr')
    · rcases List.mem_or_eq_of_mem_set hr' with hr' | rfl
      · exact h r' (.inl hr')
      · exact hr
    · exact h r' (.inr hr')
  | registered name => exact h.withCatalog (h.catalog.put hr name)

end

/-! ### The columns of a session -/

/-- All columns of a relation have a property. -/
def Relation.All (p : Column → Prop) (r : Relation) : Prop := ∀ column ∈ r.columns, p column

/-- All columns of the registered relations have a property. -/
def Catalog.All (p : Column → Prop) (c : Catalog) : Prop :=
  ∀ name r, c.find? name = some r → r.All p

/-- All columns of a session have a property. -/
def Session.All (p : Column → Prop) (s : Session) : Prop := ∀ column, s.Has column → p column

section

variable {p q : Column → Prop}

theorem Relation.All.imp {r : Relation} (h : r.All p) (hpq : ∀ column, p column → q column) :
    r.All q := fun column hc => hpq column (h column hc)

theorem Catalog.All.imp {c : Catalog} (h : c.All p) (hpq : ∀ column, p column → q column) :
    c.All q := fun name r hr => (h name r hr).imp hpq

theorem Catalog.All.put {c : Catalog} (h : c.All p) {r : Relation} (hr : r.All p)
    (name : String) : (c.put name r).All p :=
  Each.put h hr name

theorem Catalog.All.erase {c : Catalog} (h : c.All p) (name : String) : (c.erase name).All p :=
  Each.erase h name

end

namespace Session

variable {p : Column → Prop} {s : Session}

theorem all_iff : s.All p ↔ (∀ column ∈ s.columns, p column) ∧ s.Each (Relation.All p) := by
  constructor
  · intro h
    exact ⟨fun column hc => h column (.inl hc), fun r hr column hc => h column (.inr ⟨r, hr, hc⟩)⟩
  · rintro ⟨hcolumns, heach⟩ column (hc | ⟨r, hr, hc⟩)
    · exact hcolumns column hc
    · exact heach r hr column hc

theorem All.catalog (h : s.All p) : s.catalog.All p := (all_iff.1 h).2.catalog

theorem All.of_holds (h : s.All p) {r : Relation} (hr : s.Holds r) : r.All p :=
  (all_iff.1 h).2 r hr

theorem All.keepColumn (h : s.All p) {column : Column} (hcolumn : p column) :
    (s.keepColumn column).All p := by
  refine all_iff.2 ⟨fun c hc => ?_, (all_iff.1 h).2⟩
  rcases List.mem_append.1 hc with hc | hc
  · exact h c (.inl hc)
  · rw [List.mem_singleton.1 hc]
    exact hcolumn

theorem All.setColumn (h : s.All p) {column : Column} (hcolumn : p column) (position : Nat) :
    ({ s with columns := s.columns.set position column } : Session).All p := by
  refine all_iff.2 ⟨fun c hc => ?_, (all_iff.1 h).2⟩
  rcases List.mem_or_eq_of_mem_set hc with hc | rfl
  · exact h c (.inl hc)
  · exact hcolumn

theorem All.keep (h : s.All p) {r : Relation} (hr : r.All p) : (s.keep r).All p :=
  all_iff.2 ⟨(all_iff.1 h).1, (all_iff.1 h).2.keep hr⟩

theorem All.withCatalog (h : s.All p) {catalog : Catalog} (hcatalog : catalog.All p) :
    (s.withCatalog catalog).All p :=
  all_iff.2 ⟨(all_iff.1 h).1, (all_iff.1 h).2.withCatalog hcatalog⟩

theorem All.put (h : s.All p) {r : Relation} (hr : r.All p) (handle : Handle) :
    (s.put r handle).All p := by
  refine all_iff.2 ⟨?_, (all_iff.1 h).2.put hr handle⟩
  cases handle <;> exact (all_iff.1 h).1

theorem holds_of_lookUp {handle : Handle} {r : Relation}
    (h : s.lookUp handle = some (.ok r)) : s.Holds r := by
  cases handle with
  | held position =>
    obtain ⟨r', hr', ⟨⟩⟩ := Option.map_eq_some_iff.1 h
    exact .inl (List.mem_of_getElem? hr')
  | registered name => exact .inr ⟨name, Catalog.find_eq_ok_iff.1 (Option.some.inj h)⟩

end Session

/-! ### What holds after a command

Each of the ways in which a command is put together keeps a property of the state, if its
parts do. -/

theorem Step.after_forget {σ α : Type} {P : σ → Prop} {x : Step σ α} (hx : P x.after) :
    P x.forget.after :=
  after_andThen hx fun _ _ => hx

theorem Step.after_forget_eq {σ α : Type} (x : Step σ α) : x.forget.after = x.after :=
  after_forget (P := fun s => s = x.after) rfl

namespace Catalog

variable {P : Catalog → Prop} {c : Catalog} {name : String}

theorem after_create {schema : List Signature}
    (h : P (c.register (.empty name schema)).after) : P (c.create name schema).after :=
  Step.after_andThen h fun _ _ => h

theorem after_drop (hc : P c) (herase : P (c.erase name)) : P (c.drop name).after := by
  unfold drop
  split
  · exact herase
  · exact hc

theorem find?_of_drop {r : Relation} (h : (c.drop name).run.outcome = .ok r) :
    c.find? name = some r := by
  unfold drop at h
  split at h
  · next hfind =>
    cases h
    exact hfind
  · cases h

theorem after_load {directory : Directory} {path : String} {delimiter : UInt8} (hc : P c)
    (hload : ∀ r, (Relation.load directory path delimiter).outcome = .ok r →
      P (c.register r).after) : P (c.load directory path delimiter).after := by
  refine Step.after_andThen hc fun r hr => ?_
  obtain ⟨r', hr', hr⟩ := Run.exists_of_bind hr
  obtain ⟨_, -, hr⟩ := Run.exists_of_bind hr
  cases hr
  exact Step.after_andThen (hload r hr') fun _ _ => hload r hr'

theorem after_edit {α : Type} {f : Relation → Step Relation α} (hc : P c)
    (hf : ∀ r, c.find? name = some r → P (c.put name (f r).after)) :
    P (c.edit name f).after := by
  unfold edit
  split
  · next r hr => exact hf r hr
  · exact hc

/-- A join by name changes the catalog only by the index that it may build: after the checks
and before the join. -/
theorem after_join {schedule : Schedule} {strategy : JoinStrategy}
    {left leftColumn right rightColumn : String} {op : Comparison} (hc : P c)
    (hindex : ∀ r, c.find? right = some r →
      P (c.put right (r.makeIndex rightColumn).after)) :
    P (c.join schedule strategy left leftColumn right rightColumn op).after := by
  unfold join
  split
  · split
    · have hbuilt := after_edit hc hindex
      exact Step.after_andThen hc fun _ _ => Step.after_andThen hbuilt fun _ _ => hbuilt
    · exact hc
  · exact hc

end Catalog

namespace Session

variable {P : Session → Prop} {s : Session}

theorem after_keeping {α : Type} {keep : Session → α → Session} {x : Step Session α}
    (hx : P x.after) (hkeep : ∀ a, x.run.outcome = .ok a → P (keep x.after a)) :
    P (keeping keep x).after :=
  Step.after_andThen hx hkeep

theorem after_on {α : Type} {x : Option α} {f : α → Step Session Unit} (hs : P s)
    (hf : ∀ a, x = some a → P (f a).after) : P (s.on x f).after := by
  cases x with
  | none => exact hs
  | some a => exact hf a rfl

theorem after_onRelation {handle : Handle} {f : Relation → Step Session Unit} (hs : P s)
    (hf : ∀ r, s.Holds r → P (f r).after) : P (s.onRelation handle f).after := by
  refine after_on hs fun found hfound => ?_
  cases found with
  | error e => exact hs
  | ok r => exact hf r (holds_of_lookUp hfound)

/-- What was read comes from a relation that is there. -/
theorem exists_of_read {α : Type} {handle : Handle} {f : Relation → Run α} {x : Run α} {a : α}
    (hx : s.read handle f = some x) (ha : x.outcome = .ok a) :
    ∃ r, s.Holds r ∧ (f r).outcome = .ok a := by
  obtain ⟨found, hfound, rfl⟩ := Option.map_eq_some_iff.1 hx
  obtain ⟨r, hr, ha⟩ := Run.exists_of_bind ha
  rw [Run.ofCheck_eq_ok hr] at hfound
  exact ⟨r, holds_of_lookUp hfound, ha⟩

end Session

end Columnar
