import Columnar.Proofs.Session.Refusals

/-!
# The history of a catalog

A command does at most one thing to the catalog, and does it under one name: it registers a
relation there, takes the one that is there away, or edits it in place
(`Session.catalog_step`).  Put behind one another these changes are the history of a run, and the
catalog after the run is the empty one with its history carried out on it.

Under each name there is what the changes under that name make of it; the others do not matter.
Of these changes, a registration and a removal make no difference between what was there before.
So only the last of them counts, and the edits since.

The name under which a change is made is not always that of the relation.  A relation is
registered under the name that it has at that time.  If it is then renamed it stays where it is,
later edits reach it under the old name, and a copy that is registered comes to stand under the
new one.

## Main definitions

* `Change`, `Change.apply` — what is done under a name, and what is found there afterwards.
* `Session.change?`, `Session.history` — the change that a command makes, and those of a run.
* `changesOf` — the changes of a history under one name.

## Main results

* `Catalog.find?_replay` — what is found under a name is a matter of the changes under it.
* `foldl_apply_eq_some_iff`, `foldl_apply_eq_none_iff` — the last registration or removal counts.
* `Session.catalog_step`, `Session.catalog_foldl_step` — a command does its change, and commands
  their history.
* `Session.catalog_of_history` — **the catalog holds what was registered last under each name,
  with the edits since.**
-/

namespace Columnar

/-! ### Changes -/

/-- What is done under a name. -/
inductive Change where
  /-- A relation is registered. -/
  | registered (r : Relation)
  /-- The relation is removed. -/
  | dropped
  /-- The relation is changed in place. -/
  | edited (edit : RelationEdit)

/-- What is found under the name after a change.  There is nothing to edit where nothing is
registered. -/
def Change.apply (found : Option Relation) : Change → Option Relation
  | .registered r => some r
  | .dropped => none
  | .edited edit => found.map fun r => (edit.perform r).after

/-- A relation after edits, one after the other. -/
def Relation.editAll (r : Relation) (edits : List RelationEdit) : Relation :=
  edits.foldl (fun r edit => (edit.perform r).after) r

/-- Of a list of changes, a relation is registered by one that only edits follow. -/
def LastRegistered (changes : List Change) (r : Relation) (edits : List RelationEdit) : Prop :=
  ∃ earlier, changes = earlier ++ .registered r :: edits.map .edited

/-- Of a list of changes there are only edits, or only edits since a removal. -/
def NoneRegistered (changes : List Change) : Prop :=
  ∃ edits : List RelationEdit, changes = edits.map .edited ∨
    ∃ earlier, changes = earlier ++ .dropped :: edits.map .edited

/-- The changes that a history has under a name. -/
def changesOf (name : String) (history : List (String × Change)) : List Change :=
  (history.filter fun entry => entry.1 == name).map (·.2)

/-- The catalog after a change under a name. -/
def Catalog.amend (c : Catalog) (name : String) (change : Change) : Catalog :=
  match change.apply (c.find? name) with
  | some r => c.put name r
  | none => c.erase name

/-- The catalog after a history. -/
def Catalog.replay (c : Catalog) (history : List (String × Change)) : Catalog :=
  history.foldl (fun c entry => c.amend entry.1 entry.2) c

namespace Session

/-- The change that a command makes in the catalog, and under which name.  A relation that comes
to be registered goes under its own name.  A search, and a join through an index, edit a relation
by the index that they build; the join does so only if its keys are found to fit. -/
def change? (s : Session) : Command → Option (String × Change)
  | .create name schema => some (name, .registered (.empty name schema))
  | .register handle =>
    match s.lookUp handle with
    | some (.ok r) => some (r.name, .registered r)
    | _ => none
  | .load directory path delimiter =>
    match (Relation.load directory path delimiter).outcome with
    | .ok r => some (r.name, .registered r)
    | .error _ => none
  | .drop name => some (name, .dropped)
  | .editRelation (.registered name) edit => some (name, .edited edit)
  | .indexScan (.registered name) column _ => some (name, .edited (.makeIndex column))
  | .join _ strategy left leftColumn right rightColumn op =>
    if strategy = .indexNestedLoop ∧ op = .eq ∧
        (s.catalog.checkKeys left leftColumn right rightColumn).isOk then
      some (right, .edited (.makeIndex rightColumn))
    else none
  | _ => none

/-- The changes that commands make in the catalog, each with its name. -/
def history : Session → List Command → List (String × Change)
  | _, [] => []
  | s, command :: commands => (s.change? command).toList ++ history (s.step command) commands

end Session

/-! ### The last of the changes -/

section

variable {changes : List Change} {found : Option Relation} {r : Relation}

theorem foldl_apply_edited (edits : List RelationEdit) (found : Option Relation) :
    (edits.map Change.edited).foldl Change.apply found = found.map (·.editAll edits) := by
  induction edits generalizing found with
  | nil => exact Option.map_id'.symm
  | cons edit edits ih =>
    rw [List.map_cons, List.foldl_cons, ih, Change.apply, Option.map_map]
    rfl

/-- The last change that is not an edit is a registration or a removal, if there is one. -/
theorem registered_or_none (changes : List Change) :
    (∃ r edits, LastRegistered changes r edits) ∨ NoneRegistered changes := by
  induction changes using List.reverseRecOn with
  | nil => exact .inr ⟨[], .inl rfl⟩
  | append_singleton changes change ih =>
    cases change with
    | registered r => exact .inl ⟨r, [], changes, rfl⟩
    | dropped => exact .inr ⟨[], .inr ⟨changes, rfl⟩⟩
    | edited edit =>
      rcases ih with ⟨r, edits, earlier, rfl⟩ | ⟨edits, rfl | ⟨earlier, rfl⟩⟩
      · exact .inl ⟨r, edits ++ [edit], earlier, by simp⟩
      · exact .inr ⟨edits ++ [edit], .inl (by simp)⟩
      · exact .inr ⟨edits ++ [edit], .inr ⟨earlier, by simp⟩⟩

/-- What was there before a registration does not matter. -/
theorem LastRegistered.foldl_apply {edits : List RelationEdit} (h : LastRegistered changes r edits)
    (found : Option Relation) : changes.foldl Change.apply found = some (r.editAll edits) := by
  obtain ⟨earlier, rfl⟩ := h
  rw [List.foldl_append, List.foldl_cons, foldl_apply_edited]
  rfl

/-- Where nothing is registered there is nothing to edit. -/
theorem NoneRegistered.foldl_apply (h : NoneRegistered changes) :
    changes.foldl Change.apply none = none := by
  obtain ⟨edits, rfl | ⟨earlier, rfl⟩⟩ := h
  · exact foldl_apply_edited edits none
  · rw [List.foldl_append, List.foldl_cons, foldl_apply_edited]
    rfl

/-- A relation is there in the end exactly if one was registered and not removed since, and it is
that one with the edits since. -/
theorem foldl_apply_eq_some_iff :
    changes.foldl Change.apply none = some r ↔
      ∃ given edits, LastRegistered changes given edits ∧ r = given.editAll edits := by
  constructor
  · intro h
    rcases registered_or_none changes with ⟨given, edits, hlast⟩ | hnone
    · rw [hlast.foldl_apply] at h
      exact ⟨given, edits, hlast, (Option.some.inj h).symm⟩
    · rw [hnone.foldl_apply] at h
      cases h
  · rintro ⟨given, edits, hlast, rfl⟩
    exact hlast.foldl_apply none

/-- None is there exactly if none was ever registered, or not since the last one was removed. -/
theorem foldl_apply_eq_none_iff :
    changes.foldl Change.apply none = none ↔ NoneRegistered changes := by
  refine ⟨fun h => ?_, NoneRegistered.foldl_apply⟩
  rcases registered_or_none changes with ⟨given, edits, hlast⟩ | hnone
  · rw [hlast.foldl_apply] at h
    cases h
  · exact hnone

end

/-! ### Changes in a catalog -/

namespace Catalog

variable {c d : Catalog} {name : String} {r : Relation}

theorem find?_amend (c : Catalog) (name : String) (change : Change) (other : String) :
    (c.amend name change).find? other
      = if name = other then change.apply (c.find? name) else c.find? other := by
  unfold amend
  split
  · next hchange => rw [find?_put, hchange]
  · next hchange => rw [find?_erase, hchange]

/-- What is found under a name is a matter of the changes under it. -/
theorem find?_replay (c : Catalog) (history : List (String × Change)) (name : String) :
    (c.replay history).find? name
      = (changesOf name history).foldl Change.apply (c.find? name) := by
  induction history generalizing c with
  | nil => rfl
  | cons entry history ih =>
    rw [replay, List.foldl_cons, ← replay, ih, find?_amend, changesOf]
    by_cases hname : entry.1 = name
    · rw [if_pos hname, hname, ← List.foldl_cons, ← List.map_cons, ← List.filter_cons_of_pos]
      · rfl
      · exact beq_iff_eq.2 hname
    · rw [if_neg hname, ← List.filter_cons_of_neg]
      · rfl
      · exact mt beq_iff_eq.1 hname

theorem amend_edited (h : c.find? name = some r) (edit : RelationEdit) :
    c.amend name (.edited edit) = c.put name (edit.perform r).after := by
  rw [amend, h]
  rfl

theorem erase_of_find?_none (h : c.find? name = none) : c.erase name = c := by
  ext other
  rw [find?_erase]
  split
  · next heq => rw [← heq, h]
  · rfl

theorem amend_edited_of_none (h : c.find? name = none) (edit : RelationEdit) :
    c.amend name (.edited edit) = c := by
  rw [amend, h]
  exact erase_of_find?_none h

theorem after_drop_eq (c : Catalog) (name : String) : (c.drop name).after = c.erase name := by
  unfold drop
  split
  · rfl
  · next hnone => exact (erase_of_find?_none hnone).symm

theorem after_create_eq (c : Catalog) (name : String) (schema : List Signature) :
    (c.create name schema).after = c.put name (.empty name schema) :=
  (Step.andThen_ok (c.outcome_register _) _).2

/-- A join edits the right relation by the index that it builds, if it builds one. -/
theorem after_join_eq (c : Catalog) (schedule : Schedule) (strategy : JoinStrategy)
    (left leftColumn right rightColumn : String) (op : Comparison) :
    (c.join schedule strategy left leftColumn right rightColumn op).after =
      if strategy = .indexNestedLoop ∧ op = .eq ∧
          (c.checkKeys left leftColumn right rightColumn).isOk then
        c.amend right (.edited (.makeIndex rightColumn))
      else c := by
  by_cases h : strategy = .indexNestedLoop ∧ op = .eq
  · obtain ⟨rfl, rfl⟩ := h
    show (c.indexNestedLoopJoin left leftColumn right rightColumn).after = _
    rcases c.refused_or_keys left leftColumn right rightColumn with ⟨e, hrefused⟩ | hfound
    · rw [(indexNestedLoopJoin_of_refused hrefused).2, checkKeys_eq_error_iff.2 hrefused]
      rfl
    · obtain ⟨l, r, keys, hl, hr, hkeys⟩ := hfound
      have hcheck : c.checkKeys left leftColumn right rightColumn = .ok () := by
        rw [checkKeys_eq_resolve hl hr, JoinKeys.resolve_eq_ok_iff.2 hkeys]
        rfl
      rw [(indexNestedLoopJoin_of_keys hl hr hkeys).2, hcheck, if_pos ⟨rfl, rfl, rfl⟩,
        amend_edited hr, RelationEdit.perform, Step.after_forget_eq,
        (Relation.makeIndex_ok hkeys.rightKey_eq).2]
  · -- nothing but such a join builds an index
    rw [if_neg fun hall => h ⟨hall.1, hall.2.1⟩]
    unfold join
    split
    · rw [if_neg fun hop => h ⟨rfl, hop⟩, Step.ask_after]
    · rfl

/-- Catalogs that find relations under the same names list the same names. -/
theorem names_congr (h : ∀ name, (c.find? name).isSome = (d.find? name).isSome) :
    c.names = d.names := by
  have hantisymm : Std.Antisymm fun a b : String => compare a b = .lt := by
    refine ⟨fun a b hab hba => ?_⟩
    rw [Std.OrientedCmp.gt_of_lt hba] at hab
    cases hab
  have hirrefl : Std.Irrefl fun a b : String => compare a b = .lt := ⟨fun a h => by simp at h⟩
  refine List.Pairwise.eq_of_mem_iff Std.ExtTreeMap.ordered_keys Std.ExtTreeMap.ordered_keys
    fun name => ?_
  show name ∈ c.names ↔ name ∈ d.names
  rw [mem_names, mem_names, h]

theorem nodup_names (c : Catalog) : c.names.Nodup := Std.ExtTreeMap.nodup_keys

end Catalog

/-! ### Changes in a session -/

namespace Session

variable {s : Session} {c : Catalog} {name : String}

theorem catalog_on {α : Type} {x : Option α} {f : α → Step Session Unit}
    (hf : ∀ a, x = some a → (f a).after.catalog = s.catalog) :
    (s.on x f).after.catalog = s.catalog :=
  after_on (P := fun s' => s'.catalog = s.catalog) rfl hf

/-- What comes to hand does not come into the catalog. -/
theorem catalog_keeping {α : Type} {keep : Session → α → Session} {x : Step Session α}
    (hkeep : ∀ s a, (keep s a).catalog = s.catalog) (hx : x.after.catalog = c) :
    (keeping keep x).after.catalog = c :=
  after_keeping (P := fun s' => s'.catalog = c) hx fun a _ => (hkeep x.after a).trans hx

/-- A change to a relation in hand is none to the catalog. -/
theorem catalog_onHeld {position : Nat} {f : Relation → Step Session Unit}
    (hf : ∀ r, (f r).after.catalog = s.catalog) :
    (s.onRelation (.held position) f).after.catalog = s.catalog :=
  after_onRelation (P := fun s' => s'.catalog = s.catalog) rfl fun r _ => hf r

/-- The relation under a name is edited in place, if there is one. -/
theorem catalog_onRegistered {f : Relation → Step Session Unit} {edit : RelationEdit}
    (hf : ∀ r, (f r).after.catalog = s.catalog.put name (edit.perform r).after) :
    (s.onRelation (.registered name) f).after.catalog = s.catalog.amend name (.edited edit) := by
  cases hfind : s.catalog.find? name with
  | none =>
    rw [Catalog.amend_edited_of_none hfind, onRelation, lookUp, Catalog.find_of_find?_none hfind]
    rfl
  | some r =>
    rw [Catalog.amend_edited hfind, onRelation, lookUp, Catalog.find_eq_ok_iff.2 hfind]
    exact hf r

/-- **A command does its change to the catalog, and nothing else.** -/
theorem catalog_step (s : Session) (command : Command) :
    (s.step command).catalog = s.catalog.replay (s.change? command).toList := by
  cases command with
  | newColumn source => exact catalog_on fun x _ => catalog_keeping (fun _ _ => rfl) rfl
  | editColumn position edit => exact catalog_on fun _ _ => rfl
  | newRelation source => exact catalog_on fun x _ => catalog_keeping (fun _ _ => rfl) rfl
  | editRelation handle edit =>
    cases handle with
    | held position => exact catalog_onHeld fun r => rfl
    | registered name => exact catalog_onRegistered fun r => rfl
  | indexScan handle column key =>
    cases handle with
    | held position => exact catalog_onHeld fun r => catalog_keeping (fun _ _ => rfl) rfl
    | registered name =>
      refine catalog_onRegistered fun r => catalog_keeping (fun _ _ => rfl) ?_
      rw [RelationEdit.perform, Step.after_forget_eq, ← r.after_indexScan column key]
      rfl
  | create name schema =>
    rw [step, perform, Step.after_forget_eq, Step.within_after, Catalog.after_create_eq]
    rfl
  | register handle =>
    rw [step, perform, change?, onRelation]
    cases s.lookUp handle with
    | none => rfl
    | some found => cases found <;> rfl
  | drop name => exact catalog_keeping (fun _ _ => rfl) (s.catalog.after_drop_eq name)
  | load directory path delimiter =>
    rw [step, perform, Step.after_forget_eq, Step.within_after, Catalog.after_load_eq, change?]
    cases (Relation.load directory path delimiter).outcome <;> rfl
  | join schedule strategy left leftColumn right rightColumn op =>
    refine catalog_keeping (fun _ _ => rfl) ?_
    rw [Step.within_after, Catalog.after_join_eq, change?]
    split <;> rfl

/-- **A run does its history to the catalog.** -/
theorem catalog_foldl_step (s : Session) (commands : List Command) :
    (commands.foldl step s).catalog = s.catalog.replay (s.history commands) := by
  induction commands generalizing s with
  | nil => rfl
  | cons command commands ih =>
    rw [List.foldl_cons, ih, catalog_step, history, Catalog.replay, Catalog.replay,
      Catalog.replay, List.foldl_append]

theorem history_append (s : Session) (commands commands' : List Command) :
    s.history (commands ++ commands')
      = s.history commands ++ (commands.foldl step s).history commands' := by
  induction commands generalizing s with
  | nil => rfl
  | cons command commands ih =>
    rw [List.cons_append, history, history, ih, List.append_assoc, List.foldl_cons]

/-- What is found under a name after a run. -/
theorem find?_run (commands : List Command) (name : String) :
    (run commands).catalog.find? name
      = (changesOf name (start.history commands)).foldl Change.apply none := by
  rw [run, catalog_foldl_step, Catalog.find?_replay, start, Catalog.find?_empty]

/-- A command leaves alone what is under other names than that of its change. -/
theorem find?_step_of_ne {command : Command}
    (h : ∀ change, s.change? command ≠ some (name, change)) :
    (s.step command).catalog.find? name = s.catalog.find? name := by
  rw [catalog_step]
  cases hchange : s.change? command with
  | none => rfl
  | some entry =>
    obtain ⟨other, change⟩ := entry
    have hne : other ≠ name := by
      rintro rfl
      exact h change hchange
    show (s.catalog.amend other change).find? name = _
    rw [Catalog.find?_amend, if_neg hne]

/-- An edit leaves all relations under the names that they are under. -/
theorem names_step_editRelation (s : Session) (name : String) (edit : RelationEdit) :
    (s.step (.editRelation (.registered name) edit)).catalog.names = s.catalog.names := by
  refine Catalog.names_congr fun other => ?_
  rw [catalog_step]
  show ((s.catalog.amend name (.edited edit)).find? other).isSome = _
  rw [Catalog.find?_amend]
  split
  · next heq => rw [Change.apply, Option.isSome_map, heq]
  · rfl

theorem find?_step_editRelation (s : Session) (name : String) (edit : RelationEdit) :
    (s.step (.editRelation (.registered name) edit)).catalog.find? name
      = (s.catalog.find? name).map fun r => (edit.perform r).after := by
  rw [catalog_step]
  show (s.catalog.amend name (.edited edit)).find? name = _
  rw [Catalog.find?_amend, if_pos rfl, Change.apply]

/-- **The catalog holds what was registered last under each name, with the edits since.**  A
relation is found under a name exactly if one was registered there and not removed since; it is
that one, edited as it was edited under that name since, by joins through an index too.  Each name
under which a relation is found is listed, once.  A command leaves alone what is under other names
than the one it is about, and a relation that is renamed stays where it is.  And a command that is
refused changes nothing; nor does one that fails in another way, if all columns of a relation have
always grown together. -/
theorem catalog_of_history (commands : List Command) (name : String) :
    (∀ r, (run commands).catalog.find name = .ok r ↔
      ∃ given edits, LastRegistered (changesOf name (start.history commands)) given edits ∧
        r = given.editAll edits) ∧
    ((run commands).catalog.find name = .error (.unknownRelation name) ↔
      NoneRegistered (changesOf name (start.history commands))) ∧
    (run commands).catalog.names.Nodup ∧
    (name ∈ (run commands).catalog.names ↔ ∃ r, (run commands).catalog.find name = .ok r) ∧
    (∀ command, (∀ change, (run commands).change? command ≠ some (name, change)) →
      ((run commands).step command).catalog.find? name = (run commands).catalog.find? name) ∧
    (∀ newName renamed,
      (run commands).step (.editRelation (.registered name) (.rename newName)) = renamed →
      renamed.catalog.names = (run commands).catalog.names ∧
      renamed.catalog.find? name
        = ((run commands).catalog.find? name).map fun r => { r with name := newName }) ∧
    (∀ command e, ((run commands).perform command).run.outcome = .error (.refused e) →
      (run commands).step command = run commands) ∧
    ((∀ command ∈ commands, command.KeepsShape) → ∀ command failure,
      ((run commands).perform command).run.outcome = .error failure →
      (run commands).step command = run commands) := by
  refine ⟨fun r => ?_, ?_, Catalog.nodup_names _, ?_, fun command => find?_step_of_ne, ?_,
    fun command e => atomic_perform _ command e, fun h command failure => step_of_error h⟩
  · rw [Catalog.find_eq_ok_iff, find?_run, foldl_apply_eq_some_iff]
  · rw [← foldl_apply_eq_none_iff, ← find?_run, Catalog.find]
    cases (run commands).catalog.find? name <;> simp
  · rw [Catalog.mem_names, Option.isSome_iff_exists]
    exact exists_congr fun r => Catalog.find_eq_ok_iff.symm
  · rintro newName _ rfl
    exact ⟨names_step_editRelation _ name _, find?_step_editRelation _ name _⟩

/-- A relation is renamed where it is, and a copy of it registered under the new name; then a row
goes into the copy. -/
def copiedCommands : List Command :=
  Catalog.renamedCommands ++ [.register (.registered "numbers"),
    .editRelation (.registered "figures") (.insert [.int 1, .text "one"])]

theorem history_copiedCommands :
    start.history copiedCommands =
      [("numbers", .registered (.empty "numbers" [⟨"n", .int⟩, ⟨"word", .text⟩])),
        ("numbers", .edited (.rename "figures")),
        ("figures", .registered Catalog.figures),
        ("figures", .edited (.insert [.int 1, .text "one"]))] := by
  have hlookUp : (run Catalog.renamedCommands).lookUp (.registered "numbers")
      = some (.ok Catalog.figures) :=
    congrArg some (Catalog.find_eq_ok_iff.2 Catalog.find?_renamedCommands)
  rw [copiedCommands, history_append, ← run, history, change?, hlookUp]
  rfl

/-- The relation is found under the old name without the row, and its copy under the new one with
it, also when the relation is removed.  A row that is too short changes nothing, and neither does
the removal of what is not there. -/
theorem catalog_of_history_copied :
    (∀ command ∈ copiedCommands, command.KeepsShape) ∧
      (run copiedCommands).catalog.find "numbers" = .ok Catalog.figures ∧
      (run copiedCommands).catalog.find "figures"
        = .ok ⟨"figures", [.ofCells "n" (.int #[1]), .ofCells "word" (.text #["one"])]⟩ ∧
      (run copiedCommands).catalog.find "letters" = .error (.unknownRelation "letters") ∧
      ((run copiedCommands).step (.drop "numbers")).catalog.find? "figures"
        = (run copiedCommands).catalog.find? "figures" ∧
      (run copiedCommands).step (.editRelation (.registered "figures") (.insert [.int 2]))
        = run copiedCommands ∧
      (run copiedCommands).step (.drop "letters") = run copiedCommands := by
  have hhistory := history_copiedCommands
  have hshape : ∀ command ∈ copiedCommands, command.KeepsShape := by
    simp [copiedCommands, Catalog.renamedCommands, Command.KeepsShape, RelationEdit.KeepsShape]
  obtain ⟨hfound, -⟩ := catalog_of_history copiedCommands "numbers"
  obtain ⟨hcopy, -, -, -, hframe, -, hrefused, -⟩ := catalog_of_history copiedCommands "figures"
  obtain ⟨-, hunknown, -, -, -, -, -, hfails⟩ := catalog_of_history copiedCommands "letters"
  have hfigures := (hfound Catalog.figures).2
    ⟨_, [.rename "figures"], ⟨[], by rw [hhistory]; rfl⟩, rfl⟩
  let grown : Relation := ⟨"figures", [.ofCells "n" (.int #[1]), .ofCells "word" (.text #["one"])]⟩
  have hgrown := (hcopy grown).2
    ⟨_, [.insert [.int 1, .text "one"]], ⟨[], by rw [hhistory]; rfl⟩, rfl⟩
  have hletters := hunknown.2 ⟨[], .inl (by rw [hhistory]; rfl)⟩
  refine ⟨hshape, hfigures, hgrown, hletters, hframe _ fun change => by simp [change?], ?_, ?_⟩
  · refine hrefused _ (.rowLength 2 1) ?_
    rw [perform, onRelation, lookUp, hgrown]
    rfl
  · refine hfails hshape _ (.refused (.unknownRelation "letters")) ?_
    have hnone : (run copiedCommands).catalog.find? "letters" = none := by
      rw [find?_run, hhistory]
      rfl
    rw [perform, Catalog.drop, hnone]
    rfl

end Session

end Columnar
