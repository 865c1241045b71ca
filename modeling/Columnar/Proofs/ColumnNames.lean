import Columnar.Proofs.Rows

/-!
# Columns by name

Names may be repeated within a relation; wherever a column is named, the first of that
name is meant.  A look-up gives the position of that column with it, and changing the column
there changes the first of its name and no other.

## Main definitions

* `Relation.FirstNamed` — a column is the first of its name.
* `renameFirst` — signatures with the first of a given name renamed.

## Main results

* `Relation.resolve_eq_ok_iff`, `Relation.resolve_eq_error_iff` — when a column is found.
* `Relation.firstNamed_iff` — what is found is the first column of its name.
* `Relation.exists_firstNamed`, `Relation.FirstNamed.of_schema_eq` — the signatures decide which
  column that is.
* `map_signature_modify` — renaming the column that was found.
-/

namespace Columnar

namespace Relation

/-- The column at a position has a given name, and none before it has. -/
structure FirstNamed (r : Relation) (name : String) (position : Nat) (column : Column) :
    Prop where
  getElem?_eq : r.columns[position]? = some column
  name_eq : column.name = name
  name_ne : ∀ i < position, ∀ earlier, r.columns[i]? = some earlier → earlier.name ≠ name

variable {r r' : Relation} {name : String} {position : Nat} {column : Column}

/-- A column that is found has a position. -/
theorem exists_position? (h : r.column? name = some column) :
    ∃ position, r.position? name = some position := by
  rw [column?, List.find?_eq_bind_findIdx?_getElem?] at h
  obtain ⟨position, hposition, -⟩ := Option.bind_eq_some_iff.1 h
  exact ⟨position, hposition⟩

theorem resolve_eq_ok_iff :
    r.resolve name = .ok (position, column) ↔
      r.position? name = some position ∧ r.column? name = some column := by
  unfold resolve
  constructor
  · intro h
    split at h
    · next hposition hcolumn =>
      cases h
      exact ⟨hposition, hcolumn⟩
    · cases h
  · rintro ⟨hposition, hcolumn⟩
    rw [hposition, hcolumn]

/-- A look-up finds the first column of the name, and where it stands. -/
theorem firstNamed_iff :
    r.FirstNamed name position column ↔
      r.position? name = some position ∧ r.column? name = some column := by
  rw [column?, List.find?_eq_bind_findIdx?_getElem?]
  change _ ↔ r.position? name = _ ∧ (r.position? name).bind _ = _
  constructor
  · rintro ⟨hcolumn, hname, hne⟩
    obtain ⟨hlt, hget⟩ := List.getElem?_eq_some_iff.1 hcolumn
    have hposition : r.position? name = some position := by
      refine List.findIdx?_eq_some_iff_getElem.2 ⟨hlt, ?_, fun i hi => ?_⟩
      · rw [hget, hname, beq_self_eq_true]
      · rw [beq_iff_eq]
        exact hne i hi _ (List.getElem?_eq_getElem _)
    rw [hposition]
    exact ⟨rfl, hcolumn⟩
  · rintro ⟨hposition, hcolumn⟩
    rw [hposition, Option.bind_some] at hcolumn
    obtain ⟨hlt, hname, hne⟩ := List.findIdx?_eq_some_iff_getElem.1 hposition
    obtain ⟨hlt', hget⟩ := List.getElem?_eq_some_iff.1 hcolumn
    refine ⟨hcolumn, by rwa [hget, beq_iff_eq] at hname, fun i hi earlier hearlier => ?_⟩
    obtain ⟨hlti, rfl⟩ := List.getElem?_eq_some_iff.1 hearlier
    exact fun heq => hne i hi (beq_iff_eq.2 heq)

/-- A column that is found is the first of its name, somewhere. -/
theorem exists_firstNamed_of_column? (h : r.column? name = some column) :
    ∃ position, r.FirstNamed name position column := by
  obtain ⟨position, hposition⟩ := exists_position? h
  exact ⟨position, firstNamed_iff.2 ⟨hposition, h⟩⟩

/-- A name is in the header exactly when a column is found under it. -/
theorem mem_header_iff : name ∈ r.header ↔ ∃ column, r.column? name = some column := by
  rw [header, List.mem_map, ← Option.isSome_iff_exists, column?, List.find?_isSome]
  simp only [beq_iff_eq]

theorem FirstNamed.mem_header (h : r.FirstNamed name position column) : name ∈ r.header :=
  mem_header_iff.2 ⟨column, (firstNamed_iff.1 h).2⟩

/-- A name of the header stands for the first of its columns. -/
theorem exists_firstNamed_of_mem (h : name ∈ r.header) :
    ∃ position column, r.FirstNamed name position column := by
  obtain ⟨column, hcolumn⟩ := mem_header_iff.1 h
  obtain ⟨position, hfirst⟩ := exists_firstNamed_of_column? hcolumn
  exact ⟨position, column, hfirst⟩

/-- A name that no column has is refused together with the relation's own name. -/
theorem resolve_eq_error_iff {e : Error} :
    r.resolve name = .error e ↔ name ∉ r.header ∧ e = .unknownColumn r.name name := by
  unfold resolve
  constructor
  · intro h
    split at h
    · cases h
    · next hnone =>
      cases h
      refine ⟨fun hmem => ?_, rfl⟩
      obtain ⟨column, hcolumn⟩ := mem_header_iff.1 hmem
      obtain ⟨position, hposition⟩ := exists_position? hcolumn
      exact hnone _ _ hposition hcolumn
  · rintro ⟨hmem, rfl⟩
    split
    · next hcolumn => exact absurd (mem_header_iff.2 ⟨_, hcolumn⟩) hmem
    · rfl

/-- The column of a name is one of the columns. -/
theorem mem_of_column? (h : r.column? name = some column) : column ∈ r.columns :=
  List.mem_of_find?_eq_some h

/-! ### Names and signatures -/

/-- A name that stands at a position among the signatures, and at none before, stands for the
column there. -/
theorem exists_firstNamed {signature : Signature}
    (h : r.schema[position]? = some signature)
    (hne : ∀ i < position, ∀ earlier, r.schema[i]? = some earlier →
      earlier.name ≠ signature.name) :
    ∃ column, r.FirstNamed signature.name position column ∧ column.signature = signature := by
  unfold schema at h hne
  rw [List.getElem?_map, Option.map_eq_some_iff] at h
  obtain ⟨column, hcolumn, rfl⟩ := h
  refine ⟨column, ⟨hcolumn, rfl, fun i hi earlier hearlier => ?_⟩, rfl⟩
  exact hne i hi earlier.signature (by rw [List.getElem?_map, hearlier, Option.map_some])

theorem FirstNamed.getElem?_schema (h : r.FirstNamed name position column) :
    r.schema[position]? = some column.signature := by
  rw [schema, List.getElem?_map, h.getElem?_eq, Option.map_some]

theorem FirstNamed.name_ne_of_schema (h : r.FirstNamed name position column) :
    ∀ i < position, ∀ earlier, r.schema[i]? = some earlier → earlier.name ≠ name := by
  intro i hi earlier hearlier
  rw [schema, List.getElem?_map, Option.map_eq_some_iff] at hearlier
  obtain ⟨column', hcolumn', rfl⟩ := hearlier
  exact h.name_ne i hi column' hcolumn'

/-- Under the same signatures a name stands for a column at the same position. -/
theorem FirstNamed.of_schema_eq (h : r.FirstNamed name position column)
    (hschema : r'.schema = r.schema) :
    ∃ column', r'.FirstNamed name position column' ∧
      column'.signature = column.signature := by
  obtain rfl := h.name_eq
  have hget := h.getElem?_schema
  have hne := h.name_ne_of_schema
  rw [← hschema] at hget hne
  exact exists_firstNamed hget hne

/-- Under the same signatures a name is found at the same position. -/
theorem position?_of_schema_eq (h : r'.schema = r.schema) (name : String) :
    r'.position? name = r.position? name := by
  have hschema (r : Relation) :
      r.position? name = r.schema.findIdx? (fun signature => signature.name == name) := by
    rw [schema, List.findIdx?_map]
    rfl
  rw [hschema, hschema, h]

end Relation

/-! ### Renaming the first column of a name -/

/-- The signatures with the first of a given name renamed. -/
def renameFirst (name : String) (f : String → String) : List Signature → List Signature
  | [] => []
  | s :: rest =>
    if s.name = name then ⟨f s.name, s.type⟩ :: rest else s :: renameFirst name f rest

/-- Renaming the column at the position that a look-up gives renames the first of its
name. -/
theorem map_signature_modify {columns : List Column} {name : String} {position : Nat}
    (h : columns.findIdx? (fun column => column.name == name) = some position)
    (f : String → String) :
    (columns.map Column.signature).modify position (fun s => ⟨f s.name, s.type⟩)
      = renameFirst name f (columns.map Column.signature) := by
  induction columns generalizing position with
  | nil => simp at h
  | cons column columns ih =>
    rw [List.findIdx?_cons] at h
    rw [List.map_cons, renameFirst]
    by_cases hname : column.name = name
    · rw [if_pos (by simpa using hname)] at h
      cases h
      rw [List.modify_zero_cons, if_pos (show column.signature.name = name from hname)]
    · rw [if_neg (by simpa using hname)] at h
      obtain ⟨rest, hrest, rfl⟩ := Option.map_eq_some_iff.1 h
      rw [List.modify_succ_cons, ih hrest,
        if_neg (show ¬column.signature.name = name from hname)]

end Columnar
