import Columnar.Proofs.Rows

/-!
# Appending a row

Before a row is appended, the number of its values and their types are compared with the
columns.  A column refuses a value for its type and for nothing else.  So once the row has
passed, no column can refuse its value: the columns grow together by one cell each, or none of
them does.

## Main definitions

* `Relation.Admits` — a row has one value for each column, of the column's type.
* `LeftmostMismatch` — the value for which a row of the right length is refused.

## Main results

* `Column.push_spec` — a column that has taken a value.
* `Relation.pushRow_ok` — a row that has passed the checks is appended to every column.
* `Relation.insert_spec` — a row is refused, and why, or appended as a whole.
* `Relation.outcome_insert_eq_ok_iff`, `Relation.outcome_insert_eq_error_iff` — which rows are
  taken, and which are refused for what.
-/

namespace Columnar

/-! ### One column -/

namespace Column

variable {column grown : Column} {value : Value}

/-- A column that has taken a value has it behind its cells, and is otherwise what it was. -/
theorem push_spec (h : column.push value = .ok grown) :
    grown.signature = column.signature ∧ grown.index = column.index ∧
      grown.cells.toList = column.cells.toList ++ [value] := by
  unfold push at h
  split at h
  · next cells hcells =>
    cases h
    exact ⟨rfl, rfl, Cells.toList_push? hcells⟩
  · cases h

theorem size_push (h : column.push value = .ok grown) : grown.size = column.size + 1 := by
  obtain ⟨-, -, hcells⟩ := push_spec h
  rw [size, size, ← Cells.length_toList, ← Cells.length_toList, hcells, List.length_append]
  rfl

/-- Reading finds the value at the end, and elsewhere what was there. -/
theorem get?_push (h : column.push value = .ok grown) (row : Nat) :
    grown.get? row = if row = column.size then some value else column.get? row := by
  obtain ⟨-, -, hcells⟩ := push_spec h
  rw [get?, get?, Cells.get?_eq_getElem?, Cells.get?_eq_getElem?, hcells, size,
    ← Cells.length_toList]
  rcases Nat.lt_trichotomy row column.cells.toList.length with hlt | rfl | hlt
  · rw [List.getElem?_append_left hlt, if_neg (by omega)]
  · simp
  · have hbeyond : (column.cells.toList ++ [value]).length ≤ row := by
      rw [List.length_append, List.length_singleton]
      omega
    rw [if_neg (by omega), List.getElem?_eq_none hbeyond, List.getElem?_eq_none (by omega)]

/-- A column takes every value of its type. -/
theorem exists_push (h : value.type = column.type) : ∃ grown, column.push value = .ok grown := by
  have hsome : (column.cells.push? value).isSome = true := by
    rw [Cells.isSome_push?, column.type_cells, beq_iff_eq]
    exact h
  obtain ⟨cells, hcells⟩ := Option.isSome_iff_exists.1 hsome
  unfold push
  split
  · exact ⟨_, rfl⟩
  · next hnone => rw [hnone] at hcells; cases hcells

end Column

/-! ### All columns -/

namespace Relation

/-- Each column has taken its value. -/
abbrev AllPushed (columns : List Column) (values : List Value) (grown : List Column) : Prop :=
  List.Forall₂ (fun entry pushed => entry.1.push entry.2 = .ok pushed) (columns.zip values) grown

/-- A row that has passed the checks is appended to every column. -/
theorem pushRow_ok {columns : List Column} {values : List Value}
    (hlength : values.length = columns.length) (htypes : firstMismatch columns values = none) :
    (pushRow columns values).run.outcome = .ok () ∧
      AllPushed columns values (pushRow columns values).after := by
  induction columns generalizing values with
  | nil =>
    obtain rfl := List.length_eq_zero_iff.1 hlength
    exact ⟨rfl, .nil⟩
  | cons column columns ih =>
    cases values with
    | nil => cases hlength
    | cons value values =>
      rw [firstMismatch] at htypes
      split at htypes
      · next htype =>
        obtain ⟨grown, hgrown⟩ := Column.exists_push htype
        obtain ⟨houtcome, hall⟩ := ih (Nat.succ.inj hlength) htypes
        rw [pushRow, hgrown]
        exact ⟨houtcome, .cons hgrown hall⟩
      · cases htypes

end Relation

/-! ### The checks -/

/-- The leftmost value of a row that has another type than its column. -/
structure LeftmostMismatch (schema : List Signature) (row : List Value) (position : Nat)
    (signature : Signature) (value : Value) : Prop where
  signature_eq : schema[position]? = some signature
  value_eq : row[position]? = some value
  type_ne : value.type ≠ signature.type
  type_eq : ∀ i < position, ∀ s v, schema[i]? = some s → row[i]? = some v → v.type = s.type

/-- A row has one leftmost mismatch at most. -/
theorem LeftmostMismatch.unique {schema : List Signature} {row : List Value} {i j : Nat}
    {signature signature' : Signature} {value value' : Value}
    (h : LeftmostMismatch schema row i signature value)
    (h' : LeftmostMismatch schema row j signature' value') :
    signature = signature' ∧ value = value' := by
  have hposition : i = j := by
    rcases Nat.lt_trichotomy i j with hlt | heq | hlt
    · exact absurd (h'.type_eq i hlt _ _ h.signature_eq h.value_eq) h.type_ne
    · exact heq
    · exact absurd (h.type_eq j hlt _ _ h'.signature_eq h'.value_eq) h'.type_ne
  subst hposition
  exact ⟨Option.some.inj (h.signature_eq.symm.trans h'.signature_eq),
    Option.some.inj (h.value_eq.symm.trans h'.value_eq)⟩

namespace Relation

/-- A row has one value for each column, of the column's type. -/
def Admits (r : Relation) (row : List Value) : Prop :=
  List.Forall₂ (fun value signature => value.type = signature.type) row r.schema

instance (r : Relation) (row : List Value) : Decidable (r.Admits row) :=
  inferInstanceAs (Decidable (List.Forall₂ _ _ _))

theorem Admits.length_eq {r : Relation} {row : List Value} (h : r.Admits row) :
    row.length = r.columnCount := by
  rw [List.Forall₂.length_eq h, schema, List.length_map]
  rfl

/-- A row that is admitted has no mismatch. -/
theorem Admits.not_leftmostMismatch {r : Relation} {row : List Value} (h : r.Admits row)
    {position : Nat} {signature : Signature} {value : Value} :
    ¬LeftmostMismatch r.schema row position signature value := by
  intro hmismatch
  obtain ⟨hlt, hvalue⟩ := List.getElem?_eq_some_iff.1 hmismatch.value_eq
  obtain ⟨hlt', hsignature⟩ := List.getElem?_eq_some_iff.1 hmismatch.signature_eq
  have htype := List.Forall₂.get h hlt hlt'
  simp only [List.get_eq_getElem, hvalue, hsignature] at htype
  exact hmismatch.type_ne htype

/-- The check of the types goes through the row as long as they agree. -/
theorem firstMismatch_eq_none_iff {columns : List Column} {values : List Value}
    (hlength : values.length = columns.length) :
    firstMismatch columns values = none ↔
      List.Forall₂ (fun value signature => value.type = signature.type) values
        (columns.map Column.signature) := by
  induction columns generalizing values with
  | nil =>
    obtain rfl := List.length_eq_zero_iff.1 hlength
    exact ⟨fun _ => .nil, fun _ => rfl⟩
  | cons column columns ih =>
    cases values with
    | nil => cases hlength
    | cons value values =>
      rw [firstMismatch, List.map_cons, List.forall₂_cons]
      split
      · next htype =>
        rw [ih (Nat.succ.inj hlength)]
        exact ⟨fun h => ⟨htype, h⟩, fun h => h.2⟩
      · next htype => exact ⟨nofun, fun h => absurd h.1 htype⟩

/-- What the check finds is the leftmost mismatch. -/
theorem exists_leftmostMismatch {columns : List Column} {values : List Value} {column : Column}
    {value : Value} (h : firstMismatch columns values = some (column, value)) :
    ∃ position, LeftmostMismatch (columns.map Column.signature) values position
      column.signature value := by
  induction columns generalizing values with
  | nil => cases h
  | cons first columns ih =>
    cases values with
    | nil => cases h
    | cons own values =>
      rw [firstMismatch] at h
      split at h
      · next htype =>
        obtain ⟨position, hsignature, hvalue, hne, hbefore⟩ := ih h
        -- the first value agrees, so the mismatch lies one further than in the rest
        refine ⟨position + 1, hsignature, hvalue, hne, fun i hi s v hs hv => ?_⟩
        cases i with
        | zero =>
          cases hs
          cases hv
          exact htype
        | succ i => exact hbefore i (Nat.lt_of_succ_lt_succ hi) s v hs hv
      · next htype =>
        cases h
        exact ⟨0, rfl, rfl, htype, nofun⟩

/-- A row is admitted and every column takes its value, or it is refused and nothing has changed:
for its length, or else for its leftmost mismatch. -/
theorem insert_spec (r : Relation) (row : List Value) :
    (r.Admits row ∧ (r.insert row).run.outcome = .ok () ∧ (r.insert row).after.name = r.name ∧
      AllPushed r.columns row (r.insert row).after.columns) ∨
    (row.length ≠ r.columnCount ∧
      r.insert row = .ask r (.refuse (.rowLength r.columnCount row.length))) ∨
    (row.length = r.columnCount ∧ ∃ position signature value,
      LeftmostMismatch r.schema row position signature value ∧
      r.insert row
        = .ask r (.refuse (.valueTypeMismatch signature.name signature.type value.type))) := by
  by_cases hlength : row.length = r.columnCount
  · cases htypes : firstMismatch r.columns row with
    | some mismatch =>
      obtain ⟨column, value⟩ := mismatch
      obtain ⟨position, hmismatch⟩ := exists_leftmostMismatch htypes
      refine .inr (.inr ⟨hlength, position, column.signature, value, hmismatch, ?_⟩)
      rw [insert, if_neg (not_not.2 hlength), htypes]
      rfl
    | none =>
      obtain ⟨houtcome, hall⟩ := pushRow_ok hlength htypes
      refine .inl ⟨(firstMismatch_eq_none_iff hlength).1 htypes, ?_⟩
      rw [insert, if_neg (not_not.2 hlength), htypes]
      exact ⟨houtcome, rfl, hall⟩
  · refine .inr (.inl ⟨hlength, ?_⟩)
    rw [insert, if_pos hlength]

/-- A row is refused and nothing has changed, or it has passed the checks and every column has
taken its value. -/
theorem insert_cases (r : Relation) (row : List Value) :
    (∃ e, r.insert row = .ask r (.refuse e)) ∨
      (r.insert row).run.outcome = .ok () ∧ (r.insert row).after.name = r.name ∧
        AllPushed r.columns row (r.insert row).after.columns := by
  rcases r.insert_spec row with ⟨-, haccepted⟩ | ⟨-, hrefused⟩ | ⟨-, _, _, _, -, hrefused⟩
  · exact .inr haccepted
  · exact .inl ⟨_, hrefused⟩
  · exact .inl ⟨_, hrefused⟩

/-- It is the admitted rows that are taken. -/
theorem outcome_insert_eq_ok_iff {r : Relation} {row : List Value} :
    (r.insert row).run.outcome = .ok () ↔ r.Admits row := by
  rcases r.insert_spec row with
    ⟨hadmits, hok, -⟩ | ⟨hlength, hrefused⟩ | ⟨-, _, _, _, hmismatch, hrefused⟩
  · exact iff_of_true hok hadmits
  · rw [hrefused]
    exact iff_of_false nofun fun hadmits => hlength hadmits.length_eq
  · rw [hrefused]
    exact iff_of_false nofun fun hadmits => hadmits.not_leftmostMismatch hmismatch

/-- A row is refused for its length, or if that is right for its leftmost mismatch. -/
theorem outcome_insert_eq_error_iff {r : Relation} {row : List Value} {failure : Failure} :
    (r.insert row).run.outcome = .error failure ↔
      (row.length ≠ r.columnCount ∧
        failure = .refused (.rowLength r.columnCount row.length)) ∨
      (row.length = r.columnCount ∧ ∃ position signature value,
        LeftmostMismatch r.schema row position signature value ∧
        failure = .refused (.valueTypeMismatch signature.name signature.type value.type)) := by
  rcases r.insert_spec row with
    ⟨hadmits, hok, -⟩ | ⟨hlength, hrefused⟩ | ⟨hlength, i, signature, value, hmismatch, hrefused⟩
  · rw [hok]
    refine iff_of_false nofun ?_
    rintro (⟨hlength, -⟩ | ⟨-, _, _, _, hmismatch, -⟩)
    · exact hlength hadmits.length_eq
    · exact hadmits.not_leftmostMismatch hmismatch
  · rw [hrefused]
    constructor
    · intro herror
      exact .inl ⟨hlength, (Except.error.inj herror).symm⟩
    · rintro (⟨-, rfl⟩ | ⟨heq, -⟩)
      · rfl
      · exact absurd heq hlength
  · rw [hrefused]
    constructor
    · intro herror
      exact .inr ⟨hlength, i, signature, value, hmismatch, (Except.error.inj herror).symm⟩
    · rintro (⟨hne, -⟩ | ⟨-, _, _, _, hother, rfl⟩)
      · exact absurd hlength hne
      · obtain ⟨rfl, rfl⟩ := hmismatch.unique hother
        rfl

/-- A row that is not taken leaves the relation as it is. -/
theorem after_insert_of_error {r : Relation} {row : List Value} {failure : Failure}
    (h : (r.insert row).run.outcome = .error failure) : (r.insert row).after = r := by
  rcases r.insert_cases row with ⟨e, hrefused⟩ | ⟨hok, -⟩
  · rw [hrefused]
    rfl
  · rw [hok] at h
    cases h

/-- Columns that have taken a value each have one more cell. -/
theorem AllPushed.size_eq {columns grown : List Column} {values : List Value} {n : Nat}
    (h : AllPushed columns values grown) (hsize : ∀ column ∈ columns, column.size = n) :
    ∀ pushed ∈ grown, pushed.size = n + 1 := by
  intro pushed hpushed
  obtain ⟨⟨column, value⟩, hentry, hpush⟩ := exists_mem_of_forall₂ h hpushed
  rw [Column.size_push hpush, hsize column (List.of_mem_zip hentry).1]

end Relation

end Columnar
