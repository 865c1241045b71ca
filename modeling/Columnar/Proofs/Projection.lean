import Columnar.Proofs.ColumnNames
import Columnar.Relation.Query

/-!
# Projections

A projection looks every name up by itself, so its columns are columns of the relation: under
each of the names that was asked for there is the column that the relation has under it, and it
stands where some look-up put it.

## Main definitions

* `Relation.sources` — where the columns of a projection come from.

## Main results

* `Relation.column?_project` — a name that was asked for means what it meant before.
* `Relation.picks_project` — the columns are those at their sources.
* `Relation.rectangular_project`, `Relation.rowCount_project` — the rows stay.
-/

namespace Columnar

namespace Relation

variable {r : Relation} {names : List String} {name : String} {column : Column}

/-- The positions of the columns that a projection takes, in the order of the names. -/
def sources (r : Relation) (names : List String) : List Nat := names.filterMap r.position?

theorem name_of_column? (h : r.column? name = some column) : column.name = name := by
  have hname := List.find?_some h
  exact beq_iff_eq.1 hname

/-- A column is looked up by looking its position up. -/
theorem column?_eq_bind (r : Relation) (name : String) :
    r.column? name = (r.position? name).bind fun position => r.columns[position]? :=
  List.find?_eq_bind_findIdx?_getElem?

/-- What was asked for is found under its name, and nothing else is. -/
theorem column?_project_eq (r : Relation) (names : List String) (name : String) :
    (r.project names).column? name = if name ∈ names then r.column? name else none := by
  unfold project
  show (names.filterMap r.column?).find? (fun column => column.name == name) = _
  induction names with
  | nil => rfl
  | cons asked names ih =>
    by_cases heq : name = asked
    · subst heq
      rw [if_pos List.mem_cons_self]
      cases hasked : r.column? name with
      | none => rw [List.filterMap_cons_none hasked, ih, hasked, ite_self]
      | some column =>
        have hname := beq_iff_eq.2 (name_of_column? hasked)
        rw [List.filterMap_cons_some hasked, List.find?_cons, hname]
    · -- what is found under another name is passed over
      have hmem : name ∈ asked :: names ↔ name ∈ names := by rw [List.mem_cons, or_iff_right heq]
      refine Eq.trans ?_ (ih.trans (if_congr hmem.symm rfl rfl))
      cases hasked : r.column? asked with
      | none => rw [List.filterMap_cons_none hasked]
      | some column =>
        have hname : (column.name == name) = false := by
          rw [beq_eq_false_iff_ne, name_of_column? hasked]
          exact Ne.symm heq
        rw [List.filterMap_cons_some hasked, List.find?_cons, hname]

/-- A name that was asked for means what it meant before. -/
theorem column?_project (h : name ∈ names) :
    (r.project names).column? name = r.column? name := by
  rw [column?_project_eq, if_pos h]

/-- The columns of a projection are those at their sources. -/
theorem picks_project (r : Relation) (names : List String) :
    Picks (r.sources names) r.columns (r.project names).columns := by
  unfold project sources
  induction names with
  | nil => exact .nil
  | cons name names ih =>
    have hbind := column?_eq_bind r name
    cases hposition : r.position? name with
    | none =>
      rw [hposition, Option.bind_none] at hbind
      rw [List.filterMap_cons_none hbind, List.filterMap_cons_none hposition]
      exact ih
    | some position =>
      rw [hposition, Option.bind_some] at hbind
      obtain ⟨hlt, -⟩ := List.findIdx?_eq_some_iff_getElem.1 hposition
      have hget := List.getElem?_eq_getElem hlt
      rw [List.filterMap_cons_some (hbind.trans hget), List.filterMap_cons_some hposition]
      exact .cons hget ih

theorem mem_of_mem_project (h : column ∈ (r.project names).columns) : column ∈ r.columns := by
  obtain ⟨_, -, hcolumn⟩ := List.mem_filterMap.1 h
  exact mem_of_column? hcolumn

/-! ### The rows -/

theorem size_of_mem_project (hr : r.Rectangular) :
    ∀ column ∈ (r.project names).columns, column.size = r.rowCount :=
  fun column hc => hr column (mem_of_mem_project hc)

theorem rectangular_project (hr : r.Rectangular) (names : List String) :
    (r.project names).Rectangular :=
  rectangular_of_size _ (size_of_mem_project hr)

/-- A projection has the rows of its relation, as long as it has a column. -/
theorem rowCount_project (hr : r.Rectangular) (hmem : name ∈ names)
    (hcolumn : r.column? name = some column) : (r.project names).rowCount = r.rowCount := by
  have hfound : column ∈ (r.project names).columns := List.mem_filterMap.2 ⟨name, hmem, hcolumn⟩
  exact rowCount_eq (List.ne_nil_of_mem hfound) (size_of_mem_project hr)

end Relation

end Columnar
