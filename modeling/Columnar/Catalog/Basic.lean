import Columnar.Relation.Query

/-!
# The catalog

The catalog keeps relations under names, each name once.  A relation is registered
under its own name and replaces what was there; renaming a registered relation in place
does not move it.

Two catalogs are equal when they find the same relation under every name
(`Catalog.ext`), so what an operation does to a catalog is said by what it does to
`Catalog.find?`.

## Main definitions

* `Catalog` — relations by name.
* `Catalog.register`, `Catalog.create`, `Catalog.drop` — what changes the names.
* `Catalog.find` — the relation under a name.
* `Catalog.edit` — a step on the relation under a name, in place.
-/

namespace Columnar

/-- The registered relations, by name. -/
structure Catalog where
  /-- The relations, in the order of their names. -/
  relations : Std.ExtTreeMap String Relation

namespace Catalog

/-- A catalog without relations. -/
def empty : Catalog := ⟨∅⟩

/-- The names under which relations are registered, in ascending order. -/
def names (c : Catalog) : List String := c.relations.keys

/-- The relation under a name, if there is one. -/
def find? (c : Catalog) (name : String) : Option Relation := c.relations[name]?

/-- The relation under a name, which must be registered. -/
def find (c : Catalog) (name : String) : Except Error Relation :=
  match c.find? name with
  | some r => .ok r
  | none => .error (.unknownRelation name)

/-- The catalog with a relation under a given name. -/
def put (c : Catalog) (name : String) (r : Relation) : Catalog := ⟨c.relations.insert name r⟩

/-! ### Finding what was put -/

/-- Catalogs that find the same under every name are equal. -/
@[ext] theorem ext {c d : Catalog} (h : ∀ name, c.find? name = d.find? name) : c = d := by
  cases c
  cases d
  exact congrArg mk (Std.ExtTreeMap.ext_getElem? h)

@[simp] theorem find?_empty (name : String) : empty.find? name = none := by
  simp [find?, empty]

theorem find?_put (c : Catalog) (name : String) (r : Relation) (other : String) :
    (c.put name r).find? other = if name = other then some r else c.find? other := by
  simp [find?, put, Std.ExtTreeMap.getElem?_insert]

@[simp] theorem find?_put_self (c : Catalog) (name : String) (r : Relation) :
    (c.put name r).find? name = some r := by
  simp [find?_put]

/-- Putting back what is there changes nothing. -/
theorem put_find? {c : Catalog} {name : String} {r : Relation} (h : c.find? name = some r) :
    c.put name r = c := by
  ext other
  rw [find?_put]
  split
  · next heq => rw [← heq, h]
  · rfl

theorem find_eq_ok_iff {c : Catalog} {name : String} {r : Relation} :
    c.find name = .ok r ↔ c.find? name = some r := by
  unfold find
  split <;> simp_all

/-- A name is listed exactly when a relation is found under it. -/
theorem mem_names {c : Catalog} {name : String} :
    name ∈ c.names ↔ (c.find? name).isSome := by
  simp [names, find?]

/-! ### Changes -/

/-- Registers a relation under its own name, in place of any that was there. -/
def register (c : Catalog) (r : Relation) : Step Catalog Unit where
  run := match c.find? r.name with
    | some _ => .report (.relationReplaced r.name)
    | none => pure ()
  after := c.put r.name r

/-- Registers a relation without rows. -/
def create (c : Catalog) (name : String) (schema : List Signature) : Step Catalog Relation :=
  let r := Relation.empty name schema
  (c.register r).andThen fun _ c => .ask c (pure r)

/-- The catalog without the relation under a name. -/
def erase (c : Catalog) (name : String) : Catalog := ⟨c.relations.erase name⟩

theorem find?_erase (c : Catalog) (name other : String) :
    (c.erase name).find? other = if name = other then none else c.find? other := by
  simp [find?, erase, Std.ExtTreeMap.getElem?_erase]

/-- Removes the relation under a name and hands it back. -/
def drop (c : Catalog) (name : String) : Step Catalog Relation :=
  match c.find? name with
  | some r => ⟨pure r, c.erase name⟩
  | none => .ask c (.refuse (.unknownRelation name))

/-- Carries out a step on the relation under a name, which stays under that name. -/
def edit {α : Type} (c : Catalog) (name : String) (f : Relation → Step Relation α) :
    Step Catalog α :=
  match c.find? name with
  | some r => (f r).within (c.put name)
  | none => .ask c (.refuse (.unknownRelation name))

end Catalog

end Columnar
