import Columnar.Proofs.Index.Lookup
import Mathlib.Data.Setoid.Basic
import Mathlib.Data.Set.Card

/-!
# An index as the equality of its column

Native equality sorts the cells of a column into classes: a cell that is not a NaN belongs to
the class of all the cells that equal it, and a NaN, which does not equal even itself, belongs to
none.  An index is that sorting, written down.  There is one posting list for each class, which
lists the rows of its cells; so the lists are not empty, no two of them share a row, every row is
in one of them unless its cell is a NaN, and their number is the number of classes.

Keys decide which class a row is entered for.  They are canonical: of all the values that are
equal to each other one is the key of all (`Value.indexKey`), and it is the value itself except
that zero stands for both zeros.

## Main definitions

* `Value.indexKey` — the value that stands for all values equal to a given one.
* `Index.keys`, `Index.postings` — the keys of an index, and the lists of rows entered under them.
* `Cells.sameClass` — native equality of the cells that are not NaNs.

## Main results

* `Posting.mem_keys_build`, `Posting.lists_eq` — the keys are those of the cells, and each has its
  rows.
* `Index.size_build` — there are as many keys as classes.
* `Index.build_sorts` — **an index sorts the rows of its column by native equality.**
-/

namespace Columnar

/-! ### Posting lists -/

namespace Posting

variable {κ α : Type} [Ord κ] [Std.TransOrd κ]

/-- The rows that are entered, in one list for each key. -/
def lists (posting : Posting κ) : List (List Nat) := posting.toList.map fun entry => entry.2.toList

variable [Std.LawfulEqOrd κ]

/-- The list of a key are the rows under it. -/
theorem lists_eq (posting : Posting κ) : posting.lists = posting.keys.map posting.rows := by
  rw [lists, ← Std.ExtTreeMap.map_fst_toList_eq_keys, List.map_map]
  refine List.map_congr_left fun entry hentry => ?_
  obtain ⟨key, rows⟩ := entry
  have hrows := Std.ExtTreeMap.mem_toList_iff_getElem?_eq_some.1 hentry
  rw [Function.comp_apply, Posting.rows, Std.ExtTreeMap.getD_eq_getD_getElem?, hrows]
  rfl

theorem mem_enter {posting : Posting κ} {key other : κ} {row : Nat} :
    other ∈ posting.enter key row ↔ key = other ∨ other ∈ posting := by
  rw [enter, Std.ExtTreeMap.mem_alter]
  by_cases h : key = other
  · simp [h]
  · rw [if_neg (mt Std.LawfulEqCmp.compare_eq_iff_eq.1 h)]
    simp [h]

/-- What is entered are the keys of the rows, besides those that are there. -/
theorem mem_enterAll {keyOf : α → Option κ} {posting : Posting κ} {entries : List (α × Nat)}
    {key : κ} :
    key ∈ posting.enterAll keyOf entries ↔
      key ∈ posting ∨ ∃ entry ∈ entries, keyOf entry.1 = some key := by
  induction entries generalizing posting with
  | nil => simp [enterAll]
  | cons entry entries ih =>
    obtain ⟨value, row⟩ := entry
    unfold enterAll at ih ⊢
    rw [List.foldl_cons, ih, List.exists_mem_cons_iff, ← or_assoc]
    refine or_congr_left ?_
    dsimp only
    cases hkey : keyOf value with
    | none => simp
    | some own => rw [mem_enter, Option.some.injEq, or_comm]

/-- The keys are those of the cells. -/
theorem mem_keys_build {keyOf : α → Option κ} {values : Array α} {key : κ} :
    key ∈ (build keyOf values).keys ↔
      ∃ value ∈ values.toList, keyOf value = some key := by
  rw [Std.ExtTreeMap.mem_keys, build, mem_enterAll]
  constructor
  · rintro (hempty | ⟨⟨value, row⟩, hentry, hkey⟩)
    · simp at hempty
    · exact ⟨value, List.fst_mem_of_mem_zipIdx hentry, hkey⟩
  · rintro ⟨value, hvalue, hkey⟩
    obtain ⟨row, hrow⟩ := List.mem_iff_getElem?.1 hvalue
    exact .inr ⟨(value, row), List.mem_zipIdx_iff_getElem?.2 hrow, hkey⟩

variable {keyOf : α → Option κ} {values : Array α}

/-- There is a list for the key of each cell. -/
theorem mem_lists_build {rows : List Nat} :
    rows ∈ (build keyOf values).lists ↔
      ∃ value ∈ values.toList, ∃ key, keyOf value = some key ∧
        (build keyOf values).rows key = rows := by
  rw [lists_eq, List.mem_map]
  constructor
  · rintro ⟨key, hkey, hrows⟩
    obtain ⟨value, hvalue, hown⟩ := mem_keys_build.1 hkey
    exact ⟨value, hvalue, key, hown, hrows⟩
  · rintro ⟨value, hvalue, key, hown, hrows⟩
    exact ⟨key, mem_keys_build.2 ⟨value, hvalue, hown⟩, hrows⟩

/-- A row is entered under the key of its cell, and no other. -/
theorem pairwise_disjoint_lists_build [DecidableEq κ] :
    (build keyOf values).lists.Pairwise List.Disjoint := by
  rw [lists_eq, List.pairwise_map]
  refine Std.ExtTreeMap.nodup_keys.imp fun {key other} hne row hrow hother => hne ?_
  obtain ⟨value, hvalue, hkey⟩ := mem_rows_build.1 hrow
  obtain ⟨value', hvalue', hkey'⟩ := mem_rows_build.1 hother
  obtain rfl := Option.some.inj (hvalue.symm.trans hvalue')
  exact Option.some.inj (hkey.symm.trans hkey')

end Posting

/-! ### Keys as values -/

namespace Value

/-- Whether a value is a float NaN. -/
def isNaN : Value → Bool
  | .float x => x.isNaN
  | _ => false

/-- The value that stands for all values equal to a given one; none for a NaN. -/
def indexKey : Value → Option Value
  | .float x => x.indexKey.map fun bits => .float ⟨bits⟩
  | value => some value

theorem indexKey_eq_none_iff {value : Value} : value.indexKey = none ↔ value.isNaN = true := by
  cases value with
  | int n | text s => simp [indexKey, isNaN]
  | float x => simp [indexKey, isNaN, Binary64.indexKey_eq_none_iff]

/-- Two values have a key in common exactly if they are equal. -/
theorem exists_indexKey_iff {x y : Value} :
    (∃ key, x.indexKey = some key ∧ y.indexKey = some key) ↔ x.same y = true := by
  cases x <;> cases y
  case float.float x y =>
    have hkeys := Binary64.exists_indexKey_iff (x := x) (y := y)
    simp only [indexKey, Option.map_eq_some_iff, same, holds?, Comparison.holds, Key.same,
      Option.getD_some, ← hkeys]
    constructor
    · rintro ⟨_, ⟨bits, hx, rfl⟩, bits', hy, heq⟩
      cases heq
      exact ⟨bits, hx, hy⟩
    · rintro ⟨bits, hx, hy⟩
      exact ⟨_, ⟨bits, hx, rfl⟩, bits, hy, rfl⟩
  case int.int x y =>
    simpa [indexKey, same, holds?, Comparison.holds, Key.same] using eq_comm
  case text.text x y =>
    simpa [indexKey, same, holds?, Comparison.holds, Key.same] using eq_comm
  all_goals simp [indexKey, same, holds?]

theorem isNaN_of_indexKey {value key : Value} (h : value.indexKey = some key) :
    value.isNaN = false := by
  rw [← Bool.not_eq_true, ← indexKey_eq_none_iff, h]
  exact Option.some_ne_none key

theorem exists_indexKey {value : Value} (h : value.isNaN = false) :
    ∃ key, value.indexKey = some key := by
  rw [← Option.ne_none_iff_exists', Ne, indexKey_eq_none_iff, h]
  exact Bool.false_ne_true

theorem same_self {value : Value} (h : value.isNaN = false) : value.same value = true := by
  obtain ⟨key, hkey⟩ := exists_indexKey h
  exact exists_indexKey_iff.1 ⟨key, hkey, hkey⟩

/-- A value that is not a NaN equals those with the same key. -/
theorem same_iff_indexKey_eq {x y : Value} (h : x.isNaN = false) :
    x.same y = true ↔ x.indexKey = y.indexKey := by
  obtain ⟨key, hkey⟩ := exists_indexKey h
  rw [← exists_indexKey_iff, hkey]
  constructor
  · rintro ⟨_, ⟨⟩, hy⟩
    exact hy.symm
  · intro hy
    exact ⟨key, rfl, hy.symm⟩

end Value

/-! ### Classes of equal cells -/

/-- The cells of a column that are not NaNs. -/
def Cells.Comparable (cells : Cells) : Type :=
  {value : Value // value ∈ cells.toList ∧ value.isNaN = false}

/-- Native equality of the cells that are not NaNs. -/
def Cells.sameClass (cells : Cells) : Setoid cells.Comparable where
  r x y := x.1.same y.1 = true
  iseqv := by
    have hkeys (x y : cells.Comparable) : x.1.same y.1 = true ↔ x.1.indexKey = y.1.indexKey :=
      Value.same_iff_indexKey_eq x.2.2
    simp only [hkeys]
    exact ⟨fun _ => rfl, fun h => h.symm, fun h h' => h.trans h'⟩

namespace Index

/-- The keys of an index, as values. -/
def keys (index : Index) : List Value :=
  match index.entries with
  | .int posting => posting.keys.map .int
  | .float posting => posting.keys.map fun bits => .float ⟨bits⟩
  | .text posting => posting.keys.map .text

/-- The rows that are entered in an index, in one list for each key. -/
def postings (index : Index) : List (List Nat) :=
  match index.entries with
  | .int posting => posting.lists
  | .float posting => posting.lists
  | .text posting => posting.lists

theorem length_keys (index : Index) : index.keys.length = index.size := by
  unfold keys size
  cases index.entries <;> rw [List.length_map, Std.ExtTreeMap.length_keys]

theorem length_postings (index : Index) : index.postings.length = index.size := by
  unfold postings size
  cases index.entries <;> exact (List.length_map _).trans Std.ExtTreeMap.length_toList

theorem nodup_keys (index : Index) : index.keys.Nodup := by
  unfold keys
  cases index.entries with
  | int posting => exact Std.ExtTreeMap.nodup_keys.map fun _ _ => Value.int.inj
  | float posting =>
    exact Std.ExtTreeMap.nodup_keys.map fun _ _ h => congrArg Binary64.bits (Value.float.inj h)
  | text posting => exact Std.ExtTreeMap.nodup_keys.map fun _ _ => Value.text.inj

/-- The keys of a column's index are those of its cells. -/
theorem mem_keys_build {cells : Cells} {key : Value} :
    key ∈ (build cells).keys ↔ ∃ value ∈ cells.toList, value.indexKey = some key := by
  cases cells with
  | int values | text values =>
    simp only [build, keys, List.mem_map, Posting.mem_keys_build, Cells.toList]
    simp [Value.indexKey]
  | float values =>
    simp only [build, keys, List.mem_map, Posting.mem_keys_build, Cells.toList]
    constructor
    · rintro ⟨bits, ⟨value, hvalue, hbits⟩, rfl⟩
      exact ⟨_, ⟨value, hvalue, rfl⟩, by rw [Value.indexKey, hbits, Option.map_some]⟩
    · rintro ⟨_, ⟨value, hvalue, rfl⟩, hkey⟩
      obtain ⟨bits, hbits, rfl⟩ := Option.map_eq_some_iff.1 hkey
      exact ⟨bits, ⟨value, hvalue, hbits⟩, rfl⟩

/-- There are as many keys as classes. -/
theorem size_build (cells : Cells) :
    (build cells).size = Nat.card (Quotient cells.sameClass) := by
  let key (cell : cells.Comparable) : Option Value := cell.1.indexKey
  -- a class is known by its key
  have hclass : cells.sameClass = Setoid.ker key :=
    Setoid.ext fun x y => Value.same_iff_indexKey_eq x.2.2
  have hrange : Set.range key = ((build cells).keys.map some).toFinset := by
    ext k
    simp only [Set.mem_range, List.coe_toFinset, Set.mem_ofPred_eq, List.mem_map, mem_keys_build]
    constructor
    · rintro ⟨⟨value, hvalue, hnan⟩, rfl⟩
      obtain ⟨own, hown⟩ := Value.exists_indexKey hnan
      exact ⟨own, ⟨value, hvalue, hown⟩, hown.symm⟩
    · rintro ⟨own, ⟨value, hvalue, hown⟩, rfl⟩
      exact ⟨⟨value, hvalue, Value.isNaN_of_indexKey hown⟩, hown⟩
  have hnodup : ((build cells).keys.map some).Nodup :=
    (build cells).nodup_keys.map (Option.some_injective Value)
  rw [hclass, Nat.card_congr (Setoid.quotientKerEquivRange key), hrange, Nat.card_coe_set_eq,
    Set.ncard_coe_finset, List.toFinset_card_of_nodup hnodup, List.length_map, length_keys]

/-! ### Posting lists of a column -/

/-- There is a posting list for each cell that is not a NaN: the rows that a search for it
finds. -/
theorem mem_postings_build {cells : Cells} {rows : List Nat} :
    rows ∈ (build cells).postings ↔
      ∃ value ∈ cells.toList, value.isNaN = false ∧ (build cells).lookup value = rows := by
  cases cells with
  | int values =>
    simp [build, postings, Posting.mem_lists_build, Cells.toList, Value.isNaN, lookup, lookupInt]
  | text values =>
    simp [build, postings, Posting.mem_lists_build, Cells.toList, Value.isNaN, lookup, lookupText]
  | float values =>
    simp only [build, postings, Posting.mem_lists_build, Cells.toList, List.mem_map]
    constructor
    · rintro ⟨x, hx, key, hkey, hrows⟩
      refine ⟨_, ⟨x, hx, rfl⟩, Binary64.isNaN_of_indexKey hkey, ?_⟩
      simp only [lookup, lookupFloat, hkey, hrows]
    · rintro ⟨_, ⟨x, hx, rfl⟩, hnan, hrows⟩
      obtain ⟨key, hkey⟩ : ∃ key, x.indexKey = some key := by
        rw [← Option.ne_none_iff_exists', Ne, Binary64.indexKey_eq_none_iff]
        exact Bool.eq_false_iff.1 hnan
      simp only [lookup, lookupFloat, hkey] at hrows
      exact ⟨x, hx, key, hkey, hrows⟩

theorem pairwise_disjoint_postings_build (cells : Cells) :
    (build cells).postings.Pairwise List.Disjoint := by
  cases cells with
  | int values | float values | text values => exact Posting.pairwise_disjoint_lists_build

/-- A row is entered if its cell is not a NaN. -/
theorem exists_mem_postings_build {cells : Cells} {row : Nat} :
    (∃ rows ∈ (build cells).postings, row ∈ rows) ↔
      ∃ value, cells.get? row = some value ∧ value.isNaN = false := by
  constructor
  · rintro ⟨_, hrows, hrow⟩
    obtain ⟨key, -, hnan, rfl⟩ := mem_postings_build.1 hrows
    obtain ⟨value, hvalue, hsame⟩ := mem_lookup_build.1 hrow
    obtain ⟨own, hown, -⟩ := Value.exists_indexKey_iff.2 hsame
    exact ⟨value, hvalue, Value.isNaN_of_indexKey hown⟩
  · rintro ⟨value, hvalue, hnan⟩
    have hmem : value ∈ cells.toList :=
      List.mem_of_getElem? ((Cells.get?_eq_getElem? cells row).symm.trans hvalue)
    exact ⟨_, mem_postings_build.2 ⟨value, hmem, hnan, rfl⟩,
      mem_lookup_build.2 ⟨value, hvalue, Value.same_self hnan⟩⟩

/-- A posting list has the row of the cell it is there for. -/
theorem nil_notMem_postings_build (cells : Cells) : [] ∉ (build cells).postings := by
  intro hnil
  obtain ⟨value, hmem, hnan, hrows⟩ := mem_postings_build.1 hnil
  obtain ⟨row, hrow⟩ := List.mem_iff_getElem?.1 hmem
  rw [← Cells.get?_eq_getElem?] at hrow
  exact List.not_mem_nil (hrows ▸ mem_lookup_build.2 ⟨value, hrow, Value.same_self hnan⟩)

/-! ### Searches -/

/-- A search goes through no row, and finds those that going through all of them would find. -/
theorem lookup_build (cells : Cells) (key : Value) :
    (build cells).lookup key
      = (List.range cells.size).filter fun row => (cells.get? row).any (·.same key) := by
  refine (pairwise_lookup_build cells key).eq_of_mem_iff
    (List.pairwise_lt_range.filter _) fun row => ?_
  rw [mem_lookup_build, List.mem_filter, List.mem_range, Option.any_eq_true]
  exact ⟨fun ⟨value, hvalue, hsame⟩ => ⟨Cells.get?_lt hvalue, value, hvalue, hsame⟩, And.right⟩

/-- A key of another type than the column is found nowhere. -/
theorem lookup_build_of_type_ne {cells : Cells} {key : Value} (h : key.type ≠ cells.type) :
    (build cells).lookup key = [] := by
  cases cells with
  | int values =>
    cases key with
    | int key => exact absurd rfl h
    | float key | text key => rfl
  | float values =>
    cases key with
    | float key => exact absurd rfl h
    | int key | text key => rfl
  | text values =>
    cases key with
    | text key => exact absurd rfl h
    | int key | float key => rfl

/-- **An index sorts the rows of its column by native equality.**  What is found for a key are,
in ascending order, the rows whose cells equal it, and so none for a key of another type or a
NaN; the searches for keys of one type find the same, and in an index of another type nothing.
The posting lists share no row, are not empty, are found for the cells, and have together the
rows whose cells are not NaNs; there are as many of them as classes of equal cells. -/
theorem build_sorts (cells : Cells) :
    (∀ key, (build cells).lookup key
      = (List.range cells.size).filter fun row => (cells.get? row).any (·.same key)) ∧
    (∀ key, key.type ≠ cells.type → (build cells).lookup key = []) ∧
    ((∀ key, (build cells).lookupInt key = (build cells).lookup (.int key)) ∧
      (∀ key, (build cells).lookupFloat key = (build cells).lookup (.float key)) ∧
      ∀ key, (build cells).lookupText key = (build cells).lookup (.text key)) ∧
    ((cells.type ≠ .int → ∀ key, (build cells).lookupInt key = []) ∧
      (cells.type ≠ .float → ∀ key, (build cells).lookupFloat key = []) ∧
      (cells.type ≠ .text → ∀ key, (build cells).lookupText key = [])) ∧
    ((build cells).postings.Pairwise List.Disjoint ∧ [] ∉ (build cells).postings ∧
      (∀ rows ∈ (build cells).postings,
        ∃ value ∈ cells.toList, (build cells).lookup value = rows) ∧
      ∀ row, (∃ rows ∈ (build cells).postings, row ∈ rows) ↔
        ∃ value, cells.get? row = some value ∧ value.isNaN = false) ∧
    (build cells).postings.length = (build cells).size ∧
    (build cells).size = Nat.card (Quotient cells.sameClass) := by
  refine ⟨lookup_build cells, fun key => lookup_build_of_type_ne,
    ⟨fun _ => rfl, fun _ => rfl, fun _ => rfl⟩,
    ⟨fun h key => lookup_build_of_type_ne (show (Value.int key).type ≠ _ from h.symm),
      fun h key => lookup_build_of_type_ne (show (Value.float key).type ≠ _ from h.symm),
      fun h key => lookup_build_of_type_ne (show (Value.text key).type ≠ _ from h.symm)⟩,
    ⟨pairwise_disjoint_postings_build cells, nil_notMem_postings_build cells,
      fun rows hrows => ?_, fun row => exists_mem_postings_build⟩,
    length_postings _, size_build cells⟩
  obtain ⟨value, hmem, -, hfound⟩ := mem_postings_build.1 hrows
  exact ⟨value, hmem, hfound⟩

/-- Zero, a NaN, and negative zero. -/
def zeros : Cells := .float #[⟨0⟩, ⟨0x7ff8000000000000⟩, ⟨0x8000000000000000⟩]

/-- Both zeros are in one class, and the NaN is in none. -/
theorem build_sorts_zeros :
    zeros.type ≠ .int ∧ (Value.int 0).type ≠ zeros.type ∧
      (build zeros).lookup (.float ⟨0x8000000000000000⟩) = [0, 2] ∧
      (build zeros).lookup (.int 0) = [] ∧ (build zeros).lookupInt 0 = [] ∧
      Nat.card (Quotient zeros.sameClass) = 1 := by
  have htype : zeros.type ≠ .int := by decide
  have hkey : (Value.int 0).type ≠ zeros.type := by decide
  obtain ⟨hlookup, hother, -, ⟨hint, -, -⟩, -, -, hsize⟩ := build_sorts zeros
  exact ⟨htype, hkey, (hlookup _).trans (by decide), hother _ hkey, hint htype 0,
    hsize.symm.trans rfl⟩

end Index

end Columnar
