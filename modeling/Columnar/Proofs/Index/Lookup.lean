import Columnar.Index
import Columnar.Proofs.Binary64
import Columnar.Proofs.RowPairs
import Columnar.Proofs.Rows

/-!
# What an index finds

An index is built by entering one row after the other.  After any number of rows the entry
of a key lists the rows entered under it so far, in the order in which they came
(`Posting.rows_enterAll`); the entry for a whole column lists the rows that hold the key,
ascending.  For integers and texts to hold a key is to be it; for floats it is to have the
same index key, which is native equality.  So a search finds by hashing what a comparison
of every cell would have found.

## Main results

* `Index.mem_lookup_build` — **a search finds exactly the rows whose cells equal the key.**
* `Index.pairwise_lookup_build` — in ascending order.
-/

namespace Columnar

/-! ### Entries -/

namespace Posting

variable {κ α : Type} [Ord κ] [Std.TransOrd κ]

/-- The rows, of those given, that have a certain key. -/
def rowsUnder [DecidableEq κ] (keyOf : α → Option κ) (key : κ) (rows : List (α × Nat)) :
    List Nat :=
  rowsWhere (fun value => keyOf value == some key) rows

@[simp] theorem rows_empty (key : κ) : rows (∅ : Posting κ) key = [] := by
  simp [rows]

variable [Std.LawfulEqOrd κ] [DecidableEq κ]

/-- Entering a row lengthens the entry of its key and no other. -/
theorem rows_enter (posting : Posting κ) (key : κ) (row : Nat) (other : κ) :
    (posting.enter key row).rows other
      = posting.rows other ++ if key = other then [row] else [] := by
  unfold rows enter
  rw [Std.ExtTreeMap.getD_alter]
  by_cases h : key = other
  · subst h
    rw [if_pos Std.ReflCmp.compare_self, if_pos rfl, Std.ExtTreeMap.getD_eq_getD_getElem?]
    simp
  · rw [if_neg (mt Std.LawfulEqCmp.compare_eq_iff_eq.1 h), if_neg h, List.append_nil]

/-- An entry lists what it listed before and, behind that, the rows entered since. -/
theorem rows_enterAll (keyOf : α → Option κ) (posting : Posting κ) (entries : List (α × Nat))
    (key : κ) :
    (posting.enterAll keyOf entries).rows key
      = posting.rows key ++ rowsUnder keyOf key entries := by
  induction entries generalizing posting with
  | nil => simp [enterAll, rowsUnder]
  | cons entry entries ih =>
    obtain ⟨value, row⟩ := entry
    rw [rowsUnder, rowsWhere_cons, ← rowsUnder, ← List.append_assoc]
    unfold enterAll at ih ⊢
    rw [List.foldl_cons, ih]
    congr 1
    -- a row without a key is left out, and has none of the keys
    dsimp only
    cases hkey : keyOf value with
    | none => simp
    | some own => simp [rows_enter]

/-- The rows under a key are those whose cells have it. -/
theorem mem_rows_build {keyOf : α → Option κ} {values : Array α} {key : κ} {row : Nat} :
    row ∈ (build keyOf values).rows key ↔
      ∃ value, values[row]? = some value ∧ keyOf value = some key := by
  rw [build, rows_enterAll, rows_empty, List.nil_append, rowsUnder, mem_rowsWhere]
  simp only [beq_iff_eq]

/-- The rows under a key ascend. -/
theorem pairwise_rows_build (keyOf : α → Option κ) (values : Array α) (key : κ) :
    ((build keyOf values).rows key).Pairwise (· < ·) := by
  rw [build, rows_enterAll, rows_empty, List.nil_append]
  exact pairwise_rowsWhere _ values

end Posting

/-! ### Searches -/

namespace Index

theorem mem_lookupInt_build {values : Array Int64} {key : Int64} {row : Nat} :
    row ∈ (build (.int values)).lookupInt key ↔ values[row]? = some key := by
  rw [build, lookupInt, Posting.mem_rows_build]
  simp

/-- Floats are found by native equality: a NaN finds nothing, and one zero the other. -/
theorem mem_lookupFloat_build {values : Array Binary64} {key : Binary64} {row : Nat} :
    row ∈ (build (.float values)).lookupFloat key ↔
      ∃ value, values[row]? = some value ∧ value.same key = true := by
  unfold build lookupFloat
  cases hkey : key.indexKey with
  | none =>
    have hnan := Binary64.indexKey_eq_none_iff.1 hkey
    simp [Binary64.same, hnan]
  | some k =>
    dsimp only
    rw [Posting.mem_rows_build]
    constructor
    · rintro ⟨value, hvalue, hk⟩
      exact ⟨value, hvalue, Binary64.exists_indexKey_iff.1 ⟨k, hk, hkey⟩⟩
    · rintro ⟨value, hvalue, hsame⟩
      obtain ⟨k', hk', hkey'⟩ := Binary64.exists_indexKey_iff.2 hsame
      -- the key has one index key, under which the rows were entered
      obtain rfl := Option.some.inj (hkey.symm.trans hkey')
      exact ⟨value, hvalue, hk'⟩

theorem mem_lookupText_build {values : Array String} {key : String} {row : Nat} :
    row ∈ (build (.text values)).lookupText key ↔ values[row]? = some key := by
  rw [build, lookupText, Posting.mem_rows_build]
  simp

/-- **A search finds exactly the rows whose cells equal the key**: none for a key of another
type, and none for a NaN. -/
theorem mem_lookup_build {cells : Cells} {key : Value} {row : Nat} :
    row ∈ (build cells).lookup key ↔
      ∃ value, cells.get? row = some value ∧ value.same key = true := by
  cases cells with
  | int values =>
    cases key with
    | int key =>
      rw [lookup, mem_lookupInt_build]
      simp [Cells.get?, Value.same, Value.holds?, Comparison.holds, Key.same]
    | float key | text key =>
      simp [build, lookup, lookupFloat, lookupText, Cells.get?, Value.same, Value.holds?]
  | float values =>
    cases key with
    | float key =>
      rw [lookup, mem_lookupFloat_build]
      simp [Cells.get?, Value.same, Value.holds?, Comparison.holds, Key.same]
    | int key | text key =>
      simp [build, lookup, lookupInt, lookupText, Cells.get?, Value.same, Value.holds?]
  | text values =>
    cases key with
    | text key =>
      rw [lookup, mem_lookupText_build]
      simp [Cells.get?, Value.same, Value.holds?, Comparison.holds, Key.same]
    | int key | float key =>
      simp [build, lookup, lookupInt, lookupFloat, Cells.get?, Value.same, Value.holds?]

/-- The rows that a search finds ascend. -/
theorem pairwise_lookup_build (cells : Cells) (key : Value) :
    ((build cells).lookup key).Pairwise (· < ·) := by
  unfold build lookup
  cases cells with
  | int values =>
    cases key with
    | int key => exact Posting.pairwise_rows_build some values key
    | float key | text key => exact .nil
  | float values =>
    cases key with
    | float key =>
      simp only [lookupFloat]
      cases key.indexKey with
      | none => exact .nil
      | some key => exact Posting.pairwise_rows_build Binary64.indexKey values key
    | int key | text key => exact .nil
  | text values =>
    cases key with
    | text key => exact Posting.pairwise_rows_build some values key
    | int key | float key => exact .nil

end Index

end Columnar
