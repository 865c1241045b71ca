import Columnar.Join.Pairs
import Mathlib.Data.List.Basic
import Mathlib.Data.List.Perm.Subperm

/-!
# Lists of row pairs

A join strategy lists pairs of row positions.  Such a list is known once it is known
which pairs it holds, that it holds none twice, and in which order: there is only one
list of that description (`Enumerates.unique`), and lists that differ in the order alone
are rearrangements of each other (`Enumerates.perm`).  So two strategies are compared by
describing each on its own, and the descriptions never mention how the pairs were found.

## Main definitions

* `rowsWhere` — the rows that pass a test.
* `ByLeft`, `ByRight` — the order by left row and then right row, and the other way round.
* `Enumerates` — a list holds exactly the pairs of a set, each once, in a given order.

## Main results

* `Enumerates.unique`, `Enumerates.perm` — what the description fixes.
* `enumerates_byLeft` — what a loop over the left rows lists.
* `enumerates_range` — the pairs of a decidable set, written out.
-/

namespace Columnar

/-! ### Rows that pass a test -/

section

variable {α : Type}

/-- The positions of those entries that pass a test. -/
def rowsWhere (test : α → Bool) (entries : List (α × Nat)) : List Nat :=
  entries.filterMap fun (value, row) => if test value then some row else none

@[simp] theorem rowsWhere_nil (test : α → Bool) : rowsWhere test [] = [] := rfl

theorem rowsWhere_cons (test : α → Bool) (value : α) (row : Nat) (entries : List (α × Nat)) :
    rowsWhere test ((value, row) :: entries)
      = (if test value then [row] else []) ++ rowsWhere test entries := by
  unfold rowsWhere
  rw [List.filterMap_cons]
  by_cases h : test value = true <;> simp [h]

theorem mem_rowsWhere {test : α → Bool} {values : Array α} {row : Nat} :
    row ∈ rowsWhere test values.toList.zipIdx ↔
      ∃ value, values[row]? = some value ∧ test value = true := by
  simp only [rowsWhere, List.mem_filterMap, Prod.exists, List.mem_zipIdx_iff_getElem?,
    Array.getElem?_toList, Option.ite_none_right_eq_some, Option.some.injEq]
  constructor
  · rintro ⟨value, _, hvalue, htest, rfl⟩
    exact ⟨value, hvalue, htest⟩
  · rintro ⟨value, hvalue, htest⟩
    exact ⟨value, row, hvalue, htest, rfl⟩

/-- Positions ascend along a list. -/
theorem pairwise_zipIdx (xs : List α) : xs.zipIdx.Pairwise (·.2 < ·.2) := by
  have hrange : (xs.zipIdx.map Prod.snd).Pairwise (· < ·) := by
    rw [List.zipIdx_map_snd]
    exact List.pairwise_lt_range'
  exact List.pairwise_map.1 hrange

theorem pairwise_rowsWhere (test : α → Bool) (values : Array α) :
    (rowsWhere test values.toList.zipIdx).Pairwise (· < ·) := by
  unfold rowsWhere
  rw [List.pairwise_filterMap]
  refine (pairwise_zipIdx values.toList).imp ?_
  rintro ⟨_, row⟩ ⟨_, row'⟩ hlt a ha b hb
  obtain ⟨-, ⟨⟩⟩ := Option.ite_none_right_eq_some.1 ha
  obtain ⟨-, ⟨⟩⟩ := Option.ite_none_right_eq_some.1 hb
  exact hlt

end

/-! ### Orders of row pairs -/

/-- The order by left row and then right row. -/
def ByLeft (p q : RowPair) : Prop := p.1 < q.1 ∨ p.1 = q.1 ∧ p.2 < q.2

/-- The order by right row and then left row. -/
def ByRight (p q : RowPair) : Prop := p.2 < q.2 ∨ p.2 = q.2 ∧ p.1 < q.1

instance : Std.Asymm ByLeft where
  asymm p q := by unfold ByLeft; omega

instance : Std.Asymm ByRight where
  asymm p q := by unfold ByRight; omega

/-! ### Lists of the pairs of a set -/

/-- A list holds exactly the pairs of a set, in a given order.  As long as the order puts no
pair before itself, each is listed once. -/
structure Enumerates (before : RowPair → RowPair → Prop) (set : RowPair → Prop)
    (pairs : List RowPair) : Prop where
  /-- The list holds the pairs of the set and no others. -/
  mem_iff : ∀ p, p ∈ pairs ↔ set p
  /-- The list is in order. -/
  ordered : pairs.Pairwise before

namespace Enumerates

variable {before before' : RowPair → RowPair → Prop} {set set' : RowPair → Prop}
  {pairs pairs' : List RowPair}

/-- No pair is listed twice. -/
theorem nodup [Std.Asymm before] (h : Enumerates before set pairs) : pairs.Nodup := by
  refine h.ordered.imp fun {p q} hpq heq => ?_
  subst heq
  exact Std.Asymm.asymm p p hpq hpq

theorem congr (h : Enumerates before set pairs) (hset : ∀ p, set p ↔ set' p) :
    Enumerates before set' pairs :=
  ⟨fun p => (h.mem_iff p).trans (hset p), h.ordered⟩

/-- Lists of the same pairs are rearrangements of each other, whatever their orders. -/
theorem perm [Std.Asymm before] [Std.Asymm before'] (h : Enumerates before set pairs)
    (h' : Enumerates before' set pairs') : pairs.Perm pairs' := by
  rw [List.perm_ext_iff_of_nodup h.nodup h'.nodup]
  intro p
  rw [h.mem_iff, h'.mem_iff]

/-- There is only one list of the same pairs in the same order. -/
theorem unique [Std.Asymm before] (h : Enumerates before set pairs)
    (h' : Enumerates before set pairs') : pairs = pairs' := by
  refine (h.perm h').eq_of_pairwise ?_ h.ordered h'.ordered
  intro p q _ _ hpq hqp
  exact absurd hqp (Std.Asymm.asymm p q hpq)

/-- A list of fewer pairs is a selection from a list of more. -/
theorem subperm [Std.Asymm before] (h : Enumerates before set pairs)
    (h' : Enumerates before' set' pairs') (hset : ∀ p, set p → set' p) :
    pairs.Subperm pairs' := by
  refine List.subperm_of_subset h.nodup fun p hp => ?_
  exact (h'.mem_iff p).2 (hset p ((h.mem_iff p).1 hp))

/-- Leaving pairs out keeps the order of the others. -/
theorem filter (h : Enumerates before set pairs) (keep : RowPair → Bool) :
    Enumerates before (fun p => set p ∧ keep p = true) (pairs.filter keep) where
  mem_iff p := by rw [List.mem_filter, h.mem_iff]
  ordered := h.ordered.filter keep

end Enumerates

/-- Going through the left rows, and for each through some right rows that ascend, lists
pairs by left row and then right row. -/
theorem enumerates_byLeft {α : Type} (left : List α) {rows : α → List Nat}
    (hrows : ∀ l, (rows l).Pairwise (· < ·)) :
    Enumerates ByLeft (fun p => ∃ l, left[p.1]? = some l ∧ p.2 ∈ rows l)
      (left.zipIdx.flatMap fun (l, i) => (rows l).map fun j => (i, j)) := by
  constructor
  · rintro ⟨i, j⟩
    simp only [List.mem_flatMap, List.mem_map, Prod.exists, List.mem_zipIdx_iff_getElem?,
      Prod.mk.injEq]
    constructor
    · rintro ⟨l, _, hl, _, hj, rfl, rfl⟩
      exact ⟨l, hl, hj⟩
    · rintro ⟨l, hl, hj⟩
      exact ⟨l, i, hl, j, hj, rfl, rfl⟩
  · rw [List.pairwise_flatMap]
    constructor
    · -- within a left row the right rows ascend
      rintro ⟨l, i⟩ -
      rw [List.pairwise_map]
      exact (hrows l).imp fun hlt => Or.inr ⟨rfl, hlt⟩
    · -- pairs of different left rows are in the order of those
      refine (pairwise_zipIdx left).imp ?_
      rintro ⟨l, i⟩ ⟨l', i'⟩ hlt p hp q hq
      obtain ⟨j, -, rfl⟩ := List.mem_map.1 hp
      obtain ⟨j', -, rfl⟩ := List.mem_map.1 hq
      exact Or.inl hlt

/-- The pairs of a set, written out: all left positions in turn, and with each of them those
right positions that make a pair of the set. -/
theorem enumerates_range {set : RowPair → Prop} [DecidablePred set] {m n : Nat}
    (hset : ∀ p, set p → p.1 < m ∧ p.2 < n) :
    Enumerates ByLeft set
      ((List.range m).flatMap fun i =>
        ((List.range n).filter fun j => set (i, j)).map fun j => (i, j)) := by
  constructor
  · rintro ⟨i, j⟩
    simp only [List.mem_flatMap, List.mem_range, List.mem_map, List.mem_filter,
      decide_eq_true_iff, Prod.mk.injEq]
    constructor
    · rintro ⟨i, -, j, ⟨-, h⟩, rfl, rfl⟩
      exact h
    · intro h
      obtain ⟨hi, hj⟩ := hset (i, j) h
      exact ⟨i, hi, j, ⟨hj, h⟩, rfl, rfl⟩
  · rw [List.pairwise_flatMap]
    constructor
    · intro i _
      rw [List.pairwise_map]
      exact (List.pairwise_lt_range.filter _).imp fun hlt => Or.inr ⟨rfl, hlt⟩
    · refine List.pairwise_lt_range.imp ?_
      intro i i' hlt p hp q hq
      obtain ⟨j, -, rfl⟩ := List.mem_map.1 hp
      obtain ⟨j', -, rfl⟩ := List.mem_map.1 hq
      exact Or.inl hlt

end Columnar
