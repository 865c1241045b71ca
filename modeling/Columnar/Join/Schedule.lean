/-!
# Schedules of independent tasks

A parallel join gives every row it probes to a task of its own.  A task's list of
matches is stored in the slot of its row, and the slots are read in row order once all
tasks are done.  A schedule is the order in which the tasks are carried out; whatever
it is, the slots end up the same.

## Main definitions

* `Schedule` — for every number of tasks, an order in which each runs exactly once.
* `Schedule.collect` — runs the tasks in that order and joins the slots.

## Main results

* `Schedule.collect_eq` — the collected list does not depend on the schedule.
-/

namespace Columnar

/-- An order of execution for any number of tasks. -/
structure Schedule where
  /-- The order in which `n` tasks are carried out. -/
  order : Nat → List Nat
  /-- Every task is carried out exactly once. -/
  perm : ∀ n, (order n).Perm (List.range n)

namespace Schedule

/-- One task after the other. -/
def inOrder : Schedule := ⟨List.range, fun _ => .refl _⟩

/-- The last task first. -/
def reversed : Schedule := ⟨fun n => (List.range n).reverse, fun _ => List.reverse_perm _⟩

/-- Carries out one task and stores its list in its slot. -/
def runTask {α : Type} (task : Nat → List α) (slots : Array (List α)) (i : Nat) :
    Array (List α) :=
  slots.setIfInBounds i (task i)

/-- Carries out `n` tasks in the order of the schedule, and joins their lists in the order
of the tasks. -/
def collect {α : Type} (s : Schedule) (n : Nat) (task : Nat → List α) : List α :=
  ((s.order n).foldl (runTask task) (Array.replicate n [])).toList.flatten

/-! ### The order does not matter -/

theorem size_foldl_runTask {α : Type} (task : Nat → List α) (order : List Nat)
    (slots : Array (List α)) : (order.foldl (runTask task) slots).size = slots.size := by
  induction order generalizing slots with
  | nil => rfl
  | cons i order ih => simp [ih, runTask]

/-- A slot holds its task's list once the task has run, and what it held before until then. -/
theorem getElem?_foldl_runTask {α : Type} (task : Nat → List α) (order : List Nat)
    (slots : Array (List α)) (k : Nat) (hk : k < slots.size) :
    (order.foldl (runTask task) slots)[k]? =
      if k ∈ order then some (task k) else slots[k]? := by
  induction order generalizing slots with
  | nil => simp
  | cons i order ih =>
    rw [List.foldl_cons, ih _ (by simpa [runTask] using hk)]
    by_cases hi : i = k
    · subst hi
      simp [runTask, hk]
    · by_cases hm : k ∈ order <;> simp [runTask, hm, hi, Ne.symm hi]

/-- Every schedule collects the tasks' lists in the order of the tasks. -/
theorem collect_eq {α : Type} (s : Schedule) (n : Nat) (task : Nat → List α) :
    s.collect n task = (List.range n).flatMap task := by
  unfold collect
  rw [List.flatMap_def]
  congr 1
  apply List.ext_getElem?
  intro k
  by_cases hk : k < n
  · have h := getElem?_foldl_runTask task (s.order n) (Array.replicate n []) k (by simpa using hk)
    have hm : k ∈ s.order n := (s.perm n).mem_iff.2 (List.mem_range.2 hk)
    rw [Array.getElem?_toList, h, if_pos hm]
    simp [hk]
  · have hsize := size_foldl_runTask task (s.order n) (Array.replicate n [])
    rw [Array.size_replicate] at hsize
    rw [List.getElem?_eq_none (by simp [hsize]; omega),
      List.getElem?_eq_none (by simp; omega)]

end Schedule

end Columnar
