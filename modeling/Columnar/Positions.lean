import Columnar.Failure

/-!
# Row positions

Rows are known by their positions, counted from zero.  A query first finds the positions
of the rows it wants — the hits of a mask, the rows under a key, the two halves of joined
pairs — and then gathers the cells that stand there, column by column.

## Main definitions

* `gather` — the elements at given positions.
* `hits` — the positions that a mask marks.

## Main results

* `gather_eq_ok_iff` — what is gathered is what stands at the positions.
* `isOk_gather_iff` — gathering goes well exactly when all positions are in range.
* `mem_hits`, `pairwise_hits` — the hits are the marked positions, ascending.
-/

namespace Columnar

/-! ### Gathering -/

/-- The elements at the given positions, in the order of the positions, which may
repeat.  The first position out of range is a fault. -/
def gather {α : Type} (values : Array α) : List Nat → Except Fault (List α)
  | [] => .ok []
  | row :: rows =>
    match values[row]? with
    | none => .error (.gatherOutOfRange row values.size)
    | some value => (gather values rows).map (value :: ·)

/-- What was gathered from positions in range is what stands there. -/
theorem gather_eq_ok_iff {α : Type} {values : Array α} {rows : List Nat} {taken : List α} :
    gather values rows = .ok taken ↔ rows.map (values[·]?) = taken.map some := by
  induction rows generalizing taken with
  | nil => cases taken <;> simp [gather]
  | cons row rows ih =>
    rw [gather]
    cases hrow : values[row]? with
    | none => cases taken <;> simp [hrow]
    | some value =>
      cases hrest : gather values rows with
      | error f =>
        have hne (taken : List α) : rows.map (values[·]?) ≠ taken.map some := fun h => by
          simpa [hrest] using ih.2 h
        cases taken with
        | nil => simp [Except.map]
        | cons first taken => simpa [Except.map, hrow] using fun _ => hne taken
      | ok rest =>
        have hmap := ih.1 hrest
        cases taken with
        | nil => simp [Except.map]
        | cons first taken =>
          simp only [Except.map, Except.ok.injEq, List.cons.injEq, List.map_cons, hrow,
            Option.some.injEq, hmap]
          exact and_congr_right fun _ =>
            ⟨fun h => h ▸ rfl, fun h => (List.map_inj_right fun _ _ => Option.some.inj).1 h⟩

/-- Gathering goes well exactly when all positions are in range. -/
theorem isOk_gather_iff {α : Type} {values : Array α} {rows : List Nat} :
    (∃ taken, gather values rows = .ok taken) ↔ ∀ row ∈ rows, row < values.size := by
  induction rows with
  | nil => simp [gather]
  | cons row rows ih =>
    rw [gather, List.forall_mem_cons, ← ih]
    cases hrow : values[row]? with
    | none =>
      have hle := Array.getElem?_eq_none_iff.1 hrow
      simp [Nat.not_lt.2 hle]
    | some value =>
      have hlt := (Array.getElem?_eq_some_iff.1 hrow).1
      cases gather values rows <;> simp [Except.map, hlt]

/-! ### The hits of a mask -/

/-- The positions, counted from `start`, at which a mask is set. -/
def hitsFrom (start : Nat) : List Bool → List Nat
  | [] => []
  | true :: mask => start :: hitsFrom (start + 1) mask
  | false :: mask => hitsFrom (start + 1) mask

/-- The positions at which a mask is set, ascending. -/
def hits (mask : List Bool) : List Nat := hitsFrom 0 mask

theorem mem_hitsFrom {start row : Nat} {mask : List Bool} :
    row ∈ hitsFrom start mask ↔ start ≤ row ∧ mask[row - start]? = some true := by
  induction mask generalizing start with
  | nil => simp [hitsFrom]
  | cons marked mask ih =>
    by_cases hrow : row = start
    · subst hrow
      have hlt : ¬row + 1 ≤ row := by omega
      cases marked <;> simp [hitsFrom, ih, hlt]
    · by_cases hlt : start < row
      · obtain ⟨k, hk⟩ : ∃ k, row - start = k + 1 := ⟨row - start - 1, by omega⟩
        have hk' : row - (start + 1) = k := by omega
        cases marked <;> simp [hitsFrom, ih, hrow, hk, hk'] <;> omega
      · cases marked <;> simp [hitsFrom, ih, hrow] <;> omega

/-- A position is a hit exactly when the mask marks it. -/
theorem mem_hits {row : Nat} {mask : List Bool} : row ∈ hits mask ↔ mask[row]? = some true := by
  simp [hits, mem_hitsFrom]

/-- The hits ascend. -/
theorem pairwise_hitsFrom (start : Nat) (mask : List Bool) :
    (hitsFrom start mask).Pairwise (· < ·) := by
  induction mask generalizing start with
  | nil => simp [hitsFrom]
  | cons marked mask ih =>
    cases marked with
    | false => exact ih (start + 1)
    | true => exact .cons (fun row h => (mem_hitsFrom.1 h).1) (ih (start + 1))

theorem pairwise_hits (mask : List Bool) : (hits mask).Pairwise (· < ·) :=
  pairwise_hitsFrom 0 mask

end Columnar
