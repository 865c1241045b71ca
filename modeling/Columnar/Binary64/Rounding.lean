import Columnar.Binary64

/-!
# The nearest integer

Float keys are distributed over the buckets of a join by their nearest integer, so
that equal keys, the two zeros included, always share a bucket.

## Main definitions

* `Binary64.nearest` — the nearest integer, halves away from zero.
* `Binary64.nearestInt64` — the same, held within the 64-bit range.

## Main results

* `Binary64.nearestInt64_eq_of_same` — equal numbers have the same nearest integer.
-/

namespace Columnar

/-- The 64-bit integer nearest to `n`: out of range, the end of the range that `n`
lies beyond. -/
def clampInt64 (n : Int) : Int64 :=
  Int64.ofInt (max Int64.minValue.toInt (min Int64.maxValue.toInt n))

namespace Binary64

/-- The absolute value rounded to the nearest integer, a half going up. -/
def nearestMagnitude (x : Binary64) : Nat := (x.magnitude + unitsInOne / 2) / unitsInOne

/-- The value rounded to the nearest integer, a half going away from zero. -/
def nearest (x : Binary64) : Int :=
  if x.isNegative then -(x.nearestMagnitude : Int) else x.nearestMagnitude

/-- The nearest 64-bit integer: infinities and huge values go to the end of the
range, and a NaN to zero. -/
def nearestInt64 (x : Binary64) : Int64 :=
  if x.isNaN then 0 else clampInt64 x.nearest

/-! ### Equal numbers -/

theorem unitsInOne_pos : 0 < unitsInOne := by
  decide

theorem nearestMagnitude_eq_zero {x : Binary64} (h : x.magnitude = 0) :
    x.nearestMagnitude = 0 := by
  unfold nearestMagnitude
  rw [h, Nat.zero_add]
  exact Nat.div_eq_of_lt (Nat.div_lt_self unitsInOne_pos (by decide))

/-- The nearest integer depends on the value alone: the sign of a zero is lost. -/
theorem nearest_eq_of_scaled_eq {x y : Binary64} (h : x.scaled = y.scaled) :
    x.nearest = y.nearest := by
  have hmag := magnitude_eq_of_scaled_eq h
  have hnear : x.nearestMagnitude = y.nearestMagnitude := by
    unfold nearestMagnitude
    rw [hmag]
  by_cases hzero : x.magnitude = 0
  · have hx := nearestMagnitude_eq_zero hzero
    have hy := nearestMagnitude_eq_zero (hmag ▸ hzero)
    simp [nearest, hx, hy]
  · have hsign : x.isNegative = y.isNegative := by
      unfold scaled at h
      cases hx : x.isNegative <;> cases hy : y.isNegative <;> simp [hx, hy] at h ⊢ <;> omega
    simp [nearest, hsign, hnear]

/-- Equal numbers have the same nearest 64-bit integer. -/
theorem nearestInt64_eq_of_same {x y : Binary64} (h : x.same y = true) :
    x.nearestInt64 = y.nearestInt64 := by
  obtain ⟨hx, hy, hscaled⟩ := same_iff.1 h
  simp [nearestInt64, hx, hy, nearest_eq_of_scaled_eq hscaled]

end Binary64

end Columnar
