import Columnar.Binary64
import Mathlib.Tactic.Ring

/-!
# Equal numbers and equal bit patterns

A binary64 number other than a NaN is its value: the exponent field and the fraction can be
read off the magnitude, because the significands of one binade end where those of the next
begin, and the sign can be read off the value unless that is zero.  Equal numbers therefore
have equal bit patterns, with the two zeros as the only exception, and that is the one case
which an index key folds.

## Main results

* `Binary64.magnitude_lt_of_exponentField_lt` — a larger exponent field outweighs any fraction.
* `Binary64.eq_of_scaled_eq` — equal values other than zero have equal bit patterns.
* `Binary64.exists_indexKey_iff` — **two numbers share an index key exactly when they are
  equal.**
-/

namespace Columnar

namespace Binary64

variable {x y : Binary64}

/-! ### The fields of a bit pattern -/

theorem fraction_lt (x : Binary64) : x.fraction < fractionCount :=
  Nat.mod_lt _ (by decide)

/-- The bit pattern is put together from the sign, the exponent field and the fraction. -/
theorem toNat_bits (x : Binary64) :
    x.bits.toNat = (if x.isNegative then signBit else 0) + x.exponentField * fractionCount
      + x.fraction := by
  have hlt := x.bits.toNat_lt
  unfold isNegative exponentField fraction signBit fractionCount exponentCount
  simp only [decide_eq_true_eq]
  split <;> omega

theorem eq_of_fields (hsign : x.isNegative = y.isNegative)
    (hexponent : x.exponentField = y.exponentField) (hfraction : x.fraction = y.fraction) :
    x = y := by
  have hbits : x.bits.toNat = y.bits.toNat := by
    rw [toNat_bits x, toNat_bits y, hsign, hexponent, hfraction]
  obtain ⟨bits⟩ := x
  obtain ⟨bits'⟩ := y
  exact congrArg mk (UInt64.toNat_inj.1 hbits)

/-! ### Magnitudes -/

theorem magnitude_eq (x : Binary64) : x.magnitude = x.significand * 2 ^ x.binade :=
  Nat.shiftLeft_eq _ _

/-- The magnitudes of an exponent field end before those of the next one begin. -/
theorem magnitude_lt (x : Binary64) : x.magnitude < fractionCount * 2 ^ x.exponentField := by
  have hf := x.fraction_lt
  rw [magnitude_eq, significand, binade]
  rcases Nat.eq_zero_or_pos x.exponentField with h | h
  · rw [if_pos h, h]
    simpa using hf
  · -- a normal significand is below two fractions' worth, which is one more doubling
    obtain ⟨e, he⟩ : ∃ e, x.exponentField = e + 1 := ⟨x.exponentField - 1, by omega⟩
    rw [if_neg (by omega), he, Nat.add_sub_cancel, pow_succ]
    calc (fractionCount + x.fraction) * 2 ^ e
        < (fractionCount + fractionCount) * 2 ^ e :=
          Nat.mul_lt_mul_of_pos_right (by omega) (Nat.two_pow_pos e)
      _ = fractionCount * (2 ^ e * 2) := by ring

theorem le_magnitude (h : x.exponentField ≠ 0) : fractionCount * 2 ^ x.binade ≤ x.magnitude := by
  rw [magnitude_eq, significand, if_neg h]
  exact Nat.mul_le_mul_right _ (Nat.le_add_right _ _)

theorem magnitude_lt_of_exponentField_lt (h : x.exponentField < y.exponentField) :
    x.magnitude < y.magnitude := by
  have hbinade : x.exponentField ≤ y.binade := by
    unfold binade
    omega
  calc x.magnitude < fractionCount * 2 ^ x.exponentField := x.magnitude_lt
    _ ≤ fractionCount * 2 ^ y.binade :=
      Nat.mul_le_mul_left _ (Nat.pow_le_pow_right (by decide) hbinade)
    _ ≤ y.magnitude := le_magnitude (by omega)

/-- The exponent field and the fraction can be read off the magnitude. -/
theorem fields_eq_of_magnitude_eq (h : x.magnitude = y.magnitude) :
    x.exponentField = y.exponentField ∧ x.fraction = y.fraction := by
  have hexponent : x.exponentField = y.exponentField := by
    rcases Nat.lt_trichotomy x.exponentField y.exponentField with hlt | heq | hgt
    · have := magnitude_lt_of_exponentField_lt hlt
      omega
    · exact heq
    · have := magnitude_lt_of_exponentField_lt hgt
      omega
  refine ⟨hexponent, ?_⟩
  have hbinade : x.binade = y.binade := by rw [binade, binade, hexponent]
  rw [magnitude_eq, magnitude_eq, hbinade] at h
  have hsignificand := Nat.eq_of_mul_eq_mul_right (Nat.two_pow_pos _) h
  unfold significand at hsignificand
  rw [hexponent] at hsignificand
  split at hsignificand <;> omega

/-! ### Values -/

/-- Equal values other than zero have equal bit patterns. -/
theorem eq_of_scaled_eq (h : x.scaled = y.scaled) (hzero : x.scaled ≠ 0) : x = y := by
  obtain ⟨hexponent, hfraction⟩ := fields_eq_of_magnitude_eq (magnitude_eq_of_scaled_eq h)
  refine eq_of_fields ?_ hexponent hfraction
  -- opposite numbers are equal only if they are zero
  unfold scaled at h hzero
  cases hx : x.isNegative <;> cases hy : y.isNegative <;>
    simp only [hx, hy, Bool.false_eq_true, if_false, if_true, reduceCtorEq] at h hzero ⊢
  all_goals omega

@[simp] theorem scaled_zero : zero.scaled = 0 := by
  decide

@[simp] theorem isNaN_zero : zero.isNaN = false := by
  decide

/-! ### Index keys -/

/-- A NaN, and nothing else, has no key. -/
theorem indexKey_eq_none_iff : x.indexKey = none ↔ x.isNaN = true := by
  unfold indexKey
  split
  · next h => simp [h]
  · next h => split <;> simp [h]

theorem isNaN_of_indexKey {key : UInt64} (h : x.indexKey = some key) : x.isNaN = false := by
  rw [← Bool.not_eq_true, ← indexKey_eq_none_iff, h]
  exact Option.some_ne_none key

theorem indexKey_of_scaled_eq_zero (hnan : x.isNaN = false) (h : x.scaled = 0) :
    x.indexKey = some zero.bits := by
  have hsame : x.same zero = true := same_iff.2 ⟨hnan, isNaN_zero, by rw [h, scaled_zero]⟩
  rw [indexKey, if_neg (by simp [hnan]), if_pos hsame]

theorem indexKey_of_scaled_ne_zero (hnan : x.isNaN = false) (h : x.scaled ≠ 0) :
    x.indexKey = some x.bits := by
  have hdiffer : ¬x.same zero = true := fun hsame => h ((same_iff.1 hsame).2.2.trans scaled_zero)
  rw [indexKey, if_neg (by simp [hnan]), if_neg hdiffer]

/-- The key of a number has the value of the number. -/
theorem scaled_of_indexKey {key : UInt64} (h : x.indexKey = some key) :
    (⟨key⟩ : Binary64).scaled = x.scaled := by
  have hnan := isNaN_of_indexKey h
  by_cases hzero : x.scaled = 0
  · rw [indexKey_of_scaled_eq_zero hnan hzero] at h
    cases h
    exact scaled_zero.trans hzero.symm
  · rw [indexKey_of_scaled_ne_zero hnan hzero] at h
    cases h
    rfl

/-- **Two numbers share an index key exactly when they are equal.**  Nothing is merged but
the two zeros, and a NaN shares a key with nothing, not even with itself. -/
theorem exists_indexKey_iff :
    (∃ key, x.indexKey = some key ∧ y.indexKey = some key) ↔ x.same y = true := by
  rw [same_iff]
  constructor
  · rintro ⟨key, hx, hy⟩
    exact ⟨isNaN_of_indexKey hx, isNaN_of_indexKey hy,
      (scaled_of_indexKey hx).symm.trans (scaled_of_indexKey hy)⟩
  · rintro ⟨hx, hy, hscaled⟩
    by_cases hzero : x.scaled = 0
    · exact ⟨zero.bits, indexKey_of_scaled_eq_zero hx hzero,
        indexKey_of_scaled_eq_zero hy (hscaled ▸ hzero)⟩
    · obtain rfl := eq_of_scaled_eq hscaled hzero
      exact ⟨x.bits, indexKey_of_scaled_ne_zero hx hzero, indexKey_of_scaled_ne_zero hx hzero⟩

end Binary64

end Columnar
