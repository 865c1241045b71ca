import Columnar.Binary64.Rounding
import Columnar.Proofs.Binary64.Native

/-!
# Rounding to an integer

The bucket of a float is chosen by its nearest integer, which is computed from the magnitude by
adding a half and dividing.  What this is meant to be is said here without the computation: the
nearest integer is the one with the least distance, and of two the one farther from zero
(`IsNearest`); a number is rounded to it within the format, and the result is converted to a 64-bit
integer, infinities and numbers out of range going to the ends of the range.

The computation leaves out the step in between, which is no loss because nothing is rounded twice:
a number with digits behind the point is small enough for its nearest integer to be a number of the
format too (`exists_value?_eq_nearest`).

## Main definitions

* `IsNearest` — the nearest integer of a value.
* `Binary64.RoundsTo` — rounding within the format.
* `Binary64.ConvertsTo` — conversion to a 64-bit integer.

## Main results

* `IsNearest.unique` — there is one nearest integer.
* `Binary64.isNearest_nearest` — it is what is computed.
* `Binary64.roundsTo_convertsTo_iff` — **rounding and converting give the nearest 64-bit integer.**
-/

namespace Columnar

open Float.Model (UnpackedFloat)
open Float.Model.UnpackedFloat (Sign)

/-! ### The nearest integer -/

/-- The integer nearest to a value, and of two that are equally near the one farther from zero. -/
structure IsNearest (value : Rat) (n : Int) : Prop where
  /-- No integer is nearer. -/
  distance_le (m : Int) : |value - n| ≤ |value - m|
  /-- None that is as near is farther from zero. -/
  abs_le (m : Int) (h : |value - m| = |value - n|) : |m| ≤ |n|

namespace IsNearest

variable {value : Rat} {n m : Int}

theorem unique (h : IsNearest value n) (h' : IsNearest value m) : n = m := by
  have hdistance : |value - n| = |value - m| := le_antisymm (h.distance_le m) (h'.distance_le n)
  have habs : |n| = |m| := le_antisymm (h'.abs_le n hdistance) (h.abs_le m hdistance.symm)
  rcases abs_eq_abs.1 habs with heq | hneg
  · exact heq
  · -- opposite integers are equally far from zero alone, and to that zero itself is nearer
    subst hneg
    have hzero : (m : Rat) = 0 := by
      rcases abs_eq_abs.1 hdistance with heq | heq
      · push_cast at heq
        linarith
      · push_cast at heq
        have hvalue : value = 0 := by linarith
        simpa [hvalue] using h'.distance_le 0
    rw [Int.cast_eq_zero.1 hzero, neg_zero]

/-- An integer is its own nearest integer. -/
theorem intCast (n : Int) : IsNearest n n where
  distance_le m := by simp
  abs_le m h := by
    rw [sub_self, abs_zero, abs_eq_zero, sub_eq_zero, Int.cast_inj] at h
    rw [h]

theorem neg (h : IsNearest value n) : IsNearest (-value) (-n) := by
  have hdistance (k : Int) : |-value - k| = |value - (-k : Int)| := by
    rw [← abs_neg]
    congr 1
    push_cast
    ring
  constructor
  · intro k
    rw [hdistance, hdistance, neg_neg]
    exact h.distance_le (-k)
  · intro k hk
    rw [hdistance, hdistance, neg_neg] at hk
    rw [abs_neg, ← abs_neg k]
    exact h.abs_le (-k) hk

/-- Rounding does not pass an integer. -/
theorem le_of_le (h : IsNearest value n) (hm : value ≤ m) : n ≤ m := by
  by_contra hlt
  have hlt' : (m : Rat) < n := by exact_mod_cast lt_of_not_ge hlt
  have hdistance := h.distance_le m
  rw [abs_of_nonpos (by linarith), abs_of_nonpos (by linarith)] at hdistance
  linarith

theorem ge_of_ge (h : IsNearest value n) (hm : (m : Rat) ≤ value) : m ≤ n := by
  have := h.neg.le_of_le (m := -m) (by push_cast; linarith)
  omega

/-- A value that is not negative is rounded by adding a half and dropping what is behind the
point. -/
theorem of_floor (hvalue : 0 ≤ value) (hlow : n ≤ value + 1 / 2) (hhigh : value + 1 / 2 < n + 1) :
    IsNearest value n := by
  have hnear : |value - n| ≤ 1 / 2 := abs_le'.2 ⟨by linarith, by linarith⟩
  -- an integer above is more than a half away, and one below at least a half
  have hbelow {k : Int} (hk : k < n) : 1 / 2 ≤ |value - k| := by
    have hk' : (k : Rat) + 1 ≤ n := by exact_mod_cast hk
    linarith [le_abs_self (value - k)]
  have habove {k : Int} (hk : n < k) : 1 / 2 < |value - k| := by
    have hk' : (n : Rat) + 1 ≤ k := by exact_mod_cast hk
    linarith [neg_le_abs (value - k)]
  constructor
  · intro k
    rcases lt_trichotomy k n with hk | rfl | hk
    · exact hnear.trans (hbelow hk)
    · exact le_rfl
    · exact hnear.trans (habove hk).le
  · intro k hequal
    rcases lt_or_ge n k with hk | hk
    · linarith [habove hk]
    · have hnonneg : (-1 : Rat) < k := by linarith [le_abs_self (value - k)]
      have hnonneg' : -1 < k := by exact_mod_cast hnonneg
      exact abs_le_abs_of_nonneg (by omega) hk

/-- A quotient is rounded by adding half the divisor before the division. -/
theorem of_div {a b : Nat} (hpos : 0 < b) (heven : 2 ∣ b) :
    IsNearest (a / b) ((a + b / 2) / b : Nat) := by
  have hb : (0 : Rat) < b := by exact_mod_cast hpos
  have hhalf : ((b / 2 : Nat) : Rat) = b / 2 := Nat.cast_div heven two_ne_zero
  have hshift : (a : Rat) / b + 1 / 2 = (a + (b / 2 : Nat)) / b := by
    rw [hhalf]
    field_simp
  have hlow := Nat.div_mul_le_self (a + b / 2) b
  have hhigh := Nat.lt_div_mul_add (a := a + b / 2) hpos
  generalize (a + b / 2) / b = n at hlow hhigh ⊢
  refine .of_floor (by positivity) ?_ ?_
  · rw [hshift, le_div_iff₀ hb, Int.cast_natCast]
    exact_mod_cast hlow
  · rw [hshift, div_lt_iff₀ hb, add_one_mul, Int.cast_natCast]
    exact_mod_cast hhigh

end IsNearest

namespace Binary64

variable {x y : Binary64}

/-! ### The nearest integer of a float -/

theorem even_unitsInOne : 2 ∣ unitsInOne := by
  decide

/-- The nearest integer of a number is the integer nearest to its value. -/
theorem isNearest_nearest {value : Rat} (h : x.value? = some value) :
    IsNearest value x.nearest := by
  have hunits : (unitsInOne : Rat) ≠ 0 := Nat.cast_ne_zero.2 unitsInOne_pos.ne'
  have hvalue : value = x.scaled / unitsInOne := by
    rw [scaled_eq_of_value? h, mul_div_cancel_right₀ _ hunits]
  have hmagnitude : IsNearest (x.magnitude / unitsInOne) x.nearestMagnitude :=
    .of_div unitsInOne_pos even_unitsInOne
  rw [hvalue, scaled, nearest]
  split
  · rw [Int.cast_neg, neg_div]
    exact hmagnitude.neg
  · exact hmagnitude

/-- What a number is rounded to is a number of the format. -/
theorem exists_value?_eq_nearest {value : Rat} {n : Int} (hvalue : x.value? = some value)
    (hnearest : IsNearest value n) : ∃ y : Binary64, y.value? = some (n : Rat) := by
  rcases Nat.lt_or_ge x.binade 1074 with hbinade | hbinade
  · obtain ⟨hlow, hhigh⟩ := abs_le.1 (abs_le_of_binade_lt hvalue hbinade)
    have hle : n ≤ fractionCount := hnearest.le_of_le (by exact_mod_cast hhigh)
    have hge : -(fractionCount : Int) ≤ n := hnearest.ge_of_ge (by exact_mod_cast hlow)
    have hcount : 0 < fractionCount := by decide
    exact exists_value?_eq_intCast (by omega)
  · -- from here on there is nothing behind the point
    obtain ⟨-, hx⟩ := value?_eq_some_iff.1 hvalue
    obtain ⟨k, hk⟩ := Nat.exists_eq_add_of_le hbinade
    have hinteger : value = (x.sign.apply x.significand * 2 ^ k : Int) := by
      rw [← hx, hk]
      push_cast
      rw [add_sub_cancel_left, zpow_natCast]
    rw [hinteger] at hnearest
    rw [hnearest.unique (.intCast _), ← hinteger]
    exact ⟨x, hvalue⟩

/-! ### Rounding and converting -/

/-- A number rounded within the format: to the nearest integer, a half going away from zero.
Infinities and NaNs stay what they are. -/
inductive RoundsTo (x : Binary64) : Binary64 → Prop
  | finite {y : Binary64} {value : Rat} {n : Int} (hx : x.value? = some value)
      (hnearest : IsNearest value n) (hy : y.value? = some (n : Rat)) : RoundsTo x y
  | special {y : Binary64} (hx : x.value? = none) (hy : y.unpacked = x.unpacked) : RoundsTo x y

/-- A value without what is behind the point. -/
def truncated (value : Rat) : Int := if 0 ≤ value then ⌊value⌋ else ⌈value⌉

/-- The end of the range of 64-bit integers that lies on the side of a sign. -/
def endOfRange : Sign → Int64
  | .positive => Int64.maxValue
  | .negative => Int64.minValue

/-- A number converted to a 64-bit integer: what is behind the point is dropped, and what is out of
range goes to the end of the range that it lies beyond. -/
inductive ConvertsTo (x : Binary64) : Int64 → Prop
  | finite {value : Rat} {n : Int64} (hx : x.value? = some value)
      (hn : n.toInt = max Int64.minValue.toInt (min Int64.maxValue.toInt (truncated value))) :
      ConvertsTo x n
  | infinity {s : Sign} (hx : x.unpacked = .infinity s) : ConvertsTo x (endOfRange s)
  | notANumber (hx : x.unpacked = .notANumber) : ConvertsTo x 0

theorem truncated_intCast (n : Int) : truncated n = n := by
  unfold truncated
  rw [Int.floor_intCast, Int.ceil_intCast, ite_self]

theorem toInt_nearestInt64 (h : x.isNaN = false) :
    x.nearestInt64.toInt = max Int64.minValue.toInt (min Int64.maxValue.toInt x.nearest) := by
  have hmin := Int64.toInt_minValue
  have hmax := Int64.toInt_maxValue
  rw [nearestInt64, if_neg (by simp [h]), clampInt64]
  exact Int64.toInt_ofInt_of_le (by omega) (by omega)

theorem nearestInt64_of_notANumber (h : x.unpacked = .notANumber) : x.nearestInt64 = 0 := by
  rw [nearestInt64, if_pos (unpacked_eq_notANumber_iff.1 h)]

/-- An infinity is far out of range. -/
theorem nearestInt64_of_infinity {s : Sign} (h : x.unpacked = .infinity s) :
    x.nearestInt64 = endOfRange s := by
  have hparts := x.unpacks_unpacked
  rw [h] at hparts
  cases hparts with
  | infinity hexponent hfraction =>
    have hfar : 2 ^ 63 ≤ x.nearestMagnitude := by
      have hmagnitude : x.magnitude = fractionCount <<< 2046 := by
        rw [magnitude, significand, binade, hexponent, hfraction]
        rfl
      rw [nearestMagnitude, hmagnitude]
      decide
    have hnan : x.isNaN = false := by simp [isNaN, hfraction]
    have hmin := Int64.toInt_minValue
    have hmax := Int64.toInt_maxValue
    rw [← Int64.toInt_inj, toInt_nearestInt64 hnan]
    unfold nearest sign
    cases x.isNegative with
    | false =>
      simp only [Bool.false_eq_true, if_false, endOfRange]
      omega
    | true =>
      simp only [if_true, endOfRange]
      omega

/-- Where there is nothing to round, the conversion is told from the parts alone. -/
theorem convertsTo_iff_of_value?_eq_none {n : Int64} (h : x.value? = none) :
    x.ConvertsTo n ↔ x.nearestInt64 = n := by
  constructor
  · intro hconvert
    cases hconvert with
    | finite hx _ => rw [h] at hx; cases hx
    | infinity hx => exact nearestInt64_of_infinity hx
    | notANumber hx => exact nearestInt64_of_notANumber hx
  · rintro rfl
    cases hparts : x.unpacked with
    | infinity s =>
      rw [nearestInt64_of_infinity hparts]
      exact .infinity hparts
    | notANumber =>
      rw [nearestInt64_of_notANumber hparts]
      exact .notANumber hparts
    | zero s => simp [value?, hparts] at h
    | finite s significand exponent hpos => simp [value?, hparts] at h

theorem ConvertsTo.congr {n : Int64} (h : x.ConvertsTo n) (hparts : x.unpacked = y.unpacked) :
    y.ConvertsTo n := by
  have hvalue : x.value? = y.value? := by rw [value?, value?, hparts]
  cases h with
  | finite hx hn => exact .finite (hvalue ▸ hx) hn
  | infinity hx => exact .infinity (hparts ▸ hx)
  | notANumber hx => exact .notANumber (hparts ▸ hx)

/-- **To round within the format and to convert the result gives the nearest 64-bit integer**, and
nothing else. -/
theorem roundsTo_convertsTo_iff {n : Int64} :
    (∃ y, x.RoundsTo y ∧ y.ConvertsTo n) ↔ x.nearestInt64 = n := by
  constructor
  · rintro ⟨y, hround, hconvert⟩
    cases hround with
    | special hx hy => exact (convertsTo_iff_of_value?_eq_none hx).1 (hconvert.congr hy)
    | finite hx hnearest hy =>
      obtain rfl := hnearest.unique (isNearest_nearest hx)
      have hy' := hy
      unfold value? at hy'
      cases hconvert with
      | finite hvalue hn =>
        rw [Option.some.inj (hvalue.symm.trans hy), truncated_intCast] at hn
        rw [← Int64.toInt_inj, toInt_nearestInt64 (isNaN_of_value? hx), hn]
      | infinity hparts => rw [hparts] at hy'; cases hy'
      | notANumber hparts => rw [hparts] at hy'; cases hy'
  · rintro rfl
    cases hvalue : x.value? with
    | none => exact ⟨x, .special hvalue rfl, (convertsTo_iff_of_value?_eq_none hvalue).2 rfl⟩
    | some value =>
      have hnearest := isNearest_nearest hvalue
      obtain ⟨y, hy⟩ := exists_value?_eq_nearest hvalue hnearest
      refine ⟨y, .finite hvalue hnearest hy, .finite hy ?_⟩
      rw [truncated_intCast, toInt_nearestInt64 (isNaN_of_value? hvalue)]

end Binary64

end Columnar
