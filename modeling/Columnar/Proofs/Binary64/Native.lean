import Columnar.Proofs.Binary64
import Mathlib

/-!
# Binary64 numbers and the built-in floats

The store computes with the bits of a number.  The same bits are one of the built-in floats, whose
equality follows the standard for floating-point arithmetic: it takes a number apart into its sign,
its significand and its exponent, and then compares the parts.  Here the two are brought together.
A number has the parts that its fields say (`unpacks_unpacked`), so its value is the multiple of the
smallest positive number by which the store compares it (`scaled_eq_of_value?`), and to be equal
means the same on both sides.

## Main definitions

* `Binary64.toFloat` — the built-in float with the bits of a number.
* `Binary64.unpacked` — the parts of that float.
* `Binary64.value?` — its value, which infinities and NaNs do not have.

## Main results

* `Binary64.unpacks_unpacked` — the parts of a number, from its fields.
* `Binary64.toFloat_beq` — **native equality is that of the built-in floats.**
* `Binary64.exists_value?_eq_intCast` — integers of at most 53 bits are values of the format.
-/

namespace Columnar

open Float.Model (Format UnpackedFloat)
open Float.Model.UnpackedFloat (Sign unpackExponent unpackMantissa unpackSign)

namespace Binary64

variable {x y : Binary64}

/-- The built-in float with the same bits. -/
def toFloat (x : Binary64) : Float := .ofBits x.bits

/-- The parts of that float. -/
def unpacked (x : Binary64) : UnpackedFloat := x.toFloat.toModel.unpack

/-- The sign of a number. -/
def sign (x : Binary64) : Sign := if x.isNegative then .negative else .positive

theorem sign_apply (x : Binary64) (n : Int) :
    x.sign.apply n = if x.isNegative then -n else n := by
  unfold sign
  cases x.isNegative <;> rfl

/-! ### The fields -/

theorem toNat_unpackExponent (x : Binary64) :
    (@unpackExponent .binary64 x.bits.toBitVec).toNat = x.exponentField := by
  rw [UnpackedFloat.unpackExponent_def, BitVec.extractLsb'_toNat, Nat.shiftRight_eq_div_pow]
  rfl

theorem toNat_unpackMantissa (x : Binary64) :
    (@unpackMantissa .binary64 x.bits.toBitVec).toNat = x.fraction := by
  rw [UnpackedFloat.unpackMantissa_def, BitVec.extractLsb'_toNat, Nat.shiftRight_zero]
  rfl

theorem unpackExponent_eq_iff {e : BitVec 11} :
    @unpackExponent .binary64 x.bits.toBitVec = e ↔ x.exponentField = e.toNat := by
  rw [← BitVec.toNat_inj, toNat_unpackExponent]

theorem unpackMantissa_eq_iff {f : BitVec 52} :
    @unpackMantissa .binary64 x.bits.toBitVec = f ↔ x.fraction = f.toNat := by
  rw [← BitVec.toNat_inj, toNat_unpackMantissa]

theorem ofBitVec_unpackSign (x : Binary64) :
    Sign.ofBitVec (@unpackSign .binary64 x.bits.toBitVec) = x.sign := by
  have hlt := x.bits.toNat_lt
  have hbit : @unpackSign .binary64 x.bits.toBitVec = 0#1 ↔ x.isNegative = false := by
    rw [← BitVec.toNat_inj, UnpackedFloat.unpackSign_def, BitVec.extractLsb'_toNat,
      Nat.shiftRight_eq_div_pow, isNegative, decide_eq_false_iff_not]
    change x.bits.toNat / 2 ^ 63 % 2 = 0 ↔ ¬2 ^ 63 ≤ x.bits.toNat
    omega
  unfold Sign.ofBitVec sign
  simp only [hbit]
  cases x.isNegative <;> rfl

/-! ### The parts -/

/-- The parts that the fields of a number say it has. -/
inductive Unpacks (x : Binary64) : UnpackedFloat → Prop
  | notANumber (hexponent : x.exponentField = 2047) (hfraction : x.fraction ≠ 0) :
      Unpacks x .notANumber
  | infinity (hexponent : x.exponentField = 2047) (hfraction : x.fraction = 0) :
      Unpacks x (.infinity x.sign)
  | zero (hexponent : x.exponentField = 0) (hfraction : x.fraction = 0) :
      Unpacks x (.zero x.sign)
  | finite (hexponent : x.exponentField ≠ 2047) (hpos : 0 < x.significand) :
      Unpacks x (.finite x.sign x.significand (x.binade - 1074) hpos)

theorem unpacks_unpack (x : Binary64) : x.Unpacks (.unpack .binary64 x.bits.toBitVec) := by
  have hbias : Format.binary64.exponentBias = 1023 := by decide
  have hones : @unpackExponent .binary64 x.bits.toBitVec = -1#11
      ↔ x.exponentField = 2047 := unpackExponent_eq_iff
  have hnone : @unpackExponent .binary64 x.bits.toBitVec = 0#11
      ↔ x.exponentField = 0 := unpackExponent_eq_iff
  have hzero : @unpackMantissa .binary64 x.bits.toBitVec = 0#52
      ↔ x.fraction = 0 := unpackMantissa_eq_iff
  unfold UnpackedFloat.unpack
  simp only [hones, hnone, hzero, ofBitVec_unpackSign, toNat_unpackExponent, toNat_unpackMantissa]
  split
  · next hexponent =>
    split
    · next hfraction => exact .infinity hexponent hfraction
    · next hfraction => exact .notANumber hexponent hfraction
  · next hexponent =>
    split
    · next hsubnormal =>
      split
      · next hfraction => exact .zero hsubnormal hfraction
      · next hfraction =>
        have hsignificand : x.significand = x.fraction := if_pos hsubnormal
        convert Unpacks.finite hexponent (by omega) using 2
        · exact hsignificand.symm
        · rw [hbias, binade, hsubnormal]
          decide
    · next hnormal =>
      have hsignificand : x.significand = fractionCount + x.fraction := if_neg hnormal
      have hpos : 0 < fractionCount := by decide
      convert Unpacks.finite hexponent (by omega) using 2
      · rw [BitVec.toNat_append, ← Nat.shiftLeft_add_eq_or_of_lt (BitVec.isLt _),
          toNat_unpackMantissa, hsignificand]
        rfl
      · rw [hbias, binade]
        omega

theorem unpack_eq_notANumber (hexponent : @unpackExponent .binary64 x.bits.toBitVec = -1#11)
    (hmantissa : @unpackMantissa .binary64 x.bits.toBitVec ≠ 0#52) :
    UnpackedFloat.unpack .binary64 x.bits.toBitVec = .notANumber := by
  rw [UnpackedFloat.unpack]
  simp [hexponent, hmantissa]

/-- A built-in float keeps no payload of a NaN, but that is no part of it. -/
theorem unpacked_eq (x : Binary64) : x.unpacked = .unpack .binary64 x.bits.toBitVec := by
  change UnpackedFloat.unpack .binary64 (UnpackedFloat.pack .binary64
    (UnpackedFloat.unpack .binary64 x.bits.toBitVec)) = _
  rw [UnpackedFloat.pack_unpack]
  split
  · next hnan =>
    obtain ⟨hexponent, hmantissa⟩ := of_decide_eq_true hnan
    rw [UnpackedFloat.unpack_packedNaN, unpack_eq_notANumber hexponent hmantissa]
  · rfl

theorem unpacks_unpacked (x : Binary64) : x.Unpacks x.unpacked :=
  x.unpacked_eq ▸ x.unpacks_unpack

theorem unpacked_eq_notANumber_iff : x.unpacked = .notANumber ↔ x.isNaN = true := by
  have hparts := x.unpacks_unpacked
  generalize x.unpacked = parts at hparts
  cases hparts with
  | notANumber hexponent hfraction => simp [isNaN, hexponent, hfraction]
  | infinity hexponent hfraction => simp [isNaN, hfraction]
  | zero hexponent hfraction => simp [isNaN, hfraction]
  | finite hexponent hpos => simp [isNaN, hexponent]

theorem isNaN_toFloat (x : Binary64) : x.toFloat.isNaN = x.isNaN := by
  rw [Bool.eq_iff_iff, ← unpacked_eq_notANumber_iff]
  exact UnpackedFloat.isNaN_iff

/-! ### Native equality -/

/-- The bits of a number, unlike those of most NaNs, are what its parts are packed into. -/
theorem valid_bits (h : x.isNaN = false) : Format.binary64.Valid x.bits.toBitVec where
  eq_packedNaN hexponent hmantissa := by
    have hparts : x.unpacked = .notANumber :=
      x.unpacked_eq.trans (unpack_eq_notANumber hexponent hmantissa)
    rw [unpacked_eq_notANumber_iff, h] at hparts
    exact absurd hparts Bool.false_ne_true

theorem eq_of_unpacked_eq (hx : x.isNaN = false) (hy : y.isNaN = false)
    (h : x.unpacked = y.unpacked) : x = y := by
  rw [unpacked_eq, unpacked_eq, UnpackedFloat.unpack_inj_of_valid (valid_bits hx) (valid_bits hy)]
    at h
  obtain ⟨bits⟩ := x
  obtain ⟨bits'⟩ := y
  exact congrArg mk (UInt64.toBitVec_inj.1 h)

theorem scaled_eq_zero_iff : x.scaled = 0 ↔ x.significand = 0 := by
  have hmagnitude : x.magnitude = 0 ↔ x.significand = 0 := by
    rw [magnitude_eq, Nat.mul_eq_zero]
    exact or_iff_left (Nat.two_pow_pos _).ne'
  rw [← hmagnitude, scaled]
  split <;> omega

/-- The parts of a number are those of a zero exactly when its value is zero. -/
theorem exists_unpacked_eq_zero_iff : (∃ sign, x.unpacked = .zero sign) ↔ x.scaled = 0 := by
  have hcount : 0 < fractionCount := by decide
  have hparts := x.unpacks_unpacked
  generalize x.unpacked = parts at hparts
  rw [scaled_eq_zero_iff]
  cases hparts with
  | notANumber hexponent hfraction => simp [significand, hexponent, hcount.ne']
  | infinity hexponent hfraction => simp [significand, hexponent, hcount.ne']
  | zero hexponent hfraction => simp [significand, hexponent, hfraction]
  | finite hexponent hpos => simp [hpos.ne']

/-- **Native equality is that of the built-in floats.** -/
theorem toFloat_beq (x y : Binary64) : (x.toFloat == y.toFloat) = x.same y := by
  rw [Bool.eq_iff_iff, same_iff]
  change x.unpacked.beq y.unpacked = true ↔ _
  rw [UnpackedFloat.beq_iff_ne_notANumber_and_eq, Ne, Ne, unpacked_eq_notANumber_iff,
    unpacked_eq_notANumber_iff, Bool.not_eq_true, Bool.not_eq_true]
  refine and_congr_right fun hx => and_congr_right fun hy => ?_
  constructor
  · rintro (heq | ⟨hx', hy'⟩ | ⟨hx', hy'⟩)
    · rw [eq_of_unpacked_eq hx hy heq]
    · rw [exists_unpacked_eq_zero_iff.1 ⟨_, hx'⟩, exists_unpacked_eq_zero_iff.1 ⟨_, hy'⟩]
    · rw [exists_unpacked_eq_zero_iff.1 ⟨_, hx'⟩, exists_unpacked_eq_zero_iff.1 ⟨_, hy'⟩]
  · intro hscaled
    by_cases hzero : x.scaled = 0
    · obtain ⟨s, hs⟩ := exists_unpacked_eq_zero_iff.2 hzero
      obtain ⟨t, ht⟩ := exists_unpacked_eq_zero_iff.2 (hscaled ▸ hzero)
      rw [hs, ht]
      cases s <;> cases t <;> simp
    · exact .inl (by rw [eq_of_scaled_eq hscaled hzero])

/-! ### Values -/

/-- The value of a finite number. -/
def value? (x : Binary64) : Option Rat :=
  match x.unpacked with
  | .zero _ => some 0
  | .finite sign significand exponent _ => some (sign.apply significand * 2 ^ exponent)
  | .infinity _ | .notANumber => none

/-- The value of a number, from its fields. -/
theorem value?_eq_some_iff {value : Rat} :
    x.value? = some value ↔ x.exponentField ≠ 2047 ∧
      x.sign.apply x.significand * 2 ^ ((x.binade : Int) - 1074) = value := by
  have hparts := x.unpacks_unpacked
  unfold value?
  generalize x.unpacked = parts at hparts
  cases hparts with
  | notANumber hexponent hfraction => simp [hexponent]
  | infinity hexponent hfraction => simp [hexponent]
  | zero hexponent hfraction =>
    have hsignificand : x.significand = 0 := by rw [significand, if_pos hexponent, hfraction]
    simp [hexponent, hsignificand, sign_apply]
  | finite hexponent hpos => simp [hexponent]

theorem isNaN_of_value? {value : Rat} (h : x.value? = some value) : x.isNaN = false := by
  simp [isNaN, (value?_eq_some_iff.1 h).1]

theorem cast_unitsInOne : (unitsInOne : Rat) = 2 ^ (1074 : Int) := by
  have hshift (n : Nat) : ((1 <<< n : Nat) : Rat) = 2 ^ (n : Int) := by
    rw [Nat.one_shiftLeft, Nat.cast_pow, zpow_natCast]
    rfl
  exact hshift 1074

/-- The value of a number is the multiple of the smallest positive one by which it is compared. -/
theorem scaled_eq_of_value? {value : Rat} (h : x.value? = some value) :
    (x.scaled : Rat) = value * unitsInOne := by
  obtain ⟨-, rfl⟩ := value?_eq_some_iff.1 h
  rw [cast_unitsInOne, mul_assoc, ← zpow_add₀ two_ne_zero, sub_add_cancel, zpow_natCast]
  rw [scaled, magnitude_eq, sign_apply]
  cases x.isNegative <;> simp

/-! ### Integers of the format -/

/-- The number with given fields. -/
def ofFields (negative : Bool) (exponent fraction : Nat) : Binary64 :=
  ⟨.ofNat ((if negative then signBit else 0) + exponent * fractionCount + fraction)⟩

theorem fields_ofFields (negative : Bool) {exponent fraction : Nat}
    (hexponent : exponent < exponentCount) (hfraction : fraction < fractionCount) :
    (ofFields negative exponent fraction).isNegative = negative ∧
      (ofFields negative exponent fraction).exponentField = exponent ∧
      (ofFields negative exponent fraction).fraction = fraction := by
  unfold ofFields isNegative exponentField Binary64.fraction
  unfold exponentCount fractionCount signBit at *
  simp only [UInt64.toNat_ofNat']
  cases negative with
  | false =>
    rw [decide_eq_false_iff_not]
    simp only [Bool.false_eq_true, if_false]
    omega
  | true =>
    rw [decide_eq_true_eq]
    simp only [if_true]
    omega

/-- The value of a number with the fields of a normal one. -/
theorem value?_ofFields (negative : Bool) {exponent fraction : Nat} (hpos : 0 < exponent)
    (hexponent : exponent < 2047) (hfraction : fraction < fractionCount) :
    (ofFields negative exponent fraction).value? =
      some ((if negative then -1 else 1) * ((fractionCount + fraction : Nat) : Rat)
        * 2 ^ ((exponent : Int) - 1075)) := by
  have hcount : exponent < exponentCount := hexponent.trans (by decide)
  obtain ⟨hnegative, hexponent', hfraction'⟩ := fields_ofFields negative hcount hfraction
  have hsignificand : (ofFields negative exponent fraction).significand
      = fractionCount + fraction := by
    rw [significand, if_neg (by omega), hfraction']
  have hbinade : ((ofFields negative exponent fraction).binade : Int) - 1074 = exponent - 1075 := by
    rw [binade, hexponent']
    omega
  refine value?_eq_some_iff.2 ⟨by omega, ?_⟩
  rw [sign_apply, hnegative, hsignificand, hbinade]
  cases negative <;> simp

/-- A significand of at most 53 bits is shifted until the leading one is in its place. -/
theorem exists_shift {m : Nat} (hpos : 0 < m) (hlt : m < 2 * fractionCount) :
    ∃ j ≤ 52, fractionCount ≤ m * 2 ^ j ∧ m * 2 ^ j < 2 * fractionCount := by
  have hcount : fractionCount = 2 ^ 52 := by decide
  have hlog : m.log2 < 53 := (Nat.log2_lt hpos.ne').2 (by omega)
  have hlow := Nat.log2_self_le hpos.ne'
  have hhigh := Nat.lt_log2_self (n := m)
  generalize m.log2 = k at hlog hlow hhigh
  obtain ⟨j, hj⟩ : ∃ j, 52 = k + j := ⟨52 - k, by omega⟩
  refine ⟨j, by omega, ?_, ?_⟩
  · rw [hcount, hj, pow_add]
    exact Nat.mul_le_mul_right _ hlow
  · rw [hcount, hj, ← pow_succ', Nat.add_right_comm, pow_add]
    exact Nat.mul_lt_mul_of_pos_right hhigh (Nat.two_pow_pos j)

/-- An integer of at most 53 bits is a number of the format. -/
theorem exists_value?_eq_intCast {n : Int} (h : n.natAbs < 2 * fractionCount) :
    ∃ y : Binary64, y.value? = some (n : Rat) := by
  rcases Nat.eq_zero_or_pos n.natAbs with hzero | hpos
  · have hsignificand : zero.significand = 0 := by decide
    refine ⟨zero, value?_eq_some_iff.2 ⟨by decide, ?_⟩⟩
    rw [hsignificand, Int.natAbs_eq_zero.1 hzero]
    simp [sign_apply]
  · obtain ⟨j, hj, hlow, hhigh⟩ := exists_shift hpos h
    refine ⟨ofFields (decide (n < 0)) (1075 - j) (n.natAbs * 2 ^ j - fractionCount), ?_⟩
    rw [value?_ofFields _ (by omega) (by omega) (by omega), Nat.add_sub_cancel' hlow]
    have hexponent : ((1075 - j : Nat) : Int) - 1075 = -(j : Int) := by omega
    have hpower : (2 : Rat) ^ j ≠ 0 := pow_ne_zero j two_ne_zero
    have hsign : ((if decide (n < 0) then -1 else 1 : Rat)) * n.natAbs = n := by
      rw [Nat.cast_natAbs]
      rcases lt_or_ge n 0 with hn | hn
      · simp [hn, abs_of_neg hn]
      · simp [hn.not_gt, abs_of_nonneg hn]
    rw [hexponent, zpow_neg, zpow_natCast, Nat.cast_mul, Nat.cast_pow, Nat.cast_ofNat, ← mul_assoc,
      mul_inv_cancel_right₀ hpower, hsign]

theorem significand_lt (x : Binary64) : x.significand < 2 * fractionCount := by
  have hfraction := x.fraction_lt
  unfold significand
  split <;> omega

/-- Numbers with digits behind the point are short of the integers that have no room for them. -/
theorem abs_le_of_binade_lt {value : Rat} (h : x.value? = some value) (hbinade : x.binade < 1074) :
    |value| ≤ fractionCount := by
  obtain ⟨-, rfl⟩ := value?_eq_some_iff.1 h
  have hsignificand : |(x.sign.apply x.significand : Rat)| ≤ 2 * fractionCount := by
    have habs : |x.sign.apply x.significand| = x.significand := by
      rw [sign_apply]
      split <;> simp
    rw [← Int.cast_abs, habs, Int.cast_natCast]
    exact_mod_cast x.significand_lt.le
  have hpower : (2 : Rat) ^ ((x.binade : Int) - 1074) ≤ 2⁻¹ := by
    rw [← zpow_neg_one]
    exact zpow_le_zpow_right₀ one_le_two (by omega)
  rw [abs_mul, abs_zpow, abs_two]
  calc |(x.sign.apply x.significand : Rat)| * 2 ^ ((x.binade : Int) - 1074)
      ≤ 2 * fractionCount * 2⁻¹ := by gcongr
    _ = fractionCount := by ring

end Binary64

end Columnar
