/-!
# Binary64 floating-point numbers

A floating-point cell is stored as its 64 bits.  Everything the store does with
one — comparing, indexing, bucketing, printing — is computed from those bits by
exact integer arithmetic, so each operation has a meaning that can be reasoned
about.

The key observation is that every finite binary64 number is a whole multiple of
`2 ^ (-1074)`, the smallest positive one.  `Binary64.scaled` is that multiple, an
integer, and the native order is the order of these integers.  The two infinities
need no case of their own: the same formula places them at `± 2 ^ 2098`, just past
every finite number.

## Main definitions

* `Binary64` — a number, as its bits.
* `Binary64.magnitude`, `Binary64.scaled` — the number in units of `2 ^ (-1074)`.
* `Binary64.same`, `Binary64.before` — the native equality and order: a NaN is
  neither equal to nor before anything, and the two zeros are equal.
* `Binary64.indexKey` — one bit pattern for each class of equal numbers.
-/

namespace Columnar

/-- A floating-point number, as the 64 bits of its binary64 representation.
Equality of structures is identity of bit patterns; the numeric comparison is
`Binary64.same`. -/
structure Binary64 where
  /-- Sign (1 bit), exponent field (11 bits) and fraction (52 bits). -/
  bits : UInt64
  deriving DecidableEq, Repr, Inhabited

namespace Binary64

/-! ### The fields -/

/-- The number of fractions, `2 ^ 52`. -/
def fractionCount : Nat := 0x10000000000000

/-- The number of exponent fields, `2 ^ 11`. -/
def exponentCount : Nat := 0x800

/-- The sign bit, `2 ^ 63`. -/
def signBit : Nat := 0x8000000000000000

/-- Whether the sign bit is set. -/
def isNegative (x : Binary64) : Bool := decide (signBit ≤ x.bits.toNat)

/-- The biased exponent. -/
def exponentField (x : Binary64) : Nat := x.bits.toNat / fractionCount % exponentCount

/-- The fraction: the significand without its leading one. -/
def fraction (x : Binary64) : Nat := x.bits.toNat % fractionCount

/-- The top exponent with a non-zero fraction is not a number. -/
def isNaN (x : Binary64) : Bool := x.exponentField == 2047 && x.fraction != 0

/-- The top exponent with a zero fraction is an infinity. -/
def isInfinite (x : Binary64) : Bool := x.exponentField == 2047 && x.fraction == 0

/-! ### The value -/

/-- The significand as an integer: a leading one, left out of the representation,
precedes the fraction unless the number is subnormal. -/
def significand (x : Binary64) : Nat :=
  if x.exponentField = 0 then x.fraction else fractionCount + x.fraction

/-- How many doublings above the lowest binade the number lies.  Subnormal numbers
share the lowest binade with the smallest normal ones. -/
def binade (x : Binary64) : Nat := x.exponentField - 1

/-- How many units of `2 ^ (-1074)` make one. -/
def unitsInOne : Nat := 1 <<< 1074

/-- The absolute value in units of `2 ^ (-1074)`: each binade doubles the significand. -/
def magnitude (x : Binary64) : Nat := x.significand <<< x.binade

/-- The value in units of `2 ^ (-1074)`. -/
def scaled (x : Binary64) : Int :=
  if x.isNegative then -(x.magnitude : Int) else x.magnitude

theorem magnitude_eq_of_scaled_eq {x y : Binary64} (h : x.scaled = y.scaled) :
    x.magnitude = y.magnitude := by
  unfold scaled at h
  split at h <;> split at h <;> omega

/-! ### Native comparison -/

/-- Native equality.  Nothing equals a NaN, and zero equals negative zero. -/
def same (x y : Binary64) : Bool := !x.isNaN && !y.isNaN && x.scaled == y.scaled

/-- Native order.  Nothing comes before or after a NaN. -/
def before (x y : Binary64) : Bool := !x.isNaN && !y.isNaN && decide (x.scaled < y.scaled)

theorem same_iff {x y : Binary64} :
    x.same y = true ↔ x.isNaN = false ∧ y.isNaN = false ∧ x.scaled = y.scaled := by
  simp [same, and_assoc]

theorem before_iff {x y : Binary64} :
    x.before y = true ↔ x.isNaN = false ∧ y.isNaN = false ∧ x.scaled < y.scaled := by
  simp [before, and_assoc]

/-- A number is equal to itself unless it is a NaN. -/
theorem same_self_iff {x : Binary64} : x.same x = true ↔ x.isNaN = false := by
  simp [same_iff]

/-! ### Index keys -/

/-- Positive zero. -/
def zero : Binary64 := ⟨0⟩

/-- The bit pattern that stands for all numbers equal to `x`.  Negative zero is
folded into zero; a NaN has no key, since no search could ever find it. -/
def indexKey (x : Binary64) : Option UInt64 :=
  if x.isNaN then none
  else if x.same zero then some zero.bits
  else some x.bits

end Binary64

end Columnar
