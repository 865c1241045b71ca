import Columnar.Proofs.Binary64.Nearest
import Columnar.Proofs.Join.Partition

/-!
# Keys that are equal

An index looks a key up, and a hash join chooses its bucket, instead of comparing it with every
cell.  Both may do so because equality is kept: equal keys share an entry and a bucket.  For
integers and texts that needs no argument, since equal ones are the same.  Equal floats need not be
the same, and a NaN is not even equal to itself; so an index enters floats under keys of their own,
which are shared exactly by equal ones, and a bucket is chosen by the nearest integer, which depends
on the value alone.  Every float has a nearest 64-bit integer, if need be an end of the range, and
with it a bucket.

## Main definitions

* `Key.Respects` — the native equality of keys is a given one, and the hash does not tell equal keys
  apart.

## Main results

* `Key.canonical_iff_equal` — **index keys are shared by equal floats alone, and equal keys of any
  type share a bucket.**
-/

namespace Columnar

namespace Key

/-- The native equality of keys is a given one, and equal keys have one hash. -/
structure Respects {α : Type} [Key α] (equal : α → α → Prop) : Prop where
  /-- Which keys are natively equal. -/
  same_iff (x y : α) : same x y = true ↔ equal x y
  /-- Equal keys have one hash. -/
  bucketHash_eq (x y : α) (h : equal x y) : bucketHash x = bucketHash y

theorem respects_int : Respects fun x y : Int64 => x = y where
  same_iff _ _ := beq_iff_eq
  bucketHash_eq _ _ h := h

theorem respects_text : Respects fun x y : String => x = y where
  same_iff _ _ := beq_iff_eq
  bucketHash_eq _ _ h := congrArg bucketHash h

theorem respects_float : Respects fun x y : Binary64 => (x.toFloat == y.toFloat) = true where
  same_iff x y := by
    rw [Binary64.toFloat_beq]
    rfl
  bucketHash_eq x y h := by
    rw [Binary64.toFloat_beq] at h
    exact Binary64.nearestInt64_eq_of_same h

/-- **Index keys are shared by equal floats alone, and equal keys of any type share a bucket.**
Two floats have one index key exactly when the built-in floats with their bits are equal, and only
a NaN has none.  Integers and texts are equal if they are the same, and floats as the built-in ones
are; equal keys have one hash.  The hash of a float is found by rounding it within the format, to
the nearest integer and with a half away from zero, and by converting the result to a 64-bit
integer, which ends at the ends of the range; for every float this gives one hash, and among any
number of buckets one of them. -/
theorem canonical_iff_equal :
    (∀ x y : Binary64, (∃ key, x.indexKey = some key ∧ y.indexKey = some key) ↔
      (x.toFloat == y.toFloat) = true) ∧
    (∀ x : Binary64, x.indexKey = none ↔ x.toFloat.isNaN = true) ∧
    (Respects fun x y : Int64 => x = y) ∧
    (Respects fun x y : String => x = y) ∧
    (Respects fun x y : Binary64 => (x.toFloat == y.toFloat) = true) ∧
    (∀ (x : Binary64) (hash : Int64),
      (∃ y, x.RoundsTo y ∧ y.ConvertsTo hash) ↔ bucketHash x = hash) ∧
    ∀ (x : Binary64) (size : Nat), 0 < size → (size : Int) ≤ Int64.maxValue.toInt →
      ∃ b < size, bucket? (bucketHash x) size = some b := by
  refine ⟨fun x y => ?_, fun x => ?_, respects_int, respects_text, respects_float,
    fun x hash => Binary64.roundsTo_convertsTo_iff, fun x size hpos hmax => ?_⟩
  · rw [Binary64.toFloat_beq]
    exact Binary64.exists_indexKey_iff
  · rw [Binary64.isNaN_toFloat]
    exact Binary64.indexKey_eq_none_iff
  · exact ⟨_, bucketOf_lt _ hpos, bucket?_eq _ hpos hmax⟩

/-- The zeros share an index key and a hash, and a NaN has no key, whatever its payload.  Minus two
and a half goes to minus three, the smallest positive number to zero, and an infinity and the lowest
number to the ends of the range; the infinity finds one of three buckets. -/
theorem canonical_iff_equal_zeros :
    (∃ key, Binary64.zero.indexKey = some key ∧
        (⟨0x8000000000000000⟩ : Binary64).indexKey = some key) ∧
      bucketHash Binary64.zero = bucketHash (⟨0x8000000000000000⟩ : Binary64) ∧
      (⟨0x7ff0000000000001⟩ : Binary64).indexKey = none ∧
      (∃ y, (⟨0xc004000000000000⟩ : Binary64).RoundsTo y ∧ y.ConvertsTo (-3)) ∧
      (∃ y, (⟨0x0000000000000001⟩ : Binary64).RoundsTo y ∧ y.ConvertsTo 0) ∧
      (∃ y, (⟨0x7ff0000000000000⟩ : Binary64).RoundsTo y ∧ y.ConvertsTo Int64.maxValue) ∧
      (∃ y, (⟨0xffefffffffffffff⟩ : Binary64).RoundsTo y ∧ y.ConvertsTo Int64.minValue) ∧
      ∃ b < 3, bucket? (bucketHash (⟨0x7ff0000000000000⟩ : Binary64)) 3 = some b := by
  obtain ⟨hshared, hnone, -, -, hfloat, hrounded, hbucket⟩ := canonical_iff_equal
  refine ⟨(hshared _ _).2 (by decide), hfloat.bucketHash_eq _ _ (by decide),
    (hnone _).2 (by decide), (hrounded _ _).2 (by decide), (hrounded _ _).2 (by decide),
    (hrounded _ _).2 (by decide), (hrounded _ _).2 (by decide), ?_⟩
  exact hbucket _ 3 (by decide) (by decide)

end Key

end Columnar
