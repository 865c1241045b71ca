import Columnar.Key

/-!
# Hash buckets

The rows of one input of a hash join, distributed over as many buckets as there are
rows.  A row goes into the bucket numbered by the absolute value of its hash's
remainder, and each bucket lists its rows in ascending order.

## Main definitions

* `bucketOf` — the number of a hash's bucket.
* `BucketTable.build` — the distribution of a list of keys.
* `BucketTable.candidates` — the rows in a key's bucket.
-/

namespace Columnar

/-- The bucket of a hash among `size` of them.  The remainder takes the sign of the hash,
so its absolute value is below `size`. -/
def bucketOf (hash : Int64) (size : Nat) : Nat := (hash.toInt.tmod size).natAbs

theorem bucketOf_eq (hash : Int64) (size : Nat) :
    bucketOf hash size = hash.toInt.natAbs % size := by
  rw [bucketOf, Int.natAbs_tmod, Int.natAbs_natCast]

theorem bucketOf_lt (hash : Int64) {size : Nat} (h : 0 < size) : bucketOf hash size < size := by
  rw [bucketOf_eq]
  exact Nat.mod_lt _ h

/-- The division of 64-bit integers gives the same bucket as long as the size is one of
them: only the lowest of them divided by `-1` would go out of range. -/
theorem bucketOf_eq_int64 (hash : Int64) {size : Nat}
    (h : (size : Int) ≤ Int64.maxValue.toInt) :
    bucketOf hash size = (hash % Int64.ofNat size).toInt.natAbs := by
  have hmax : Int64.maxValue.toInt = 9223372036854775807 := by decide
  rw [bucketOf, Int64.toInt_mod, Int64.toInt_ofNat_of_lt (by omega)]

/-- For each bucket, the rows whose keys fall into it. -/
structure BucketTable where
  /-- The buckets, each with its rows in ascending order. -/
  buckets : Array (Array Nat)
  deriving DecidableEq, Repr

namespace BucketTable

variable {α : Type} [Key α]

/-- Puts a row into the bucket of its key. -/
def put (buckets : Array (Array Nat)) (key : α) (row : Nat) : Array (Array Nat) :=
  buckets.modify (bucketOf (Key.bucketHash key) buckets.size) (·.push row)

/-- The rows of a key column, distributed over as many buckets. -/
def build (keys : Array α) : BucketTable where
  buckets := keys.toList.zipIdx.foldl (fun buckets (key, row) => put buckets key row)
    (Array.replicate keys.size #[])

/-- The rows in the bucket of a key; none if there are no buckets. -/
def candidates (table : BucketTable) (key : α) : List Nat :=
  if table.buckets.size = 0 then []
  else (table.buckets[bucketOf (Key.bucketHash key) table.buckets.size]?.getD #[]).toList

end BucketTable

end Columnar
