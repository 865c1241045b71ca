import Columnar.Proofs.Join.Buckets
import Mathlib.Data.List.Nodup
import Mathlib.Data.List.Sort

/-!
# Buckets as a partition of the rows

The table of a hash join puts every row somewhere, and nothing is lost on the way: the arithmetic
that numbers the buckets never leaves the 64-bit integers, and the number it gives is always that
of a bucket which is there.  A machine could refuse each of the two, so both are written down once
more with the refusals in them (`bucket?`, `BucketTable.fill?`), and shown to refuse nothing.

A bucket then holds the rows whose keys have its number, ascending.  Every row has one number, and
this is below the number of buckets; so the buckets together hold each row once.

## Main definitions

* `remainder?`, `bucket?` — the arithmetic of the buckets, where it can fail.
* `BucketTable.fill?` — the distribution of the rows, where it can fail.
* `BucketTable.rowsIn` — the rows whose keys have the number of a bucket.

## Main results

* `bucket?_eq` — there is a bucket for every hash, the lowest of them included.
* `BucketTable.fill?_eq` — filling a table never fails.
* `BucketTable.flatMap_buckets_perm` — the buckets hold each row once.
* `BucketTable.build_partitions` — **a table is a partition of the rows.**
-/

namespace Columnar

/-! ### The number of a bucket -/

/-- The remainder of 64-bit integers.  There is none for the divisor zero, and none if the quotient
is not a 64-bit integer. -/
def remainder? (x y : Int64) : Option Int64 :=
  if y ≠ 0 ∧ Int64.minValue.toInt ≤ x.toInt.tdiv y.toInt ∧
      x.toInt.tdiv y.toInt ≤ Int64.maxValue.toInt then some (x % y)
  else none

/-- The bucket of a hash among `size` of them, if the arithmetic of 64-bit integers gives one. -/
def bucket? (hash : Int64) (size : Nat) : Option Nat :=
  (remainder? hash (Int64.ofNat size)).map fun remainder => remainder.toInt.natAbs

section

variable {size : Nat}

/-- By a size there is always a remainder: the quotient is no further from zero than the hash. -/
theorem remainder?_ofNat (hash : Int64) (hpos : 0 < size)
    (hmax : (size : Int) ≤ Int64.maxValue.toInt) :
    remainder? hash (Int64.ofNat size) = some (hash % Int64.ofNat size) := by
  have hmaxValue : Int64.maxValue.toInt = 9223372036854775807 := by decide
  have hminValue : Int64.minValue.toInt = -9223372036854775808 := by decide
  have hsize : (Int64.ofNat size).toInt = size := Int64.toInt_ofNat_of_lt (by omega)
  have hne : Int64.ofNat size ≠ 0 := by
    intro hzero
    rw [hzero] at hsize
    have : (0 : Int64).toInt = 0 := by decide
    omega
  have hlow := hash.minValue_le_toInt
  have hhigh := hash.toInt_le
  have hquotient := Int.natAbs_tdiv_le_natAbs hash.toInt size
  rw [remainder?, if_pos]
  refine ⟨hne, ?_⟩
  rw [hsize]
  -- the quotient has the sign of the hash
  rcases Int.le_total 0 hash.toInt with hsign | hsign
  · have hnonneg := Int.tdiv_nonneg hsign (Int.natCast_nonneg size)
    omega
  · have hneg : hash.toInt.tdiv size = -(-hash.toInt).tdiv size := by
      rw [Int.neg_tdiv, Int.neg_neg]
    have hnonneg := Int.tdiv_nonneg (Int.neg_nonneg_of_nonpos hsign) (Int.natCast_nonneg size)
    omega

/-- The lowest integer has a remainder by a size, and would have none by `-1`. -/
example : remainder? Int64.minValue (Int64.ofNat 3) = some (-2) ∧
    remainder? Int64.minValue (-1) = none := by decide

/-- There is a bucket for every hash. -/
theorem bucket?_eq (hash : Int64) (hpos : 0 < size) (hmax : (size : Int) ≤ Int64.maxValue.toInt) :
    bucket? hash size = some (bucketOf hash size) := by
  rw [bucket?, remainder?_ofNat hash hpos hmax, Option.map_some, bucketOf_eq_int64 hash hmax]

end

namespace BucketTable

variable {α : Type} [Key α]

/-! ### Filling a table -/

/-- Puts a row into the bucket of its key, if there is such a bucket. -/
def put? (buckets : Array (Array Nat)) (key : α) (row : Nat) : Option (Array (Array Nat)) := do
  let b ← bucket? (Key.bucketHash key) buckets.size
  if b < buckets.size then some (buckets.modify b (·.push row)) else none

/-- Distributes the rows of a key column, up to the first for which there is no bucket. -/
def fill? (keys : Array α) : Option (Array (Array Nat)) :=
  keys.toList.zipIdx.foldlM (fun buckets (key, row) => put? buckets key row)
    (Array.replicate keys.size #[])

theorem put?_eq {buckets : Array (Array Nat)} (hpos : 0 < buckets.size)
    (hmax : (buckets.size : Int) ≤ Int64.maxValue.toInt) (key : α) (row : Nat) :
    put? buckets key row = some (put buckets key row) := by
  have hlt := bucketOf_lt (Key.bucketHash key) hpos
  rw [put?, bucket?_eq _ hpos hmax]
  dsimp only [bind, Option.bind]
  rw [if_pos hlt, put]

/-- The number of buckets stays, so a row that comes later finds its bucket too. -/
theorem foldlM_put?_eq (rows : List (α × Nat)) {buckets : Array (Array Nat)}
    (hpos : 0 < buckets.size) (hmax : (buckets.size : Int) ≤ Int64.maxValue.toInt) :
    rows.foldlM (fun buckets (key, row) => put? buckets key row) buckets
      = some (rows.foldl (fun buckets (key, row) => put buckets key row) buckets) := by
  induction rows generalizing buckets with
  | nil => rfl
  | cons entry rows ih =>
    obtain ⟨key, row⟩ := entry
    have hsize := size_put buckets key row
    rw [List.foldlM_cons, List.foldl_cons]
    dsimp only
    rw [put?_eq hpos hmax]
    exact ih (by omega) (by omega)

/-- Filling a table never fails. -/
theorem fill?_eq {keys : Array α} (hmax : (keys.size : Int) ≤ Int64.maxValue.toInt) :
    fill? keys = some (build keys).buckets := by
  rcases Nat.eq_zero_or_pos keys.size with hzero | hpos
  · rw [Array.eq_empty_of_size_eq_zero hzero]
    rfl
  · refine foldlM_put?_eq _ ?_ ?_
    · rwa [Array.size_replicate]
    · rwa [Array.size_replicate]

/-! ### The rows in a bucket -/

/-- The rows whose keys have the number of a bucket, ascending. -/
def rowsIn (keys : Array α) (b : Nat) : List Nat :=
  (List.range keys.size).filter fun row =>
    keys[row]?.any fun key => bucketOf (Key.bucketHash key) keys.size == b

theorem mem_rowsIn {keys : Array α} {b row : Nat} :
    row ∈ rowsIn keys b ↔
      ∃ key, keys[row]? = some key ∧ bucketOf (Key.bucketHash key) keys.size = b := by
  rw [rowsIn, List.mem_filter, List.mem_range, Option.any_eq_true]
  simp only [beq_iff_eq]
  constructor
  · rintro ⟨-, hkey⟩
    exact hkey
  · rintro ⟨key, hkey, hb⟩
    exact ⟨(Array.getElem?_eq_some_iff.1 hkey).1, key, hkey, hb⟩

theorem pairwise_rowsIn (keys : Array α) (b : Nat) : (rowsIn keys b).Pairwise (· < ·) :=
  List.pairwise_lt_range.filter _

theorem rowsIn_eq (keys : Array α) (b : Nat) :
    inBucket keys.size b keys.toList.zipIdx = rowsIn keys b := by
  refine (pairwise_rowsWhere _ keys).eq_of_mem_iff (pairwise_rowsIn keys b) fun row => ?_
  rw [mem_rowsWhere, mem_rowsIn]
  simp only [beq_iff_eq]

/-- The buckets, written out. -/
theorem toList_buckets_build (keys : Array α) :
    (build keys).buckets.toList.map Array.toList
      = (List.range keys.size).map (rowsIn keys) := by
  refine List.ext_getElem (by simp) fun b hb hb' => ?_
  rw [List.length_map, List.length_range] at hb'
  have hbucket := getElem?_buckets_build keys hb'
  rw [rowsIn_eq] at hbucket
  obtain ⟨hlt, hget⟩ := Array.getElem?_eq_some_iff.1 hbucket
  rw [List.getElem_map, List.getElem_map, List.getElem_range, Array.getElem_toList, hget]

/-- A row belongs to the bucket of its key and to no other, and that is one of the buckets. -/
theorem mem_flatMap_rowsIn {keys : Array α} {row : Nat} :
    row ∈ (List.range keys.size).flatMap (rowsIn keys) ↔ row < keys.size := by
  simp only [List.mem_flatMap, List.mem_range, mem_rowsIn]
  constructor
  · rintro ⟨b, -, key, hkey, -⟩
    exact (Array.getElem?_eq_some_iff.1 hkey).1
  · intro hrow
    have hpos : 0 < keys.size := by omega
    exact ⟨_, bucketOf_lt (Key.bucketHash keys[row]) hpos, keys[row],
      Array.getElem?_eq_getElem hrow, rfl⟩

theorem nodup_flatMap_rowsIn (keys : Array α) :
    ((List.range keys.size).flatMap (rowsIn keys)).Nodup := by
  rw [List.nodup_flatMap]
  constructor
  · intro b _
    exact (pairwise_rowsIn keys b).imp Nat.ne_of_lt
  · refine List.pairwise_lt_range.imp fun {b b'} hlt row hrow hrow' => ?_
    obtain ⟨key, hkey, hb⟩ := mem_rowsIn.1 hrow
    obtain ⟨key', hkey', hb'⟩ := mem_rowsIn.1 hrow'
    obtain rfl := Option.some.inj (hkey.symm.trans hkey')
    omega

/-- The buckets together hold each row once. -/
theorem flatMap_buckets_perm (keys : Array α) :
    ((build keys).buckets.toList.flatMap Array.toList).Perm (List.range keys.size) := by
  rw [List.flatMap_def, toList_buckets_build, ← List.flatMap_def,
    List.perm_ext_iff_of_nodup (nodup_flatMap_rowsIn keys) List.nodup_range]
  intro row
  rw [mem_flatMap_rowsIn, List.mem_range]

/-- **A table is a partition of the rows.**  It has as many buckets as there are keys.  A bucket
lists the rows whose keys have its number, ascending, and all buckets together list each row once.
A probe gets the rows whose keys have the number of its own, ascending, and none if there are no
keys.  As long as the sizes are 64-bit integers, no row fails to find its bucket while the table is
filled; and among so many buckets the number for a hash can be computed, is that of one of them,
and is the remainder of the absolute value of the hash. -/
theorem build_partitions (keys : Array α) :
    (build keys).buckets.size = keys.size ∧
    (∀ b < keys.size, ∃ bucket, (build keys).buckets[b]? = some bucket ∧
      bucket.toList.Pairwise (· < ·) ∧
      ∀ row, row ∈ bucket ↔
        ∃ key, keys[row]? = some key ∧ bucketOf (Key.bucketHash key) keys.size = b) ∧
    ((build keys).buckets.toList.flatMap Array.toList).Perm (List.range keys.size) ∧
    (∀ key : α, (build keys).candidates key = (List.range keys.size).filter fun row =>
      keys[row]?.any fun hashed => bucketOf (Key.bucketHash hashed) keys.size
        == bucketOf (Key.bucketHash key) keys.size) ∧
    (keys.size = 0 → ∀ key : α, (build keys).candidates key = []) ∧
    ((keys.size : Int) ≤ Int64.maxValue.toInt → fill? keys = some (build keys).buckets) ∧
    ∀ (hash : Int64) (size : Nat), 0 < size → (size : Int) ≤ Int64.maxValue.toInt →
      bucket? hash size = some (bucketOf hash size) ∧ bucketOf hash size < size ∧
        bucketOf hash size = hash.toInt.natAbs % size := by
  have hcandidates (key : α) : (build keys).candidates key
      = rowsIn keys (bucketOf (Key.bucketHash key) keys.size) := by
    rw [candidates_build, rowsIn_eq]
  refine ⟨size_buckets_build keys, fun b hb => ?_, flatMap_buckets_perm keys, hcandidates,
    fun hzero key => ?_, fill?_eq, fun hash size hpos hmax => ?_⟩
  · have hbucket := getElem?_buckets_build keys hb
    rw [rowsIn_eq] at hbucket
    refine ⟨_, hbucket, pairwise_rowsIn keys b, fun row => ?_⟩
    rw [List.mem_toArray, mem_rowsIn]
  · rw [hcandidates, rowsIn, hzero]
    rfl
  · exact ⟨bucket?_eq hash hpos hmax, bucketOf_lt hash hpos, bucketOf_eq hash size⟩

/-- Four keys, the lowest integer among them. -/
def lowestKeys : Array Int64 := #[-7, Int64.minValue, 9, 0]

/-- The lowest integer finds its bucket, which it shares with zero, and a key that is not there
finds another one.  Without keys there is nothing to find, and a single bucket takes every hash. -/
theorem build_partitions_lowest :
    fill? lowestKeys = some (build lowestKeys).buckets ∧
      ((build lowestKeys).buckets.toList.flatMap Array.toList).Perm [0, 1, 2, 3] ∧
      (build lowestKeys).candidates (4 : Int64) = [1, 3] ∧
      (build lowestKeys).candidates (-3 : Int64) = [0] ∧
      (build (#[] : Array String)).candidates "none" = [] ∧
      bucket? Int64.minValue 1 = some 0 := by
  obtain ⟨-, -, hperm, hcandidates, -, hfill, hbucket⟩ := build_partitions lowestKeys
  obtain ⟨-, -, -, -, hnone, -⟩ := build_partitions (#[] : Array String)
  obtain ⟨hlowest, -, -⟩ := hbucket Int64.minValue 1 (by decide) (by decide)
  refine ⟨hfill (by decide), hperm, ?_, ?_, hnone rfl _, hlowest⟩
  · rw [hcandidates]
    decide
  · rw [hcandidates]
    decide

end BucketTable

end Columnar
