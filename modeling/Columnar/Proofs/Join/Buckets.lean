import Columnar.Proofs.Join.Matches

/-!
# What a bucket table holds

A bucket table is filled row by row, each row being put at the end of the bucket of its
key.  After any number of rows a bucket therefore holds exactly the rows put into it so
far, in the order in which they came (`getElem?_foldl_put`), and the table of a key column
holds every row in one bucket, where the rows ascend.  What a probe gets to see follows:
the rows whose keys share a bucket with its own, and no others.

## Main results

* `BucketTable.mem_candidates` — the rows that a probe is compared with.
* `BucketTable.pairwise_candidates` — in ascending order.
-/

namespace Columnar

namespace BucketTable

variable {α : Type} [Key α]

@[simp] theorem size_put (buckets : Array (Array Nat)) (key : α) (row : Nat) :
    (put buckets key row).size = buckets.size := by
  simp [put]

theorem size_foldl_put (rows : List (α × Nat)) (buckets : Array (Array Nat)) :
    (rows.foldl (fun buckets (key, row) => put buckets key row) buckets).size
      = buckets.size := by
  induction rows generalizing buckets with
  | nil => rfl
  | cons entry rows ih => rw [List.foldl_cons, ih, size_put]

/-- The rows, of those given, whose keys fall into bucket `b` of `n`. -/
def inBucket (n b : Nat) (rows : List (α × Nat)) : List Nat :=
  rowsWhere (fun key => bucketOf (Key.bucketHash key) n == b) rows

/-- A bucket holds what it held before and, behind that, the rows put into it since. -/
theorem getElem?_foldl_put (rows : List (α × Nat)) (buckets : Array (Array Nat)) (b : Nat) :
    (rows.foldl (fun buckets (key, row) => put buckets key row) buckets)[b]?
      = buckets[b]?.map fun bucket => bucket ++ (inBucket buckets.size b rows).toArray := by
  induction rows generalizing buckets with
  | nil => simp [inBucket]
  | cons entry rows ih =>
    obtain ⟨key, row⟩ := entry
    rw [List.foldl_cons, ih, size_put]
    rw [inBucket, inBucket, rowsWhere_cons]
    -- one bucket grows at its end, and the others are not touched
    unfold put
    rw [Array.getElem?_modify]
    by_cases h : bucketOf (Key.bucketHash key) buckets.size = b
    · rw [if_pos h, if_pos (beq_iff_eq.2 h), Option.map_map]
      congr 1
      funext bucket
      simp
    · rw [if_neg h, if_neg (mt beq_iff_eq.1 h), List.nil_append]

@[simp] theorem size_buckets_build (keys : Array α) : (build keys).buckets.size = keys.size := by
  rw [build, size_foldl_put, Array.size_replicate]

/-- A bucket of a key column lists the rows whose keys fall into it. -/
theorem getElem?_buckets_build (keys : Array α) {b : Nat} (hb : b < keys.size) :
    (build keys).buckets[b]? = some (inBucket keys.size b keys.toList.zipIdx).toArray := by
  rw [build, getElem?_foldl_put]
  simp [hb]

/-- A probe sees the rows in the bucket of its key. -/
theorem candidates_build (keys : Array α) (key : α) :
    (build keys).candidates key
      = inBucket keys.size (bucketOf (Key.bucketHash key) keys.size) keys.toList.zipIdx := by
  unfold candidates
  rw [size_buckets_build]
  by_cases h : keys.size = 0
  · rw [if_pos h, Array.eq_empty_of_size_eq_zero h]
    rfl
  · have hlt := bucketOf_lt (Key.bucketHash key) (Nat.pos_of_ne_zero h)
    rw [if_neg h, getElem?_buckets_build keys hlt]
    rfl

/-- A row is compared with a probe exactly when its key shares the probe's bucket. -/
theorem mem_candidates {keys : Array α} {key : α} {row : Nat} :
    row ∈ (build keys).candidates key ↔
      ∃ hashed, keys[row]? = some hashed ∧
        bucketOf (Key.bucketHash hashed) keys.size = bucketOf (Key.bucketHash key) keys.size := by
  rw [candidates_build, inBucket, mem_rowsWhere]
  simp only [beq_iff_eq]

/-- The rows that a probe is compared with ascend. -/
theorem pairwise_candidates (keys : Array α) (key : α) :
    ((build keys).candidates key).Pairwise (· < ·) := by
  rw [candidates_build]
  exact pairwise_rowsWhere _ keys

end BucketTable

end Columnar
