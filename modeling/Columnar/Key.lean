import Columnar.Binary64.Rounding
import Columnar.Text.Hash

/-!
# Keys

What the store asks of the cells of one type: a native equality and order, and a
hash that chooses a bucket.  The order may be partial — a float NaN is neither equal
to, before nor after anything — and the hash has to agree with the equality, or an
equality join would lose matches between buckets.

## Main definitions

* `Key` — the operations on the cells of one type.
* `LawfulKey` — equality is symmetric and transitive, and equal keys share a hash.
-/

namespace Columnar

/-- The operations on the cells of one type. -/
class Key (α : Type) where
  /-- Native equality. -/
  same : α → α → Bool
  /-- Native order: the first comes strictly before the second. -/
  before : α → α → Bool
  /-- The hash that chooses the bucket of a key. -/
  bucketHash : α → Int64

/-- An integer is its own hash. -/
instance : Key Int64 where
  same x y := x == y
  before x y := decide (x < y)
  bucketHash x := x

/-- A float is hashed to its nearest integer. -/
instance : Key Binary64 where
  same := Binary64.same
  before := Binary64.before
  bucketHash := Binary64.nearestInt64

/-- Texts are ordered by code point, which is also the order of their UTF-8 bytes. -/
instance : Key String where
  same x y := x == y
  before x y := decide (x < y)
  bucketHash := Text.hash

/-- The laws that the searches and joins rely on. -/
class LawfulKey (α : Type) [Key α] : Prop where
  /-- Equality does not depend on the side. -/
  same_symm {x y : α} : Key.same x y = true → Key.same y x = true
  /-- Equality passes through a common key. -/
  same_trans {x y z : α} : Key.same x y = true → Key.same y z = true → Key.same x z = true
  /-- Equal keys fall into one bucket. -/
  bucketHash_eq {x y : α} : Key.same x y = true → Key.bucketHash x = Key.bucketHash y

instance : LawfulKey Int64 where
  same_symm h := by simp_all [Key.same]
  same_trans h h' := by simp_all [Key.same]
  bucketHash_eq h := by simp_all [Key.same]

instance : LawfulKey Binary64 where
  same_symm h := by
    obtain ⟨hx, hy, hscaled⟩ := Binary64.same_iff.1 h
    exact Binary64.same_iff.2 ⟨hy, hx, hscaled.symm⟩
  same_trans h h' := by
    obtain ⟨hx, _, hscaled⟩ := Binary64.same_iff.1 h
    obtain ⟨_, hz, hscaled'⟩ := Binary64.same_iff.1 h'
    exact Binary64.same_iff.2 ⟨hx, hz, hscaled.trans hscaled'⟩
  bucketHash_eq h := Binary64.nearestInt64_eq_of_same h

instance : LawfulKey String where
  same_symm h := by simp_all [Key.same]
  same_trans h h' := by simp_all [Key.same]
  bucketHash_eq h := by simp_all [Key.same]

end Columnar
