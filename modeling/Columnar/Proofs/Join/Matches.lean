import Columnar.Column
import Columnar.Proofs.RowPairs
import Columnar.Proofs.Rows

/-!
# Matches between two key columns

Which pairs of rows a join is about is said by the values in the two key columns: the keys
at the two positions have to stand in a certain relation.  The strategies work on arrays of
one type of key and never look at a value; so a strategy is described once, for keys of any
type, and what it does with two columns follows (`KeyCells.enumerates_apply`).

## Main definitions

* `Paired` — the pairs of positions whose keys stand in a relation.
* `Matches` — the pairs whose keys satisfy a comparison, the right key being the candidate.
* `Value.bucketHash`, `SharesBucket` — the pairs whose keys fall into one bucket.

## Main results

* `Matches.sharesBucket` — equal keys share a bucket, however many buckets there are.
* `KeyCells.enumerates_apply` — from keys of any type to the values of two columns.
-/

namespace Columnar

/-! ### Pairs of keys -/

/-- The keys at the two positions of a pair stand in a relation. -/
def Paired {α : Type} (left right : Nat → Option α) (related : α → α → Prop) (p : RowPair) :
    Prop :=
  ∃ l r, left p.1 = some l ∧ right p.2 = some r ∧ related l r

/-- The keys of a pair of rows satisfy the comparison `right OP left`. -/
def Matches (op : Comparison) (left right : Column) : RowPair → Prop :=
  Paired left.get? right.get? fun l r => Value.holds? op r l = some true

/-- The hash that chooses the bucket of a value. -/
def Value.bucketHash : Value → Int64
  | .int key => Key.bucketHash key
  | .float key => Key.bucketHash key
  | .text key => Key.bucketHash key

/-- The keys of a pair of rows fall into the same of `n` buckets: the absolute values of
their hashes leave the same remainder. -/
def SharesBucket (n : Nat) (left right : Column) : RowPair → Prop :=
  Paired left.get? right.get? fun l r =>
    l.bucketHash.toInt.natAbs % n = r.bucketHash.toInt.natAbs % n

/-- Two relations of the keys of a pair, taken together. -/
theorem paired_and {α : Type} {left right : Nat → Option α} {related related' : α → α → Prop}
    {p : RowPair} :
    Paired left right (fun l r => related l r ∧ related' l r) p ↔
      Paired left right related p ∧ Paired left right related' p := by
  constructor
  · rintro ⟨l, r, hl, hr, h, h'⟩
    exact ⟨⟨l, r, hl, hr, h⟩, ⟨l, r, hl, hr, h'⟩⟩
  · rintro ⟨⟨l, r, hl, hr, h⟩, ⟨l', r', hl', hr', h'⟩⟩
    -- a position holds one key
    obtain rfl := Option.some.inj (hl.symm.trans hl')
    obtain rfl := Option.some.inj (hr.symm.trans hr')
    exact ⟨l, r, hl, hr, h, h'⟩

/-- Whether two rows match is decided by their keys, if both are there. -/
instance (op : Comparison) (left right : Column) (p : RowPair) :
    Decidable (Matches op left right p) :=
  match hl : left.get? p.1, hr : right.get? p.2 with
  | some l, some r =>
    decidable_of_iff (Value.holds? op r l = some true)
      ⟨fun h => ⟨l, r, hl, hr, h⟩, fun ⟨l', r', hl', hr', h⟩ => by
        rw [hl] at hl'
        rw [hr] at hr'
        cases hl'
        cases hr'
        exact h⟩
  | none, _ => .isFalse fun ⟨_, _, hl', _⟩ => nomatch hl.symm.trans hl'
  | _, none => .isFalse fun ⟨_, _, _, hr', _⟩ => nomatch hr.symm.trans hr'

/-- A match lies within the two columns. -/
theorem Matches.lt_size {op : Comparison} {left right : Column} {p : RowPair}
    (h : Matches op left right p) : p.1 < left.size ∧ p.2 < right.size := by
  obtain ⟨l, r, hl, hr, -⟩ := h
  exact ⟨Cells.get?_lt hl, Cells.get?_lt hr⟩

/-- Equal values have one hash. -/
theorem Value.bucketHash_eq {x y : Value} (h : Value.holds? .eq x y = some true) :
    x.bucketHash = y.bucketHash := by
  cases x <;> cases y <;> simp only [holds?, Option.some.injEq, reduceCtorEq] at h
  · exact LawfulKey.bucketHash_eq h
  · exact LawfulKey.bucketHash_eq h
  · exact LawfulKey.bucketHash_eq h

/-- The keys of an equality match share a bucket, however many buckets there are. -/
theorem Matches.sharesBucket {left right : Column} {p : RowPair}
    (h : Matches .eq left right p) (n : Nat) : SharesBucket n left right p := by
  obtain ⟨l, r, hl, hr, hsame⟩ := h
  refine ⟨l, r, hl, hr, ?_⟩
  dsimp only
  rw [Value.bucketHash_eq hsame]

/-! ### Keys and values -/

namespace KeyCells

/-- Two columns hold keys of one type exactly when their types are equal. -/
theorem isSome_ofCells? (left right : Cells) :
    (ofCells? left right).isSome = (left.type == right.type) := by
  cases left <;> cases right <;> rfl

/-- What a strategy lists for arrays of keys of any type it lists for two key columns.  The
relation of the keys may depend on the numbers of rows. -/
theorem enumerates_apply {before : RowPair → RowPair → Prop}
    (related : {α : Type} → [Key α] → Nat → Nat → α → α → Prop)
    (relatedValues : Value → Value → Prop)
    {strategy : {α : Type} → [Key α] → Array α → Array α → List RowPair}
    (h : ∀ {α : Type} [Key α] (left right : Array α),
      Enumerates before (Paired (left[·]?) (right[·]?) (related left.size right.size))
        (strategy left right))
    {left right : Cells} {cells : KeyCells} (hcells : ofCells? left right = some cells)
    (hint : ∀ l r, related left.size right.size l r ↔ relatedValues (.int l) (.int r))
    (hfloat : ∀ l r, related left.size right.size l r ↔ relatedValues (.float l) (.float r))
    (htext : ∀ l r, related left.size right.size l r ↔ relatedValues (.text l) (.text r)) :
    Enumerates before (Paired left.get? right.get? relatedValues) (cells.apply strategy) := by
  cases left <;> cases right <;> cases hcells
  all_goals
    refine (h _ _).congr fun p => ?_
    simp only [Cells.size] at hint hfloat htext
    simp [Paired, Cells.get?, hint, hfloat, htext]

end KeyCells

end Columnar
