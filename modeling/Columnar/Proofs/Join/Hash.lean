import Columnar.Proofs.Join.Buckets
import Columnar.Proofs.Join.NestedLoop

/-!
# Hash joins

A hash join puts the rows of the smaller relation into buckets and probes them with the
rows of the other, so it compares only rows that share a bucket.  What it finds does not
depend on which side was hashed: the pair of a hashed and a probing row is always turned
into a left and a right row, and the comparison is tested on the right key and the left
key.  Only the order does: the probing side comes first.

For an equality nothing is lost, since equal keys have one hash.  For the other
comparisons the matches between buckets are missing, and the number of buckets decides
which these are.

## Main definitions

* `BuildSide.order`, `BuildSide.hashed` — the order of the pairs, and the hashed side.

## Main results

* `enumerates_hashPairs` — the matches within buckets, by probing row.
* `hashJoin_ok` — the join of two relations with columns of equal length.
* `hashJoin_equality_complete` — **an equality join by hashing loses no match.**
* `hashJoin_exact` — **a hash join gives exactly the matches within buckets.**
-/

namespace Columnar

/-! ### The two sides -/

namespace BuildSide

/-- The order of the pairs when the rows of a side are hashed: the rows of the other side
come first. -/
def order : BuildSide → RowPair → RowPair → Prop
  | .left => ByRight
  | .right => ByLeft

/-- Of two things that belong to the sides, that of the hashed side. -/
def hashed {α : Type} (side : BuildSide) (left right : α) : α :=
  match side with
  | .left => left
  | .right => right

instance (side : BuildSide) : Std.Asymm side.order := by
  cases side
  · exact inferInstanceAs (Std.Asymm ByRight)
  · exact inferInstanceAs (Std.Asymm ByLeft)

/-- The smaller side is hashed. -/
theorem hashed_choose (left right : Nat) :
    (choose left right).hashed left right = min left right := by
  unfold choose
  by_cases h : left < right
  · rw [if_pos h, hashed, Nat.min_eq_left (Nat.le_of_lt h)]
  · rw [if_neg h, hashed, Nat.min_eq_right (Nat.le_of_not_lt h)]

theorem order_choose (left right : Nat) :
    (choose left right).order = if left < right then ByRight else ByLeft := by
  unfold choose
  by_cases h : left < right
  · rw [if_pos h, if_pos h, order]
  · rw [if_neg h, if_neg h, order]

/-- Pairs with the same probing row are ordered by their hashed rows. -/
theorem order_pair_of_lt (side : BuildSide) {b b' : Nat} (h : b < b') (p : Nat) :
    side.order (side.pair b p) (side.pair b' p) := by
  cases side <;> exact Or.inr ⟨rfl, h⟩

/-- Pairs with different probing rows are ordered by these. -/
theorem order_pair_of_probing_lt (side : BuildSide) {p p' : Nat} (h : p < p') (b b' : Nat) :
    side.order (side.pair b p) (side.pair b' p') := by
  cases side <;> exact Or.inl h

end BuildSide

/-! ### The pairs of a hash join -/

section

variable {α : Type} [Key α]

theorem mem_probeRow {side : BuildSide} {op : Comparison} {hashed probing : Array α} {p : Nat}
    {q : RowPair} :
    q ∈ probeRow side op hashed probing (BucketTable.build hashed) p ↔
      ∃ b hashedKey key, hashed[b]? = some hashedKey ∧ probing[p]? = some key ∧
        bucketOf (Key.bucketHash hashedKey) hashed.size
          = bucketOf (Key.bucketHash key) hashed.size ∧
        side.holds op hashedKey key = true ∧ side.pair b p = q := by
  unfold probeRow
  constructor
  · intro h
    cases hkey : probing[p]? with
    | none => rw [hkey] at h; cases h
    | some key =>
      rw [hkey] at h
      obtain ⟨b, hb, hq⟩ := List.mem_filterMap.1 h
      obtain ⟨hashedKey, hhashed, hbucket⟩ := BucketTable.mem_candidates.1 hb
      rw [hhashed] at hq
      obtain ⟨hholds, hq⟩ := Option.ite_none_right_eq_some.1 hq
      exact ⟨b, hashedKey, key, hhashed, rfl, hbucket, hholds, Option.some.inj hq⟩
  · rintro ⟨b, hashedKey, key, hhashed, hkey, hbucket, hholds, rfl⟩
    rw [hkey]
    refine List.mem_filterMap.2 ⟨b, BucketTable.mem_candidates.2 ⟨hashedKey, hhashed, hbucket⟩, ?_⟩
    rw [hhashed]
    exact if_pos hholds

theorem mem_probePairs {side : BuildSide} {op : Comparison} {hashed probing : Array α}
    {q : RowPair} :
    q ∈ probePairs side op hashed probing ↔
      ∃ b p hashedKey key, hashed[b]? = some hashedKey ∧ probing[p]? = some key ∧
        bucketOf (Key.bucketHash hashedKey) hashed.size
          = bucketOf (Key.bucketHash key) hashed.size ∧
        side.holds op hashedKey key = true ∧ side.pair b p = q := by
  unfold probePairs
  rw [List.mem_flatMap]
  constructor
  · rintro ⟨p, -, hq⟩
    obtain ⟨b, hashedKey, key, h⟩ := mem_probeRow.1 hq
    exact ⟨b, p, hashedKey, key, h⟩
  · rintro ⟨b, p, hashedKey, key, h⟩
    have hp : p < probing.size := (Array.getElem?_eq_some_iff.1 h.2.1).1
    exact ⟨p, List.mem_range.2 hp, mem_probeRow.2 ⟨b, hashedKey, key, h⟩⟩

/-- The probing rows ascend, and for each of them the hashed rows. -/
theorem pairwise_probePairs (side : BuildSide) (op : Comparison) (hashed probing : Array α) :
    (probePairs side op hashed probing).Pairwise side.order := by
  unfold probePairs
  rw [List.pairwise_flatMap]
  constructor
  · intro p _
    unfold probeRow
    cases probing[p]? with
    | none => exact .nil
    | some key =>
      rw [List.pairwise_filterMap]
      refine (BucketTable.pairwise_candidates hashed key).imp ?_
      intro b b' hlt q hq q' hq'
      -- a row that gives a pair gives that of its own position
      cases hb : hashed[b]? with
      | none => rw [hb] at hq; cases hq
      | some k =>
        cases hb' : hashed[b']? with
        | none => rw [hb'] at hq'; cases hq'
        | some k' =>
          rw [hb] at hq
          rw [hb'] at hq'
          obtain ⟨-, ⟨⟩⟩ := Option.ite_none_right_eq_some.1 hq
          obtain ⟨-, ⟨⟩⟩ := Option.ite_none_right_eq_some.1 hq'
          exact side.order_pair_of_lt hlt p
  · -- rows of different probes are in the order of the probes
    refine List.pairwise_lt_range.imp ?_
    intro p p' hlt q hq q' hq'
    obtain ⟨b, -, -, -, -, -, -, rfl⟩ := mem_probeRow.1 hq
    obtain ⟨b', -, -, -, -, -, -, rfl⟩ := mem_probeRow.1 hq'
    exact side.order_pair_of_probing_lt hlt b b'

/-- A hash join lists the matches within buckets, by probing row and then hashed row. -/
theorem enumerates_hashPairs (side : BuildSide) (op : Comparison) (left right : Array α) :
    Enumerates side.order
      (Paired (left[·]?) (right[·]?) fun l r => op.holds r l = true ∧
        bucketOf (Key.bucketHash l) (side.hashed left.size right.size)
          = bucketOf (Key.bucketHash r) (side.hashed left.size right.size))
      (hashPairs side op left right) := by
  -- the two sides differ only in which component of a pair is the hashed row
  cases side with
  | left =>
    refine ⟨fun p => ?_, pairwise_probePairs _ _ _ _⟩
    rw [hashPairs, mem_probePairs]
    constructor
    · rintro ⟨i, j, l, r, hl, hr, hbucket, hholds, rfl⟩
      exact ⟨l, r, hl, hr, hholds, hbucket⟩
    · rintro ⟨l, r, hl, hr, hholds, hbucket⟩
      exact ⟨p.1, p.2, l, r, hl, hr, hbucket, hholds, rfl⟩
  | right =>
    refine ⟨fun p => ?_, pairwise_probePairs _ _ _ _⟩
    rw [hashPairs, mem_probePairs]
    constructor
    · rintro ⟨j, i, r, l, hr, hl, hbucket, hholds, rfl⟩
      exact ⟨l, r, hl, hr, hholds, hbucket.symm⟩
    · rintro ⟨l, r, hl, hr, hholds, hbucket⟩
      exact ⟨p.2, p.1, r, l, hr, hl, hbucket.symm, hholds, rfl⟩

end

/-- A hash join lists the matches of two key columns that share a bucket. -/
theorem KeyCells.enumerates_hash {left right : Column} {cells : KeyCells}
    (hcells : ofCells? left.cells right.cells = some cells) (side : BuildSide)
    (op : Comparison) :
    Enumerates side.order
      (fun p => Matches op left right p ∧
        SharesBucket (side.hashed left.size right.size) left right p)
      (cells.apply (hashPairs side op)) := by
  have h := KeyCells.enumerates_apply
    (fun m n l r => op.holds r l = true ∧
      bucketOf (Key.bucketHash l) (side.hashed m n) = bucketOf (Key.bucketHash r) (side.hashed m n))
    (fun l r => Value.holds? op r l = some true ∧
      l.bucketHash.toInt.natAbs % side.hashed left.size right.size
        = r.bucketHash.toInt.natAbs % side.hashed left.size right.size)
    (enumerates_hashPairs side op) hcells
  refine (h ?_ ?_ ?_).congr fun p => paired_and
  all_goals
    intro l r
    rw [bucketOf_eq, bucketOf_eq]
    simp [Value.holds?, Value.bucketHash, Column.size]

/-! ### The join -/

variable {left right : Relation} {leftColumn rightColumn : String}

/-- Between relations with columns of equal length, a hash join lists the matches within
buckets, of which there are as many as the smaller relation has rows. -/
theorem JoinKeys.Of.enumerates_hash {keys : JoinKeys}
    (hkeys : JoinKeys.Of left leftColumn right rightColumn keys) (hl : left.Rectangular)
    (hr : right.Rectangular) (op : Comparison) :
    Enumerates (if left.rowCount < right.rowCount then ByRight else ByLeft)
      (fun p => Matches op keys.leftKey keys.rightKey p ∧
        SharesBucket (min left.rowCount right.rowCount) keys.leftKey keys.rightKey p)
      (keys.cells.apply (hashPairs keys.buildSide op)) := by
  have hside : keys.buildSide = .choose left.rowCount right.rowCount := by
    rw [JoinKeys.buildSide, hkeys.left_eq, hkeys.right_eq]
  have hpairs := KeyCells.enumerates_hash hkeys.cells_eq keys.buildSide op
  -- the keys are as long as their relations
  rwa [hl _ hkeys.leftKey_mem, hr _ hkeys.rightKey_mem, hside, BuildSide.hashed_choose,
    BuildSide.order_choose, ← hside] at hpairs

/-- A hash join of such relations gives these matches. -/
theorem hashJoin_ok {keys : JoinKeys}
    (hkeys : JoinKeys.Of left leftColumn right rightColumn keys) (hl : left.Rectangular)
    (hr : right.Rectangular) (op : Comparison) :
    ∃ joined pairs, (hashJoin left leftColumn right rightColumn op).outcome = .ok joined ∧
      joined.name = JoinStrategy.hash.resultName ∧
      Enumerates (if left.rowCount < right.rowCount then ByRight else ByLeft)
        (fun p => Matches op keys.leftKey keys.rightKey p ∧
          SharesBucket (min left.rowCount right.rowCount) keys.leftKey keys.rightKey p) pairs ∧
      IsJoin left leftColumn right rightColumn pairs joined := by
  have hpairs := hkeys.enumerates_hash hl hr op
  obtain ⟨joined, hrun, hname, hjoin⟩ := JoinKeys.combine_ok hkeys hl hr
    (fun p hp => hkeys.lt_rowCount hl hr ((hpairs.mem_iff p).1 hp).1) .hash
  refine ⟨joined, _, ?_, hname, hpairs, hjoin⟩
  unfold hashJoin
  rw [JoinKeys.resolve_eq_ok_iff.2 hkeys]
  exact hrun

instance (m n : Nat) : Std.Asymm (if m < n then ByRight else ByLeft) := by
  split <;> infer_instance

/-- **An equality join by hashing loses no match.**  It goes well exactly when the nested
loop join does and gives the same rows, each as often: in the same order if the right
relation is hashed, and otherwise by right row and then left row. -/
theorem hashJoin_equality_complete (hl : left.Rectangular) (hr : right.Rectangular)
    (leftColumn rightColumn : String) :
    ((∃ joined, (hashJoin left leftColumn right rightColumn .eq).outcome = .ok joined) ↔
      ∃ joined, (nestedLoopJoin left leftColumn right rightColumn .eq).outcome = .ok joined) ∧
    ∀ leftKey rightKey, left.column? leftColumn = some leftKey →
      right.column? rightColumn = some rightKey → leftKey.type = rightKey.type →
      ∃ (hashed looped : Relation) (hashedPairs loopedPairs : List RowPair),
        (hashJoin left leftColumn right rightColumn .eq).outcome = .ok hashed ∧
        (nestedLoopJoin left leftColumn right rightColumn .eq).outcome = .ok looped ∧
        hashed.schema = looped.schema ∧
        hashed.rows = .ok (hashedPairs.map (pairedRow left right)) ∧
        looped.rows = .ok (loopedPairs.map (pairedRow left right)) ∧
        (hashedPairs.map (pairedRow left right)).Perm (loopedPairs.map (pairedRow left right)) ∧
        Enumerates ByLeft (Matches .eq leftKey rightKey) loopedPairs ∧
        Enumerates (if left.rowCount < right.rowCount then ByRight else ByLeft)
          (Matches .eq leftKey rightKey) hashedPairs ∧
        (right.rowCount ≤ left.rowCount → hashed.rows = looped.rows) := by
  constructor
  · constructor
    · rintro ⟨joined, h⟩
      obtain ⟨keys, hkeys⟩ := JoinKeys.exists_of_outcome h
      obtain ⟨looped, -, hlooped, -⟩ := nestedLoopJoin_ok hkeys hl hr .eq
      exact ⟨looped, hlooped⟩
    · rintro ⟨joined, h⟩
      obtain ⟨keys, hkeys⟩ := JoinKeys.exists_of_outcome h
      obtain ⟨hashed, -, hhashed, -⟩ := hashJoin_ok hkeys hl hr .eq
      exact ⟨hashed, hhashed⟩
  · intro leftKey rightKey hlk hrk htype
    obtain ⟨keys, hresolve, rfl, rfl⟩ := JoinKeys.exists_resolve hlk hrk htype
    have hkeys := JoinKeys.resolve_eq_ok_iff.1 hresolve
    obtain ⟨hashed, hashedPairs, hhashed, -, hhashedPairs, hhashedJoin⟩ :=
      hashJoin_ok hkeys hl hr .eq
    obtain ⟨looped, loopedPairs, hlooped, -, hloopedPairs, hloopedJoin⟩ :=
      nestedLoopJoin_ok hkeys hl hr .eq
    -- equal keys share a bucket, so that every match is seen
    have hall := hhashedPairs.congr fun p =>
      and_iff_left_of_imp fun h => Matches.sharesBucket h (min left.rowCount right.rowCount)
    refine ⟨hashed, looped, hashedPairs, loopedPairs, hhashed, hlooped,
      hhashedJoin.schema_eq.trans hloopedJoin.schema_eq.symm, hhashedJoin.rows_eq,
      hloopedJoin.rows_eq, (hall.perm hloopedPairs).map _, hloopedPairs, hall, fun hle => ?_⟩
    rw [if_neg (Nat.not_lt.2 hle)] at hall
    rw [hhashedJoin.rows_eq, hloopedJoin.rows_eq, hall.unique hloopedPairs]

/-- Zero and a NaN. -/
def zeroKeys : Relation := ⟨"zero", [.ofCells "key" (.float #[⟨0⟩, ⟨0x7ff8000000000000⟩])]⟩

/-- A NaN and both zeros. -/
def signedZeroKeys : Relation :=
  ⟨"signed", [.ofCells "key" (.float #[⟨0x7ff8000000000000⟩, ⟨0x8000000000000000⟩, ⟨0⟩])]⟩

/-- Zero meets negative zero, although the smaller relation is hashed and the NaNs are not
equal. -/
theorem hashJoin_equality_complete_zeros :
    zeroKeys.Rectangular ∧ signedZeroKeys.Rectangular ∧
      ∃ (hashed : Relation) (pairs : List RowPair),
        (hashJoin zeroKeys "key" signedZeroKeys "key" .eq).outcome = .ok hashed ∧
        hashed.rows = .ok (pairs.map (pairedRow zeroKeys signedZeroKeys)) ∧
        (0, 1) ∈ pairs ∧ (1, 0) ∉ pairs := by
  have hl : zeroKeys.Rectangular := by decide
  have hr : signedZeroKeys.Rectangular := by decide
  obtain ⟨hashed, _, pairs, _, hhashed, -, -, hrows, -, -, -, hpairs, -⟩ :=
    (hashJoin_equality_complete hl hr "key" "key").2 _ _ rfl rfl rfl
  refine ⟨hl, hr, hashed, pairs, hhashed, hrows, ?_, ?_⟩
  · rw [hpairs.mem_iff]
    exact ⟨.float ⟨0⟩, .float ⟨0x8000000000000000⟩, rfl, rfl, by decide⟩
  · rw [hpairs.mem_iff]
    rintro ⟨l, r, hlk, hrk, h⟩
    cases hlk
    cases hrk
    revert h
    decide

/-- **A hash join gives exactly the matches within buckets**, each once: the pairs whose
keys satisfy the comparison and whose hashes leave the same remainder, up to sign, by the
number of rows of the smaller relation.  So it is always a selection from the nested loop
join, and empty if one side is. -/
theorem hashJoin_exact (hl : left.Rectangular) (hr : right.Rectangular) {leftKey rightKey : Column}
    (hlk : left.column? leftColumn = some leftKey)
    (hrk : right.column? rightColumn = some rightKey) (htype : leftKey.type = rightKey.type)
    (op : Comparison) :
    ∃ (hashed looped : Relation) (hashedPairs loopedPairs : List RowPair),
      (hashJoin left leftColumn right rightColumn op).outcome = .ok hashed ∧
      (nestedLoopJoin left leftColumn right rightColumn op).outcome = .ok looped ∧
      hashed.schema = joinedSchema left leftColumn right rightColumn ∧
      hashed.rows = .ok (hashedPairs.map (pairedRow left right)) ∧
      looped.rows = .ok (loopedPairs.map (pairedRow left right)) ∧
      (∀ p, p ∈ hashedPairs ↔ Matches op leftKey rightKey p ∧
        SharesBucket (min left.rowCount right.rowCount) leftKey rightKey p) ∧
      hashedPairs.Nodup ∧
      (left.rowCount < right.rowCount → hashedPairs.Pairwise ByRight) ∧
      (right.rowCount ≤ left.rowCount → hashedPairs.Pairwise ByLeft) ∧
      Enumerates ByLeft (Matches op leftKey rightKey) loopedPairs ∧
      hashedPairs.Subperm loopedPairs ∧
      (left.rowCount = 0 ∨ right.rowCount = 0 → hashed.rows = .ok []) := by
  obtain ⟨keys, hresolve, rfl, rfl⟩ := JoinKeys.exists_resolve hlk hrk htype
  have hkeys := JoinKeys.resolve_eq_ok_iff.1 hresolve
  obtain ⟨hashed, hashedPairs, hhashed, -, hhashedPairs, hhashedJoin⟩ := hashJoin_ok hkeys hl hr op
  obtain ⟨looped, loopedPairs, hlooped, -, hloopedPairs, hloopedJoin⟩ :=
    nestedLoopJoin_ok hkeys hl hr op
  refine ⟨hashed, looped, hashedPairs, loopedPairs, hhashed, hlooped, hhashedJoin.schema_eq,
    hhashedJoin.rows_eq, hloopedJoin.rows_eq, hhashedPairs.mem_iff, hhashedPairs.nodup, ?_, ?_,
    hloopedPairs, hhashedPairs.subperm hloopedPairs fun p hp => hp.1, ?_⟩
  · intro hlt
    have h := hhashedPairs.ordered
    rwa [if_pos hlt] at h
  · intro hle
    have h := hhashedPairs.ordered
    rwa [if_neg (Nat.not_lt.2 hle)] at h
  · -- a pair would lie within both sides
    intro hempty
    have hnil : hashedPairs = [] := by
      refine List.eq_nil_iff_forall_not_mem.2 fun p hp => ?_
      have hlt := hkeys.lt_rowCount hl hr ((hhashedPairs.mem_iff p).1 hp).1
      omega
    rw [hhashedJoin.rows_eq, hnil, List.map_nil]

/-- An odd key below zero, and an even one. -/
def oddEvenKeys : Relation := ⟨"odd and even", [.ofCells "key" (.int #[-3, 2])]⟩

/-- Larger keys, odd and even in turn. -/
def largerKeys : Relation := ⟨"larger", [.ofCells "key" (.int #[3, 4, 5])]⟩

/-- With two buckets an odd key meets the larger odd keys, whatever their signs, and misses
the larger even one. -/
theorem hashJoin_exact_parity :
    oddEvenKeys.Rectangular ∧ largerKeys.Rectangular ∧
      ∃ (hashed : Relation) (pairs : List RowPair),
        (hashJoin oddEvenKeys "key" largerKeys "key" .gt).outcome = .ok hashed ∧
        hashed.rows = .ok (pairs.map (pairedRow oddEvenKeys largerKeys)) ∧
        (0, 2) ∈ pairs ∧ (0, 1) ∉ pairs := by
  have hl : oddEvenKeys.Rectangular := by decide
  have hr : largerKeys.Rectangular := by decide
  have hlk : oddEvenKeys.column? "key" = some (.ofCells "key" (.int #[-3, 2])) := rfl
  have hrk : largerKeys.column? "key" = some (.ofCells "key" (.int #[3, 4, 5])) := rfl
  obtain ⟨hashed, _, pairs, _, hhashed, -, -, hrows, -, hmem, -⟩ :=
    hashJoin_exact hl hr hlk hrk rfl .gt
  refine ⟨hl, hr, hashed, pairs, hhashed, hrows, ?_, ?_⟩
  · rw [hmem]
    exact ⟨⟨.int (-3), .int 5, rfl, rfl, by decide⟩, ⟨.int (-3), .int 5, rfl, rfl, by decide⟩⟩
  · rw [hmem]
    rintro ⟨-, l, r, hlk, hrk, h⟩
    cases hlk
    cases hrk
    revert h
    decide

end Columnar
