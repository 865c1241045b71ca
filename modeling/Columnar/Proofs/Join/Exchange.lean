import Columnar.Proofs.Join.Listing

/-!
# Joins with the two sides exchanged

Exchanging the relations of a join, and turning the comparison around with them, exchanges the
two halves of every row and changes nothing else about what is found: a match is a match seen
from either side, two keys share a bucket whichever is hashed, and the number of buckets is
that of the rows of the smaller relation.  So it does not matter whether the strategy finds all
matches.

The order may change.  A nested loop goes by the left rows, which are now others.  A hash join
goes by the rows of the larger relation, which are still the same; only if there is no larger
one does the tie rule hash the right rows, whichever these are.

## Main definitions

* `exchangeHalves` — a joined row with its two halves exchanged.

## Main results

* `Value.holds?_mirror` — a comparison from the other side.
* `JoinStrategy.finds_swap`, `JoinStrategy.order_swap` — what is found, and in which order.
* `JoinKeys.Of.pairs_exchange` — the pairs that are listed.
* `joinBy_exchange` — **a join with its sides exchanged gives the rows with their halves
  exchanged.**
-/

namespace Columnar

/-! ### Comparisons from the other side -/

theorem Key.same_comm {α : Type} [Key α] [LawfulKey α] (x y : α) : same x y = same y x :=
  Bool.eq_iff_iff.2 ⟨LawfulKey.same_symm, LawfulKey.same_symm⟩

theorem Comparison.holds_mirror {α : Type} [Key α] [LawfulKey α] (op : Comparison) (x y : α) :
    op.mirror.holds x y = op.holds y x := by
  cases op <;> simp only [mirror, holds, Key.same_comm x y]

theorem Value.holds?_mirror (op : Comparison) (x y : Value) :
    holds? op.mirror x y = holds? op y x := by
  cases x <;> cases y <;> simp only [holds?, Comparison.holds_mirror]

/-! ### Pairs from the other side -/

section

variable {p q : RowPair} {left right : Column}

theorem paired_swap {α : Type} {left right : Nat → Option α} {related related' : α → α → Prop}
    (h : ∀ l r, related' r l ↔ related l r) :
    Paired right left related' p.swap ↔ Paired left right related p := by
  constructor
  · rintro ⟨r, l, hr, hl, hrelated⟩
    exact ⟨l, r, hl, hr, (h l r).1 hrelated⟩
  · rintro ⟨l, r, hl, hr, hrelated⟩
    exact ⟨r, l, hr, hl, (h l r).2 hrelated⟩

theorem matches_swap {op : Comparison} :
    Matches op.mirror right left p.swap ↔ Matches op left right p :=
  paired_swap fun l r => by rw [Value.holds?_mirror]

theorem sharesBucket_swap {n : Nat} :
    SharesBucket n right left p.swap ↔ SharesBucket n left right p :=
  paired_swap fun _ _ => eq_comm

theorem Enumerates.map_swap {before : RowPair → RowPair → Prop} {set : RowPair → Prop}
    {pairs : List RowPair} (h : Enumerates before set pairs) :
    Enumerates (fun p q => before p.swap q.swap) (fun p => set p.swap)
      (pairs.map Prod.swap) where
  mem_iff p := by
    rw [← h.mem_iff, List.mem_map]
    constructor
    · rintro ⟨q, hq, rfl⟩
      rwa [Prod.swap_swap]
    · intro hp
      exact ⟨p.swap, hp, p.swap_swap⟩
  ordered := by
    rw [List.pairwise_map]
    simpa only [Prod.swap_swap] using h.ordered

namespace JoinStrategy

variable {strategy : JoinStrategy} {m n : Nat}

/-- What is found does not depend on the side from which it is looked at, unless it is looked
up in an index, which only one side has. -/
theorem finds_swap (hindex : strategy ≠ .indexNestedLoop) {op : Comparison} {covered : Nat} :
    strategy.Finds op.mirror n m covered right left p.swap ↔
      strategy.Finds op m n covered left right p := by
  unfold Finds
  rw [matches_swap]
  cases strategy with
  | nestedLoop => rfl
  | indexNestedLoop => exact absurd rfl hindex
  | hash | parallelHash => rw [min_comm, sharesBucket_swap]

/-- A hash join goes by the rows of the larger relation, from whichever side. -/
theorem order_swap (hhash : strategy ≠ .nestedLoop) (hindex : strategy ≠ .indexNestedLoop)
    (hne : m ≠ n) : strategy.order n m p.swap q.swap ↔ strategy.order m n p q := by
  cases strategy with
  | nestedLoop => exact absurd rfl hhash
  | indexNestedLoop => exact absurd rfl hindex
  | hash | parallelHash =>
    unfold order
    rcases Nat.lt_or_gt_of_ne hne with hlt | hlt
    · rw [if_neg (Nat.lt_asymm hlt), if_pos hlt]
      rfl
    · rw [if_pos hlt, if_neg (Nat.lt_asymm hlt)]
      rfl

end JoinStrategy

end

/-! ### Rows from the other side -/

/-- A row in two halves, of which the first has `n` cells, with the halves exchanged. -/
def exchangeHalves (n : Nat) (row : List Value) : List Value := row.drop n ++ row.take n

theorem exchangeHalves_append {first : List Value} {n : Nat} (h : first.length = n)
    (second : List Value) : exchangeHalves n (first ++ second) = second ++ first := by
  rw [exchangeHalves, List.drop_left' h, List.take_left' h]

variable {left right : Relation} {leftColumn rightColumn : String} {leftKey rightKey : Column}
  {keys keys' : JoinKeys} {strategy : JoinStrategy} {pairs : List RowPair}

theorem length_pairedRow (hl : left.Rectangular) (hr : right.Rectangular) {p : RowPair}
    (hp : p.1 < left.rowCount ∧ p.2 < right.rowCount) :
    (pairedRow left right p).length = left.columnCount + right.columnCount := by
  rw [pairedRow, List.length_append, Relation.length_rowOf hl hp.1, Relation.length_rowOf hr hp.2]

/-- Pairs from the other side give rows with their halves exchanged. -/
theorem map_pairedRow_swap (right : Relation) (hl : left.Rectangular)
    (h : ∀ p ∈ pairs, p.1 < left.rowCount) :
    (pairs.map Prod.swap).map (pairedRow right left)
      = (pairs.map (pairedRow left right)).map (exchangeHalves left.columnCount) := by
  rw [List.map_map, List.map_map]
  refine List.map_congr_left fun p hp => ?_
  have hlength := Relation.length_rowOf hl (h p hp)
  exact (exchangeHalves_append hlength _).symm

/-! ### Joins from the other side -/

/-- A strategy lists the same pairs from either side. -/
theorem JoinKeys.Of.pairs_exchange
    (hkeys : JoinKeys.Of left leftColumn right rightColumn keys)
    (hkeys' : JoinKeys.Of right rightColumn left leftColumn keys') (hl : left.Rectangular)
    (hr : right.Rectangular) (hindex : strategy ≠ .indexNestedLoop) (op : Comparison) :
    (keys'.pairs op.mirror strategy).Perm ((keys.pairs op strategy).map Prod.swap) ∧
      (strategy ≠ .nestedLoop → left.rowCount ≠ right.rowCount →
        keys'.pairs op.mirror strategy = (keys.pairs op strategy).map Prod.swap) := by
  have hsupports (op : Comparison) : strategy.Supports op := fun h => absurd h hindex
  have hcovers (keys : JoinKeys) : keys.Covers strategy 0 := fun h => absurd h hindex
  have hpairs := hkeys.enumerates_pairs hl hr (hsupports op) (hcovers keys)
  have hpairs' := hkeys'.enumerates_pairs hr hl (hsupports op.mirror) (hcovers keys')
  have hleft : keys'.leftKey = keys.rightKey :=
    Option.some.inj (hkeys'.leftKey_eq.symm.trans hkeys.rightKey_eq)
  have hright : keys'.rightKey = keys.leftKey :=
    Option.some.inj (hkeys'.rightKey_eq.symm.trans hkeys.leftKey_eq)
  rw [hleft, hright] at hpairs'
  -- both lists hold the same pairs, one of them from the other side
  have hswapped := hpairs.map_swap.congr fun p => by
    rw [← JoinStrategy.finds_swap hindex, Prod.swap_swap]
  refine ⟨hpairs'.perm hswapped, fun hhash hne => ?_⟩
  refine hpairs'.unique ⟨hswapped.mem_iff, hswapped.ordered.imp fun {p q} hpq => ?_⟩
  exact (JoinStrategy.order_swap hhash hindex hne.symm).1 hpq

/-- **A join with its sides exchanged gives the rows with their halves exchanged.**  The
comparison is turned around with the sides.  Every row comes as often as before; from a hash
join of relations with different numbers of rows, the rows also come in the same order. -/
theorem joinBy_exchange (hindex : strategy ≠ .indexNestedLoop) (hl : left.Rectangular)
    (hr : right.Rectangular) (hlk : left.column? leftColumn = some leftKey)
    (hrk : right.column? rightColumn = some rightKey) (htype : leftKey.type = rightKey.type)
    (op : Comparison) (schedule schedule' : Schedule) :
    ∃ (joined exchanged : Relation) (rows rows' : List (List Value)),
      (joinBy schedule strategy left leftColumn right rightColumn op).outcome = .ok joined ∧
      (joinBy schedule' strategy right rightColumn left leftColumn op.mirror).outcome
        = .ok exchanged ∧
      joined.rows = .ok rows ∧ exchanged.rows = .ok rows' ∧
      (∀ row ∈ rows, row.length = left.columnCount + right.columnCount) ∧
      rows'.Perm (rows.map (exchangeHalves left.columnCount)) ∧
      (strategy ≠ .nestedLoop → left.rowCount ≠ right.rowCount →
        rows' = rows.map (exchangeHalves left.columnCount)) := by
  obtain ⟨keys, hresolve, -, -⟩ := JoinKeys.exists_resolve hlk hrk htype
  obtain ⟨keys', hresolve', -, -⟩ := JoinKeys.exists_resolve hrk hlk htype.symm
  have hkeys := JoinKeys.resolve_eq_ok_iff.1 hresolve
  have hkeys' := JoinKeys.resolve_eq_ok_iff.1 hresolve'
  have hsupports (op : Comparison) : strategy.Supports op := fun h => absurd h hindex
  have hcovers (keys : JoinKeys) : keys.Covers strategy 0 := fun h => absurd h hindex
  obtain ⟨joined, hrun, -, hjoin⟩ :=
    joinBy_isJoin hkeys hl hr (hsupports op) (hcovers keys) schedule
  obtain ⟨exchanged, hrun', -, hjoin'⟩ :=
    joinBy_isJoin hkeys' hr hl (hsupports op.mirror) (hcovers keys') schedule'
  have hinside : ∀ p ∈ keys.pairs op strategy, p.1 < left.rowCount ∧ p.2 < right.rowCount := by
    intro p hp
    have hpairs := hkeys.enumerates_pairs hl hr (hsupports op) (hcovers keys)
    exact hkeys.lt_rowCount hl hr ((hpairs.mem_iff p).1 hp).1
  have hrows := map_pairedRow_swap right hl fun p hp => (hinside p hp).1
  obtain ⟨hperm, hsame⟩ := hkeys.pairs_exchange hkeys' hl hr hindex op
  refine ⟨joined, exchanged, _, _, hrun, hrun', hjoin.rows_eq, hjoin'.rows_eq, ?_, ?_, ?_⟩
  · intro row hrow
    obtain ⟨p, hp, rfl⟩ := List.mem_map.1 hrow
    exact length_pairedRow hl hr (hinside p hp)
  · rw [← hrows]
    exact hperm.map _
  · intro hhash hne
    rw [hsame hhash hne, hrows]

/-- One, a NaN, two and three. -/
def levels : Relation :=
  ⟨"levels", [.ofCells "x" (.float #[⟨0x3ff0000000000000⟩, ⟨0x7ff8000000000000⟩,
    ⟨0x4000000000000000⟩, ⟨0x4008000000000000⟩])]⟩

/-- Three and a NaN. -/
def ceilings : Relation :=
  ⟨"ceilings", [.ofCells "y" (.float #[⟨0x4008000000000000⟩, ⟨0x7ff8000000000000⟩])]⟩

/-- With two buckets the ceiling of three misses the level of two, from either side. -/
theorem joinBy_exchange_incomplete :
    JoinStrategy.hash ≠ .indexNestedLoop ∧ levels.Rectangular ∧ ceilings.Rectangular ∧
      ∃ exchanged,
        (hashJoin ceilings "y" levels "x" .le).outcome = .ok exchanged ∧
        exchanged.rows = .ok [[.float ⟨0x4008000000000000⟩, .float ⟨0x3ff0000000000000⟩],
          [.float ⟨0x4008000000000000⟩, .float ⟨0x4008000000000000⟩]] := by
  have hindex : JoinStrategy.hash ≠ .indexNestedLoop := nofun
  have hl : levels.Rectangular := by decide
  have hr : ceilings.Rectangular := by decide
  obtain ⟨joined, exchanged, rows, rows', hrun, hrun', hrows, hrows', -, -, hsame⟩ :=
    joinBy_exchange hindex hl hr (show levels.column? "x" = some _ from rfl)
      (show ceilings.column? "y" = some _ from rfl) rfl .ge .inOrder .inOrder
  have hjoined : (hashJoin levels "x" ceilings "y" .ge).outcome.map Relation.rows
      = .ok (.ok [[.float ⟨0x3ff0000000000000⟩, .float ⟨0x4008000000000000⟩],
          [.float ⟨0x4008000000000000⟩, .float ⟨0x4008000000000000⟩]]) := rfl
  obtain rfl : rows = _ := Except.ok.inj (hrows.symm.trans
    (Except.ok.inj ((congrArg (Except.map Relation.rows) hrun).symm.trans hjoined)))
  refine ⟨hindex, hl, hr, exchanged, hrun', ?_⟩
  rw [hrows', hsame nofun (by decide)]
  rfl

end Columnar
