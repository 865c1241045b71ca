import Columnar.Proofs.Join.Listing

/-!
# Joins row by row

A pair of rows is joined or not for the two keys in it, and for nothing else that the rows are
made of or where they stand.  So a join can be read without positions: it goes through the left
rows, and for each through the right rows whose keys go with its own.  Whatever is then done to
the rows of one side, whether they are put in another order or fewer of them are taken, is done
to a list.

## Main definitions

* `JoinStrategy.accepts` — two keys go together.
* `cellsRelated` — two rows go together for the cells at two positions.
* `relatedRows` — the rows of two lists that go together, one behind the other.
* `Column.UpToDate` — an index, if there is one, knows all rows.
* `JoinStrategy.Complete`, `rowsMatch` — all matches are found, and these are the rows that match.

## Main results

* `relatedRows_perm`, `filter_relatedRows` — the rows put in another order, or filtered.
* `JoinKeys.Of.paired_iff` — what is said of keys, said of the rows that hold them.
* `joinBy_relatedRows` — **a join gives the rows that go together.**
* `joinBy_matchingRows` — **a strategy that finds all matches gives the rows that match.**
-/

namespace Columnar

/-! ### Rows that go together -/

/-- The left rows in turn, each followed by the right rows that go together with it. -/
def relatedRows (related : List Value → List Value → Bool) (lefts rights : List (List Value)) :
    List (List Value) :=
  lefts.flatMap fun l => (rights.filter (related l)).map (l ++ ·)

section

variable {related : List Value → List Value → Bool}
  {lefts lefts' rights rights' : List (List Value)}

/-- With the rows of both sides in another order, the same rows go together. -/
theorem relatedRows_perm (hl : lefts'.Perm lefts) (hr : rights'.Perm rights) :
    (relatedRows related lefts' rights').Perm (relatedRows related lefts rights) :=
  hl.flatMap fun _ _ => (hr.filter _).map _

/-- A test of the left halves may come before as well as after. -/
theorem filter_relatedRows {passes : List Value → Bool}
    (h : ∀ l ∈ lefts, ∀ r, passes (l ++ r) = passes l) :
    (relatedRows related lefts rights).filter passes
      = relatedRows related (lefts.filter passes) rights := by
  unfold relatedRows
  induction lefts with
  | nil => rfl
  | cons l lefts ih =>
    have hhead := h l List.mem_cons_self
    rw [List.flatMap_cons, List.filter_append, List.filter_map,
      ih fun l hl => h l (List.mem_cons_of_mem _ hl)]
    by_cases hpasses : passes l = true
    · rw [List.filter_cons_of_pos hpasses, List.flatMap_cons]
      congr 2
      exact List.filter_eq_self.2 fun r _ => (hhead r).trans hpasses
    · rw [List.filter_cons_of_neg hpasses]
      have hnone : (rights.filter (related l)).filter (passes ∘ (l ++ ·)) = [] :=
        List.filter_eq_nil_iff.2 fun r _ => (hhead r).trans_ne hpasses
      rw [hnone, List.map_nil, List.nil_append]

end

/-! ### Keys that go together -/

/-- Two rows go together for the cells at two positions. -/
def cellsRelated (leftPosition rightPosition : Nat) (related : Value → Value → Bool)
    (l r : List Value) : Bool :=
  l[leftPosition]?.any fun x => r[rightPosition]?.any (related x)

/-- Two keys go together: they satisfy the comparison, and share one of `n` buckets if the
strategy hashes. -/
def JoinStrategy.accepts (strategy : JoinStrategy) (op : Comparison) (n : Nat) (l r : Value) :
    Bool :=
  Value.holds? op r l == some true &&
    match strategy with
    | .nestedLoop | .indexNestedLoop => true
    | .hash | .parallelHash =>
      l.bucketHash.toInt.natAbs % n == r.bucketHash.toInt.natAbs % n

/-- For an equality the strategy and the number of buckets do not matter. -/
theorem JoinStrategy.accepts_eq (strategy : JoinStrategy) (n : Nat) (l r : Value) :
    strategy.accepts .eq n l r = (Value.holds? .eq r l == some true) := by
  unfold accepts
  by_cases h : Value.holds? .eq r l = some true
  · have hhash : r.bucketHash = l.bucketHash := Value.bucketHash_eq h
    cases strategy <;> simp [hhash]
  · cases strategy <;> simp [h]

/-- What a strategy finds are the pairs of keys that go together, as far as an index reaches. -/
theorem JoinStrategy.finds_iff {strategy : JoinStrategy} {op : Comparison} {m n covered : Nat}
    {leftKey rightKey : Column} {p : RowPair} :
    strategy.Finds op m n covered leftKey rightKey p ↔
      Paired leftKey.get? rightKey.get? (fun l r => strategy.accepts op (min m n) l r = true) p ∧
        (strategy = .indexNestedLoop → p.2 < covered) := by
  cases strategy with
  | nestedLoop => simp [Finds, Matches, accepts]
  | indexNestedLoop => simp [Finds, Matches, accepts]
  | hash | parallelHash => simp [Finds, Matches, SharesBucket, accepts, paired_and]

/-! ### Pairs of positions -/

/-- The positions of two rows that go together. -/
def RowsRelated (left right : Relation) (related : List Value → List Value → Bool)
    (p : RowPair) : Prop :=
  (p.1 < left.rowCount ∧ p.2 < right.rowCount) ∧
    related (left.rowOf p.1) (right.rowOf p.2) = true

instance (left right : Relation) (related : List Value → List Value → Bool) :
    DecidablePred (RowsRelated left right related) :=
  fun _ => inferInstanceAs (Decidable (_ ∧ _))

/-- Listed by left row and then right row, these positions are those of the related rows. -/
theorem exists_enumerates_rowsRelated (left right : Relation)
    (related : List Value → List Value → Bool) :
    ∃ pairs, Enumerates ByLeft (RowsRelated left right related) pairs ∧
      pairs.map (pairedRow left right) = relatedRows related left.rowList right.rowList := by
  have hinside : ∀ p, RowsRelated left right related p →
      p.1 < left.rowCount ∧ p.2 < right.rowCount := fun _ hp => hp.1
  refine ⟨_, enumerates_range hinside, ?_⟩
  unfold relatedRows Relation.rowList
  rw [List.map_flatMap, List.flatMap_map]
  refine List.flatMap_congr fun i hi => ?_
  have htest : ∀ j ∈ List.range right.rowCount,
      decide (RowsRelated left right related (i, j))
        = related (left.rowOf i) (right.rowOf j) := by
    intro j hj
    simp [RowsRelated, List.mem_range.1 hi, List.mem_range.1 hj]
  rw [List.filter_congr htest, List.filter_map, List.map_map, List.map_map]
  rfl

section

variable {left right : Relation} {leftColumn rightColumn : String} {keys : JoinKeys}
  {strategy : JoinStrategy} {op : Comparison} {p : RowPair}

theorem JoinKeys.Of.type_eq (hkeys : JoinKeys.Of left leftColumn right rightColumn keys) :
    keys.leftKey.type = keys.rightKey.type := by
  have hsome := KeyCells.isSome_ofCells? keys.leftKey.cells keys.rightKey.cells
  rw [hkeys.cells_eq, Option.isSome_some, keys.leftKey.type_cells,
    keys.rightKey.type_cells] at hsome
  exact beq_iff_eq.1 hsome.symm

/-- What two rows hold at the positions of the keys are the keys in these rows. -/
theorem JoinKeys.Of.cellsRelated_rowOf
    (hkeys : JoinKeys.Of left leftColumn right rightColumn keys)
    (hl : left.Rectangular) (hr : right.Rectangular) (related : Value → Value → Bool)
    (hleft : p.1 < left.rowCount) (hright : p.2 < right.rowCount) :
    cellsRelated keys.leftPosition keys.rightPosition related (left.rowOf p.1) (right.rowOf p.2)
      = (keys.leftKey.get? p.1).any fun x => (keys.rightKey.get? p.2).any (related x) := by
  rw [cellsRelated, Relation.getElem?_rowOf hl hleft hkeys.leftFirst.getElem?_eq,
    Relation.getElem?_rowOf hr hright hkeys.rightFirst.getElem?_eq]

/-- Keys go together exactly if the rows that hold them do. -/
theorem JoinKeys.Of.paired_iff (hkeys : JoinKeys.Of left leftColumn right rightColumn keys)
    (hl : left.Rectangular) (hr : right.Rectangular) (related : Value → Value → Bool) :
    Paired keys.leftKey.get? keys.rightKey.get? (fun l r => related l r = true) p ↔
      RowsRelated left right
        (cellsRelated keys.leftPosition keys.rightPosition related) p := by
  constructor
  · rintro ⟨l, r, hleft, hright, hrelated⟩
    have hleftLt : p.1 < left.rowCount := by
      rw [← hl _ hkeys.leftKey_mem]
      exact Cells.get?_lt hleft
    have hrightLt : p.2 < right.rowCount := by
      rw [← hr _ hkeys.rightKey_mem]
      exact Cells.get?_lt hright
    refine ⟨⟨hleftLt, hrightLt⟩, ?_⟩
    rw [hkeys.cellsRelated_rowOf hl hr related hleftLt hrightLt, hleft, hright]
    exact hrelated
  · rintro ⟨⟨hleftLt, hrightLt⟩, hcells⟩
    rw [hkeys.cellsRelated_rowOf hl hr related hleftLt hrightLt] at hcells
    obtain ⟨l, hleft, hcells⟩ := (Option.any_eq_true _ _).1 hcells
    obtain ⟨r, hright, hrelated⟩ := (Option.any_eq_true _ _).1 hcells
    exact ⟨l, r, hleft, hright, hrelated⟩

/-- Under the same signatures a join finds its keys at the same positions. -/
theorem JoinKeys.Of.exists_of_schema_eq {left' right' : Relation}
    (hkeys : JoinKeys.Of left leftColumn right rightColumn keys)
    (hl : left'.schema = left.schema) (hr : right'.schema = right.schema) :
    ∃ keys', JoinKeys.Of left' leftColumn right' rightColumn keys' ∧
      keys'.leftPosition = keys.leftPosition ∧ keys'.rightPosition = keys.rightPosition := by
  obtain ⟨leftKey', hlk', hleft⟩ := hkeys.leftFirst.of_schema_eq hl
  obtain ⟨rightKey', hrk', hright⟩ := hkeys.rightFirst.of_schema_eq hr
  obtain ⟨hlp', hleftKey⟩ := Relation.firstNamed_iff.1 hlk'
  obtain ⟨hrp', hrightKey⟩ := Relation.firstNamed_iff.1 hrk'
  have htype : leftKey'.type = rightKey'.type := by
    rw [Column.type, Column.type, hleft, hright]
    exact hkeys.type_eq
  obtain ⟨keys', hresolve, -, -⟩ := JoinKeys.exists_resolve hleftKey hrightKey htype
  have hkeys' := JoinKeys.resolve_eq_ok_iff.1 hresolve
  exact ⟨keys', hkeys', Option.some.inj (hkeys'.leftPosition_eq.symm.trans hlp'),
    Option.some.inj (hkeys'.rightPosition_eq.symm.trans hrp')⟩

/-- The signatures of a join depend on those of the two relations alone. -/
theorem joinedSchema_congr {left' right' : Relation} (hl : left'.schema = left.schema)
    (hr : right'.schema = right.schema) (leftColumn rightColumn : String) :
    joinedSchema left' leftColumn right' rightColumn
      = joinedSchema left leftColumn right rightColumn := by
  unfold joinedSchema
  rw [hl, hr]

/-- Two rows go together in a join by their key cells. -/
def JoinKeys.relates (keys : JoinKeys) (strategy : JoinStrategy) (op : Comparison) :
    List Value → List Value → Bool :=
  cellsRelated keys.leftPosition keys.rightPosition
    (strategy.accepts op (min keys.left.rowCount keys.right.rowCount))

/-- **A join gives the rows that go together**, in the order of the two row lists unless the
left rows are hashed. -/
theorem joinBy_relatedRows (hkeys : JoinKeys.Of left leftColumn right rightColumn keys)
    (hl : left.Rectangular) (hr : right.Rectangular) (h : strategy.Supports op)
    (hcovers : keys.Covers strategy right.rowCount) (schedule : Schedule) :
    ∃ joined, (joinBy schedule strategy left leftColumn right rightColumn op).outcome
        = .ok joined ∧
      joined.schema = joinedSchema left leftColumn right rightColumn ∧ joined.Rectangular ∧
      joined.rowList.Perm (relatedRows (keys.relates strategy op) left.rowList right.rowList) ∧
      (strategy.order left.rowCount right.rowCount = ByLeft →
        joined.rowList = relatedRows (keys.relates strategy op) left.rowList right.rowList) := by
  obtain ⟨joined, hrun, -, hjoin⟩ := joinBy_isJoin hkeys hl hr h hcovers schedule
  have hrows : joined.rowList = (keys.pairs op strategy).map (pairedRow left right) :=
    Except.ok.inj ((Relation.rows_eq hjoin.rectangular).symm.trans hjoin.rows_eq)
  have hfinds (p : RowPair) :
      strategy.Finds op left.rowCount right.rowCount right.rowCount keys.leftKey keys.rightKey p
        ↔ RowsRelated left right (keys.relates strategy op) p := by
    rw [JoinStrategy.finds_iff, hkeys.paired_iff hl hr, JoinKeys.relates, hkeys.left_eq,
      hkeys.right_eq]
    exact and_iff_left_of_imp fun hp _ => hp.1.2
  have hpairs := (hkeys.enumerates_pairs hl hr h hcovers).congr hfinds
  obtain ⟨pairs, hall, hrelated⟩ :=
    exists_enumerates_rowsRelated left right (keys.relates strategy op)
  refine ⟨joined, hrun, hjoin.schema_eq, hjoin.rectangular, ?_, fun horder => ?_⟩
  · rw [hrows, ← hrelated]
    exact (hpairs.perm hall).map _
  · rw [horder] at hpairs
    rw [hrows, ← hrelated, hpairs.unique hall]

/-! ### Up-to-date indexes -/

/-- A column has no index, or one over all its rows. -/
def Column.UpToDate (column : Column) : Prop :=
  ∀ index, column.index = some index → index = .build column.cells

theorem Column.UpToDate.of_unindexed {column : Column} (h : column.index = none) :
    column.UpToDate := by
  intro index hindex
  rw [h] at hindex
  cases hindex

/-- An index that is up to date covers all rows, as does one that is built for the join. -/
theorem JoinKeys.Of.covers_of_upToDate
    (hkeys : JoinKeys.Of left leftColumn right rightColumn keys) (hr : right.Rectangular)
    (hindex : keys.rightKey.UpToDate) (strategy : JoinStrategy) :
    keys.Covers strategy right.rowCount := by
  intro _
  rw [← hr _ hkeys.rightKey_mem, Column.size, Cells.firstRows_size, rightIndex]
  cases hkey : keys.rightKey.index with
  | none => rfl
  | some index => exact hindex index hkey

/-! ### Strategies that find all matches -/

/-- A strategy finds all matches of a comparison, however many rows there are. -/
def JoinStrategy.Complete (strategy : JoinStrategy) (op : Comparison) : Prop :=
  strategy = .nestedLoop ∨ op = .eq

theorem JoinStrategy.Complete.supports (h : strategy.Complete op) : strategy.Supports op := by
  rintro rfl
  exact h.resolve_left nofun

/-- Two rows match for the cells at two positions. -/
def rowsMatch (leftPosition rightPosition : Nat) (op : Comparison) :
    List Value → List Value → Bool :=
  cellsRelated leftPosition rightPosition fun l r => Value.holds? op r l == some true

/-- Then two rows go together if they match. -/
theorem JoinStrategy.Complete.relates_eq (h : strategy.Complete op) (keys : JoinKeys) :
    keys.relates strategy op = rowsMatch keys.leftPosition keys.rightPosition op := by
  unfold JoinKeys.relates rowsMatch
  congr 1
  funext l r
  rcases h with rfl | rfl
  · exact Bool.and_true _
  · exact accepts_eq strategy _ l r

/-- **A strategy that finds all matches gives the rows that match**; a nested loop, and a search
in an index, in the order of the two row lists. -/
theorem joinBy_matchingRows (hkeys : JoinKeys.Of left leftColumn right rightColumn keys)
    (hl : left.Rectangular) (hr : right.Rectangular) (h : strategy.Complete op)
    (hcovers : keys.Covers strategy right.rowCount) (schedule : Schedule) :
    ∃ joined, (joinBy schedule strategy left leftColumn right rightColumn op).outcome
        = .ok joined ∧
      joined.schema = joinedSchema left leftColumn right rightColumn ∧ joined.Rectangular ∧
      joined.rowList.Perm (relatedRows
        (rowsMatch keys.leftPosition keys.rightPosition op) left.rowList right.rowList) ∧
      (strategy = .nestedLoop ∨ strategy = .indexNestedLoop →
        joined.rowList = relatedRows
          (rowsMatch keys.leftPosition keys.rightPosition op) left.rowList right.rowList) := by
  obtain ⟨joined, hrun, hschema, hrect, hperm, hsame⟩ :=
    joinBy_relatedRows hkeys hl hr h.supports hcovers schedule
  rw [h.relates_eq] at hperm hsame
  refine ⟨joined, hrun, hschema, hrect, hperm, fun hloop => hsame ?_⟩
  rcases hloop with rfl | rfl <;> rfl

end

end Columnar
