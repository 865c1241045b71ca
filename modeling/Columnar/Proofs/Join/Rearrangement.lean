import Columnar.Proofs.Join.RowWise

/-!
# Joins of rows in another order

Where a row stands decides when a join comes by it, and into which places of a bucket or of an
entry of an index its position goes; it does not decide which rows it is joined with.  So if the
rows of both relations are put in any other order, the rows of the join come in another order
too, and are otherwise the same ones, each as often.  This is so for a hash join that does not
find all matches as well: which of them it misses is a matter of the keys and of the number of
buckets, and both are the same in any order.

An index has to know all the rows there are.  If it knows the first rows only, it depends on
the order which these are.

## Main definitions

* `Relation.Rearranges` — a relation has the rows of another in some order.

## Main results

* `joinBy_rearrange` — **rearranging the rows of both relations rearranges those of the join.**
-/

namespace Columnar

/-- A relation has the signatures of another, and its rows in some order. -/
structure Relation.Rearranges (r r' : Relation) : Prop where
  /-- The columns are the same ones. -/
  schema_eq : r'.schema = r.schema
  /-- The columns have equal lengths. -/
  rectangular : r'.Rectangular
  /-- The rows are the same ones, each as often. -/
  perm : r'.rowList.Perm r.rowList

theorem Relation.Rearranges.rowCount_eq {r r' : Relation} (h : r.Rearranges r') :
    r'.rowCount = r.rowCount := by
  have hlength := h.perm.length_eq
  rwa [length_rowList, length_rowList] at hlength

variable {left left' right right' : Relation} {leftColumn rightColumn : String}
  {leftKey rightKey rightKey' : Column} {strategy : JoinStrategy} {op : Comparison}

/-- **Rearranging the rows of both relations rearranges those of the join**: it has the same
signatures and the same rows, each as often. -/
theorem joinBy_rearrange (h : strategy.Supports op) (hl : left.Rectangular)
    (hr : right.Rectangular) (hleft : left.Rearranges left') (hright : right.Rearranges right')
    (hlk : left.column? leftColumn = some leftKey)
    (hrk : right.column? rightColumn = some rightKey)
    (hrk' : right'.column? rightColumn = some rightKey') (htype : leftKey.type = rightKey.type)
    (hindex : rightKey.UpToDate) (hindex' : rightKey'.UpToDate)
    (schedule schedule' : Schedule) :
    ∃ (joined joined' : Relation) (rows rows' : List (List Value)),
      (joinBy schedule strategy left leftColumn right rightColumn op).outcome = .ok joined ∧
      (joinBy schedule' strategy left' leftColumn right' rightColumn op).outcome
        = .ok joined' ∧
      joined'.schema = joined.schema ∧
      joined.rows = .ok rows ∧ joined'.rows = .ok rows' ∧ rows'.Perm rows := by
  obtain ⟨keys, hresolve, rfl, rfl⟩ := JoinKeys.exists_resolve hlk hrk htype
  have hkeys := JoinKeys.resolve_eq_ok_iff.1 hresolve
  obtain ⟨keys', hkeys', hlp, hrp⟩ := hkeys.exists_of_schema_eq hleft.schema_eq hright.schema_eq
  obtain rfl := Option.some.inj (hrk'.symm.trans hkeys'.rightKey_eq)
  have hcovers := hkeys.covers_of_upToDate hr hindex strategy
  have hcovers' := hkeys'.covers_of_upToDate hright.rectangular hindex' strategy
  obtain ⟨joined, hrun, hschema, hrect, hrows, -⟩ :=
    joinBy_relatedRows hkeys hl hr h hcovers schedule
  obtain ⟨joined', hrun', hschema', hrect', hrows', -⟩ :=
    joinBy_relatedRows hkeys' hleft.rectangular hright.rectangular h hcovers' schedule'
  -- the keys stand in the same places, and there are as many rows
  have hrelates : keys'.relates strategy op = keys.relates strategy op := by
    rw [JoinKeys.relates, JoinKeys.relates, hlp, hrp, hkeys'.left_eq, hkeys'.right_eq,
      hkeys.left_eq, hkeys.right_eq, hleft.rowCount_eq, hright.rowCount_eq]
  rw [hrelates] at hrows'
  refine ⟨joined, joined', _, _, hrun, hrun', ?_, Relation.rows_eq hrect,
    Relation.rows_eq hrect', ?_⟩
  · rw [hschema', hschema, joinedSchema_congr hleft.schema_eq hright.schema_eq]
  · calc joined'.rowList
      _ |>.Perm (relatedRows (keys.relates strategy op) left'.rowList right'.rowList) := hrows'
      _ |>.Perm (relatedRows (keys.relates strategy op) left.rowList right.rowList) :=
        relatedRows_perm hleft.perm hright.perm
      _ |>.Perm joined.rowList := hrows.symm

/-- The odd and the even key, the even one first. -/
def evenOddKeys : Relation := ⟨"even and odd", [.ofCells "key" (.int #[2, -3])]⟩

/-- The larger keys in another order, with an index over them. -/
def shuffledKeys : Relation :=
  ⟨"shuffled", [⟨⟨"key", .int⟩, .int #[5, 3, 4], some (.build (.int #[5, 3, 4])), rfl⟩]⟩

/-- The odd key still misses the larger even one, and the even key the larger odd ones. -/
theorem joinBy_rearrange_incomplete :
    oddEvenKeys.Rearranges evenOddKeys ∧ largerKeys.Rearranges shuffledKeys ∧
      ∃ joined rows, (hashJoin evenOddKeys "key" shuffledKeys "key" .gt).outcome = .ok joined ∧
        joined.schema = [⟨"key (first)", .int⟩, ⟨"key (second)", .int⟩] ∧
        joined.rows = .ok rows ∧
        rows.Perm [[.int (-3), .int 3], [.int (-3), .int 5], [.int 2, .int 4]] := by
  have hleft : oddEvenKeys.Rearranges evenOddKeys := ⟨rfl, by decide, by decide⟩
  have hright : largerKeys.Rearranges shuffledKeys := ⟨rfl, by decide, by decide⟩
  have hfresh : (Column.ofCells "key" (.int #[3, 4, 5])).UpToDate := nofun
  have hindexed : (⟨⟨"key", .int⟩, .int #[5, 3, 4], some (.build (.int #[5, 3, 4])), rfl⟩ :
      Column).UpToDate := by
    intro index hindex
    cases hindex
    rfl
  obtain ⟨joined, joined', rows, rows', hrun, hrun', hschema, hrows, hrows', hperm⟩ :=
    joinBy_rearrange (show JoinStrategy.hash.Supports .gt from nofun) (by decide) (by decide)
      hleft hright
      (show oddEvenKeys.column? "key" = some _ from rfl)
      (show largerKeys.column? "key" = some _ from rfl)
      (show shuffledKeys.column? "key" = some _ from rfl) rfl hfresh hindexed .inOrder .reversed
  have hjoined : (hashJoin oddEvenKeys "key" largerKeys "key" .gt).outcome.map
        (fun joined => (joined.schema, joined.rows))
      = .ok ([⟨"key (first)", .int⟩, ⟨"key (second)", .int⟩],
        .ok [[.int (-3), .int 3], [.int 2, .int 4], [.int (-3), .int 5]]) := rfl
  have hsame := (congrArg (Except.map fun joined => (joined.schema, joined.rows)) hrun).symm.trans
    hjoined
  obtain ⟨hschema', hrows''⟩ := Prod.mk.inj (Except.ok.inj hsame)
  obtain rfl := Except.ok.inj (hrows.symm.trans hrows'')
  exact ⟨hleft, hright, joined', rows', hrun', hschema.trans hschema', hrows',
    hperm.trans (by decide)⟩

end Columnar
