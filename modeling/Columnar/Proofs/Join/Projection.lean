import Columnar.Proofs.Join.Refusals
import Columnar.Proofs.Projection

/-!
# Joins of projections

Of two relations a join reads the key columns, an index on the right one, and the numbers of
rows; it reads the other columns only when the pairs are known, and then each by itself.  So a
projection that keeps the keys keeps the pairs (`JoinKeys.Of.pairs_congr`), and the columns of
its join are columns of the join of the relations themselves.

What a projection may change is the position of a key, and whether the column of the key comes
again under the same name.  Neither matters: a key is looked up by name before and after, and
only what it is called depends on where it stands.

## Main results

* `JoinKeys.Of.pairs_congr` — which rows are paired is a matter of the keys.
* `joinBy_project` — **projecting before a join gives columns of the join.**
-/

namespace Columnar

variable {left right : Relation} {leftColumn rightColumn : String} {strategy : JoinStrategy}
  {op : Comparison}

/-- Joins of the same keys, of relations with the same numbers of rows, pair the same rows. -/
theorem JoinKeys.Of.pairs_congr {left' right' : Relation} {leftColumn' rightColumn' : String}
    {keys keys' : JoinKeys} (hkeys : JoinKeys.Of left leftColumn right rightColumn keys)
    (hkeys' : JoinKeys.Of left' leftColumn' right' rightColumn' keys')
    (hlk : left'.column? leftColumn' = left.column? leftColumn)
    (hrk : right'.column? rightColumn' = right.column? rightColumn)
    (hlrows : left'.rowCount = left.rowCount) (hrrows : right'.rowCount = right.rowCount) :
    keys'.pairs op strategy = keys.pairs op strategy := by
  have hleft : keys'.leftKey = keys.leftKey :=
    Option.some.inj (hkeys'.leftKey_eq.symm.trans (hlk.trans hkeys.leftKey_eq))
  have hright : keys'.rightKey = keys.rightKey :=
    Option.some.inj (hkeys'.rightKey_eq.symm.trans (hrk.trans hkeys.rightKey_eq))
  have hcells : keys'.cells = keys.cells := by
    have hcells' := hkeys'.cells_eq
    rw [hleft, hright, hkeys.cells_eq] at hcells'
    exact (Option.some.inj hcells').symm
  have hside : keys'.buildSide = keys.buildSide := by
    rw [buildSide, buildSide, hkeys'.left_eq, hkeys'.right_eq, hkeys.left_eq, hkeys.right_eq,
      hlrows, hrrows]
  cases strategy with
  | nestedLoop => rw [pairs, pairs, hcells]
  | indexNestedLoop => rw [pairs, pairs, rightIndex, rightIndex, hleft, hright]
  | hash | parallelHash => rw [pairs, pairs, hcells, hside]

/-- What is combined from the projections of two relations are columns of what is combined from
the relations. -/
theorem JoinKeys.Of.picks_combine {keys keys' : JoinKeys}
    {leftNames rightNames : List String} {pairs : List RowPair} {joined projected : Relation}
    (hkeys : JoinKeys.Of left leftColumn right rightColumn keys)
    (hkeys' : JoinKeys.Of (left.project leftNames) leftColumn (right.project rightNames)
      rightColumn keys')
    (h : (keys.combine strategy pairs).outcome = .ok joined)
    (h' : (keys'.combine strategy pairs).outcome = .ok projected) :
    Picks (left.sources leftNames ++ (right.sources rightNames).map (left.columnCount + ·))
      (joined.columns.map Column.cells) (projected.columns.map Column.cells) := by
  obtain ⟨lefts, rights, hlefts, hrights, rfl⟩ := exists_gathered h
  obtain ⟨lefts', rights', hlefts', hrights', rfl⟩ := exists_gathered h'
  rw [hkeys.left_eq] at hlefts
  rw [hkeys.right_eq] at hrights
  rw [hkeys'.left_eq] at hlefts'
  rw [hkeys'.right_eq] at hrights'
  -- what is gathered from a projection is picked from what is gathered
  obtain ⟨_, hfound, hleftpicks⟩ := (left.picks_project leftNames).exists_mapM hlefts
  obtain rfl := Except.ok.inj (hfound.symm.trans hlefts')
  obtain ⟨_, hfound', hrightpicks⟩ := (right.picks_project rightNames).exists_mapM hrights
  obtain rfl := Except.ok.inj (hfound'.symm.trans hrights')
  -- and the cells are the same under any name
  have hpicks := (hleftpicks.append hrightpicks).map Column.cells
  have hlength : left.columnCount = lefts.length := (mapM_eq_ok_iff.1 hlefts).length_eq
  rw [hlength]
  simpa only [List.map_append, map_cells_renamedAt] using hpicks

/-- **Projecting before a join gives columns of the join.**  The rows that are paired are the
same ones in the same order, and each column holds the cells of the column of the join that
has the same source. -/
theorem joinBy_project (commands : List Command) (hheld : (Session.run commands).Holds right)
    (hl : left.Rectangular) (hr : right.Rectangular) {leftKey rightKey : Column}
    (hlk : left.column? leftColumn = some leftKey)
    (hrk : right.column? rightColumn = some rightKey) (htype : leftKey.type = rightKey.type)
    (h : strategy.Supports op) {leftNames rightNames : List String}
    (hln : leftColumn ∈ leftNames) (hrn : rightColumn ∈ rightNames)
    (schedule schedule' : Schedule) :
    ∃ (l r joined projected : Relation) (pairs : List RowPair),
      (left.scan leftNames).outcome = .ok l ∧ (right.scan rightNames).outcome = .ok r ∧
      (joinBy schedule strategy left leftColumn right rightColumn op).outcome = .ok joined ∧
      (joinBy schedule' strategy l leftColumn r rightColumn op).outcome = .ok projected ∧
      joined.rows = .ok (pairs.map (pairedRow left right)) ∧
      projected.rows = .ok (pairs.map (pairedRow l r)) ∧
      projected.rowCount = joined.rowCount ∧
      Picks (left.sources leftNames ++ (right.sources rightNames).map (left.columnCount + ·))
        (joined.columns.map Column.cells) (projected.columns.map Column.cells) := by
  have hlk' := (Relation.column?_project hln).trans hlk
  have hrk' := (Relation.column?_project hrn).trans hrk
  obtain ⟨keys, hresolve, -, -⟩ := JoinKeys.exists_resolve hlk hrk htype
  obtain ⟨keys', hresolve', -, -⟩ := JoinKeys.exists_resolve hlk' hrk' htype
  have hkeys := JoinKeys.resolve_eq_ok_iff.1 hresolve
  have hkeys' := JoinKeys.resolve_eq_ok_iff.1 hresolve'
  have hpairs : keys'.pairs op strategy = keys.pairs op strategy :=
    hkeys.pairs_congr hkeys' (hlk'.trans hlk.symm) (hrk'.trans hrk.symm)
      (Relation.rowCount_project hl hln hlk) (Relation.rowCount_project hr hrn hrk)
  have htraced : right.All (Column.Traced commands) :=
    (Session.all_traced commands).of_holds hheld
  have htraced' : (right.project rightNames).All (Column.Traced commands) :=
    fun column hc => htraced column (Relation.mem_of_mem_project hc)
  obtain ⟨joined, hrun⟩ := joinBy_ok h hkeys hl hr htraced
  obtain ⟨projected, hrun'⟩ := joinBy_ok h hkeys' (Relation.rectangular_project hl leftNames)
    (Relation.rectangular_project hr rightNames) htraced'
  have hcombine := (outcome_joinBy h hkeys).symm.trans hrun
  have hcombine' := (outcome_joinBy h hkeys').symm.trans hrun'
  rw [hpairs] at hcombine'
  have hjoin := JoinKeys.isJoin_of_combine hkeys hcombine
  have hjoin' := JoinKeys.isJoin_of_combine hkeys' hcombine'
  refine ⟨_, _, joined, projected, _, rfl, rfl, hrun, hrun', hjoin.rows_eq, hjoin'.rows_eq,
    hjoin'.rowCount_eq.trans hjoin.rowCount_eq.symm, ?_⟩
  exact hkeys.picks_combine hkeys' hcombine hcombine'

/-- The index knows the first row only, before and after the projections.  Names that are asked
for twice give their column twice, and unknown ones give none. -/
theorem joinBy_project_stale :
    (Session.run Session.staleCommands).Holds staleNumbers ∧ staleNumbers.Rectangular ∧
      JoinStrategy.Supports .indexNestedLoop .eq ∧
      ∃ (l r joined projected : Relation),
        (staleNumbers.scan ["n"]).outcome = .ok l ∧
        (staleNumbers.scan ["none", "n", "n"]).outcome = .ok r ∧
        (indexNestedLoopJoin staleNumbers "n" staleNumbers "n").outcome = .ok joined ∧
        (indexNestedLoopJoin l "n" r "n").outcome = .ok projected ∧
        projected.rowCount = joined.rowCount ∧
        Picks [0, 1, 1] (joined.columns.map Column.cells)
          (projected.columns.map Column.cells) := by
  have hheld : (Session.run Session.staleCommands).Holds staleNumbers :=
    .inl (List.mem_singleton.2 rfl)
  have hrect : staleNumbers.Rectangular := by
    intro column hc
    rw [List.mem_singleton.1 hc]
    rfl
  have hkey : staleNumbers.column? "n" = some Session.staleColumn := rfl
  have hsupports : JoinStrategy.Supports .indexNestedLoop .eq := fun _ => rfl
  have hleft : "n" ∈ ["n"] := by decide
  have hright : "n" ∈ ["none", "n", "n"] := by decide
  obtain ⟨l, r, joined, projected, _, hl, hr, hrun, hrun', -, -, hcount, hpicks⟩ :=
    joinBy_project Session.staleCommands hheld hrect hrect hkey hkey rfl hsupports hleft hright
      .inOrder .inOrder
  exact ⟨hheld, hrect, hsupports, l, r, joined, projected, hl, hr, hrun, hrun', hcount, hpicks⟩

end Columnar
