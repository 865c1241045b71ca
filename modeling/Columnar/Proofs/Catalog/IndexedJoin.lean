import Columnar.Proofs.Catalog.Joins

/-!
# The join through an index, as a change of the catalog

A catalog looks up the key columns of a join through an index three times: when it checks them,
when it builds the index, and when it joins.  In between it changes the right relation, which may
be the left one as well.  None of this shows in the result.  What is found the second and the
third time is what was found the first time, up to one index; and that index is the one that the
join of the two relations would have used, be it old, or made for the occasion.

So a call does two things that have nothing to do with each other: it gives the join of the two
relations as they were, and it leaves an index behind where there was none
(`Catalog.indexNestedLoopJoin_refines`).  An index that is there already is left as it is, however
few rows it covers; so a second call finds all it needs and changes nothing.

## Main results

* `Catalog.indexNestedLoopJoin_eq_ok_iff` — when a call goes well, and with which result.
* `Catalog.indexNestedLoopJoin_twice` — a second call.
* `Catalog.indexNestedLoopJoin_refines` — **the call gives the join of the relations, and changes
  one index.**
-/

namespace Columnar

namespace Catalog

variable {c : Catalog} {left leftColumn right rightColumn : String} {l r joined : Relation}
  {keys : JoinKeys}

/-- A call goes well when the join of the relations that are found does, with its result. -/
theorem indexNestedLoopJoin_eq_ok_iff :
    (c.indexNestedLoopJoin left leftColumn right rightColumn).run.outcome = .ok joined ↔
      ∃ l r, c.find? left = some l ∧ c.find? right = some r ∧
        (Columnar.indexNestedLoopJoin l leftColumn r rightColumn).outcome = .ok joined := by
  rcases c.refused_or_keys left leftColumn right rightColumn with ⟨e, hrefused⟩ | hfound
  · rw [(indexNestedLoopJoin_of_refused hrefused).1]
    refine iff_of_false nofun ?_
    rintro ⟨l, r, hl, hr, hjoined⟩
    -- what the catalog refuses the relations refuse
    obtain ⟨keys, hkeys⟩ := JoinKeys.exists_of_outcome hjoined
    have hcheck := checkKeys_eq_error_iff.2 hrefused
    rw [checkKeys_eq_resolve hl hr, JoinKeys.resolve_eq_ok_iff.2 hkeys] at hcheck
    cases hcheck
  · obtain ⟨l, r, keys, hl, hr, hkeys⟩ := hfound
    rw [(indexNestedLoopJoin_of_keys hl hr hkeys).1]
    refine ⟨fun hjoined => ⟨l, r, hl, hr, hjoined⟩, ?_⟩
    rintro ⟨l', r', hl', hr', hjoined⟩
    obtain rfl := Option.some.inj (hl.symm.trans hl')
    obtain rfl := Option.some.inj (hr.symm.trans hr')
    exact hjoined

/-- A call that goes well has found its keys in registered relations. -/
theorem exists_keys_of_indexNestedLoopJoin
    (h : (c.indexNestedLoopJoin left leftColumn right rightColumn).run.outcome = .ok joined) :
    ∃ l r keys, c.find? left = some l ∧ c.find? right = some r ∧
      JoinKeys.Of l leftColumn r rightColumn keys := by
  obtain ⟨l, r, hl, hr, hjoined⟩ := indexNestedLoopJoin_eq_ok_iff.1 h
  obtain ⟨keys, hkeys⟩ := JoinKeys.exists_of_outcome hjoined
  exact ⟨l, r, keys, hl, hr, hkeys⟩

/-- A second call finds the same relations, but for the index that the first one built, and
builds none. -/
theorem indexNestedLoopJoin_twice (hl : c.find? left = some l) (hr : c.find? right = some r)
    (hkeys : JoinKeys.Of l leftColumn r rightColumn keys) {c' : Catalog}
    (hafter : (c.indexNestedLoopJoin left leftColumn right rightColumn).after = c') :
    (c'.indexNestedLoopJoin left leftColumn right rightColumn).run.outcome
        = (c.indexNestedLoopJoin left leftColumn right rightColumn).run.outcome ∧
      (c'.indexNestedLoopJoin left leftColumn right rightColumn).after = c' := by
  set r' := r.updateColumn rightColumn (·.buildIndex.2) with hr'
  obtain ⟨houtcome, hput⟩ := indexNestedLoopJoin_of_keys hl hr hkeys
  have hc' : c' = c.put right r' := hafter.symm.trans hput
  have hfind : c'.find? right = some r' := by rw [hc', find?_put_self]
  obtain ⟨l', hl', hsame⟩ := exists_find?_put_buildIndex hl hr rightColumn
  rw [← hr', ← hc'] at hl'
  have hright := r.upToIndexes_updateColumn rightColumn Column.UpToIndex.buildIndex
  obtain ⟨keys', hkeys', -⟩ := hsame.exists_resolve hright hkeys
  obtain ⟨houtcome', hput'⟩ := indexNestedLoopJoin_of_keys hl' hfind hkeys'
  rw [houtcome', houtcome, hput', hr', Relation.updateColumn_buildIndex_twice, ← hr']
  exact ⟨outcome_indexNestedLoopJoin_makeIndex hkeys hsame, put_find? hfind⟩

/-- **The call gives the join of the relations, and changes one index.**  This is so in every
catalog, also when both names are the same, when columns share a name, and when an index covers
fewer rows than there are.  A call goes well exactly when the join of the relations that it finds
goes well, and gives the same.  It leaves under the name of the right relation that relation, the
first column called as the right key having its own index or, if it had none, one over its cells;
and under every other name what was there.  Once more it gives the same, and changes nothing. -/
theorem indexNestedLoopJoin_refines (c : Catalog) (left leftColumn right rightColumn : String) :
    (∀ joined, (c.indexNestedLoopJoin left leftColumn right rightColumn).run.outcome = .ok joined ↔
      ∃ l r, c.find? left = some l ∧ c.find? right = some r ∧
        (Columnar.indexNestedLoopJoin l leftColumn r rightColumn).outcome = .ok joined) ∧
    ∀ joined, (c.indexNestedLoopJoin left leftColumn right rightColumn).run.outcome = .ok joined →
      ∃ c' r position key indexed,
        (c.indexNestedLoopJoin left leftColumn right rightColumn).after = c' ∧
        c.find? right = some r ∧ r.FirstNamed rightColumn position key ∧
        indexed = { key with index := some (key.index.getD (.build key.cells)) } ∧
        (∀ name, c'.find? name =
          if name = right then some { r with columns := r.columns.set position indexed }
          else c.find? name) ∧
        (c'.indexNestedLoopJoin left leftColumn right rightColumn).run.outcome = .ok joined ∧
        (c'.indexNestedLoopJoin left leftColumn right rightColumn).after = c' := by
  refine ⟨fun joined => indexNestedLoopJoin_eq_ok_iff, fun joined hjoined => ?_⟩
  obtain ⟨l, r, keys, hl, hr, hkeys⟩ := exists_keys_of_indexNestedLoopJoin hjoined
  have hfirst := hkeys.rightFirst
  obtain ⟨houtcome, hafter⟩ := indexNestedLoopJoin_twice hl hr hkeys rfl
  refine ⟨_, r, keys.rightPosition, keys.rightKey, keys.rightKey.buildIndex.2, rfl, hr, hfirst,
    Column.buildIndex_eq _, fun name => ?_, houtcome.trans hjoined, hafter⟩
  rw [(indexNestedLoopJoin_of_keys hl hr hkeys).2, Relation.updateColumn_eq_set hfirst, find?_put]
  simp only [eq_comm]

/-- Two columns of one name: the first without an index, the second with one that knows only the
first row. -/
def repeatedNumbers : Relation :=
  ⟨"numbers", [.ofCells "n" (.int #[5, 5]), Session.staleColumn]⟩

/-- Joined with itself by that name, the relation gives all pairs of its rows, and its first column
gets an index; the second keeps the one it has, and a second call has nothing left to do. -/
theorem indexNestedLoopJoin_refines_repeated :
    ∃ c c' joined, Catalog.find? c "numbers" = some repeatedNumbers ∧
      (Columnar.indexNestedLoopJoin repeatedNumbers "n" repeatedNumbers "n").outcome
          = .ok joined ∧
      joined.rowCount = 4 ∧
      (c.indexNestedLoopJoin "numbers" "n" "numbers" "n").run.outcome = .ok joined ∧
      (c.indexNestedLoopJoin "numbers" "n" "numbers" "n").after = c' ∧
      c'.find? "numbers" = some ⟨"numbers", [⟨⟨"n", .int⟩, .int #[5, 5],
        some (.build (.int #[5, 5])), rfl⟩, Session.staleColumn]⟩ ∧
      (c'.indexNestedLoopJoin "numbers" "n" "numbers" "n").run.outcome = .ok joined ∧
      (c'.indexNestedLoopJoin "numbers" "n" "numbers" "n").after = c' := by
  let c := Catalog.empty.put "numbers" repeatedNumbers
  have hfind : c.find? "numbers" = some repeatedNumbers := find?_put_self _ _ _
  let fives : Cells := .int #[5, 5, 5, 5]
  let joined : Relation := ⟨"IndexNestedLoopJoin", [.ofCells "n (first)" fives, .ofCells "n" fives,
    .ofCells "n (second)" fives, .ofCells "n" fives]⟩
  have hjoined : (Columnar.indexNestedLoopJoin repeatedNumbers "n" repeatedNumbers "n").outcome
      = .ok joined := rfl
  obtain ⟨hiff, hchange⟩ := indexNestedLoopJoin_refines c "numbers" "n" "numbers" "n"
  have hcall := (hiff joined).2 ⟨_, _, hfind, hfind, hjoined⟩
  obtain ⟨c', r, position, key, indexed, hc', hr, hkey, rfl, hafter, htwice⟩ :=
    hchange joined hcall
  refine ⟨c, c', joined, hfind, hjoined, rfl, hcall, hc', ?_, htwice⟩
  obtain rfl := Option.some.inj (hfind.symm.trans hr)
  obtain ⟨hposition, hcolumn⟩ := Relation.firstNamed_iff.1 hkey
  cases hposition
  cases hcolumn
  exact hafter "numbers"

end Catalog

end Columnar
