import Columnar.Proofs.Join.Listing

/-!
# When a join is refused

All strategies look up the same two columns before they do anything else, and no refusal can
come later: what follows only reads cells, and reading fails with a fault.  So whether a join
is refused, and with which error, is a matter of the two relations and the two names
(`KeysRefused`), and the comparison and the strategy have no part in it.  The one exception is
a strategy that cannot carry out the comparison, which is refused before the columns are looked
up.

## Main definitions

* `KeysRefused` — why two names stand for no keys of a join.

## Main results

* `JoinKeys.resolve_eq_error_iff` — when the keys of a join are refused.
* `joinBy_refused_iff` — **every strategy refuses alike.**
* `joinBy_ok` — what is not refused goes well, in every session.
-/

namespace Columnar

variable {left right : Relation} {leftColumn rightColumn : String} {op : Comparison}
  {schedule : Schedule} {strategy : JoinStrategy} {e : Error}

/-! ### The keys -/

/-- Why two names stand for no keys of a join.  The left name comes first, and the types are
compared only when both columns are there. -/
inductive KeysRefused (left : Relation) (leftColumn : String) (right : Relation)
    (rightColumn : String) : Error → Prop
  | unknownLeft (hl : leftColumn ∉ left.header) :
    KeysRefused left leftColumn right rightColumn (.unknownColumn left.name leftColumn)
  | unknownRight (hl : leftColumn ∈ left.header) (hr : rightColumn ∉ right.header) :
    KeysRefused left leftColumn right rightColumn (.unknownColumn right.name rightColumn)
  | typesDiffer {leftPosition rightPosition : Nat} {leftKey rightKey : Column}
    (hl : left.FirstNamed leftColumn leftPosition leftKey)
    (hr : right.FirstNamed rightColumn rightPosition rightKey)
    (htype : leftKey.type ≠ rightKey.type) :
    KeysRefused left leftColumn right rightColumn (.joinTypeMismatch leftKey.type rightKey.type)

/-- The cells of two columns can be compared unless the types differ. -/
theorem KeyCells.ofCells?_eq_none_iff {leftKey rightKey : Column} :
    ofCells? leftKey.cells rightKey.cells = none ↔ leftKey.type ≠ rightKey.type := by
  rw [← Option.not_isSome_iff_eq_none, isSome_ofCells?, beq_iff_eq, leftKey.type_cells,
    rightKey.type_cells]
  rfl

theorem JoinKeys.resolve_eq_error_iff :
    resolve left leftColumn right rightColumn = .error e ↔
      KeysRefused left leftColumn right rightColumn e := by
  unfold resolve
  constructor
  · intro h
    cases hl : left.resolve leftColumn with
    | error e' =>
      obtain ⟨hmem, rfl⟩ := Relation.resolve_eq_error_iff.1 hl
      rw [hl] at h
      cases h
      exact .unknownLeft hmem
    | ok l =>
      have hleft := Relation.firstNamed_iff.2 (Relation.resolve_eq_ok_iff.1 hl)
      cases hr : right.resolve rightColumn with
      | error e' =>
        obtain ⟨hmem, rfl⟩ := Relation.resolve_eq_error_iff.1 hr
        rw [hl, hr] at h
        cases h
        exact .unknownRight hleft.mem_header hmem
      | ok r =>
        have hright := Relation.firstNamed_iff.2 (Relation.resolve_eq_ok_iff.1 hr)
        simp only [hl, hr, bind, Except.bind] at h
        split at h
        · cases h
        · next hcells =>
          cases h
          exact .typesDiffer hleft hright (KeyCells.ofCells?_eq_none_iff.1 hcells)
  · intro h
    cases h with
    | unknownLeft hmem =>
      rw [Relation.resolve_eq_error_iff.2 ⟨hmem, rfl⟩]
      rfl
    | unknownRight hl hr =>
      obtain ⟨leftKey, hleft⟩ := Relation.mem_header_iff.1 hl
      obtain ⟨leftPosition, hposition⟩ := Relation.exists_position? hleft
      rw [Relation.resolve_eq_ok_iff.2 ⟨hposition, hleft⟩,
        Relation.resolve_eq_error_iff.2 ⟨hr, rfl⟩]
      rfl
    | typesDiffer hl hr htype =>
      have hleft := Relation.resolve_eq_ok_iff.2 (Relation.firstNamed_iff.1 hl)
      have hright := Relation.resolve_eq_ok_iff.2 (Relation.firstNamed_iff.1 hr)
      simp only [hleft, hright, bind, Except.bind, KeyCells.ofCells?_eq_none_iff.2 htype]

/-! ### After the keys -/

/-- Combining pairs of rows is never refused: it may read a cell that is not there, and that
is a fault. -/
theorem JoinKeys.outcome_combine_ne_refused (keys : JoinKeys) (strategy : JoinStrategy)
    (pairs : List RowPair) (e : Error) :
    (keys.combine strategy pairs).outcome ≠ .error (.refused e) := by
  unfold combine
  intro h
  cases hl : keys.left.gatherColumns (pairs.map (·.1)) with
  | error f => rw [hl] at h; cases h
  | ok lefts =>
    cases hr : keys.right.gatherColumns (pairs.map (·.2)) with
    | error f => rw [hl, hr] at h; cases h
    | ok rights => rw [hl, hr] at h; cases h

/-! ### The strategies -/

/-- **Every strategy refuses alike**: when the keys are refused, and with their error. -/
theorem joinBy_refused_iff (h : strategy.Supports op) :
    (joinBy schedule strategy left leftColumn right rightColumn op).outcome = .error (.refused e) ↔
      KeysRefused left leftColumn right rightColumn e := by
  rw [← JoinKeys.resolve_eq_error_iff]
  cases hkeys : JoinKeys.resolve left leftColumn right rightColumn with
  | error e' =>
    rw [joinBy_of_resolve_error h hkeys, Except.error.injEq, Failure.refused.injEq,
      Except.error.injEq]
  | ok keys =>
    rw [outcome_joinBy h (JoinKeys.resolve_eq_ok_iff.1 hkeys)]
    exact iff_of_false (keys.outcome_combine_ne_refused strategy _ e) nofun

/-- What is not refused goes well: with columns of equal length, and an index that came about
in a session, no row is read that is not there. -/
theorem joinBy_ok {commands : List Command} {keys : JoinKeys} (h : strategy.Supports op)
    (hkeys : JoinKeys.Of left leftColumn right rightColumn keys) (hl : left.Rectangular)
    (hr : right.Rectangular) (htraced : right.All (Column.Traced commands)) :
    ∃ joined, (joinBy schedule strategy left leftColumn right rightColumn op).outcome
      = .ok joined := by
  obtain ⟨covered, hcovers⟩ := JoinKeys.exists_covers (htraced _ hkeys.rightKey_mem) strategy
  obtain ⟨joined, hrun, -⟩ := joinBy_isJoin hkeys hl hr h hcovers schedule
  exact ⟨joined, hrun⟩

end Columnar
