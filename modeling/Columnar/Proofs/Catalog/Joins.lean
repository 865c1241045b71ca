import Columnar.Proofs.Index.Building
import Columnar.Proofs.Join.Refusals

/-!
# Joins of registered relations

A join by name looks both relations up, and their key columns, before anything happens.  Three
of the strategies then join what was found and leave the catalog alone.  The join through an
index goes another way: it checks the keys, builds the index on the registered relation, and
looks everything up again.  Both ways come to the same.  The relations that are found the second
time are those of the first, up to the index, so the join gives what it gives between the
relations themselves (`Catalog.outcome_join`); and an index is built only when nothing can be
refused any more.  What can still go wrong then is that a row is missing in a column, and the
index stays after such a fault.

## Main definitions

* `Catalog.JoinRefused` — why a join of two names is refused.
* `JoinCall`, `Catalog.call` — the ways to ask a catalog for a join.

## Main results

* `Catalog.outcome_join` — a join by name is the join of the relations found.
* `Catalog.join_refused_iff`, `Catalog.after_join_of_refused` — when it is refused, and that
  nothing has changed then.
* `Catalog.call_refused_uniformly` — **all ways to ask for a join refuse alike, and leave the
  catalog as it was.**
-/

namespace Columnar

namespace Catalog

variable {c : Catalog} {name left leftColumn right rightColumn : String} {l r : Relation}
  {keys : JoinKeys} {schedule : Schedule} {strategy : JoinStrategy} {op : Comparison} {e : Error}

/-! ### Reasons for a refusal -/

/-- Why a join of two names is refused: the relations are looked up before their columns, and
the left one before the right one. -/
inductive JoinRefused (c : Catalog) (left leftColumn right rightColumn : String) : Error → Prop
  | unknownLeft (hl : c.find? left = none) :
    JoinRefused c left leftColumn right rightColumn (.unknownRelation left)
  | unknownRight {l : Relation} (hl : c.find? left = some l) (hr : c.find? right = none) :
    JoinRefused c left leftColumn right rightColumn (.unknownRelation right)
  | keys {l r : Relation} {e : Error} (hl : c.find? left = some l) (hr : c.find? right = some r)
    (hkeys : KeysRefused l leftColumn r rightColumn e) :
    JoinRefused c left leftColumn right rightColumn e

theorem find_of_find?_none (h : c.find? name = none) :
    c.find name = .error (.unknownRelation name) := by
  rw [find, h]

theorem checkKeys_eq_resolve (hl : c.find? left = some l) (hr : c.find? right = some r) :
    c.checkKeys left leftColumn right rightColumn
      = (JoinKeys.resolve l leftColumn r rightColumn).map fun _ => () := by
  unfold checkKeys
  rw [find_eq_ok_iff.2 hl, find_eq_ok_iff.2 hr]
  show (JoinKeys.resolve l leftColumn r rightColumn >>= fun _ => .ok ()) = _
  cases JoinKeys.resolve l leftColumn r rightColumn <;> rfl

/-- The check that comes before an index is built says when a join is refused. -/
theorem checkKeys_eq_error_iff :
    c.checkKeys left leftColumn right rightColumn = .error e ↔
      c.JoinRefused left leftColumn right rightColumn e := by
  constructor
  · intro h
    cases hl : c.find? left with
    | none =>
      rw [checkKeys, find_of_find?_none hl] at h
      cases h
      exact .unknownLeft hl
    | some l =>
      cases hr : c.find? right with
      | none =>
        rw [checkKeys, find_eq_ok_iff.2 hl, find_of_find?_none hr] at h
        cases h
        exact .unknownRight hl hr
      | some r =>
        rw [checkKeys_eq_resolve hl hr] at h
        cases hresolve : JoinKeys.resolve l leftColumn r rightColumn with
        | ok keys => rw [hresolve] at h; cases h
        | error e' =>
          rw [hresolve] at h
          cases h
          exact .keys hl hr (JoinKeys.resolve_eq_error_iff.1 hresolve)
  · intro h
    cases h with
    | unknownLeft hl =>
      rw [checkKeys, find_of_find?_none hl]
      rfl
    | unknownRight hl hr =>
      rw [checkKeys, find_eq_ok_iff.2 hl, find_of_find?_none hr]
      rfl
    | keys hl hr hkeys =>
      rw [checkKeys_eq_resolve hl hr, JoinKeys.resolve_eq_error_iff.2 hkeys]
      rfl

theorem JoinRefused.unique {e' : Error} (h : c.JoinRefused left leftColumn right rightColumn e)
    (h' : c.JoinRefused left leftColumn right rightColumn e') : e = e' := by
  have heq := (checkKeys_eq_error_iff.2 h).symm.trans (checkKeys_eq_error_iff.2 h')
  exact Except.error.inj heq

/-- A join is refused, or its keys are found in registered relations. -/
theorem refused_or_keys (c : Catalog) (left leftColumn right rightColumn : String) :
    (∃ e, c.JoinRefused left leftColumn right rightColumn e) ∨
      ∃ l r keys, c.find? left = some l ∧ c.find? right = some r ∧
        JoinKeys.Of l leftColumn r rightColumn keys := by
  cases hl : c.find? left with
  | none => exact .inl ⟨_, .unknownLeft hl⟩
  | some l =>
    cases hr : c.find? right with
    | none => exact .inl ⟨_, .unknownRight hl hr⟩
    | some r =>
      cases hresolve : JoinKeys.resolve l leftColumn r rightColumn with
      | error e => exact .inl ⟨e, .keys hl hr (JoinKeys.resolve_eq_error_iff.1 hresolve)⟩
      | ok keys => exact .inr ⟨l, r, keys, rfl, rfl, JoinKeys.resolve_eq_ok_iff.1 hresolve⟩

/-! ### The joins that only read -/

theorem outcome_joinWith (hl : c.find? left = some l) (hr : c.find? right = some r)
    (f : Relation → Relation → Run Relation) :
    (c.joinWith left right f).outcome = (f l r).outcome := by
  unfold joinWith
  rw [find_eq_ok_iff.2 hl, find_eq_ok_iff.2 hr]
  rfl

theorem outcome_joinWith_of_refused {f : Relation → Relation → Run Relation}
    (hf : ∀ {l r e}, KeysRefused l leftColumn r rightColumn e →
      (f l r).outcome = .error (.refused e))
    (h : c.JoinRefused left leftColumn right rightColumn e) :
    (c.joinWith left right f).outcome = .error (.refused e) := by
  cases h with
  | unknownLeft hl =>
    rw [joinWith, find_of_find?_none hl]
    rfl
  | unknownRight hl hr =>
    rw [joinWith, find_eq_ok_iff.2 hl, find_of_find?_none hr]
    rfl
  | keys hl hr hkeys => rw [outcome_joinWith hl hr, hf hkeys]

/-! ### The join that builds an index -/

/-- A join through an index that is refused is refused before the index is built. -/
theorem indexNestedLoopJoin_of_refused (h : c.JoinRefused left leftColumn right rightColumn e) :
    (c.indexNestedLoopJoin left leftColumn right rightColumn).run.outcome = .error (.refused e) ∧
      (c.indexNestedLoopJoin left leftColumn right rightColumn).after = c := by
  unfold indexNestedLoopJoin
  rw [checkKeys_eq_error_iff.2 h]
  exact Step.andThen_error rfl _

/-- The left relation is still found when the right one has got an index, and has it too if it
is the same. -/
theorem exists_find?_put_buildIndex (hl : c.find? left = some l) (hr : c.find? right = some r)
    (rightColumn : String) :
    ∃ l', (c.put right (r.updateColumn rightColumn (·.buildIndex.2))).find? left = some l' ∧
      l.UpToIndexes l' := by
  rw [find?_put]
  split
  · next heq =>
    obtain rfl := Option.some.inj (hr.symm.trans (heq ▸ hl))
    exact ⟨_, rfl, r.upToIndexes_updateColumn rightColumn Column.UpToIndex.buildIndex⟩
  · exact ⟨l, hl, .refl l⟩

/-- Once the keys are found, the index is built on the registered right relation, and the join
is that of the relations found before. -/
theorem indexNestedLoopJoin_of_keys (hl : c.find? left = some l) (hr : c.find? right = some r)
    (hkeys : JoinKeys.Of l leftColumn r rightColumn keys) :
    (c.indexNestedLoopJoin left leftColumn right rightColumn).run.outcome
        = (Columnar.indexNestedLoopJoin l leftColumn r rightColumn).outcome ∧
      (c.indexNestedLoopJoin left leftColumn right rightColumn).after
        = c.put right (r.updateColumn rightColumn (·.buildIndex.2)) := by
  set r' := r.updateColumn rightColumn (·.buildIndex.2) with hr'
  obtain ⟨⟨built, hbuilt⟩, hafter⟩ := Relation.makeIndex_ok hkeys.rightKey_eq
  have hcheck : (Step.ask c (.ofCheck (c.checkKeys left leftColumn right rightColumn))).run.outcome
      = .ok () := by
    rw [checkKeys_eq_resolve hl hr, JoinKeys.resolve_eq_ok_iff.2 hkeys]
    rfl
  have hedit : c.edit right (·.makeIndex rightColumn)
      = (r.makeIndex rightColumn).within (c.put right) := by
    rw [edit, hr]
  obtain ⟨l', hl', hsame⟩ := exists_find?_put_buildIndex hl hr rightColumn
  rw [← hr'] at hl'
  unfold indexNestedLoopJoin
  obtain ⟨houtcome, hleaves⟩ := Step.andThen_ok hcheck _
  rw [houtcome, hleaves, Step.ask_after, hedit]
  have hwithin : ((r.makeIndex rightColumn).within (c.put right)).run.outcome = .ok built := hbuilt
  obtain ⟨houtcome, hleaves⟩ := Step.andThen_ok hwithin _
  rw [houtcome, hleaves, Step.within_after, hafter, Step.ask_run, Step.ask_after,
    outcome_joinWith hl' (find?_put_self c right r')]
  exact ⟨outcome_indexNestedLoopJoin_makeIndex hkeys hsame, rfl⟩

/-! ### Joins by a strategy -/

/-- A comparison that the strategy cannot carry out is refused whatever the names are. -/
theorem join_of_not_supports (h : ¬strategy.Supports op) :
    c.join schedule strategy left leftColumn right rightColumn op
      = .ask c (.refuse (.unsupportedComparison strategy op)) := by
  obtain ⟨rfl, hop⟩ := Classical.not_imp.1 h
  exact if_neg hop

/-- **A join by name is the join of the relations found**, also if the right one gets an index
on the way. -/
theorem outcome_join (hl : c.find? left = some l) (hr : c.find? right = some r) :
    (c.join schedule strategy left leftColumn right rightColumn op).run.outcome
      = (joinBy schedule strategy l leftColumn r rightColumn op).outcome := by
  cases strategy with
  | nestedLoop => exact outcome_joinWith hl hr _
  | hash => exact outcome_joinWith hl hr _
  | parallelHash => exact outcome_joinWith hl hr _
  | indexNestedLoop =>
    by_cases hop : op = .eq
    · subst hop
      show (c.indexNestedLoopJoin left leftColumn right rightColumn).run.outcome
        = (Columnar.indexNestedLoopJoin l leftColumn r rightColumn).outcome
      cases hresolve : JoinKeys.resolve l leftColumn r rightColumn with
      | error e =>
        have hkeys := JoinKeys.resolve_eq_error_iff.1 hresolve
        rw [(indexNestedLoopJoin_of_refused (.keys hl hr hkeys)).1,
          Columnar.indexNestedLoopJoin, hresolve]
        rfl
      | ok keys =>
        exact (indexNestedLoopJoin_of_keys hl hr (JoinKeys.resolve_eq_ok_iff.1 hresolve)).1
    · have hsupports : ¬JoinStrategy.Supports .indexNestedLoop op := fun h => hop (h rfl)
      rw [join_of_not_supports hsupports, joinBy_of_not_supports hsupports]
      rfl

/-- What is refused is refused at once. -/
theorem join_of_refused (hsupports : strategy.Supports op)
    (h : c.JoinRefused left leftColumn right rightColumn e) :
    (c.join schedule strategy left leftColumn right rightColumn op).run.outcome
        = .error (.refused e) ∧
      (c.join schedule strategy left leftColumn right rightColumn op).after = c := by
  have hf : ∀ {l r e}, KeysRefused l leftColumn r rightColumn e →
      (joinBy schedule strategy l leftColumn r rightColumn op).outcome = .error (.refused e) :=
    fun hkeys => (joinBy_refused_iff hsupports).2 hkeys
  cases strategy with
  | nestedLoop => exact ⟨outcome_joinWith_of_refused hf h, rfl⟩
  | hash => exact ⟨outcome_joinWith_of_refused hf h, rfl⟩
  | parallelHash => exact ⟨outcome_joinWith_of_refused hf h, rfl⟩
  | indexNestedLoop =>
    obtain rfl := hsupports rfl
    exact indexNestedLoopJoin_of_refused h

theorem join_refused_iff (hsupports : strategy.Supports op) :
    (c.join schedule strategy left leftColumn right rightColumn op).run.outcome
        = .error (.refused e) ↔
      c.JoinRefused left leftColumn right rightColumn e := by
  refine ⟨fun h => ?_, fun h => (join_of_refused hsupports h).1⟩
  rcases c.refused_or_keys left leftColumn right rightColumn with ⟨e', hrefused⟩ | hkeys
  · rw [(join_of_refused hsupports hrefused).1] at h
    cases h
    exact hrefused
  · obtain ⟨l, r, keys, hl, hr, -⟩ := hkeys
    rw [outcome_join hl hr] at h
    exact .keys hl hr ((joinBy_refused_iff hsupports).1 h)

/-- A join that goes well is a join of registered relations. -/
theorem exists_of_join {joined : Relation}
    (h : (c.join schedule strategy left leftColumn right rightColumn op).run.outcome
      = .ok joined) :
    ∃ l r, c.find? left = some l ∧ c.find? right = some r ∧
      (joinBy schedule strategy l leftColumn r rightColumn op).outcome = .ok joined := by
  by_cases hsupports : strategy.Supports op
  · rcases c.refused_or_keys left leftColumn right rightColumn with ⟨e, hrefused⟩ | hkeys
    · rw [(join_of_refused hsupports hrefused).1] at h
      cases h
    · obtain ⟨l, r, -, hl, hr, -⟩ := hkeys
      exact ⟨l, r, hl, hr, (outcome_join hl hr).symm.trans h⟩
  · rw [join_of_not_supports hsupports] at h
    cases h

/-- A join that is refused leaves the catalog as it was. -/
theorem after_join_of_refused
    (h : (c.join schedule strategy left leftColumn right rightColumn op).run.outcome
      = .error (.refused e)) :
    (c.join schedule strategy left leftColumn right rightColumn op).after = c := by
  by_cases hsupports : strategy.Supports op
  · exact (join_of_refused hsupports ((join_refused_iff hsupports).1 h)).2
  · rw [join_of_not_supports hsupports]
    rfl

/-- In a session, a join of relations with columns of equal length that is not refused goes
well. -/
theorem join_ok_or_refused {commands : List Command} (hrun : (Session.run commands).catalog = c)
    (hleft : ∀ l, c.find? left = some l → l.Rectangular)
    (hright : ∀ r, c.find? right = some r → r.Rectangular) :
    (∃ joined, (c.join schedule strategy left leftColumn right rightColumn op).run.outcome
        = .ok joined) ∨
      ∃ e, (c.join schedule strategy left leftColumn right rightColumn op).run.outcome
        = .error (.refused e) := by
  by_cases hsupports : strategy.Supports op
  · rcases c.refused_or_keys left leftColumn right rightColumn with ⟨e, hrefused⟩ | hkeys
    · exact .inr ⟨e, (join_of_refused hsupports hrefused).1⟩
    · obtain ⟨l, r, keys, hl, hr, hkeys⟩ := hkeys
      have htraced : r.All (Column.Traced commands) :=
        (Session.all_traced commands).of_holds (.inr ⟨right, hrun ▸ hr⟩)
      obtain ⟨joined, hjoined⟩ :
          ∃ joined, (joinBy schedule strategy l leftColumn r rightColumn op).outcome = .ok joined :=
        joinBy_ok hsupports hkeys (hleft l hl) (hright r hr) htraced
      exact .inl ⟨joined, (outcome_join hl hr).trans hjoined⟩
  · rw [join_of_not_supports hsupports]
    exact .inr ⟨_, rfl⟩

end Catalog

/-! ### All ways to ask for a join -/

/-- The ways to ask a catalog for a join: by an operation of its own for each strategy, or by
one that takes the strategy.  A join through an index asks for equality. -/
inductive JoinCall where
  | nestedLoop (op : Comparison)
  | indexNestedLoop
  | hash (op : Comparison)
  | parallelHash (schedule : Schedule) (op : Comparison)
  | join (schedule : Schedule) (strategy : JoinStrategy) (op : Comparison)

namespace JoinCall

/-- The strategy that is asked for. -/
def strategy : JoinCall → JoinStrategy
  | .nestedLoop _ => .nestedLoop
  | .indexNestedLoop => .indexNestedLoop
  | .hash _ => .hash
  | .parallelHash .. => .parallelHash
  | .join _ strategy _ => strategy

/-- The comparison that is asked for. -/
def comparison : JoinCall → Comparison
  | .nestedLoop op | .hash op | .parallelHash _ op | .join _ _ op => op
  | .indexNestedLoop => .eq

end JoinCall

namespace Catalog

/-- Carries out a call. -/
def call (c : Catalog) (left leftColumn right rightColumn : String) :
    JoinCall → Step Catalog Relation
  | .nestedLoop op => .ask c (c.nestedLoopJoin left leftColumn right rightColumn op)
  | .indexNestedLoop => c.indexNestedLoopJoin left leftColumn right rightColumn
  | .hash op => .ask c (c.hashJoin left leftColumn right rightColumn op)
  | .parallelHash schedule op =>
    .ask c (c.parallelHashJoin schedule left leftColumn right rightColumn op)
  | .join schedule strategy op => c.join schedule strategy left leftColumn right rightColumn op

/-- Every call is one that takes the strategy. -/
theorem exists_call_eq_join (c : Catalog) (left leftColumn right rightColumn : String)
    (call : JoinCall) :
    ∃ schedule, c.call left leftColumn right rightColumn call
      = c.join schedule call.strategy left leftColumn right rightColumn call.comparison := by
  cases call with
  | nestedLoop op => exact ⟨.inOrder, rfl⟩
  | indexNestedLoop => exact ⟨.inOrder, rfl⟩
  | hash op => exact ⟨.inOrder, rfl⟩
  | parallelHash schedule op => exact ⟨schedule, rfl⟩
  | join schedule strategy op => exact ⟨schedule, rfl⟩

/-- **All ways to ask for a join refuse alike, and leave the catalog as it was.**  Whatever the
strategy and the comparison, a call is refused when `JoinRefused` says so, with the error that
it says.  Only a comparison that the strategy cannot carry out comes before that.  And between
relations with columns of equal length a call can fail in no other way. -/
theorem call_refused_uniformly (c : Catalog) (left leftColumn right rightColumn : String)
    (call : JoinCall) :
    (call.strategy.Supports call.comparison → ∀ e,
      ((c.call left leftColumn right rightColumn call).run.outcome = .error (.refused e) ↔
        c.JoinRefused left leftColumn right rightColumn e)) ∧
    (¬call.strategy.Supports call.comparison →
      (c.call left leftColumn right rightColumn call).run.outcome
        = .error (.refused (.unsupportedComparison call.strategy call.comparison))) ∧
    (∀ e, (c.call left leftColumn right rightColumn call).run.outcome = .error (.refused e) →
      (c.call left leftColumn right rightColumn call).after = c) ∧
    ∀ commands, (Session.run commands).catalog = c →
      (∀ l, c.find? left = some l → l.Rectangular) →
      (∀ r, c.find? right = some r → r.Rectangular) →
      (∃ joined, (c.call left leftColumn right rightColumn call).run.outcome = .ok joined) ∨
        ∃ e, (c.call left leftColumn right rightColumn call).run.outcome = .error (.refused e) := by
  obtain ⟨schedule, hcall⟩ := c.exists_call_eq_join left leftColumn right rightColumn call
  rw [hcall]
  refine ⟨fun h e => join_refused_iff h, fun h => ?_, fun e => after_join_of_refused,
    fun commands => join_ok_or_refused⟩
  rw [join_of_not_supports h]
  rfl

/-- A relation is registered, and renamed where it is. -/
def renamedCommands : List Command :=
  [.create "numbers" [⟨"n", .int⟩, ⟨"word", .text⟩],
    .editRelation (.registered "numbers") (.rename "figures")]

/-- What is then found under the old name. -/
def figures : Relation := .empty "figures" [⟨"n", .int⟩, ⟨"word", .text⟩]

theorem find?_renamedCommands :
    (Session.run renamedCommands).catalog.find? "numbers" = some figures := by
  let numbers : Relation := .empty "numbers" [⟨"n", .int⟩, ⟨"word", .text⟩]
  let s := Session.start.withCatalog (Catalog.empty.put "numbers" numbers)
  have hrun : Session.run renamedCommands
      = s.step (.editRelation (.registered "numbers") (.rename "figures")) := rfl
  have hlookUp : s.lookUp (.registered "numbers") = some (.ok numbers) :=
    congrArg some (find_eq_ok_iff.2 (find?_put_self ..))
  rw [hrun, Session.step, Session.perform, Session.onRelation, hlookUp]
  exact find?_put_self _ _ figures

/-- Refusals go by the new name and the order of the look-ups; the index that was not built
for keys of two types is built for keys of one. -/
theorem call_refused_uniformly_renamed :
    ((Session.run renamedCommands).catalog.call "numbers" "none" "numbers" "no"
        (.hash .lt)).run.outcome = .error (.refused (.unknownColumn "figures" "none")) ∧
      ((Session.run renamedCommands).catalog.call "numbers" "n" "numbers" "word"
        .indexNestedLoop).after = (Session.run renamedCommands).catalog ∧
      ((Session.run renamedCommands).catalog.call "none" "n" "none" "word"
        (.join .reversed .indexNestedLoop .lt)).run.outcome
          = .error (.refused (.unsupportedComparison .indexNestedLoop .lt)) ∧
      ∃ joined, ((Session.run renamedCommands).catalog.call "numbers" "n" "numbers" "n"
        .indexNestedLoop).run.outcome = .ok joined := by
  set c := (Session.run renamedCommands).catalog with hc
  have hfind : c.find? "numbers" = some figures := find?_renamedCommands
  have hrect : ∀ r, c.find? "numbers" = some r → r.Rectangular := by
    intro r hr
    cases hfind.symm.trans hr
    decide
  have hsupports : JoinCall.indexNestedLoop.strategy.Supports JoinCall.indexNestedLoop.comparison :=
    fun _ => rfl
  refine ⟨?_, ?_, ?_, ?_⟩
  · exact ((call_refused_uniformly c "numbers" "none" "numbers" "no" (.hash .lt)).1 nofun _).2
      (.keys hfind hfind (.unknownLeft (by decide)))
  · obtain ⟨hiff, -, hafter, -⟩ :=
      call_refused_uniformly c "numbers" "n" "numbers" "word" .indexNestedLoop
    have hkeys : KeysRefused figures "n" figures "word" (.joinTypeMismatch .int .text) :=
      JoinKeys.resolve_eq_error_iff.1 rfl
    exact hafter _ ((hiff hsupports _).2 (.keys hfind hfind hkeys))
  · obtain ⟨-, hunsupported, -⟩ :=
      call_refused_uniformly c "none" "n" "none" "word" (.join .reversed .indexNestedLoop .lt)
    exact hunsupported fun h => nomatch h rfl
  · obtain ⟨hiff, -, -, htotal⟩ :=
      call_refused_uniformly c "numbers" "n" "numbers" "n" .indexNestedLoop
    rcases htotal renamedCommands hc.symm hrect hrect with hok | ⟨e, hrefused⟩
    · exact hok
    · -- both keys are the same column
      have hcheck := checkKeys_eq_error_iff.2 ((hiff hsupports e).1 hrefused)
      rw [checkKeys_eq_resolve hfind hfind] at hcheck
      cases hcheck

end Catalog

end Columnar
