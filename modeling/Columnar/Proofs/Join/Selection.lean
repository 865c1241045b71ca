import Columnar.Proofs.Join.Rearrangement
import Columnar.Proofs.Join.Refusals
import Columnar.Proofs.Selection

/-!
# Selections below joins

A column of the left relation keeps its place in a join, and its name too, unless it is the key.
So a row of the join passes a test of that column exactly if the left row in it does, and the
test may as well be made before the join: of the left rows that do not pass, nothing is left
either way.

For the rows that do pass it must not matter how many others there are.  To a strategy that
finds all matches it does not.  A hash join may then build on the other side, and distribute the
rows over fewer buckets; for an equality it finds the same pairs, and lists them in another
order.

## Main results

* `JoinKeys.Of.exists_firstNamed_joined` — a left column is found in the join where it stood.
* `select_joinBy` — **a selection may be made before the join or after it.**
-/

namespace Columnar

variable {left right joined : Relation} {leftColumn rightColumn name : String}
  {position : Nat} {column : Column} {keys : JoinKeys} {strategy : JoinStrategy}
  {op : Comparison}

/-! ### Left columns of a join -/

/-- A column of the left relation is found in the join under its name, and where it stood,
unless that is the name of the key, or what the key is called in the join. -/
theorem JoinKeys.Of.exists_firstNamed_joined
    (hkeys : JoinKeys.Of left leftColumn right rightColumn keys)
    (hschema : joined.schema = joinedSchema left leftColumn right rightColumn)
    (hcolumn : left.FirstNamed name position column) (hkey : name ≠ leftColumn)
    (hkey' : name ≠ firstKeyName leftColumn) :
    ∃ column', joined.FirstNamed name position column' ∧
      column'.signature = column.signature := by
  have hlk := hkeys.leftFirst
  have hlt : position < left.schema.length :=
    (List.getElem?_eq_some_iff.1 hcolumn.getElem?_schema).1
  -- up to the column, the join has the left signatures, but for the name of the key
  have hget : ∀ i ≤ position, joined.schema[i]? =
      (fun s : Signature => if keys.leftPosition = i then ⟨firstKeyName s.name, s.type⟩ else s)
        <$> left.schema[i]? := by
    intro i hi
    rw [hschema, joinedSchema_eq_modify hlk hkeys.rightFirst, List.getElem?_append_left,
      List.getElem?_modify]
    · rfl
    · rw [List.length_modify]
      exact Nat.lt_of_le_of_lt hi hlt
  obtain rfl := hcolumn.name_eq
  refine Relation.exists_firstNamed ?_ fun i hi earlier hearlier => ?_
  · have hne : keys.leftPosition ≠ position := by
      rintro rfl
      have hsame := Option.some.inj (hlk.getElem?_eq.symm.trans hcolumn.getElem?_eq)
      rw [← hsame] at hkey
      exact hkey hlk.name_eq
    rw [hget position (Nat.le_refl _), hcolumn.getElem?_schema, Option.map_eq_map,
      Option.map_some, if_neg hne]
  · rw [hget i (Nat.le_of_lt hi), Option.map_eq_map, Option.map_eq_some_iff] at hearlier
    obtain ⟨s, hs, rfl⟩ := hearlier
    split
    · next hi' =>
      subst hi'
      obtain rfl := Option.some.inj (hlk.getElem?_schema.symm.trans hs)
      have hname : keys.leftKey.signature.name = leftColumn := hlk.name_eq
      rw [hname]
      exact Ne.symm hkey'
    · exact hcolumn.name_ne_of_schema i hi s hs

/-- A selection by a column of the left relation can be made on the join. -/
theorem JoinKeys.Of.select_joined_ok
    (hkeys : JoinKeys.Of left leftColumn right rightColumn keys)
    (hschema : joined.schema = joinedSchema left leftColumn right rightColumn)
    (hrect : joined.Rectangular) (hcolumn : left.FirstNamed name position column)
    (hkey : name ≠ leftColumn) (hkey' : name ≠ firstKeyName leftColumn) {value : Value}
    (htype : value.type = column.type) (test : Comparison) :
    ∃ selected, (joined.select name test value).outcome = .ok selected ∧
      IsSelection joined (cellPasses position test value) selected := by
  obtain ⟨column', hcolumn', hsignature⟩ :=
    hkeys.exists_firstNamed_joined hschema hcolumn hkey hkey'
  refine Relation.select_ok hrect hcolumn' ?_ test
  rw [Column.type, hsignature]
  exact htype

/-- In a joined row the cells of the left row come first. -/
theorem cellPasses_append (hl : left.Rectangular)
    (hcolumn : left.FirstNamed name position column) (op : Comparison) (value : Value) :
    ∀ l ∈ left.rowList, ∀ r, cellPasses position op value (l ++ r)
      = cellPasses position op value l := by
  intro l hmem r
  have hlt : position < l.length := by
    rw [Relation.length_of_mem_rowList hl hmem]
    exact (List.getElem?_eq_some_iff.1 hcolumn.getElem?_eq).1
  rw [cellPasses, cellPasses, List.getElem?_append_left hlt]

/-! ### Selections before and after -/

/-- Keys are found under the same signatures, or not at all. -/
theorem JoinKeys.exists_resolve_error {left' : Relation} {e : Error}
    (h : resolve left leftColumn right rightColumn = .error e)
    (hschema : left'.schema = left.schema) :
    ∃ e', resolve left' leftColumn right rightColumn = .error e' := by
  cases hresolve : resolve left' leftColumn right rightColumn with
  | error e' => exact ⟨e', rfl⟩
  | ok keys' =>
    obtain ⟨keys, hkeys, -⟩ :=
      (resolve_eq_ok_iff.1 hresolve).exists_of_schema_eq hschema.symm rfl
    rw [resolve_eq_ok_iff.2 hkeys] at h
    cases h

/-- **A selection may be made before the join or after it.**  If the strategy finds all matches,
and no index on the right key is out of date, selecting rows of the join by a left column gives
the join of the left rows that are selected: both joins are refused, or both go well and the
rows are the same, each as often.  They come in the same order from a nested loop and from a
join through an index. -/
theorem select_joinBy (hl : left.Rectangular) (hr : right.Rectangular)
    (hindex : ∀ key, right.column? rightColumn = some key → key.index = none)
    (hcolumn : left.column? name = some column) (hkey : name ≠ leftColumn)
    (hkey' : name ≠ leftColumn ++ " (first)") {value : Value} (htype : value.type = column.type)
    (test : Comparison) (h : strategy.Complete op) (schedule schedule' : Schedule) :
    ∃ selected, (left.select name test value).outcome = .ok selected ∧
      ((∃ e e', KeysRefused left leftColumn right rightColumn e ∧
          (joinBy schedule strategy left leftColumn right rightColumn op).outcome
            = .error (.refused e) ∧
          (joinBy schedule' strategy selected leftColumn right rightColumn op).outcome
            = .error (.refused e')) ∨
        ∃ (joined after before : Relation) (rows rows' : List (List Value)),
          (joinBy schedule strategy left leftColumn right rightColumn op).outcome = .ok joined ∧
          (joined.select name test value).outcome = .ok after ∧
          (joinBy schedule' strategy selected leftColumn right rightColumn op).outcome
            = .ok before ∧
          before.schema = after.schema ∧
          after.rows = .ok rows ∧ before.rows = .ok rows' ∧ rows'.Perm rows ∧
          (strategy = .nestedLoop ∨ strategy = .indexNestedLoop → rows' = rows)) := by
  obtain ⟨position, hposition⟩ := Relation.exists_position? hcolumn
  have hfirst := Relation.firstNamed_iff.2 ⟨hposition, hcolumn⟩
  obtain ⟨selected, hselected, hselection⟩ := Relation.select_ok hl hfirst htype test
  refine ⟨selected, hselected, ?_⟩
  cases hresolve : JoinKeys.resolve left leftColumn right rightColumn with
  | error e =>
    obtain ⟨e', hresolve'⟩ := JoinKeys.exists_resolve_error hresolve hselection.schema_eq
    exact .inl ⟨e, e', JoinKeys.resolve_eq_error_iff.1 hresolve,
      joinBy_of_resolve_error h.supports hresolve, joinBy_of_resolve_error h.supports hresolve'⟩
  | ok keys =>
    right
    have hkeys := JoinKeys.resolve_eq_ok_iff.1 hresolve
    obtain ⟨keys', hkeys', hlp, hrp⟩ := hkeys.exists_of_schema_eq hselection.schema_eq rfl
    have hupToDate (key : Column) (hrk : right.column? rightColumn = some key) : key.UpToDate :=
      .of_unindexed (hindex key hrk)
    have hcovers := hkeys.covers_of_upToDate hr (hupToDate _ hkeys.rightKey_eq) strategy
    have hcovers' := hkeys'.covers_of_upToDate hr (hupToDate _ hkeys'.rightKey_eq) strategy
    obtain ⟨joined, hrun, hschema, hrect, hperm, hsame⟩ :=
      joinBy_matchingRows hkeys hl hr h hcovers schedule
    obtain ⟨before, hrun', hschema', hrect', hperm', hsame'⟩ :=
      joinBy_matchingRows hkeys' hselection.rectangular hr h hcovers' schedule'
    rw [hlp, hrp] at hperm' hsame'
    obtain ⟨after, hafter, hselection'⟩ :=
      hkeys.select_joined_ok hschema hrect hfirst hkey hkey' htype test
    -- the left rows that do not pass have left no row behind
    have hfilter : (relatedRows (rowsMatch keys.leftPosition keys.rightPosition op)
          left.rowList right.rowList).filter (cellPasses position test value)
        = relatedRows (rowsMatch keys.leftPosition keys.rightPosition op)
          selected.rowList right.rowList := by
      rw [filter_relatedRows (cellPasses_append hl hfirst test value), hselection.rowList_eq]
    refine ⟨joined, after, before, _, _, hrun, hafter, hrun', ?_,
      Relation.rows_eq hselection'.rectangular, Relation.rows_eq hrect', ?_, fun hloop => ?_⟩
    · rw [hschema', hselection'.schema_eq, hschema, joinedSchema_congr hselection.schema_eq rfl]
    · rw [hselection'.rowList_eq]
      exact hperm'.trans (hfilter ▸ (hperm.filter _).symm)
    · rw [hselection'.rowList_eq, hsame hloop, hsame' hloop, hfilter]

/-- Four levels, measured at three stations. -/
def levelReadings : Relation :=
  ⟨"readings", [.ofCells "station" (.int #[2, 3, 1, 3]), .ofCells "level" (.int #[7, 1, 5, 2])]⟩

/-- The three stations. -/
def levelStations : Relation := ⟨"stations", [.ofCells "station" (.int #[1, 2, 3])]⟩

/-- All four readings are looked up among the stations; of the two high ones it is the readings
that are hashed. -/
theorem select_joinBy_fewer :
    levelReadings.Rectangular ∧ levelStations.Rectangular ∧
      ∃ selected before rows,
        (levelReadings.select "level" .ge (.int 5)).outcome = .ok selected ∧
        (hashJoin selected "station" levelStations "station" .eq).outcome = .ok before ∧
        before.schema
          = [⟨"station (first)", .int⟩, ⟨"level", .int⟩, ⟨"station (second)", .int⟩] ∧
        before.rows = .ok rows ∧
        rows.Perm [[.int 2, .int 7, .int 2], [.int 1, .int 5, .int 1]] := by
  have hl : levelReadings.Rectangular := by decide
  have hr : levelStations.Rectangular := by decide
  have hindex : ∀ key, levelStations.column? "station" = some key → key.index = none := by
    intro key hkey
    cases hkey
    rfl
  have hjoined : ((joinBy .inOrder .hash levelReadings "station" levelStations "station"
          .eq).outcome.bind fun joined => (joined.select "level" .ge (.int 5)).outcome.map
            fun after => (after.schema, after.rows))
      = .ok ([⟨"station (first)", .int⟩, ⟨"level", .int⟩, ⟨"station (second)", .int⟩],
        .ok [[.int 2, .int 7, .int 2], [.int 1, .int 5, .int 1]]) := rfl
  obtain ⟨selected, hselected, ⟨e, e', -, hrun, -⟩ | ⟨joined, after, before, rows, rows', hrun,
      hafter, hrun', hschema, hrows, hrows', hperm, -⟩⟩ :=
    select_joinBy hl hr hindex (show levelReadings.column? "level" = some _ from rfl)
      (show "level" ≠ "station" by decide) (by decide) (show (Value.int 5).type = _ from rfl) .ge
      (show JoinStrategy.hash.Complete .eq from .inr rfl) .inOrder .inOrder
  · rw [hrun] at hjoined
    cases hjoined
  · rw [hrun, Except.bind, hafter] at hjoined
    obtain ⟨hschema', hrows''⟩ := Prod.mk.inj (Except.ok.inj hjoined)
    obtain rfl := Except.ok.inj (hrows.symm.trans hrows'')
    exact ⟨hl, hr, selected, before, rows', hselected, hrun', hschema.trans hschema', hrows',
      hperm⟩

end Columnar
