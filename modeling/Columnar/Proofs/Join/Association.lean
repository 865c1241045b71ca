import Columnar.Proofs.Join.RowWise
import Columnar.Proofs.Projection

/-!
# Joins of three relations

Three relations can be joined from the left or from the right: the first two and then the third,
or the last two and then the first with them.  A joined row is made of one row of each either
way, and which three rows are joined is decided by the cells of two neighbours at a time.  For
the other join a key stands in a row of an intermediate result: behind all the cells of the left
row that were put in front of it, or in front of all the cells that were put behind it.

An intermediate result is a relation like any other.  Its keys are found by name, under the names
that the first join has given them; its rows come in the order of the strategy, which the second
join passes on.  So nested loops, which go by the order of their inputs, give the same rows in
the same order, and strategies that find all matches give the same rows.

## Main results

* `relatedRows_assoc` — three lists of rows that go together, from either side.
* `joinedSchema_types` — an intermediate result has the types of the columns it is made of.
* `joinBy_assoc` — **joining from the left and from the right gives the same rows.**
-/

namespace Columnar

/-! ### Rows of three relations -/

section

variable {related related' shifted : List Value → List Value → Bool}
  {lefts middles rights : List (List Value)}

/-- Whether a row goes together with one in front of it that was put together from two is decided
by the second of these; whether with one behind it, by the first. -/
theorem relatedRows_assoc (hshift : ∀ l ∈ lefts, ∀ m r, shifted (l ++ m) r = related' m r)
    (hfront : ∀ l, ∀ m ∈ middles, ∀ r, related l (m ++ r) = related l m) :
    relatedRows shifted (relatedRows related lefts middles) rights
      = relatedRows related lefts (relatedRows related' middles rights) := by
  rw [relatedRows, relatedRows, List.flatMap_assoc, relatedRows]
  refine List.flatMap_congr fun l hl => ?_
  rw [filter_relatedRows (hfront l), relatedRows, List.flatMap_map, List.map_flatMap]
  refine List.flatMap_congr fun m _ => ?_
  rw [List.filter_congr fun r _ => hshift l hl m r, List.map_map]
  exact List.map_congr_left fun r _ => List.append_assoc l m r

variable {leftPosition rightPosition n : Nat} {matched : Value → Value → Bool}
  {l m r : List Value}

/-- A key of the left row stands behind the cells that were put in front of it. -/
theorem cellsRelated_append_left (hlength : l.length = n) :
    cellsRelated (n + leftPosition) rightPosition matched (l ++ m) r
      = cellsRelated leftPosition rightPosition matched m r := by
  unfold cellsRelated
  rw [← hlength, List.getElem?_append_right (Nat.le_add_right _ _), Nat.add_sub_cancel_left]

/-- A key of the right row stands in front of the cells that were put behind it. -/
theorem cellsRelated_append_right (hlt : rightPosition < m.length) :
    cellsRelated leftPosition rightPosition matched l (m ++ r)
      = cellsRelated leftPosition rightPosition matched l m := by
  unfold cellsRelated
  rw [List.getElem?_append_left hlt]

end

/-! ### Keys in an intermediate result -/

section

variable {left right joined : Relation} {leftColumn rightColumn name : String}
  {leftPosition rightPosition position : Nat} {leftKey rightKey column : Column}

theorem map_type_renameFirst (name : String) (f : String → String) (signatures : List Signature) :
    (renameFirst name f signatures).map Signature.type = signatures.map Signature.type := by
  induction signatures with
  | nil => rfl
  | cons s rest ih =>
    rw [renameFirst]
    split
    · rfl
    · rw [List.map_cons, List.map_cons, ih]

/-- An intermediate result has the types of the columns it is made of. -/
theorem joinedSchema_types (left right : Relation) (leftColumn rightColumn : String) :
    (joinedSchema left leftColumn right rightColumn).map Signature.type
      = (left.columns ++ right.columns).map Column.type := by
  rw [joinedSchema, List.map_append, map_type_renameFirst, map_type_renameFirst, ← List.map_append,
    Relation.schema, Relation.schema, ← List.map_append, List.map_map]
  rfl

/-- What is found by name in an intermediate result has the type of the column that it is a
copy of. -/
theorem exists_firstNamed_of_joinedSchema
    (hschema : joined.schema = joinedSchema left leftColumn right rightColumn)
    (hposition : joined.position? name = some position)
    (hcolumn : (left.columns ++ right.columns)[position]? = some column) :
    ∃ column', joined.FirstNamed name position column' ∧ column'.type = column.type := by
  have htypes :
      joined.columns.map Column.type = (left.columns ++ right.columns).map Column.type := by
    rw [← joinedSchema_types left right leftColumn rightColumn, ← hschema, Relation.schema,
      List.map_map]
    rfl
  have htype : (joined.columns.map Column.type)[position]? = some column.type := by
    rw [htypes, List.getElem?_map, hcolumn, Option.map_some]
  rw [List.getElem?_map] at htype
  obtain ⟨column', hcolumn', htype⟩ := Option.map_eq_some_iff.1 htype
  refine ⟨column', Relation.firstNamed_iff.2 ⟨hposition, ?_⟩, htype⟩
  rw [Relation.column?_eq_bind, hposition]
  exact hcolumn'

/-- Two columns found by their names are joined, and give the rows that match. -/
theorem joinBy_firstNamed {strategy : JoinStrategy} {op : Comparison} (hl : left.Rectangular)
    (hr : right.Rectangular) (hlk : left.FirstNamed leftColumn leftPosition leftKey)
    (hrk : right.FirstNamed rightColumn rightPosition rightKey)
    (htype : leftKey.type = rightKey.type) (h : strategy.Complete op)
    (hindex : strategy = .indexNestedLoop → rightKey.UpToDate) (schedule : Schedule) :
    ∃ joined, (joinBy schedule strategy left leftColumn right rightColumn op).outcome
        = .ok joined ∧
      joined.schema = joinedSchema left leftColumn right rightColumn ∧ joined.Rectangular ∧
      joined.rowList.Perm (relatedRows (rowsMatch leftPosition rightPosition op)
        left.rowList right.rowList) ∧
      (strategy = .nestedLoop ∨ strategy = .indexNestedLoop →
        joined.rowList = relatedRows (rowsMatch leftPosition rightPosition op)
          left.rowList right.rowList) := by
  obtain ⟨hlp, hlk⟩ := Relation.firstNamed_iff.1 hlk
  obtain ⟨hrp, hrk⟩ := Relation.firstNamed_iff.1 hrk
  obtain ⟨keys, hresolve, rfl, rfl⟩ := JoinKeys.exists_resolve hlk hrk htype
  have hkeys := JoinKeys.resolve_eq_ok_iff.1 hresolve
  obtain rfl := Option.some.inj (hkeys.leftPosition_eq.symm.trans hlp)
  obtain rfl := Option.some.inj (hkeys.rightPosition_eq.symm.trans hrp)
  exact joinBy_matchingRows hkeys hl hr h
    (fun hloop => hkeys.covers_of_upToDate hr (hindex hloop) strategy hloop) schedule

end

/-! ### Joins from the left and from the right -/

variable {left middle right : Relation} {a b c d : String} {aKey bKey cKey dKey : Column}
  {op op' : Comparison}

theorem relatedRows_rowsMatch_assoc (hl : left.Rectangular) (hm : middle.Rectangular)
    {bPosition : Nat} (hb : middle.FirstNamed b bPosition bKey)
    (aPosition cPosition dPosition : Nat) :
    relatedRows (rowsMatch (left.columnCount + cPosition) dPosition op')
        (relatedRows (rowsMatch aPosition bPosition op) left.rowList middle.rowList)
        right.rowList
      = relatedRows (rowsMatch aPosition bPosition op) left.rowList
          (relatedRows (rowsMatch cPosition dPosition op') middle.rowList right.rowList) := by
  have hlt : bPosition < middle.columnCount := (List.getElem?_eq_some_iff.1 hb.getElem?_eq).1
  refine relatedRows_assoc (fun l hmem m r => ?_) fun l m hmem r => ?_
  · exact cellsRelated_append_left (Relation.length_of_mem_rowList hl hmem)
  · refine cellsRelated_append_right ?_
    rw [Relation.length_of_mem_rowList hm hmem]
    exact hlt

section

variable {aPosition bPosition cPosition dPosition : Nat} {strategy strategy' : JoinStrategy}
  {x y : String}

/-- The join from the left: the first two relations, and the third with what they give. -/
theorem joinBy_left (hl : left.Rectangular) (hm : middle.Rectangular) (hr : right.Rectangular)
    (ha : left.FirstNamed a aPosition aKey) (hb : middle.FirstNamed b bPosition bKey)
    (hab : aKey.type = bKey.type) (hc : middle.FirstNamed c cPosition cKey)
    (hd : right.FirstNamed d dPosition dKey) (hcd : cKey.type = dKey.type)
    (h : strategy.Complete op) (h' : strategy'.Complete op')
    (hbIndex : strategy = .indexNestedLoop → bKey.UpToDate)
    (hdIndex : strategy' = .indexNestedLoop → dKey.UpToDate)
    (hx : ∀ front : Relation, front.schema = joinedSchema left a middle b →
      front.position? x = some (left.columnCount + cPosition)) (schedule schedule' : Schedule) :
    ∃ front joined, (joinBy schedule strategy left a middle b op).outcome = .ok front ∧
      (joinBy schedule' strategy' front x right d op').outcome = .ok joined ∧
      joined.Rectangular ∧
      joined.rowList.Perm (relatedRows (rowsMatch (left.columnCount + cPosition) dPosition op')
        (relatedRows (rowsMatch aPosition bPosition op) left.rowList middle.rowList)
        right.rowList) ∧
      (strategy = .nestedLoop ∨ strategy = .indexNestedLoop →
        strategy' = .nestedLoop ∨ strategy' = .indexNestedLoop →
        joined.rowList = relatedRows (rowsMatch (left.columnCount + cPosition) dPosition op')
          (relatedRows (rowsMatch aPosition bPosition op) left.rowList middle.rowList)
          right.rowList) := by
  obtain ⟨front, hfront, hschema, hrect, hperm, hsame⟩ :=
    joinBy_firstNamed hl hm ha hb hab h hbIndex schedule
  have hcopy : (left.columns ++ middle.columns)[left.columnCount + cPosition]? = some cKey := by
    rw [Relation.columnCount, List.getElem?_append_right (Nat.le_add_right _ _),
      Nat.add_sub_cancel_left, hc.getElem?_eq]
  obtain ⟨xKey, hxFirst, hxType⟩ := exists_firstNamed_of_joinedSchema hschema (hx _ hschema) hcopy
  obtain ⟨joined, hrun, -, hrect', hperm', hsame'⟩ :=
    joinBy_firstNamed hrect hr hxFirst hd (hxType.trans hcd) h' hdIndex schedule'
  refine ⟨front, joined, hfront, hrun, hrect', ?_, fun hloop hloop' => ?_⟩
  · exact hperm'.trans (relatedRows_perm hperm (.refl _))
  · rw [hsame' hloop', hsame hloop]

/-- The join from the right: the last two relations, and the first with what they give, which
has no index. -/
theorem joinBy_right (hl : left.Rectangular) (hm : middle.Rectangular) (hr : right.Rectangular)
    (ha : left.FirstNamed a aPosition aKey) (hb : middle.FirstNamed b bPosition bKey)
    (hab : aKey.type = bKey.type) (hc : middle.FirstNamed c cPosition cKey)
    (hd : right.FirstNamed d dPosition dKey) (hcd : cKey.type = dKey.type)
    (h : strategy.Complete op') (h' : strategy'.Complete op)
    (hdIndex : strategy = .indexNestedLoop → dKey.UpToDate)
    (hy : ∀ back : Relation, back.schema = joinedSchema middle c right d →
      back.position? y = some bPosition) (schedule schedule' : Schedule) :
    ∃ back joined, (joinBy schedule strategy middle c right d op').outcome = .ok back ∧
      (joinBy schedule' strategy' left a back y op).outcome = .ok joined ∧
      joined.Rectangular ∧
      joined.rowList.Perm (relatedRows (rowsMatch aPosition bPosition op) left.rowList
        (relatedRows (rowsMatch cPosition dPosition op') middle.rowList right.rowList)) ∧
      (strategy = .nestedLoop ∨ strategy = .indexNestedLoop →
        strategy' = .nestedLoop ∨ strategy' = .indexNestedLoop →
        joined.rowList = relatedRows (rowsMatch aPosition bPosition op) left.rowList
          (relatedRows (rowsMatch cPosition dPosition op') middle.rowList right.rowList)) := by
  obtain ⟨back, hback, hschema, hrect, hperm, hsame⟩ :=
    joinBy_firstNamed hm hr hc hd hcd h hdIndex schedule
  have hcopy : (middle.columns ++ right.columns)[bPosition]? = some bKey := by
    rw [List.getElem?_append_left (List.getElem?_eq_some_iff.1 hb.getElem?_eq).1, hb.getElem?_eq]
  obtain ⟨yKey, hyFirst, hyType⟩ := exists_firstNamed_of_joinedSchema hschema (hy _ hschema) hcopy
  have hyIndex : yKey.UpToDate := by
    obtain ⟨_, hjoin⟩ := exists_isJoin_of_joinBy hback
    exact .of_unindexed (hjoin.unindexed yKey (List.mem_of_getElem? hyFirst.getElem?_eq))
  obtain ⟨joined, hrun, -, hrect', hperm', hsame'⟩ :=
    joinBy_firstNamed hl hrect ha hyFirst (hab.trans hyType.symm) h' (fun _ => hyIndex) schedule'
  refine ⟨back, joined, hback, hrun, hrect', ?_, fun hloop hloop' => ?_⟩
  · exact hperm'.trans (relatedRows_perm (.refl _) hperm)
  · rw [hsame' hloop', hsame hloop]

end

/-- **Joining from the left and from the right gives the same rows.**  Three relations are joined
by keys `a` and `b` of the first two and `c` and `d` of the last two; in the intermediate results
`x` has to stand for the copy of `c`, and `y` for that of `b`.  All joins go well if their
strategies find all matches, through indexes that are up to date if through any.  The rows are
the same, each as often; if all joins are nested loops, or searches in an index, they also come
in the same order. -/
theorem joinBy_assoc (hl : left.Rectangular) (hm : middle.Rectangular) (hr : right.Rectangular)
    (ha : left.column? a = some aKey) (hb : middle.column? b = some bKey)
    (hab : aKey.type = bKey.type) (hc : middle.column? c = some cKey)
    (hd : right.column? d = some dKey) (hcd : cKey.type = dKey.type)
    {strategy₁ strategy₂ strategy₃ strategy₄ : JoinStrategy}
    (h₁ : strategy₁.Complete op) (h₂ : strategy₂.Complete op')
    (h₃ : strategy₃.Complete op') (h₄ : strategy₄.Complete op)
    (hbIndex : strategy₁ = .indexNestedLoop → bKey.UpToDate)
    (hdIndex : strategy₂ = .indexNestedLoop ∨ strategy₃ = .indexNestedLoop → dKey.UpToDate)
    (schedule₁ schedule₂ schedule₃ schedule₄ : Schedule) :
    ∃ front back, (nestedLoopJoin left a middle b op).outcome = .ok front ∧
      (nestedLoopJoin middle c right d op').outcome = .ok back ∧
      ∀ x y, front.position? x = (middle.position? c).map (left.columnCount + ·) →
        back.position? y = middle.position? b →
        ∃ (front' back' first second : Relation) (rows rows' : List (List Value)),
          (joinBy schedule₁ strategy₁ left a middle b op).outcome = .ok front' ∧
          (joinBy schedule₂ strategy₂ front' x right d op').outcome = .ok first ∧
          (joinBy schedule₃ strategy₃ middle c right d op').outcome = .ok back' ∧
          (joinBy schedule₄ strategy₄ left a back' y op).outcome = .ok second ∧
          first.rows = .ok rows ∧ second.rows = .ok rows' ∧ rows.Perm rows' ∧
          ((∀ strategy ∈ [strategy₁, strategy₂, strategy₃, strategy₄],
            strategy = .nestedLoop ∨ strategy = .indexNestedLoop) → rows = rows') := by
  obtain ⟨aPosition, hap⟩ := Relation.exists_position? ha
  obtain ⟨bPosition, hbp⟩ := Relation.exists_position? hb
  obtain ⟨cPosition, hcp⟩ := Relation.exists_position? hc
  obtain ⟨dPosition, hdp⟩ := Relation.exists_position? hd
  have haFirst := Relation.firstNamed_iff.2 ⟨hap, ha⟩
  have hbFirst := Relation.firstNamed_iff.2 ⟨hbp, hb⟩
  have hcFirst := Relation.firstNamed_iff.2 ⟨hcp, hc⟩
  have hdFirst := Relation.firstNamed_iff.2 ⟨hdp, hd⟩
  obtain ⟨front, hfront, hfrontSchema, -⟩ :=
    joinBy_firstNamed hl hm haFirst hbFirst hab (.inl rfl : JoinStrategy.nestedLoop.Complete op)
      nofun .inOrder
  obtain ⟨back, hback, hbackSchema, -⟩ :=
    joinBy_firstNamed hm hr hcFirst hdFirst hcd (.inl rfl : JoinStrategy.nestedLoop.Complete op')
      nofun .inOrder
  refine ⟨front, back, hfront, hback, fun x y hx hy => ?_⟩
  rw [hcp, Option.map_some] at hx
  rw [hbp] at hy
  obtain ⟨front', first, hrun₁, hrun₂, hrect, hperm, hsame⟩ :=
    joinBy_left hl hm hr haFirst hbFirst hab hcFirst hdFirst hcd h₁ h₂ hbIndex
      (fun h => hdIndex (.inl h))
      (fun _ h => (Relation.position?_of_schema_eq (h.trans hfrontSchema.symm) x).trans hx)
      schedule₁ schedule₂
  obtain ⟨back', second, hrun₃, hrun₄, hrect', hperm', hsame'⟩ :=
    joinBy_right hl hm hr haFirst hbFirst hab hcFirst hdFirst hcd h₃ h₄
      (fun h => hdIndex (.inr h))
      (fun _ h => (Relation.position?_of_schema_eq (h.trans hbackSchema.symm) y).trans hy)
      schedule₃ schedule₄
  rw [relatedRows_rowsMatch_assoc hl hm hbFirst] at hperm hsame
  refine ⟨front', back', first, second, _, _, hrun₁, hrun₂, hrun₃, hrun₄, Relation.rows_eq hrect,
    Relation.rows_eq hrect', hperm.trans hperm'.symm, fun hloops => ?_⟩
  simp only [List.forall_mem_cons] at hloops
  obtain ⟨hloop₁, hloop₂, hloop₃, hloop₄, -⟩ := hloops
  rw [hsame hloop₁ hloop₂, hsame' hloop₃ hloop₄]

/-- Three orders, two of them for the same article. -/
def orders : Relation := ⟨"orders", [.ofCells "article" (.int #[1, 2, 2])]⟩

/-- What is in stock of the articles, in two places of the second. -/
def stock : Relation :=
  ⟨"stock", [.ofCells "article" (.int #[2, 1, 2]), .ofCells "place" (.text #["a", "b", "c"])]⟩

/-- The weights of the articles. -/
def weights : Relation :=
  ⟨"weights", [.ofCells "article" (.int #[2, 1]), .ofCells "weight" (.int #[30, 20])]⟩

/-- The stock is joined by one column with both neighbours; what is found with the weights by
hashing is searched through an index that is built for the orders. -/
theorem joinBy_assoc_orders :
    orders.Rectangular ∧ stock.Rectangular ∧ weights.Rectangular ∧
      ∃ back second rows,
        (parallelHashJoin .reversed stock "article" weights "article" .eq).outcome = .ok back ∧
        (indexNestedLoopJoin orders "article" back "article (first)").outcome = .ok second ∧
        second.rows = .ok rows ∧
        rows.Perm [[.int 1, .int 1, .text "b", .int 1, .int 20],
          [.int 2, .int 2, .text "a", .int 2, .int 30],
          [.int 2, .int 2, .text "c", .int 2, .int 30],
          [.int 2, .int 2, .text "a", .int 2, .int 30],
          [.int 2, .int 2, .text "c", .int 2, .int 30]] := by
  have hl : orders.Rectangular := by decide
  have hm : stock.Rectangular := by decide
  have hr : weights.Rectangular := by decide
  have hunindexed : (Column.ofCells "article" (.int #[2, 1])).UpToDate := nofun
  obtain ⟨front, back, hfront, hback, hassoc⟩ := joinBy_assoc hl hm hr
    (show orders.column? "article" = some _ from rfl)
    (show stock.column? "article" = some _ from rfl) rfl
    (show stock.column? "article" = some _ from rfl)
    (show weights.column? "article" = some _ from rfl) rfl
    (show JoinStrategy.hash.Complete .eq from .inr rfl)
    (show JoinStrategy.nestedLoop.Complete .eq from .inr rfl)
    (show JoinStrategy.parallelHash.Complete .eq from .inr rfl)
    (show JoinStrategy.indexNestedLoop.Complete .eq from .inr rfl)
    nofun (fun _ => hunindexed) .inOrder .inOrder .reversed .inOrder
  have hx : (nestedLoopJoin orders "article" stock "article" .eq).outcome.map
      (·.position? "article (second)") = .ok (some 1) := rfl
  have hy : (nestedLoopJoin stock "article" weights "article" .eq).outcome.map
      (·.position? "article (first)") = .ok (some 0) := rfl
  rw [hfront] at hx
  rw [hback] at hy
  obtain ⟨front', back', first, second, rows, rows', hrun₁, hrun₂, hrun₃, hrun₄, hrows, hrows',
    hperm, -⟩ := hassoc "article (second)" "article (first)" (Except.ok.inj hx) (Except.ok.inj hy)
  have hjoined : ((joinBy .inOrder .hash orders "article" stock "article" .eq).outcome.bind
        fun front => (joinBy .inOrder .nestedLoop front "article (second)" weights "article"
          .eq).outcome.map Relation.rows)
      = .ok (.ok [[.int 1, .int 1, .text "b", .int 1, .int 20],
          [.int 2, .int 2, .text "a", .int 2, .int 30],
          [.int 2, .int 2, .text "c", .int 2, .int 30],
          [.int 2, .int 2, .text "a", .int 2, .int 30],
          [.int 2, .int 2, .text "c", .int 2, .int 30]]) := rfl
  rw [hrun₁, Except.bind, hrun₂, Except.map, hrows] at hjoined
  obtain rfl := Except.ok.inj (Except.ok.inj hjoined)
  exact ⟨hl, hm, hr, back', second, rows', hrun₃, hrun₄, hrows', hperm.symm⟩

end Columnar
