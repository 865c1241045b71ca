import Columnar.Proofs.Index.Postings
import Columnar.Proofs.Selection
import Mathlib.Data.Option.NAry
import Mathlib.Data.String.Basic

/-!
# Comparisons and the rows they select

There are six comparisons and three types of cells, but of two cells of one type there is only
one thing to know: which of them comes first, or that they are equal, or that they have no
order.  Keys are ordered by their ranks — an integer by its value, a float by the multiple of
the smallest float that it is, a text by itself — and the only keys without a rank are the NaNs.
Each comparison says something about how the ranks compare (`Comparison.admits`).

Seen so, the comparisons with one value sort the rows of a column.  A row stands before, with or
behind the value, or nowhere (`Column.place`), and each comparison selects the rows that stand in
certain places.  So `<`, `==` and `>` share no row and leave out those with NaNs; `!=` selects
what `==` leaves, and has the NaNs too.

## Main definitions

* `Value.ordering?` — how a cell compares with a value, if the two have an order.
* `Comparison.admits` — what a comparison says about that.
* `Column.place` — where a row stands with respect to a value.

## Main results

* `Value.holds?_eq` — the comparison of two values of one type is known from their order.
* `Value.ordering?_eq_none_iff` — which values have no order.
* `Column.passing_eq_filter` — the rows that pass are those that stand in the right places.
* `Relation.select_splits` — **a selection is a filter, and the comparisons split the rows.**
-/

namespace Columnar

/-! ### Keys and their ranks -/

/-- Whether a comparison holds, by how the candidate compares with the bound.  Without an order
the two are unequal. -/
def Comparison.admits : Comparison → Option Ordering → Bool
  | .eq, place => place == some .eq
  | .ne, place => !(place == some .eq)
  | .lt, place => place == some .lt
  | .gt, place => place == some .gt
  | .le, place => place == some .lt || place == some .eq
  | .ge, place => place == some .gt || place == some .eq

/-- The native equality and order of keys are those of their ranks.  Keys without a rank are
neither equal to nor before anything. -/
structure Ranks {α ρ : Type} [Key α] [LinearOrder ρ] (rank : α → Option ρ) : Prop where
  /-- Equal keys have the same rank. -/
  same_iff (x y : α) : Key.same x y = true ↔ ∃ k, rank x = some k ∧ rank y = some k
  /-- The smaller rank comes first. -/
  before_iff (x y : α) : Key.before x y = true ↔ ∃ k l, rank x = some k ∧ rank y = some l ∧ k < l

/-- The rank of an integer is its value. -/
def intRank (x : Int64) : Option Int := some x.toInt

/-- The rank of a float is its value as a multiple of the smallest one; a NaN has none. -/
def floatRank (x : Binary64) : Option Int := if x.isNaN then none else some x.scaled

/-- The rank of a text is the text. -/
def textRank (x : String) : Option String := some x

theorem floatRank_eq_some_iff {x : Binary64} {k : Int} :
    floatRank x = some k ↔ x.isNaN = false ∧ x.scaled = k := by
  unfold floatRank
  cases x.isNaN <;> simp

theorem ranks_int : Ranks intRank where
  same_iff x y := by
    simp only [Key.same, intRank, beq_iff_eq, Option.some.injEq]
    rw [← Int64.toInt_inj]
    exact ⟨fun h => ⟨_, rfl, h.symm⟩, fun ⟨_, hx, hy⟩ => hx.trans hy.symm⟩
  before_iff x y := by
    simp only [Key.before, intRank, decide_eq_true_iff, Option.some.injEq, Int64.lt_iff_toInt_lt]
    exact ⟨fun h => ⟨_, _, rfl, rfl, h⟩, fun ⟨_, _, hx, hy, h⟩ => hx ▸ hy ▸ h⟩

theorem ranks_float : Ranks floatRank where
  same_iff x y := by
    rw [show Key.same x y = x.same y from rfl, Binary64.same_iff]
    simp only [floatRank_eq_some_iff]
    constructor
    · rintro ⟨hx, hy, hscaled⟩
      exact ⟨_, ⟨hx, rfl⟩, hy, hscaled.symm⟩
    · rintro ⟨_, ⟨hx, rfl⟩, hy, hscaled⟩
      exact ⟨hx, hy, hscaled.symm⟩
  before_iff x y := by
    rw [show Key.before x y = x.before y from rfl, Binary64.before_iff]
    simp only [floatRank_eq_some_iff]
    constructor
    · rintro ⟨hx, hy, hscaled⟩
      exact ⟨_, _, ⟨hx, rfl⟩, ⟨hy, rfl⟩, hscaled⟩
    · rintro ⟨_, _, ⟨hx, rfl⟩, ⟨hy, rfl⟩, hscaled⟩
      exact ⟨hx, hy, hscaled⟩

theorem ranks_text : Ranks textRank where
  same_iff x y := by
    simp only [Key.same, textRank, beq_iff_eq, Option.some.injEq]
    exact ⟨fun h => ⟨_, rfl, h.symm⟩, fun ⟨_, hx, hy⟩ => hx.trans hy.symm⟩
  before_iff x y := by
    simp only [Key.before, textRank, decide_eq_true_iff, Option.some.injEq]
    exact ⟨fun h => ⟨_, _, rfl, rfl, h⟩, fun ⟨_, _, hx, hy, h⟩ => hx ▸ hy ▸ h⟩

namespace Ranks

variable {α ρ : Type} [Key α] [LinearOrder ρ] {rank : α → Option ρ}

theorem same_eq (h : Ranks rank) (x y : α) :
    Key.same x y = (Option.map₂ compare (rank x) (rank y) == some .eq) := by
  rw [Bool.eq_iff_iff, h.same_iff, beq_iff_eq, Option.map₂_eq_some_iff]
  simp only [compare_eq_iff_eq, Option.mem_def]
  constructor
  · rintro ⟨k, hx, hy⟩
    exact ⟨k, k, hx, hy, rfl⟩
  · rintro ⟨k, _, hx, hy, rfl⟩
    exact ⟨k, hx, hy⟩

theorem before_eq (h : Ranks rank) (x y : α) :
    Key.before x y = (Option.map₂ compare (rank x) (rank y) == some .lt) := by
  rw [Bool.eq_iff_iff, h.before_iff, beq_iff_eq, Option.map₂_eq_some_iff]
  simp only [compare_lt_iff_lt, Option.mem_def]

/-- What comes behind a key is what the key comes before. -/
theorem before_swap_eq (h : Ranks rank) (x y : α) :
    Key.before y x = (Option.map₂ compare (rank x) (rank y) == some .gt) := by
  rw [Bool.eq_iff_iff, h.before_iff, beq_iff_eq, Option.map₂_eq_some_iff]
  simp only [compare_gt_iff_gt, Option.mem_def]
  constructor
  · rintro ⟨k, l, hy, hx, hlt⟩
    exact ⟨l, k, hx, hy, hlt⟩
  · rintro ⟨l, k, hx, hy, hlt⟩
    exact ⟨k, l, hy, hx, hlt⟩

/-- A comparison of keys says how their ranks compare. -/
theorem holds_eq (h : Ranks rank) (op : Comparison) (x y : α) :
    op.holds x y = op.admits (Option.map₂ compare (rank x) (rank y)) := by
  cases op with
  | eq => exact h.same_eq x y
  | ne => rw [Comparison.holds, Comparison.admits, h.same_eq]
  | lt => exact h.before_eq x y
  | gt => exact h.before_swap_eq x y
  | le => rw [Comparison.holds, Comparison.admits, h.before_eq, h.same_eq]
  | ge => rw [Comparison.holds, Comparison.admits, h.before_swap_eq, h.same_eq]

end Ranks

/-! ### Values -/

namespace Value

/-- How a value compares with another; none if the two have different types, or one of them is a
NaN. -/
def ordering? : Value → Value → Option Ordering
  | .int x, .int y => Option.map₂ compare (intRank x) (intRank y)
  | .float x, .float y => Option.map₂ compare (floatRank x) (floatRank y)
  | .text x, .text y => Option.map₂ compare (textRank x) (textRank y)
  | _, _ => none

/-- The comparison of two values of one type is known from their order. -/
theorem holds?_eq {x y : Value} (h : x.type = y.type) (op : Comparison) :
    holds? op x y = some (op.admits (x.ordering? y)) := by
  cases x with
  | int x =>
    cases y with
    | int y => exact congrArg some (ranks_int.holds_eq op x y)
    | float y | text y => cases h
  | float x =>
    cases y with
    | float y => exact congrArg some (ranks_float.holds_eq op x y)
    | int y | text y => cases h
  | text x =>
    cases y with
    | text y => exact congrArg some (ranks_text.holds_eq op x y)
    | int y | float y => cases h

/-- It is the NaNs that have no order. -/
theorem ordering?_eq_none_iff {x y : Value} (h : x.type = y.type) :
    x.ordering? y = none ↔ x.isNaN = true ∨ y.isNaN = true := by
  cases x with
  | int x | text x => cases y <;> simp_all [ordering?, intRank, textRank, isNaN, type]
  | float x =>
    cases y with
    | float y => simp [ordering?, Option.map₂_eq_none_iff, floatRank, isNaN]
    | int y | text y => cases h

end Value

/-! ### Rows of a column -/

theorem Cells.type_of_get? {cells : Cells} {row : Nat} {value : Value}
    (h : cells.get? row = some value) : value.type = cells.type := by
  cases cells with
  | int values | float values | text values =>
    obtain ⟨x, -, rfl⟩ := Option.map_eq_some_iff.1 h
    rfl

/-- Tests that exclude each other pass together what either of them passes. -/
theorem filter_append_filter_perm {α : Type} {p q either : α → Bool} {xs : List α}
    (hexcludes : ∀ x ∈ xs, p x = true → q x = false)
    (heither : ∀ x ∈ xs, either x = (p x || q x)) :
    (xs.filter p ++ xs.filter q).Perm (xs.filter either) := by
  -- of what passes either test, the first one keeps its own and leaves that of the other
  have hp : (xs.filter either).filter p = xs.filter p := by
    rw [List.filter_filter]
    refine List.filter_congr fun x hx => ?_
    rw [heither x hx]
    cases p x <;> rfl
  have hq : (xs.filter either).filter (fun x => !p x) = xs.filter q := by
    rw [List.filter_filter]
    refine List.filter_congr fun x hx => ?_
    rw [heither x hx]
    cases hpx : p x with
    | true => rw [hexcludes x hx hpx]; rfl
    | false => rfl
  have hperm := List.filter_append_perm p (xs.filter either)
  rwa [hp, hq] at hperm

namespace Column

variable {column : Column} {value : Value}

/-- Where a row stands with respect to a value, if its cell and the value have an order. -/
def place (column : Column) (value : Value) (row : Nat) : Option Ordering :=
  (column.get? row).bind (·.ordering? value)

/-- The rows that pass a comparison with a value are those that stand in the right places. -/
theorem passing_eq_filter (htype : value.type = column.type) (op : Comparison) :
    column.passing op value
      = (List.range column.size).filter fun row => op.admits (column.place value row) := by
  refine List.filter_congr fun row hrow => ?_
  obtain ⟨cell, hcell⟩ := Cells.exists_get? (List.mem_range.1 hrow)
  have hget : column.get? row = some cell := hcell
  have hsame : cell.type = value.type := by
    rw [Cells.type_of_get? hcell, column.type_cells]
    exact htype.symm
  rw [place, hget, Option.any_some, Option.bind_some, Value.holds?_eq hsame]
  cases op.admits (cell.ordering? value) <;> rfl

/-- A row stands nowhere if its cell or the value is a NaN. -/
theorem place_eq_none_iff (htype : value.type = column.type) {row : Nat} {cell : Value}
    (hcell : column.get? row = some cell) :
    column.place value row = none ↔ cell.isNaN = true ∨ value.isNaN = true := by
  have hsame : cell.type = value.type := by
    rw [Cells.type_of_get? hcell, column.type_cells]
    exact htype.symm
  rw [place, hcell, Option.bind_some, Value.ordering?_eq_none_iff hsame]

/-- Comparisons that exclude each other select no row in common. -/
theorem disjoint_passing (htype : value.type = column.type) {op op' : Comparison}
    (hexcludes : ∀ place, op.admits place = true → op'.admits place = false) :
    (column.passing op value).Disjoint (column.passing op' value) := by
  rw [passing_eq_filter htype, passing_eq_filter htype]
  intro row hrow hrow'
  have hplace := hexcludes _ (List.mem_filter.1 hrow).2
  rw [(List.mem_filter.1 hrow').2] at hplace
  cases hplace

/-- Together they select what a comparison does that says that one of them holds. -/
theorem passing_append_perm (htype : value.type = column.type) {op op' either : Comparison}
    (hexcludes : ∀ place, op.admits place = true → op'.admits place = false)
    (heither : ∀ place, either.admits place = (op.admits place || op'.admits place)) :
    (column.passing op value ++ column.passing op' value).Perm (column.passing either value) := by
  simp only [passing_eq_filter htype]
  exact filter_append_filter_perm (fun row _ => hexcludes _) fun row _ => heither _

/-- How the comparisons with a value split the rows of a column. -/
structure SplitBy (column : Column) (value : Value) : Prop where
  /-- Every row is selected by either `==` or `!=`. -/
  eq_ne : (column.passing .eq value ++ column.passing .ne value).Perm (List.range column.size)
  /-- No row is selected by two of `<`, `==` and `>`. -/
  disjoint : [column.passing .lt value, column.passing .eq value,
    column.passing .gt value].Pairwise List.Disjoint
  /-- If the value is not a NaN, they select together the rows whose cells are not NaNs. -/
  ordered : value.isNaN = false →
    (column.passing .lt value ++ column.passing .eq value ++ column.passing .gt value).Perm
      ((List.range column.size).filter fun row => (column.get? row).any fun cell => !cell.isNaN)
  /-- If it is a NaN, they select no rows. -/
  unordered : value.isNaN = true →
    column.passing .lt value = [] ∧ column.passing .eq value = [] ∧ column.passing .gt value = []
  /-- The rows of `<=` are those of `<` and `==`. -/
  le : (column.passing .lt value ++ column.passing .eq value).Perm (column.passing .le value)
  /-- The rows of `>=` are those of `>` and `==`. -/
  ge : (column.passing .gt value ++ column.passing .eq value).Perm (column.passing .ge value)

/-- Of all the places a row can stand in, the comparisons with a value of its type split the rows
of a column. -/
theorem splitBy (htype : value.type = column.type) : column.SplitBy value where
  eq_ne := by
    have hne : column.passing .ne value = (List.range column.size).filter fun row =>
        !Comparison.eq.admits (column.place value row) := passing_eq_filter htype .ne
    rw [passing_eq_filter htype .eq, hne]
    exact List.filter_append_perm _ _
  disjoint := by
    have hlt_eq : (column.passing .lt value).Disjoint (column.passing .eq value) :=
      disjoint_passing htype (by decide)
    have hlt_gt : (column.passing .lt value).Disjoint (column.passing .gt value) :=
      disjoint_passing htype (by decide)
    have heq_gt : (column.passing .eq value).Disjoint (column.passing .gt value) :=
      disjoint_passing htype (by decide)
    simp [hlt_eq, hlt_gt, heq_gt]
  ordered hvalue := by
    have hle : (column.passing .lt value ++ column.passing .eq value).Perm
        (column.passing .le value) := passing_append_perm htype (by decide) (by decide)
    -- the rows of `<` and `==` are those of `<=`, and what is left to add are those of `>`
    refine (hle.append_right _).trans ?_
    rw [passing_eq_filter htype, passing_eq_filter htype]
    refine filter_append_filter_perm (fun row _ => ?_) fun row hrow => ?_
    · cases column.place value row with
      | none => decide
      | some place => cases place <;> decide
    · obtain ⟨cell, hcell⟩ := Cells.exists_get? (List.mem_range.1 hrow)
      have hget : column.get? row = some cell := hcell
      have hplace := place_eq_none_iff htype hget
      rw [hget, Option.any_some]
      -- only a NaN stands neither before nor with nor behind the value
      cases hnan : cell.isNaN with
      | true =>
        rw [hplace.2 (.inl hnan)]
        rfl
      | false =>
        have hsome : column.place value row ≠ none := by
          rw [Ne, hplace, hnan, hvalue]
          decide
        obtain ⟨place, hstands⟩ := Option.ne_none_iff_exists'.1 hsome
        rw [hstands]
        cases place <;> rfl
  unordered hvalue := by
    -- nothing has an order with a NaN
    have hnone : ∀ row ∈ List.range column.size, column.place value row = none := by
      intro row hrow
      obtain ⟨cell, hcell⟩ := Cells.exists_get? (List.mem_range.1 hrow)
      exact (place_eq_none_iff htype hcell).2 (.inr hvalue)
    have hempty (op : Comparison) (hop : op.admits none = false) :
        column.passing op value = [] := by
      rw [passing_eq_filter htype, List.filter_eq_nil_iff]
      intro row hrow
      rw [hnone row hrow, hop]
      exact Bool.false_ne_true
    exact ⟨hempty .lt rfl, hempty .eq rfl, hempty .gt rfl⟩
  le := passing_append_perm htype (by decide) (by decide)
  ge := passing_append_perm htype (by decide) (by decide)

end Column

/-! ### Selections -/

namespace Relation

variable {r : Relation} {name : String}

/-- **A selection is a filter, and the comparisons split the rows.**  A selection is refused if no
column has the name, or if the first that has it is of another type than the value, and otherwise
gives the rows whose cell in that column passes, in order.  Of the rows of the relation `==` and
`!=` each select what the other leaves; `<`, `==` and `>` select no row twice and only those with
NaNs not at all, or no row at all if the value is a NaN; and `<=` and `>=` add those of `==` to
those of `<` and `>`. -/
theorem select_splits (hr : r.Rectangular) (name : String) (value : Value) :
    (∀ op failure, (r.select name op value).outcome = .error failure ↔
      (name ∉ r.header ∧ failure = .refused (.unknownColumn r.name name)) ∨
      ∃ position column, r.FirstNamed name position column ∧ value.type ≠ column.type ∧
        failure = .refused (.valueTypeMismatch name column.type value.type)) ∧
    r.rows = .ok r.rowList ∧
    ∀ position column, r.FirstNamed name position column → value.type = column.type →
      (∀ op, ∃ selected, (r.select name op value).outcome = .ok selected ∧
        r.IsTaken (column.passing op value) selected ∧
        selected.rows = .ok (r.rowList.filter (cellPasses position op value))) ∧
      column.size = r.rowCount ∧ column.SplitBy value := by
  refine ⟨fun op failure => select_eq_error_iff hr, rows_eq hr,
    fun position column hcolumn htype => ?_⟩
  refine ⟨fun op => ?_, hr column (List.mem_of_getElem? hcolumn.getElem?_eq), Column.splitBy htype⟩
  obtain ⟨selected, hselected, htaken⟩ := select_passing hr hcolumn htype op
  obtain ⟨selected', hselected', hselection⟩ := select_ok hr hcolumn htype op
  obtain rfl := Except.ok.inj (hselected.symm.trans hselected')
  refine ⟨selected, hselected, htaken, ?_⟩
  rw [rows_eq htaken.rectangular, hselection.rowList_eq]

/-- Zero, a NaN, negative zero and the smallest float. -/
def measurements : Relation :=
  ⟨"measurements", [.ofCells "x" (.float
    #[⟨0⟩, ⟨0x7ff8000000000000⟩, ⟨0x8000000000000000⟩, ⟨1⟩])]⟩

/-- Compared with zero, the row of the NaN is selected by `!=` alone, and both zeros by `==`. -/
theorem select_splits_zeros :
    measurements.Rectangular ∧ measurements.FirstNamed "x" 0 measurements.columns[0] ∧
      "y" ∉ measurements.header ∧
      (∃ equal unequal, (measurements.select "x" .eq (.float ⟨0⟩)).outcome = .ok equal ∧
        equal.rows = .ok [[.float ⟨0⟩], [.float ⟨0x8000000000000000⟩]] ∧
        (measurements.select "x" .ne (.float ⟨0⟩)).outcome = .ok unequal ∧
        unequal.rows = .ok [[.float ⟨0x7ff8000000000000⟩], [.float ⟨1⟩]]) ∧
      (measurements.select "x" .eq (.int 0)).outcome
        = .error (.refused (.valueTypeMismatch "x" .float .int)) := by
  have hr : measurements.Rectangular := by decide
  have hcolumn : measurements.FirstNamed "x" 0 measurements.columns[0] :=
    firstNamed_iff.2 ⟨rfl, rfl⟩
  have hunknown : "y" ∉ measurements.header := by decide
  obtain ⟨-, -, hfilters⟩ := select_splits hr "x" (.float ⟨0⟩)
  obtain ⟨herrors, -⟩ := select_splits hr "x" (.int 0)
  obtain ⟨hselect, -⟩ := hfilters 0 _ hcolumn rfl
  obtain ⟨equal, hequal, -, hequalRows⟩ := hselect .eq
  obtain ⟨unequal, hunequal, -, hunequalRows⟩ := hselect .ne
  refine ⟨hr, hcolumn, hunknown, ⟨equal, unequal, hequal, ?_, hunequal, ?_⟩, ?_⟩
  · rw [hequalRows]
    decide +kernel
  · rw [hunequalRows]
    decide +kernel
  · exact (herrors .eq _).2 (.inr ⟨0, _, hcolumn, by decide, rfl⟩)

end Relation

end Columnar
