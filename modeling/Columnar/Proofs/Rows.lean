import Columnar.Relation.Basic
import Mathlib.Data.List.Forall2

/-!
# The rows of a relation

A relation is stored column by column, but what it means is its list of rows.  Row `i`
is made of the cells at position `i`, one from each column that reaches so far; in a
rectangular relation every column does, and the rows that can be read are exactly these.

Gathering works column by column too.  Each column that it gives is described apart from
the others (`Column.IsTaken`), and the rows are put together from that: row `n` of what
was gathered is the row that stood at the `n`-th position.

## Main definitions

* `cellsAt`, `Relation.rowOf` — the cells at a position, from the left.
* `Relation.rowList` — the rows of a relation.
* `Relation.Reaches` — every column has a cell in a row.
* `Column.IsTaken` — a column that holds the rows of another at given positions.

## Main results

* `Relation.rows_eq` — a rectangular relation can be read, and gives its row list.
* `Relation.isOk_gatherColumns_iff` — rows can be gathered if every column reaches them.
* `AllTaken.cellsAt_eq` — the rows of what was gathered.
-/

namespace Columnar

/-! ### Going through a list with checks -/

/-- A list of checks goes well exactly when each of them does. -/
theorem mapM_eq_ok_iff {ε α β : Type} {f : α → Except ε β} {xs : List α} {ys : List β} :
    xs.mapM f = .ok ys ↔ List.Forall₂ (fun x y => f x = .ok y) xs ys := by
  induction xs generalizing ys with
  | nil =>
    rw [List.mapM_nil, List.forall₂_nil_left_iff]
    exact ⟨fun h => (Except.ok.inj h).symm, fun h => h ▸ rfl⟩
  | cons x xs ih =>
    rw [List.mapM_cons, List.forall₂_cons_left_iff]
    constructor
    · intro h
      cases hx : f x with
      | error e => rw [hx] at h; cases h
      | ok y =>
        cases hxs : xs.mapM f with
        | error e => rw [hx, hxs] at h; cases h
        | ok rest =>
          rw [hx, hxs] at h
          exact ⟨y, rest, rfl, ih.1 hxs, (Except.ok.inj h).symm⟩
    · rintro ⟨y, rest, hx, hrest, rfl⟩
      rw [hx, ih.2 hrest]
      rfl

/-- Values are found for a whole list exactly when one is found for each element. -/
theorem mapM_eq_some_iff {α β : Type} {f : α → Option β} {xs : List α} {ys : List β} :
    xs.mapM f = some ys ↔ List.Forall₂ (fun x y => f x = some y) xs ys := by
  induction xs generalizing ys with
  | nil =>
    rw [List.mapM_nil, List.forall₂_nil_left_iff]
    exact ⟨fun h => (Option.some.inj h).symm, fun h => h ▸ rfl⟩
  | cons x xs ih =>
    rw [List.mapM_cons, List.forall₂_cons_left_iff]
    constructor
    · intro h
      obtain ⟨y, hx, h⟩ := Option.bind_eq_some_iff.1 h
      obtain ⟨rest, hrest, h⟩ := Option.bind_eq_some_iff.1 h
      exact ⟨y, rest, hx, ih.1 hrest, (Option.some.inj h).symm⟩
    · rintro ⟨y, rest, hx, hrest, rfl⟩
      rw [hx, ih.2 hrest]
      rfl

theorem mapM_eq_ok_map {ε α β : Type} {f : α → Except ε β} {g : α → β} {xs : List α}
    (h : ∀ x ∈ xs, f x = .ok (g x)) : xs.mapM f = .ok (xs.map g) := by
  rw [mapM_eq_ok_iff, List.forall₂_map_right_iff, List.forall₂_same]
  exact h

theorem exists_mapM_eq_ok {ε α β : Type} {f : α → Except ε β} {xs : List α}
    (h : ∀ x ∈ xs, ∃ y, f x = .ok y) : ∃ ys, xs.mapM f = .ok ys := by
  induction xs with
  | nil => exact ⟨[], rfl⟩
  | cons x xs ih =>
    obtain ⟨y, hy⟩ := h x List.mem_cons_self
    obtain ⟨ys, hys⟩ := ih fun x hx => h x (List.mem_cons_of_mem _ hx)
    rw [mapM_eq_ok_iff] at hys
    exact ⟨y :: ys, mapM_eq_ok_iff.2 (.cons hy hys)⟩

theorem exists_mem_of_forall₂ {α β : Type} {R : α → β → Prop} {xs : List α} {ys : List β}
    (h : List.Forall₂ R xs ys) {y : β} (hy : y ∈ ys) : ∃ x ∈ xs, R x y := by
  induction h with
  | nil => cases hy
  | cons hxy _ ih =>
    rcases List.mem_cons.1 hy with rfl | hy
    · exact ⟨_, List.mem_cons_self, hxy⟩
    · obtain ⟨x, hx, hxy⟩ := ih hy
      exact ⟨x, List.mem_cons_of_mem _ hx, hxy⟩

/-- A list of checks goes well exactly when none of them fails. -/
theorem isOk_mapM_iff {ε α β : Type} {f : α → Except ε β} {xs : List α} :
    (∃ ys, xs.mapM f = .ok ys) ↔ ∀ x ∈ xs, ∃ y, f x = .ok y := by
  constructor
  · rintro ⟨ys, hys⟩ x hx
    have hall := List.Forall₂.flip (mapM_eq_ok_iff.1 hys)
    obtain ⟨y, -, hy⟩ := exists_mem_of_forall₂ hall hx
    exact ⟨y, hy⟩
  · exact exists_mapM_eq_ok

/-! ### Elements at positions -/

/-- A list holds the elements of another at some positions, in the order of the positions. -/
def Picks {α : Type} (positions : List Nat) (xs picked : List α) : Prop :=
  List.Forall₂ (fun position x => xs[position]? = some x) positions picked

section

variable {α β : Type} {xs xs' picked picked' : List α} {positions positions' : List Nat}

theorem Picks.map (h : Picks positions xs picked) (f : α → β) :
    Picks positions (xs.map f) (picked.map f) := by
  unfold Picks
  rw [List.forall₂_map_right_iff]
  refine h.imp fun position x hx => ?_
  rw [List.getElem?_map, hx, Option.map_some]

/-- The positions behind a first list start at its end. -/
theorem Picks.append (h : Picks positions xs picked) (h' : Picks positions' xs' picked') :
    Picks (positions ++ positions'.map (xs.length + ·)) (xs ++ xs') (picked ++ picked') := by
  refine List.rel_append (h.imp fun position x hx => ?_) ?_
  · have hlt := (List.getElem?_eq_some_iff.1 hx).1
    rwa [List.getElem?_append_left hlt]
  · rw [List.forall₂_map_left_iff]
    refine h'.imp fun position x hx => ?_
    rw [List.getElem?_append_right (Nat.le_add_right _ _), Nat.add_sub_cancel_left, hx]

/-- Going through the elements at some positions gives what was found at these. -/
theorem Picks.exists_mapM {ε : Type} {f : α → Except ε β} {ys : List β}
    (h : Picks positions xs picked) (hys : xs.mapM f = .ok ys) :
    ∃ found, picked.mapM f = .ok found ∧ Picks positions ys found := by
  have hall := mapM_eq_ok_iff.1 hys
  induction h with
  | nil => exact ⟨[], rfl, .nil⟩
  | cons hx _ ih =>
    obtain ⟨found, hfound, hpicks⟩ := ih
    obtain ⟨hlt, rfl⟩ := List.getElem?_eq_some_iff.1 hx
    have hlt' := hall.length_eq ▸ hlt
    exact ⟨ys[_] :: found, mapM_eq_ok_iff.2 (.cons (hall.get hlt hlt') (mapM_eq_ok_iff.1 hfound)),
      .cons (List.getElem?_eq_getElem hlt') hpicks⟩

end

/-! ### Columns taken from a column -/

theorem Cells.get?_lt {cells : Cells} {row : Nat} {value : Value}
    (h : cells.get? row = some value) : row < cells.size := by
  rw [get?_eq_getElem?] at h
  rw [← length_toList]
  exact (List.getElem?_eq_some_iff.1 h).1

theorem Cells.exists_get? {cells : Cells} {row : Nat} (h : row < cells.size) :
    ∃ value, cells.get? row = some value := by
  rw [get?_eq_getElem?]
  rw [← length_toList] at h
  exact ⟨cells.toList[row], List.getElem?_eq_getElem h⟩

/-- What was gathered, seen through a function on the elements. -/
theorem map_gather {α β : Type} (f : α → β) {values : Array α} {rows : List Nat}
    {found : List α} (h : gather values rows = .ok found) :
    rows.map (fun row => values[row]?.map f) = (found.map f).map some := by
  have hmap := congrArg (List.map (Option.map f)) (gather_eq_ok_iff.1 h)
  simpa [Function.comp_def] using hmap

/-- What was taken from positions in range is what stands there. -/
theorem Cells.take_eq_ok {cells taken : Cells} {rows : List Nat}
    (h : cells.take rows = .ok taken) : rows.map cells.get? = taken.toList.map some := by
  cases cells with
  | int values | float values | text values =>
    rw [take] at h
    cases hrows : gather values rows with
    | error f => rw [hrows] at h; cases h
    | ok found =>
      rw [hrows] at h
      cases h
      exact map_gather _ hrows

theorem Cells.isOk_take_iff {cells : Cells} {rows : List Nat} :
    (∃ taken, cells.take rows = .ok taken) ↔ ∀ row ∈ rows, row < cells.size := by
  cases cells with
  | int values | float values | text values =>
    rw [size, ← isOk_gather_iff, take]
    cases gather values rows <;> simp [Except.map]

/-- A column holds the rows of another at the given positions, under the same signature
and without an index. -/
structure Column.IsTaken (column : Column) (rows : List Nat) (taken : Column) : Prop where
  /-- The name and the type are kept. -/
  signature_eq : taken.signature = column.signature
  /-- An index is not. -/
  index_eq : taken.index = none
  /-- The cells are those at the positions, in the order of the positions. -/
  cells_eq : rows.map column.get? = taken.cells.toList.map some

theorem Column.isTaken_of_take {column taken : Column} {rows : List Nat}
    (h : column.take rows = .ok taken) : column.IsTaken rows taken := by
  unfold take at h
  split at h
  · next cells hcells =>
    cases h
    exact ⟨rfl, rfl, Cells.take_eq_ok hcells⟩
  · cases h

/-- Rows can be taken out of a column exactly when it reaches to all their positions. -/
theorem Column.isOk_take_iff {column : Column} {rows : List Nat} :
    (∃ taken, column.take rows = .ok taken) ↔ ∀ row ∈ rows, row < column.size := by
  unfold size
  rw [← Cells.isOk_take_iff]
  constructor
  · rintro ⟨taken, h⟩
    unfold take at h
    split at h
    · next cells hcells => exact ⟨cells, hcells⟩
    · cases h
  · rintro ⟨cells, hcells⟩
    unfold take
    split
    · exact ⟨_, rfl⟩
    · next f hf => rw [hf] at hcells; cases hcells

namespace Column.IsTaken

variable {column taken : Column} {rows : List Nat}

theorem size_eq (h : column.IsTaken rows taken) : taken.size = rows.length := by
  have hlength := congrArg List.length h.cells_eq
  simpa [Column.size] using hlength.symm

/-- Row `n` of a taken column is the cell at the `n`-th position. -/
theorem get?_eq (h : column.IsTaken rows taken) (n : Nat) :
    taken.get? n = rows[n]?.bind column.get? := by
  have hn := congrArg (·[n]?.join) h.cells_eq
  simp only [List.getElem?_map] at hn
  rw [Column.get?, Cells.get?_eq_getElem?]
  cases hcell : taken.cells.toList[n]? <;> cases hrow : rows[n]? <;> simp_all

end Column.IsTaken

/-- Columns taken, one from each of the given ones, at the same positions. -/
abbrev AllTaken (rows : List Nat) : List Column → List Column → Prop :=
  List.Forall₂ fun column taken => column.IsTaken rows taken

theorem AllTaken.map_signature {rows : List Nat} {columns taken : List Column}
    (h : AllTaken rows columns taken) :
    taken.map Column.signature = columns.map Column.signature := by
  induction h with
  | nil => rfl
  | cons hcolumn _ ih => rw [List.map_cons, List.map_cons, ih, hcolumn.signature_eq]

theorem AllTaken.of_mem {rows : List Nat} {columns taken : List Column}
    (h : AllTaken rows columns taken) {column : Column} (hc : column ∈ taken) :
    column.size = rows.length ∧ column.index = none := by
  obtain ⟨source, -, htaken⟩ := exists_mem_of_forall₂ h hc
  exact ⟨htaken.size_eq, htaken.index_eq⟩

/-! ### Rows -/

theorem Column.cellAt_eq_ok_iff {column : Column} {row : Nat} {value : Value} :
    column.cellAt row = .ok value ↔ column.get? row = some value := by
  unfold cellAt
  cases column.get? row <;> simp

/-- The cells at a position, from the left, of the columns that reach so far. -/
def cellsAt (columns : List Column) (row : Nat) : List Value := columns.filterMap (·.get? row)

theorem cellsAt_append (columns columns' : List Column) (row : Nat) :
    cellsAt (columns ++ columns') row = cellsAt columns row ++ cellsAt columns' row :=
  List.filterMap_append

/-- Row `n` of what was gathered is the row at the `n`-th position. -/
theorem AllTaken.cellsAt_eq {columns taken : List Column} {rows : List Nat}
    (h : AllTaken rows columns taken) {n row : Nat} (hrow : rows[n]? = some row) :
    cellsAt taken n = cellsAt columns row := by
  unfold cellsAt
  induction h with
  | nil => rfl
  | cons hcolumn _ ih =>
    rw [List.filterMap_cons, List.filterMap_cons, ih, hcolumn.get?_eq n, hrow]
    rfl

namespace Relation

/-- The cells at a position. -/
def rowOf (r : Relation) (row : Nat) : List Value := cellsAt r.columns row

/-- The rows, in order. -/
def rowList (r : Relation) : List (List Value) := (List.range r.rowCount).map r.rowOf

@[simp] theorem length_rowList (r : Relation) : r.rowList.length = r.rowCount := by
  simp [rowList]

/-- A row list is known from its length and its rows. -/
theorem rowList_eq_map {α : Type} {r : Relation} {xs : List α} {f : α → List Value}
    (hcount : r.rowCount = xs.length) (hrow : ∀ n x, xs[n]? = some x → r.rowOf n = f x) :
    r.rowList = xs.map f := by
  refine List.ext_getElem (by simp [hcount]) fun n hn hn' => ?_
  rw [List.length_map] at hn'
  simp only [rowList, List.getElem_map, List.getElem_range]
  exact hrow n xs[n] (List.getElem?_eq_getElem hn')

/-- The number of rows is the common length of the columns, if there is a column. -/
theorem rowCount_eq {r : Relation} (hne : r.columns ≠ []) {n : Nat}
    (h : ∀ column ∈ r.columns, column.size = n) : r.rowCount = n := by
  unfold rowCount
  split
  · next hnil => exact absurd hnil hne
  · next first _ hcons =>
    exact h first (by rw [hcons]; exact List.mem_cons_self)

/-- Columns that all have one length have equal lengths. -/
theorem rectangular_of_size {r : Relation} (n : Nat) (h : ∀ column ∈ r.columns, column.size = n) :
    r.Rectangular := by
  intro column hc
  rw [h column hc, rowCount_eq (List.ne_nil_of_mem hc) h]

/-- Every column has a cell in a row. -/
def Reaches (r : Relation) (row : Nat) : Prop := ∀ column ∈ r.columns, row < column.size

/-- In a rectangular relation every column reaches the rows that there are. -/
theorem Rectangular.reaches {r : Relation} (h : r.Rectangular) {row : Nat}
    (hrow : row < r.rowCount) : r.Reaches row := by
  intro column hc
  rwa [h column hc]

/-- A row that every column reaches can be read. -/
theorem rowAt_eq {r : Relation} {row : Nat} (h : r.Reaches row) :
    r.rowAt row = .ok (r.rowOf row) := by
  unfold Reaches at h
  unfold rowAt rowOf cellsAt
  rw [mapM_eq_ok_iff]
  generalize r.columns = columns at h
  induction columns with
  | nil => exact .nil
  | cons column columns ih =>
    obtain ⟨value, hvalue⟩ := Cells.exists_get? (h column List.mem_cons_self)
    have hget : column.get? row = some value := hvalue
    rw [List.filterMap_cons, hget]
    exact .cons (Column.cellAt_eq_ok_iff.2 hget)
      (ih fun column hc => h column (List.mem_cons_of_mem _ hc))

theorem rowAt_of_lt {r : Relation} (h : r.Rectangular) {row : Nat} (hrow : row < r.rowCount) :
    r.rowAt row = .ok (r.rowOf row) :=
  rowAt_eq (h.reaches hrow)

theorem length_rowOf {r : Relation} (h : r.Rectangular) {row : Nat} (hrow : row < r.rowCount) :
    (r.rowOf row).length = r.columnCount :=
  (mapM_eq_ok_iff.1 (rowAt_of_lt h hrow)).length_eq.symm

theorem length_of_mem_rowList {r : Relation} (h : r.Rectangular) {row : List Value}
    (hrow : row ∈ r.rowList) : row.length = r.columnCount := by
  obtain ⟨i, hi, rfl⟩ := List.mem_map.1 hrow
  exact length_rowOf h (List.mem_range.1 hi)

/-- What stands in a row at the position of a column is the cell of that column. -/
theorem getElem?_rowOf {r : Relation} (h : r.Rectangular) {row : Nat} (hrow : row < r.rowCount)
    {position : Nat} {column : Column} (hcolumn : r.columns[position]? = some column) :
    (r.rowOf row)[position]? = column.get? row := by
  have hall := mapM_eq_ok_iff.1 (rowAt_of_lt h hrow)
  obtain ⟨hlt, rfl⟩ := List.getElem?_eq_some_iff.1 hcolumn
  have hlt' : position < (r.rowOf row).length := hall.length_eq ▸ hlt
  -- reading the cell has gone well, so it is there
  have hcell := Column.cellAt_eq_ok_iff.1 (hall.get hlt hlt')
  rw [List.getElem?_eq_getElem hlt']
  exact hcell.symm

/-- The cells of a column are what stands at its position in the rows. -/
theorem map_getElem?_rowList {r : Relation} (h : r.Rectangular) {position : Nat} {column : Column}
    (hcolumn : r.columns[position]? = some column) :
    r.rowList.map (·[position]?) = column.cells.toList.map some := by
  have hsize : column.cells.size = r.rowCount := h column (List.mem_of_getElem? hcolumn)
  refine List.ext_getElem (by simp [hsize]) fun row hrow hrow' => ?_
  simp only [List.length_map, length_rowList] at hrow
  simp only [rowList, List.getElem_map, List.getElem_range]
  rw [getElem?_rowOf h hrow hcolumn, Column.get?, Cells.get?_eq_getElem?, List.getElem?_eq_getElem]

/-- A rectangular relation can be read from the first row to the last. -/
theorem rows_eq {r : Relation} (h : r.Rectangular) : r.rows = .ok r.rowList := by
  refine mapM_eq_ok_map fun row hrow => ?_
  exact rowAt_of_lt h (List.mem_range.1 hrow)

/-- Gathering takes the rows out of each column. -/
theorem allTaken_of_gatherColumns {r : Relation} {rows : List Nat} {taken : List Column}
    (h : r.gatherColumns rows = .ok taken) : AllTaken rows r.columns taken :=
  (mapM_eq_ok_iff.1 h).imp fun _ _ => Column.isTaken_of_take

/-- Rows can be gathered exactly when every column reaches all of them. -/
theorem isOk_gatherColumns_iff {r : Relation} {rows : List Nat} :
    (∃ taken, r.gatherColumns rows = .ok taken) ↔ ∀ row ∈ rows, r.Reaches row := by
  unfold gatherColumns Reaches
  simp only [isOk_mapM_iff, Column.isOk_take_iff]
  exact ⟨fun h row hrow column hc => h column hc row hrow,
    fun h column hc row hrow => h row hrow column hc⟩

theorem gatherColumns_of_reaches {r : Relation} {rows : List Nat}
    (hrows : ∀ row ∈ rows, r.Reaches row) :
    ∃ taken, r.gatherColumns rows = .ok taken ∧ AllTaken rows r.columns taken := by
  obtain ⟨taken, htaken⟩ := isOk_gatherColumns_iff.2 hrows
  exact ⟨taken, htaken, allTaken_of_gatherColumns htaken⟩

end Relation

end Columnar
