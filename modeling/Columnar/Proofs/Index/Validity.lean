import Columnar.Proofs.Index.Lookup
import Columnar.Proofs.Index.Origin
import Mathlib.Data.List.Induction

/-!
# What an index is good for

An index is built over all the rows of a column and stays as it is.  The column may grow
afterwards, and copies of it may grow apart; so in general an index knows the first rows of
its column and no others.  That it always knows those, and never anything else, is the
invariant of a run: the index of a column was built, at some point of the run, over a column
that held nothing but the first rows of this one (`Column.Traced`).

Searches follow.  The rows that are found are those among the first rows whose cells equal
the key, so that no row is found out of range or without holding the key, and the only rows
missed are those appended since the index was built.

## Main definitions

* `Column.Traced` — the index of a column goes back to a point of the run.

## Main results

* `Session.all_traced` — so does every index of a session.
* `Session.index_valid` — **what is found through an index, at any point of any run.**
-/

namespace Columnar

/-- A search in an index over the first rows of a column finds those of them that hold the
key. -/
theorem Index.mem_lookup_firstRows {cells : Cells} {k row : Nat} {key : Value} :
    row ∈ (build (cells.firstRows k)).lookup key ↔
      row < k ∧ ∃ value, cells.get? row = some value ∧ value.same key = true := by
  rw [mem_lookup_build, Cells.get?_firstRows]
  by_cases hrow : row < k
  · rw [if_pos hrow]
    exact (and_iff_right hrow).symm
  · rw [if_neg hrow]
    constructor
    · rintro ⟨_, ⟨⟩, _⟩
    · rintro ⟨hlt, _⟩
      exact absurd hlt hrow

/-! ### The invariant of a run -/

/-- The index of a column, if it has one, was built at some point of the run, over all the
rows that the column had then; these are still its first rows. -/
def Column.Traced (commands : List Command) (column : Column) : Prop :=
  ∀ index, column.index = some index →
    ∃ earlier later built, commands = earlier ++ later ∧ (Session.run earlier).Has built ∧
      built.index = some index ∧ index = .build built.cells ∧ built.size ≤ column.size ∧
      column.cells.firstRows built.size = built.cells

namespace Column.Traced

variable {commands : List Command} {column : Column}

theorem of_unindexed (h : column.index = none) : column.Traced commands := by
  intro index hindex
  rw [h] at hindex
  cases hindex

theorem of_indexed (hhas : (Session.run commands).Has column)
    (h : column.index = some (.build column.cells)) : column.Traced commands := by
  intro index hindex
  obtain rfl := Option.some.inj (h.symm.trans hindex)
  exact ⟨commands, [], column, (List.append_nil _).symm, hhas, h, rfl, Nat.le_refl _,
    Cells.firstRows_size _⟩

/-- A column that grows goes back as far as it did. -/
theorem of_extends {source : Column} (h : source.Traced commands)
    (hextends : column.Extends source) (command : Command) :
    column.Traced (commands ++ [command]) := by
  intro index hindex
  rw [hextends.index_eq] at hindex
  obtain ⟨earlier, later, built, hrun, hhas, hbuilt, heq, hle, hfirst⟩ := h index hindex
  have hsplit : commands ++ [command] = earlier ++ (later ++ [command]) := by
    rw [hrun, List.append_assoc]
  refine ⟨earlier, later ++ [command], built, hsplit, hhas, hbuilt, heq,
    hle.trans hextends.size_le, ?_⟩
  -- the rows the index was built over are among the rows that the source had
  rw [← hextends.firstRows_eq, Cells.firstRows_firstRows, min_eq_left hle] at hfirst
  exact hfirst

end Column.Traced

namespace Session

theorem not_has_start (column : Column) : ¬ start.Has column := by
  rintro (h | ⟨r, hr, -⟩)
  · cases h
  · exact not_holds_start r hr

/-- At any point of a run every index goes back to the point where it was built. -/
theorem all_traced (commands : List Command) : (run commands).All (Column.Traced commands) := by
  -- one command after the other; what each does to the columns is already known
  induction commands using List.reverseRecOn with
  | nil => exact fun column h => absurd h (not_has_start column)
  | append_singleton commands command ih =>
    intro column hhas
    have hfrom : column.From (run commands).Has := by
      rw [run_concat] at hhas
      exact all_from_step _ command column hhas
    -- an index is gone, or new, or goes back as far as it did in the column's source
    cases hfrom with
    | unindexed hindex => exact .of_unindexed hindex
    | indexed hindex => exact .of_indexed hhas hindex
    | grown source hold hextends => exact (ih source hold).of_extends hextends command

/-- **What is found through an index, at any point of any run.**  The cells of a column have
the declared type.  A column without an index finds nothing.  Otherwise there is a `k` no
greater than its length such that the index is the one over its first `k` rows; these were
all its rows, or those of the column it was copied from, when the index was built.  A search
finds, in ascending order, the rows below `k` whose cells equal the key natively. -/
theorem index_valid (commands : List Command) {column : Column}
    (h : (run commands).Has column) :
    column.cells.type = column.type ∧
    ((column.index = none ∧ ∀ key, column.lookup key = []) ∨
      ∃ index k, column.index = some index ∧ k ≤ column.size ∧
        index = .build (column.cells.firstRows k) ∧
        (∃ earlier later built, commands = earlier ++ later ∧ (run earlier).Has built ∧
          built.index = some index ∧ built.size = k ∧
          built.cells = column.cells.firstRows k) ∧
        ∀ key, (column.lookup key).Pairwise (· < ·) ∧
          ∀ row, row ∈ column.lookup key ↔
            row < k ∧ ∃ value, column.get? row = some value ∧ value.same key = true) := by
  refine ⟨column.type_cells, ?_⟩
  cases hindex : column.index with
  | none =>
    left
    refine ⟨rfl, fun key => ?_⟩
    unfold Column.lookup
    rw [hindex]
  | some index =>
    right
    obtain ⟨earlier, later, built, hrun, hhas, hbuilt, heq, hle, hfirst⟩ :=
      all_traced commands column h index hindex
    have hbuild : index = .build (column.cells.firstRows built.size) := by rw [hfirst, heq]
    refine ⟨index, built.size, rfl, hle, hbuild,
      ⟨earlier, later, built, hrun, hhas, hbuilt, rfl, hfirst.symm⟩, fun key => ?_⟩
    -- a search in the column is one in the index over its first rows
    have hlookup : column.lookup key
        = (Index.build (column.cells.firstRows built.size)).lookup key := by
      unfold Column.lookup
      rw [hindex, ← hbuild]
    rw [hlookup]
    exact ⟨Index.pairwise_lookup_build _ key, fun row => Index.mem_lookup_firstRows⟩

/-- A row is inserted, the index built, and the row inserted again. -/
def staleCommands : List Command :=
  [.newRelation (.empty "numbers" [⟨"n", .int⟩]),
    .editRelation (.held 0) (.insert [.int 5]),
    .editRelation (.held 0) (.makeIndex "n"),
    .editRelation (.held 0) (.insert [.int 5])]

/-- A column whose index knows the first of its two rows. -/
def staleColumn : Column where
  signature := ⟨"n", .int⟩
  cells := .int #[5, 5]
  index := some (.build (.int #[5]))
  type_cells := rfl

/-- The second row holds the key as well, and is not found. -/
theorem index_valid_stale :
    (run staleCommands).Has staleColumn ∧ staleColumn.get? 1 = some (.int 5) ∧
      0 ∈ staleColumn.lookup (.int 5) ∧ 1 ∉ staleColumn.lookup (.int 5) := by
  have hhas : (run staleCommands).Has staleColumn :=
    .inr ⟨⟨"numbers", [staleColumn]⟩, .inl (List.mem_singleton.2 rfl), List.mem_singleton.2 rfl⟩
  refine ⟨hhas, rfl, ?_⟩
  rcases (index_valid staleCommands hhas).2 with ⟨hnone, -⟩ | ⟨_, k, hindex, -, heq, -, hlookup⟩
  · cases hnone
  · -- the index says itself that it covers one row
    have hcovered : 1 = (staleColumn.cells.firstRows k).size := by
      cases hindex
      exact congrArg Index.rowsCovered heq
    have hk : k = 1 := by
      rw [Cells.size_firstRows, show staleColumn.cells.size = 2 from rfl] at hcovered
      omega
    rw [(hlookup _).2, (hlookup _).2, hk]
    exact ⟨⟨by decide, .int 5, rfl, by decide⟩, by omega⟩

end Session

end Columnar
