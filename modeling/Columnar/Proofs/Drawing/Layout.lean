import Columnar.Proofs.Drawing.Lines
import Columnar.Proofs.Rows
import Columnar.Relation.Render

/-!
# What the drawing of a relation shows

The drawing of a relation can be taken apart again: into the widths of the columns, and for each
row a block of lines, each line a list of fields.  What must hold of these is said without
reference to how they were made.  Each column has one width, given by the widest piece of its
name or cells.  A block has as many lines as its tallest cell has pieces, and line `n` shows the
pieces `n` of the cells: in whole, in their columns and at their place in the field.  So no cell
is lost, cut or moved, and all lines are equally wide.

A width is at least one.  That only matters to a column where nothing is visible, as the name
and all cells are empty or take no column.

## Main definitions

* `Alignment.Shows` — what a field shows of a cell.
* `Alignment.IsBlock` — a block of lines shows a row of cells.
* `Column.IsDrawnWith` — the width of a column.
* `Layout`, `Layout.Shows` — a drawing taken apart, and that it shows a relation.

## Main results

* `Alignment.isBlock_block` — a row is shown, if its columns are wide enough.
* `Layout.Shows.fillsLine` — all lines are equally wide.
* `Relation.exists_layout_of_render` — what is drawn shows the relation.
-/

namespace Columnar

/-! ### Fields -/

/-- Where the pieces of a cell stand in its field. -/
inductive Alignment
  /-- At the right end. -/
  | right
  /-- In the middle. -/
  | centre

namespace Alignment

/-- A piece with the blanks that fill up its field. -/
def align : Alignment → Nat → String → String
  | right => alignRight
  | centre => alignCentre

/-- A field holds a piece in whole, in its place, and blanks.  In the middle, an odd blank stands
on the left. -/
def Places : Alignment → String → String → Prop
  | right, piece, field => ∃ before, field = blanks before ++ piece
  | centre, piece, field =>
    ∃ before after, field = blanks before ++ piece ++ blanks after ∧
      (before = after ∨ before = after + 1)

/-- What a field shows: a piece of its cell, or nothing if the cell has no more pieces. -/
structure Shows (alignment : Alignment) (width : Nat) (piece? : Option String)
    (field : String) : Prop where
  /-- The field is as wide as its column. -/
  displayWidth_eq : Text.displayWidth field = width
  /-- The piece is there in whole. -/
  places : ∀ piece, piece? = some piece → alignment.Places piece field
  /-- Below the last piece the field is blank. -/
  blank : piece? = none → field = blanks width

/-- A line of a row has a field for each cell, which shows the piece that is due in this line. -/
def IsLine (alignment : Alignment) (widths : List Nat) (cells : List String) (line : Nat)
    (fields : List String) : Prop :=
  fields.length = cells.length ∧
    ∀ (column : Nat) (cell : String), cells[column]? = some cell →
      ∃ width field, widths[column]? = some width ∧ fields[column]? = some field ∧
        alignment.Shows width (linesOf cell)[line]? field

/-- A block of lines shows a row of cells. -/
structure IsBlock (alignment : Alignment) (widths : List Nat) (cells : List String)
    (block : List (List String)) : Prop where
  /-- There are as many lines as the tallest cell has pieces. -/
  height : IsGreatest {height | ∃ cell ∈ cells, (linesOf cell).length = height} block.length
  /-- Each line shows the pieces that are due. -/
  isLine : ∀ line fields, block[line]? = some fields → alignment.IsLine widths cells line fields

variable {alignment : Alignment} {width : Nat} {piece cell : String}

theorem places_align (alignment : Alignment) (width : Nat) (piece : String) :
    alignment.Places piece (alignment.align width piece) := by
  cases alignment with
  | right => exact ⟨width - Text.displayWidth piece, rfl⟩
  | centre =>
    refine ⟨_, _, rfl, ?_⟩
    omega

theorem displayWidth_align (h : Text.displayWidth piece ≤ width) :
    Text.displayWidth (alignment.align width piece) = width := by
  cases alignment with
  | right => exact displayWidth_alignRight width piece h
  | centre => exact displayWidth_alignCentre width piece h

theorem Places.unbroken {field : String} (h : alignment.Places piece field)
    (hpiece : Unbroken piece) : Unbroken field := by
  cases alignment with
  | right =>
    obtain ⟨before, rfl⟩ := h
    exact (unbroken_blanks before).append hpiece
  | centre =>
    obtain ⟨before, after, rfl, -⟩ := h
    exact ((unbroken_blanks before).append hpiece).append (unbroken_blanks after)

theorem Shows.unbroken {line : Nat} {field : String}
    (h : alignment.Shows width (linesOf cell)[line]? field) : Unbroken field := by
  cases hpiece : (linesOf cell)[line]? with
  | none =>
    rw [h.blank hpiece]
    exact unbroken_blanks width
  | some piece =>
    exact (h.places piece hpiece).unbroken (unbroken_of_mem_linesOf (List.mem_of_getElem? hpiece))

theorem displayWidth_blanks (width : Nat) : Text.displayWidth (blanks width) = width := by
  rw [Text.displayWidth, blanks, String.toList_ofList, Text.total, Text.measure_blanks]
  rfl

/-- A cell that is no wider than its column is shown. -/
theorem shows_cellLine (hfit : textWidth cell ≤ width) (line : Nat) :
    alignment.Shows width (linesOf cell)[line]? (cellLine alignment.align line width cell) := by
  unfold cellLine
  cases hpiece : (linesOf cell)[line]? with
  | none =>
    refine ⟨displayWidth_blanks width, ?_, fun _ => rfl⟩
    intro piece hsome
    cases hsome
  | some piece =>
    have hwidth : Text.displayWidth piece ≤ textWidth cell :=
      (isGreatest_textWidth cell).2 ⟨piece, List.mem_of_getElem? hpiece, rfl⟩
    refine ⟨displayWidth_align (hwidth.trans hfit), ?_, fun hnone => by cases hnone⟩
    rintro _ ⟨⟩
    exact places_align alignment width piece

/-! ### Lines and blocks -/

variable {widths : List Nat} {cells fields : List String} {line : Nat}

/-- The field of a cell is the one that shows it. -/
theorem IsLine.shows (h : alignment.IsLine widths cells line fields) {column : Nat}
    {field : String} (hfield : fields[column]? = some field) :
    ∃ width cell, widths[column]? = some width ∧
      alignment.Shows width (linesOf cell)[line]? field := by
  obtain ⟨hlt, -⟩ := List.getElem?_eq_some_iff.1 hfield
  rw [h.1] at hlt
  obtain ⟨width, field', hwidth, hfield', hshows⟩ :=
    h.2 column cells[column] (List.getElem?_eq_getElem hlt)
  obtain rfl := Option.some.inj (hfield'.symm.trans hfield)
  exact ⟨width, cells[column], hwidth, hshows⟩

theorem IsLine.unbroken (h : alignment.IsLine widths cells line fields) :
    Unbroken (drawFields fields) := by
  have hfields : ∀ field ∈ fields, Unbroken field := by
    intro field hmem
    obtain ⟨column, hfield⟩ := List.mem_iff_getElem?.1 hmem
    obtain ⟨_, _, -, hshows⟩ := h.shows hfield
    exact hshows.unbroken
  have hleft : Unbroken "│ " := by unfold Unbroken; decide
  have hright : Unbroken " │" := by unfold Unbroken; decide
  have hbetween : Unbroken " ┆ " := by unfold Unbroken; decide
  exact (hleft.append (hbetween.intercalate hfields)).append hright

/-- The fields of a line are as wide as the columns. -/
theorem IsLine.map_displayWidth (h : alignment.IsLine widths cells line fields)
    (hlength : widths.length = cells.length) : fields.map Text.displayWidth = widths := by
  refine List.ext_getElem? fun column => ?_
  rw [List.getElem?_map]
  cases hfield : fields[column]? with
  | none =>
    have hlength := h.1.trans hlength.symm
    rw [List.getElem?_eq_none_iff] at hfield
    rw [Option.map_none, eq_comm, List.getElem?_eq_none_iff]
    omega
  | some field =>
    obtain ⟨width, cell, hwidth, hshows⟩ := h.shows hfield
    rw [Option.map_some, hshows.displayWidth_eq, hwidth]

/-- The lines of a row are as wide as its columns. -/
theorem IsBlock.fillsLine {block : List (List String)} (h : alignment.IsBlock widths cells block)
    (hlength : widths.length = cells.length) (hne : widths ≠ []) (hfields : fields ∈ block) :
    FillsLine widths (drawFields fields) := by
  obtain ⟨line, hline⟩ := List.mem_iff_getElem?.1 hfields
  have hfields := h.isLine line fields hline
  have hwidths := hfields.map_displayWidth hlength
  have hsome : fields ≠ [] := by
    rintro rfl
    exact hne hwidths.symm
  refine ⟨hfields.unbroken, ?_⟩
  rw [displayWidth_drawFields hsome, hwidths]

/-- The fields of the lines of a row. -/
def block (alignment : Alignment) (widths : List Nat) (cells : List String) : List (List String) :=
  (List.range (rowHeight cells)).map fun line =>
    List.zipWith (cellLine alignment.align line) widths cells

theorem drawRow_eq (alignment : Alignment) (widths : List Nat) (cells : List String) :
    drawRow alignment.align widths cells = (alignment.block widths cells).map drawFields := by
  rw [drawRow, block, List.map_map]
  rfl

/-- Cells that are no wider than their columns are shown. -/
theorem isBlock_block (hfit : List.Forall₂ (fun width cell => textWidth cell ≤ width) widths cells)
    (hne : cells ≠ []) : alignment.IsBlock widths cells (alignment.block widths cells) := by
  have hlength := hfit.length_eq
  constructor
  · rw [block, List.length_map, List.length_range]
    exact isGreatest_foldr_max_map (fun cell => (linesOf cell).length) hne
  · intro line fields hfields
    obtain ⟨_, rfl⟩ := List.getElem?_eq_some_iff.1 hfields
    simp only [block, List.getElem_map, List.getElem_range]
    refine ⟨by rw [List.length_zipWith, hlength, Nat.min_self], ?_⟩
    intro column cell hcell
    obtain ⟨hlt, rfl⟩ := List.getElem?_eq_some_iff.1 hcell
    have hlt' : column < widths.length := hlength ▸ hlt
    have hwidth := List.getElem?_eq_getElem hlt'
    refine ⟨widths[column], _, hwidth, ?_, shows_cellLine (hfit.get hlt' hlt) line⟩
    rw [List.getElem?_zipWith, hwidth, hcell]
    rfl

end Alignment

/-! ### Columns -/

namespace Column

/-- The texts in a column: its name, and its cells. -/
def texts (column : Column) : List String :=
  column.name :: column.cells.toList.map Value.display

/-- The widths of the pieces of these texts. -/
def pieceWidths (column : Column) : Set Nat :=
  {width | ∃ text ∈ column.texts, ∃ line ∈ linesOf text, Text.displayWidth line = width}

/-- The width of a column is that of the widest piece of its name or cells, and one if no piece is
visible. -/
structure IsDrawnWith (column : Column) (width : Nat) : Prop where
  /-- The width is the greatest of one and the widths of the pieces. -/
  isGreatest_insert : IsGreatest (insert 1 column.pieceWidths) width
  /-- Below a name that is visible it is the greatest width of a piece. -/
  isGreatest : (∃ line ∈ linesOf column.name, Text.displayWidth line ≠ 0) →
    IsGreatest column.pieceWidths width

/-- The greatest width of the texts, and at least one. -/
def drawnWidth (column : Column) : Nat := (column.texts.map textWidth).foldr max 1

theorem textWidth_le_drawnWidth (column : Column) {text : String} (h : text ∈ column.texts) :
    textWidth text ≤ column.drawnWidth :=
  (isGreatest_foldr_max 1 _).2 (.inr (List.mem_map_of_mem h))

theorem drawnWidth_mem_insert (column : Column) :
    column.drawnWidth ∈ insert 1 column.pieceWidths := by
  rcases (isGreatest_foldr_max 1 (column.texts.map textWidth)).1 with hone | hmem
  · exact .inl hone
  · obtain ⟨text, htext, hwidth⟩ := List.mem_map.1 hmem
    obtain ⟨line, hline, hline'⟩ := (isGreatest_textWidth text).1
    exact .inr ⟨text, htext, line, hline, hline'.trans hwidth⟩

theorem isDrawnWith_drawnWidth (column : Column) : column.IsDrawnWith column.drawnWidth := by
  have hle : ∀ width ∈ column.pieceWidths, width ≤ column.drawnWidth := by
    rintro _ ⟨text, htext, line, hline, rfl⟩
    have hpiece : Text.displayWidth line ≤ textWidth text :=
      (isGreatest_textWidth text).2 ⟨line, hline, rfl⟩
    exact hpiece.trans (column.textWidth_le_drawnWidth htext)
  have hone : 1 ≤ column.drawnWidth := (isGreatest_foldr_max 1 _).2 (.inl rfl)
  constructor
  · refine ⟨column.drawnWidth_mem_insert, ?_⟩
    rintro width (rfl | hwidth)
    · exact hone
    · exact hle width hwidth
  · rintro ⟨line, hline, hvisible⟩
    refine ⟨?_, hle⟩
    have hname : Text.displayWidth line ∈ column.pieceWidths :=
      ⟨column.name, List.mem_cons_self, line, hline, rfl⟩
    rcases column.drawnWidth_mem_insert with hwidth | hmem
    · -- a piece of the name is as wide as the column then
      have hpiece := hle _ hname
      have heq : Text.displayWidth line = column.drawnWidth := by omega
      rwa [heq] at hname
    · exact hmem

/-- A column without anything to show is one wide, a name of two ideographs four. -/
example : (ofCells "" (.text #["", "\n"])).drawnWidth = 1 ∧
    (ofCells "料理" (.text #["", "abc"])).drawnWidth = 4 := by decide +kernel

end Column

/-! ### Layouts -/

/-- A drawing taken apart. -/
structure Layout where
  /-- The widths of the columns. -/
  widths : List Nat
  /-- The fields in the lines of the header. -/
  head : List (List String)
  /-- The fields in the lines of each row. -/
  body : List (List (List String))

namespace Layout

/-- The lines of the drawing: the header and the rows, between rules. -/
def lines (layout : Layout) : List String :=
  Rule.top.draw layout.widths :: layout.head.map drawFields ++
    Rule.underHeader.draw layout.widths :: layout.body.flatten.map drawFields ++
      [Rule.bottom.draw layout.widths]

/-- A drawing shows the names and the rows of a relation, in order: the names centred, and the
cells at the right ends of their fields. -/
structure Shows (layout : Layout) (r : Relation) : Prop where
  /-- Each column has its width. -/
  widths : List.Forall₂ Column.IsDrawnWith r.columns layout.widths
  /-- The header shows the names. -/
  head : Alignment.centre.IsBlock layout.widths r.header layout.head
  /-- Each block shows a row. -/
  body : List.Forall₂
    (fun row block => Alignment.right.IsBlock layout.widths (row.map Value.display) block)
    r.rowList layout.body

variable {layout : Layout} {r : Relation}

theorem Shows.length_widths (h : layout.Shows r) : layout.widths.length = r.columnCount :=
  h.widths.length_eq.symm

/-- A line of a drawing is a rule or a line of a row, and has the width of the drawing. -/
theorem Shows.fillsLine (h : layout.Shows r) (hr : r.Rectangular) (hne : r.columns ≠ [])
    {line : String} (hline : line ∈ layout.lines) : FillsLine layout.widths line := by
  have hlength := h.length_widths
  have hwidths : layout.widths ≠ [] := by
    rw [← List.length_pos_iff, hlength]
    exact List.length_pos_iff.2 hne
  simp only [lines, List.mem_append, List.mem_cons, List.mem_map, List.not_mem_nil,
    or_false] at hline
  rcases hline with ((rfl | ⟨fields, hfields, rfl⟩) | (rfl | ⟨fields, hfields, rfl⟩)) | rfl
  · exact Rule.isPlain_top.fillsLine_draw hwidths
  · have hnames : r.header.length = r.columnCount := List.length_map _
    exact h.head.fillsLine (hlength.trans hnames.symm) hwidths hfields
  · exact Rule.isPlain_underHeader.fillsLine_draw hwidths
  · obtain ⟨block, hblock, hfields⟩ := List.mem_flatten.1 hfields
    obtain ⟨row, hrow, hshows⟩ := exists_mem_of_forall₂ h.body hblock
    have hcells : (row.map Value.display).length = r.columnCount := by
      rw [List.length_map]
      exact Relation.length_of_mem_rowList hr hrow
    exact hshows.fillsLine (hlength.trans hcells.symm) hwidths hfields
  · exact Rule.isPlain_bottom.fillsLine_draw hwidths

end Layout

/-! ### Tables -/

namespace Table

/-- The layout of a drawn table. -/
def layout (table : Table) : Layout :=
  ⟨table.widths, Alignment.centre.block table.widths table.header,
    table.rows.map (Alignment.right.block table.widths)⟩

theorem lines_eq {table : Table} (hne : table.header ≠ []) : table.lines = table.layout.lines := by
  have hbody : table.rows.flatMap (drawRow alignRight table.widths) =
      table.layout.body.flatten.map drawFields := by
    rw [layout, List.map_flatten, List.map_map, List.flatMap_def]
    exact congrArg List.flatten (List.map_congr_left fun cells _ =>
      Alignment.right.drawRow_eq table.widths cells)
  have hhead : drawRow alignCentre table.widths table.header =
      table.layout.head.map drawFields :=
    Alignment.centre.drawRow_eq table.widths table.header
  rw [lines, if_neg hne, hbody, hhead, Layout.lines]
  rfl

end Table

namespace Relation

variable {r : Relation}

/-- The names and the texts of the cells. -/
def texts (r : Relation) : Table := ⟨r.header, r.rowList.map (·.map Value.display)⟩

theorem table_eq (hr : r.Rectangular) : r.table = .ok r.texts := by
  rw [table, rows_eq hr]
  rfl

/-- The texts in a column of the table are the name and the cells of the column. -/
theorem columnTexts_texts (hr : r.Rectangular) {position : Nat} {column : Column}
    (hcolumn : r.columns[position]? = some column) :
    r.texts.columnTexts position = column.texts := by
  have hname : r.texts.header[position]? = some column.name := by
    rw [texts, header, List.getElem?_map, hcolumn, Option.map_some]
  have hcells : r.texts.rows.filterMap (·[position]?) = column.cells.toList.map Value.display :=
    calc r.texts.rows.filterMap (·[position]?)
        = (r.rowList.map (·[position]?)).filterMap (Option.map Value.display) := by
          simp [texts, List.filterMap_map]
      _ = (column.cells.toList.map some).filterMap (Option.map Value.display) := by
          rw [map_getElem?_rowList hr hcolumn]
      _ = column.cells.toList.map Value.display := by
          simp [List.filterMap_map]
  rw [Table.columnTexts, List.filterMap_cons, hname, hcells, Column.texts]

/-- The widths of a table are those of the columns. -/
theorem widths_texts (hr : r.Rectangular) : r.texts.widths = r.columns.map Column.drawnWidth := by
  refine List.ext_getElem (by simp [Table.widths, texts, header]) fun position _ hlt => ?_
  rw [List.length_map] at hlt
  simp only [Table.widths, List.getElem_map, List.getElem_range]
  rw [columnTexts_texts hr (List.getElem?_eq_getElem hlt), Column.drawnWidth]

/-- No text of a table is wider than its column. -/
theorem forall₂_textWidth_le (hr : r.Rectangular) {cells : List String}
    (hcells : List.Forall₂ (fun column text => text ∈ Column.texts column) r.columns cells) :
    List.Forall₂ (fun width cell => textWidth cell ≤ width) r.texts.widths cells := by
  rw [widths_texts hr, List.forall₂_map_left_iff]
  exact hcells.imp fun column text htext => column.textWidth_le_drawnWidth htext

theorem forall₂_name_mem_texts (r : Relation) :
    List.Forall₂ (fun column text => text ∈ Column.texts column) r.columns r.header := by
  rw [header, List.forall₂_map_right_iff, List.forall₂_same]
  exact fun column _ => List.mem_cons_self

theorem forall₂_cell_mem_texts (hr : r.Rectangular) {row : List Value} (hrow : row ∈ r.rowList) :
    List.Forall₂ (fun column text => text ∈ Column.texts column) r.columns
      (row.map Value.display) := by
  obtain ⟨n, hn, rfl⟩ := List.mem_map.1 hrow
  rw [List.forall₂_map_right_iff]
  refine (mapM_eq_ok_iff.1 (rowAt_of_lt hr (List.mem_range.1 hn))).imp fun column value hcell => ?_
  rw [Column.cellAt_eq_ok_iff, Column.get?, Cells.get?_eq_getElem?] at hcell
  exact List.mem_cons_of_mem _ (List.mem_map_of_mem (List.mem_of_getElem? hcell))

/-- The layout of the table shows the relation. -/
theorem shows_layout_texts (hr : r.Rectangular) (hne : r.columns ≠ []) :
    r.texts.layout.Shows r := by
  constructor
  · change List.Forall₂ Column.IsDrawnWith r.columns r.texts.widths
    rw [widths_texts hr, List.forall₂_map_right_iff, List.forall₂_same]
    exact fun column _ => column.isDrawnWith_drawnWidth
  · refine Alignment.isBlock_block (forall₂_textWidth_le hr r.forall₂_name_mem_texts) ?_
    exact fun hnil => hne (List.map_eq_nil_iff.1 hnil)
  · change List.Forall₂ _ r.rowList ((r.rowList.map (·.map Value.display)).map _)
    rw [List.map_map, List.forall₂_map_right_iff, List.forall₂_same]
    intro row hrow
    refine Alignment.isBlock_block
      (forall₂_textWidth_le hr (forall₂_cell_mem_texts hr hrow)) fun hnil => ?_
    have hlength := length_of_mem_rowList hr hrow
    rw [List.map_eq_nil_iff.1 hnil] at hlength
    exact hne (List.length_eq_zero_iff.1 hlength.symm)

theorem outcome_render (hr : r.Rectangular) (hne : r.columns ≠ []) :
    r.render.outcome = .ok r.texts.render := by
  have hcolumns : r.columns.isEmpty = false := by simpa using hne
  rw [render, table_eq hr, hcolumns]
  rfl

theorem lines_texts (hne : r.columns ≠ []) : r.texts.lines = r.texts.layout.lines :=
  Table.lines_eq fun hnil => hne (List.map_eq_nil_iff.1 hnil)

/-- The drawing is read as the lines that it was put together from. -/
theorem linesOf_render_texts (hr : r.Rectangular) (hne : r.columns ≠ []) :
    linesOf r.texts.render = r.texts.lines := by
  rw [Table.render, lines_texts hne]
  refine linesOf_intercalate (by simp [Layout.lines]) fun line hline => ?_
  exact ((shows_layout_texts hr hne).fillsLine hr hne hline).unbroken

/-- A relation with columns of equal length is drawn, if it has a column.  Under a rule come the
names, and under another rule the rows, in order, with a last rule below.  The names and the
cells are shown in whole, and all lines are equally wide. -/
theorem exists_layout_of_render (hr : r.Rectangular) (hne : r.columns ≠ []) :
    ∃ (text : String) (layout : Layout), r.render.outcome = .ok text ∧
      linesOf text = layout.lines ∧ layout.Shows r ∧
      ∀ line ∈ linesOf text, Text.displayWidth line = lineWidth layout.widths := by
  have hshows := shows_layout_texts hr hne
  have hread : linesOf r.texts.render = r.texts.layout.lines :=
    (linesOf_render_texts hr hne).trans (lines_texts hne)
  refine ⟨r.texts.render, r.texts.layout, outcome_render hr hne, hread, hshows, ?_⟩
  intro line hline
  rw [hread] at hline
  exact (hshows.fillsLine hr hne hline).displayWidth_eq

/-- Dishes, with wide characters, and with line feeds in a name and in a cell. -/
def dishes : Relation :=
  ⟨"dishes", [.ofCells "料理\n(dish)" (.text #["soup", "rice\n米"]),
    .ofCells "no" (.int #[7, 120])]⟩

/-- The lines of the drawn dishes. -/
def drawnDishes : List String :=
  ["┌────────┬─────┐",
   "│  料理  ┆  no │",
   "│ (dish) ┆     │",
   "╞════════╪═════╡",
   "│   soup ┆   7 │",
   "│   rice ┆ 120 │",
   "│     米 ┆     │",
   "└────────┴─────┘"]

/-- The second row takes two lines, as does the header, and the fields stand below each other. -/
theorem exists_layout_of_render_dishes :
    dishes.Rectangular ∧ dishes.columns ≠ [] ∧
      ∃ (text : String) (layout : Layout), dishes.render.outcome = .ok text ∧
        linesOf text = drawnDishes ∧ layout.lines = drawnDishes ∧ layout.Shows dishes ∧
        ∀ line ∈ drawnDishes, Text.displayWidth line = lineWidth layout.widths := by
  have hr : dishes.Rectangular := by decide
  have hne : dishes.columns ≠ [] := List.cons_ne_nil _ _
  have hdrawn : dishes.texts.lines = drawnDishes := by decide +kernel
  obtain ⟨text, layout, htext, hlines, hshows, hwidth⟩ := exists_layout_of_render hr hne
  have hread : linesOf text = drawnDishes := by
    obtain rfl := Except.ok.inj (htext.symm.trans (outcome_render hr hne))
    rw [linesOf_render_texts hr hne, hdrawn]
  rw [hread] at hlines hwidth
  exact ⟨hr, hne, text, layout, htext, hread, hlines.symm, hshows, hwidth⟩

end Relation

end Columnar
