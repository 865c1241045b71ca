import Columnar.Text.Width

/-!
# Text tables

A table is drawn with a border around it, a rule under its header and a dashed line
between its columns.  Each column is as wide as the widest line of its name and cells,
with a blank on each side.  A cell with line feeds takes several lines of text, and the
row as many as its tallest cell; the other cells are filled up with blanks.  Names are
centred and cells are set to the right.

## Main definitions

* `Table` — a header and rows of cells, as texts.
* `Table.widths` — the width of each column.
* `alignRight`, `alignCentre` — a line of text in a field of given width.
* `Table.render` — the drawing.

## Main statements

* `displayWidth_alignRight`, `displayWidth_alignCentre` — a line that fits its field fills it.
-/

namespace Columnar

/-- A header and rows of cells, as texts. -/
structure Table where
  /-- The names of the columns. -/
  header : List String
  /-- The rows, each with a cell for every column. -/
  rows : List (List String)
  deriving DecidableEq, Repr

/-! ### Lines and fields -/

/-- The lines of a text, separated by line feeds.  Every text has at least one. -/
def linesOf (text : String) : List String := (text.toList.splitOn '\n').map String.ofList

/-- The width of the widest line of a text. -/
def textWidth (text : String) : Nat :=
  ((linesOf text).map Text.displayWidth).foldr max 0

/-- A run of blanks. -/
def blanks (n : Nat) : String := String.ofList (List.replicate n ' ')

/-- A line at the right end of a field. -/
def alignRight (width : Nat) (line : String) : String :=
  blanks (width - Text.displayWidth line) ++ line

/-- A line in the middle of a field; an odd blank stands on the left. -/
def alignCentre (width : Nat) (line : String) : String :=
  let spare := width - Text.displayWidth line
  blanks (spare - spare / 2) ++ line ++ blanks (spare / 2)

/-- A line that fits its field fills it when set to the right. -/
theorem displayWidth_alignRight (width : Nat) (line : String)
    (h : Text.displayWidth line ≤ width) :
    Text.displayWidth (alignRight width line) = width := by
  rw [Text.displayWidth, alignRight, String.toList_append, blanks, String.toList_ofList,
    Text.total_blanks_append]
  exact Nat.sub_add_cancel h

/-- A line that fits its field fills it when set in the middle. -/
theorem displayWidth_alignCentre (width : Nat) (line : String)
    (h : Text.displayWidth line ≤ width) :
    Text.displayWidth (alignCentre width line) = width := by
  rw [alignCentre, Text.displayWidth, String.toList_append, String.toList_append, blanks, blanks,
    String.toList_ofList, String.toList_ofList, List.append_assoc, Text.total_blanks_append,
    Text.total_append_blanks]
  change _ - _ + (Text.displayWidth line + _) = width
  omega

/-! ### Rules -/

/-- The characters of a horizontal rule. -/
structure Rule where
  /-- The left end. -/
  left : Char
  /-- The line along a column. -/
  along : Char
  /-- The crossing between two columns. -/
  crossing : Char
  /-- The right end. -/
  right : Char

namespace Rule

/-- The rule above a table. -/
def top : Rule := ⟨'┌', '─', '┬', '┐'⟩

/-- The rule under the header. -/
def underHeader : Rule := ⟨'╞', '═', '╪', '╡'⟩

/-- The rule below a table. -/
def bottom : Rule := ⟨'└', '─', '┴', '┘'⟩

/-- A rule over columns of the given widths, each with a blank on both sides. -/
def draw (rule : Rule) (widths : List Nat) : String :=
  String.ofList <|
    rule.left ::
      [rule.crossing].intercalate (widths.map fun w => List.replicate (w + 2) rule.along) ++
        [rule.right]

end Rule

/-! ### Rows -/

/-- A line of a row: its fields between the column lines. -/
def drawFields (fields : List String) : String :=
  "│ " ++ " ┆ ".intercalate fields ++ " │"

/-- The number of lines of a row: that of its tallest cell. -/
def rowHeight (cells : List String) : Nat :=
  (cells.map fun cell => (linesOf cell).length).foldr max 0

/-- One line of a cell in its field; blank below the cell's last line. -/
def cellLine (align : Nat → String → String) (line width : Nat) (cell : String) : String :=
  match (linesOf cell)[line]? with
  | some text => align width text
  | none => blanks width

/-- The lines of a row. -/
def drawRow (align : Nat → String → String) (widths : List Nat) (cells : List String) :
    List String :=
  (List.range (rowHeight cells)).map fun line =>
    drawFields (List.zipWith (cellLine align line) widths cells)

/-! ### Tables -/

namespace Table

/-- The texts in a column: its name, and the cells of the rows. -/
def columnTexts (table : Table) (column : Nat) : List String :=
  (table.header :: table.rows).filterMap (·[column]?)

/-- The width of each column: that of its widest text, and at least one. -/
def widths (table : Table) : List Nat :=
  (List.range table.header.length).map fun column =>
    ((table.columnTexts column).map textWidth).foldr max 1

/-- The lines of the drawing.  A table without columns is an empty frame. -/
def lines (table : Table) : List String :=
  let widths := table.widths
  let body :=
    if table.header = [] then []
    else
      drawRow alignCentre widths table.header ++
        Rule.underHeader.draw widths :: table.rows.flatMap (drawRow alignRight widths)
  Rule.top.draw widths :: body ++ [Rule.bottom.draw widths]

/-- The drawing, its lines separated by line feeds. -/
def render (table : Table) : String := "\n".intercalate table.lines

end Table

end Columnar
