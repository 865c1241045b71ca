import Columnar.Text.Follower

/-!
# Display width

How many columns of a terminal a text takes.  A text is measured from its end, each
character before what stands behind it; that is the sum of the characters' widths, except
where characters are drawn together.

## Main definitions

* `Text.measure` — the columns that the characters of a text add, and the follower that
  the text is to a character before it.
* `Text.displayWidth` — the width of a text.

## Main statements

* `Text.measure_append` — widths add up where the second text does not matter to the end
  of the first.
* `Text.measure_blanks`, `Text.measure_blanks_append` — a blank takes one column, before
  any text.
-/

namespace Columnar

namespace Text

/-- The columns that the characters of a text add, and the follower that the text is. -/
def measure : List Char → Nat × Follower
  | [] => (0, .nothing)
  | c :: text =>
    let rest := measure text
    let first := rest.2.before c
    (first.1 + rest.1, first.2)

/-- The columns of a text with no character before it, which is where it gets the column
that it holds back. -/
def total (text : List Char) : Nat := (measure text).1 + (measure text).2.opening.held

/-- The number of columns that a text takes. -/
def displayWidth (text : String) : Nat := total text.toList

/-! ### Sums of widths -/

/-- Widths add up where the second text does not matter to the end of the first. -/
theorem measure_append (text rest : List Char) (h : (measure rest).2 = .nothing) :
    measure (text ++ rest) = ((measure text).1 + (measure rest).1, (measure text).2) := by
  induction text with
  | nil => rw [List.nil_append, measure, ← h, Nat.zero_add]
  | cons c text ih =>
    rw [List.cons_append, measure, measure, ih]
    exact Prod.ext (Nat.add_assoc _ _ _).symm rfl

/-- Widths add up where the second text does not matter to the end of the first. -/
theorem total_append (text rest : List Char) (h : (measure rest).2 = .nothing) :
    total (text ++ rest) = total text + total rest := by
  have held : (measure rest).2.opening.held = 0 := by rw [h]; rfl
  rw [total, total, total, measure_append text rest h, held]
  exact Nat.add_right_comm _ _ _

/-- A blank adds a column before any text. -/
theorem total_blank_cons (text : List Char) : total (' ' :: text) = 1 + total text := by
  rw [total, total, measure, Follower.before_blank]
  change 1 + _ + _ + 0 = _
  omega

/-- A run of blanks adds a column for each before any text. -/
theorem total_blanks_append (n : Nat) (text : List Char) :
    total (List.replicate n ' ' ++ text) = n + total text := by
  induction n with
  | zero => rw [List.replicate_zero, List.nil_append, Nat.zero_add]
  | succ n ih =>
    rw [List.replicate_succ, List.cons_append, total_blank_cons, ih]
    omega

/-- A run of blanks takes a column for each, and does not matter to what stands before. -/
theorem measure_blanks (n : Nat) : measure (List.replicate n ' ') = (n, .nothing) := by
  induction n with
  | zero => rfl
  | succ n ih =>
    rw [List.replicate_succ, measure, ih, Follower.before_blank]
    exact Prod.ext (Nat.add_comm 1 n) rfl

/-- A run of blanks behind a text adds a column for each. -/
theorem total_append_blanks (text : List Char) (n : Nat) :
    total (text ++ List.replicate n ' ') = total text + n := by
  rw [total_append, total, total, measure_blanks]
  · rfl
  · rw [measure_blanks]

end Text

end Columnar
