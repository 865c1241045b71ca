import Columnar.Table
import Mathlib.Order.Bounds.Basic

/-!
# The lines of a drawing

A drawing is put together from lines, and is read as lines again.  That gives the same lines
only because none of them holds a line feed: the cells have been split before they were drawn.

A line is as wide as its fields and what stands between them, although the width of a text is
not the sum of the widths of its characters.  A field stands between two blanks, and a blank
keeps what is behind it apart from what is before it; the characters of a rule do not matter to
each other.

## Main definitions

* `Unbroken` — a text of one line.
* `lineWidth`, `FillsLine` — the width of a line over columns of given widths.
* `Text.IsPlain` — a character that takes one column and does not matter to the one before it.

## Main results

* `linesOf_intercalate` — lines that are set below each other are read as the same lines.
* `isGreatest_textWidth` — the width of a text is the greatest of its lines.
* `displayWidth_drawFields`, `Rule.IsPlain.fillsLine_draw` — the widths of rows and of rules.
-/

namespace Columnar

/-! ### Reading lines back -/

/-- The pieces of a list that was split do not hold what it was split at. -/
theorem not_mem_of_mem_splitOn {α : Type} [BEq α] [LawfulBEq α] {a : α} {xs piece : List α}
    (h : piece ∈ xs.splitOn a) : a ∉ piece := by
  induction xs generalizing piece with
  | nil =>
    rw [List.splitOn_nil, List.mem_singleton] at h
    rw [h]
    exact List.not_mem_nil
  | cons x xs ih =>
    rw [List.splitOn_cons_eq_if_modifyHead] at h
    split at h
    · rcases List.mem_cons.1 h with rfl | h
      · exact List.not_mem_nil
      · exact ih h
    · next hx =>
      -- the element goes to the first piece of the rest
      obtain ⟨first, rest, hsplit⟩ := List.exists_cons_of_ne_nil (List.splitOn_ne_nil a xs)
      rw [hsplit] at h ih
      rcases List.mem_cons.1 h with rfl | h
      · intro ha
        rcases List.mem_cons.1 ha with rfl | ha
        · exact hx BEq.rfl
        · exact ih List.mem_cons_self ha
      · exact ih (List.mem_cons_of_mem _ h)

/-- A text of one line. -/
def Unbroken (text : String) : Prop := '\n' ∉ text.toList

theorem Unbroken.append {text rest : String} (htext : Unbroken text) (hrest : Unbroken rest) :
    Unbroken (text ++ rest) := by
  unfold Unbroken
  rw [String.toList_append, List.mem_append]
  rintro (h | h)
  · exact htext h
  · exact hrest h

theorem unbroken_blanks (n : Nat) : Unbroken (blanks n) := by
  rw [Unbroken, blanks, String.toList_ofList, List.mem_replicate]
  rintro ⟨-, h⟩
  exact absurd h (by decide)

/-- A line of a text is one line. -/
theorem unbroken_of_mem_linesOf {text line : String} (h : line ∈ linesOf text) :
    Unbroken line := by
  obtain ⟨piece, hpiece, rfl⟩ := List.mem_map.1 h
  rw [Unbroken, String.toList_ofList]
  exact not_mem_of_mem_splitOn hpiece

/-- A text has a line. -/
theorem linesOf_ne_nil (text : String) : linesOf text ≠ [] := by
  rw [linesOf, Ne, List.map_eq_nil_iff]
  exact List.splitOn_ne_nil _ _

/-- Lines that are set below each other are read as the same lines. -/
theorem linesOf_intercalate {lines : List String} (hne : lines ≠ [])
    (h : ∀ line ∈ lines, Unbroken line) : linesOf ("\n".intercalate lines) = lines := by
  have hsplit : (['\n'].intercalate (lines.map String.toList)).splitOn '\n' =
      lines.map String.toList := by
    refine List.splitOn_intercalate '\n' (fun characters hmem => ?_) (by simpa using hne)
    obtain ⟨line, hline, rfl⟩ := List.mem_map.1 hmem
    exact h line hline
  calc linesOf ("\n".intercalate lines)
      = ((['\n'].intercalate (lines.map String.toList)).splitOn '\n').map String.ofList := by
        rw [linesOf, String.toList_intercalate]; rfl
    _ = (lines.map String.toList).map String.ofList := by rw [hsplit]
    _ = lines := by simp [Function.comp_def]

/-- What was put between lists comes from them or from what separates them. -/
theorem mem_of_mem_intercalate {α : Type} {separator : List α} {lists : List (List α)} {a : α}
    (h : a ∈ separator.intercalate lists) : a ∈ separator ∨ ∃ list ∈ lists, a ∈ list := by
  induction lists with
  | nil => exact absurd h List.not_mem_nil
  | cons list lists ih =>
    cases lists with
    | nil =>
      rw [List.intercalate_singleton] at h
      exact .inr ⟨list, List.mem_cons_self, h⟩
    | cons list' lists =>
      rw [List.intercalate_cons_cons, List.mem_append, List.mem_append] at h
      rcases h with (h | h) | h
      · exact .inr ⟨list, List.mem_cons_self, h⟩
      · exact .inl h
      · rcases ih h with h | ⟨found, hfound, h⟩
        · exact .inl h
        · exact .inr ⟨found, List.mem_cons_of_mem _ hfound, h⟩

/-- Texts of one line make one line, if what separates them does. -/
theorem Unbroken.intercalate {separator : String} (hsep : Unbroken separator)
    {texts : List String} (h : ∀ text ∈ texts, Unbroken text) :
    Unbroken (separator.intercalate texts) := by
  rw [Unbroken, String.toList_intercalate]
  intro hfeed
  rcases mem_of_mem_intercalate hfeed with hfeed | ⟨_, hmem, hfeed⟩
  · exact hsep hfeed
  · obtain ⟨text, htext, rfl⟩ := List.mem_map.1 hmem
    exact h text htext hfeed

/-! ### The greatest of some numbers -/

/-- The greatest of some numbers and a least one. -/
theorem isGreatest_foldr_max (least : Nat) (ns : List Nat) :
    IsGreatest (insert least {n | n ∈ ns}) (ns.foldr max least) := by
  induction ns with
  | nil =>
    refine ⟨.inl rfl, ?_⟩
    rintro n (rfl | h)
    · exact Nat.le_refl n
    · exact absurd h List.not_mem_nil
  | cons n ns ih =>
    have hset : insert least {m | m ∈ n :: ns} = insert n (insert least {m | m ∈ ns}) := by
      ext m
      simp only [Set.mem_insert_iff, Set.mem_ofPred_eq, List.mem_cons, or_left_comm]
    rw [hset]
    exact ih.insert n

/-- The greatest number that belongs to an element, where there is one. -/
theorem isGreatest_foldr_max_map {α : Type} (f : α → Nat) {xs : List α} (hne : xs ≠ []) :
    IsGreatest {n | ∃ x ∈ xs, f x = n} ((xs.map f).foldr max 0) := by
  obtain ⟨hmem, hupper⟩ := isGreatest_foldr_max 0 (xs.map f)
  have hle : ∀ x ∈ xs, f x ≤ (xs.map f).foldr max 0 := fun x hx =>
    hupper (.inr (List.mem_map_of_mem hx))
  constructor
  · rcases hmem with hzero | hmem
    · obtain ⟨x, hx⟩ := List.exists_mem_of_ne_nil xs hne
      have := hle x hx
      exact ⟨x, hx, by omega⟩
    · exact List.mem_map.1 hmem
  · rintro n ⟨x, hx, rfl⟩
    exact hle x hx

/-- The width of a text is the greatest of its lines. -/
theorem isGreatest_textWidth (text : String) :
    IsGreatest {width | ∃ line ∈ linesOf text, Text.displayWidth line = width}
      (textWidth text) :=
  isGreatest_foldr_max_map Text.displayWidth (linesOf_ne_nil text)

/-! ### Widths -/

/-- The width of a line over columns of given widths: for each a line on its left and two blanks,
and the line at the right end. -/
def lineWidth (widths : List Nat) : Nat := widths.foldr (fun width rest => width + 3 + rest) 1

theorem lineWidth_cons (width : Nat) (widths : List Nat) :
    lineWidth (width :: widths) = width + 3 + lineWidth widths := rfl

/-- A line of a drawing over columns of given widths. -/
structure FillsLine (widths : List Nat) (line : String) : Prop where
  /-- It is one line. -/
  unbroken : Unbroken line
  /-- It takes the columns and what is drawn around them. -/
  displayWidth_eq : Text.displayWidth line = lineWidth widths

namespace Text

/-- A character that takes one column and does not matter to the one before it, where
nothing matters to it. -/
def IsPlain (c : Char) : Prop := Follower.nothing.before c = (1, .nothing)

instance (c : Char) : Decidable (IsPlain c) :=
  inferInstanceAs (Decidable (_ = _))

/-- Plain characters take a column each. -/
theorem measure_plain {text : List Char} (h : ∀ c ∈ text, IsPlain c) :
    measure text = (text.length, .nothing) := by
  induction text with
  | nil => rfl
  | cons c text ih =>
    have hc : IsPlain c := h c List.mem_cons_self
    rw [measure, ih fun c' hmem => h c' (List.mem_cons_of_mem _ hmem), hc, List.length_cons]
    exact Prod.ext (Nat.add_comm 1 _) rfl

theorem total_plain {text : List Char} (h : ∀ c ∈ text, IsPlain c) : total text = text.length := by
  rw [total, measure_plain h]
  rfl

/-- A text that begins with a blank does not matter to what stands before it. -/
theorem follower_blank_cons (text : List Char) : (measure (' ' :: text)).2 = .nothing := by
  rw [measure, Follower.before_blank]

/-- A plain character adds a column before a blank. -/
theorem total_plain_blank {c : Char} (hc : IsPlain c) (text : List Char) :
    total (c :: ' ' :: text) = 2 + total text := by
  have hwidth := total_blank_cons text
  rw [total, follower_blank_cons] at hwidth
  rw [total, measure, follower_blank_cons, hc]
  change 1 + _ + 0 = _
  change _ + 0 = _ at hwidth
  omega

/-- Texts with a line between them take what they do in a frame, without the ends of the frame. -/
theorem total_intercalate {texts : List (List Char)} (hne : texts ≠ []) {rest : List Char}
    (hrest : (measure rest).2 = .nothing) :
    total ([' ', '┆', ' '].intercalate texts ++ rest) + 4 =
      lineWidth (texts.map total) + total rest := by
  induction texts with
  | nil => exact absurd rfl hne
  | cons text texts ih =>
    cases texts with
    | nil =>
      rw [List.intercalate_singleton, total_append _ _ hrest]
      simp only [List.map_cons, List.map_nil, lineWidth_cons]
      change _ = total text + 3 + 1 + total rest
      omega
    | cons text' texts =>
      have hsep : IsPlain '┆' := by decide +kernel
      have hmore := ih (List.cons_ne_nil _ _)
      rw [List.intercalate_cons_cons, List.append_assoc, List.append_assoc, List.map_cons,
        lineWidth_cons]
      change total (text ++ ' ' :: '┆' :: ' ' :: ([' ', '┆', ' '].intercalate _ ++ rest)) + 4 = _
      rw [total_append _ _ (follower_blank_cons _), total_blank_cons, total_plain_blank hsep]
      omega

end Text

/-- A line of a row takes its fields and what is drawn around them. -/
theorem displayWidth_drawFields {fields : List String} (hne : fields ≠ []) :
    Text.displayWidth (drawFields fields) = lineWidth (fields.map Text.displayWidth) := by
  have hframe : Text.IsPlain '│' := by decide +kernel
  have hright : Text.total [' ', '│'] = 2 := by decide +kernel
  have hsome : fields.map String.toList ≠ [] := mt List.map_eq_nil_iff.1 hne
  have hmiddle := Text.total_intercalate hsome (Text.follower_blank_cons ['│'])
  have hfields : (fields.map String.toList).map Text.total = fields.map Text.displayWidth :=
    List.map_map
  rw [hfields, hright] at hmiddle
  rw [Text.displayWidth, drawFields, String.toList_append, String.toList_append,
    String.toList_intercalate]
  change Text.total ('│' :: ' ' :: ([' ', '┆', ' '].intercalate _ ++ [' ', '│'])) = _
  rw [Text.total_plain_blank hframe]
  omega

namespace Rule

/-- The characters of a rule are drawn side by side in one line. -/
def IsPlain (rule : Rule) : Prop :=
  ∀ c ∈ [rule.left, rule.along, rule.crossing, rule.right], c ≠ '\n' ∧ Text.IsPlain c

instance (rule : Rule) : Decidable rule.IsPlain :=
  List.decidableBAll (fun c => c ≠ '\n' ∧ Text.IsPlain c) _

theorem isPlain_top : top.IsPlain := by decide +kernel

theorem isPlain_underHeader : underHeader.IsPlain := by decide +kernel

theorem isPlain_bottom : bottom.IsPlain := by decide +kernel

variable {rule : Rule}

/-- A drawn rule has no other characters. -/
theorem IsPlain.of_mem_draw (h : rule.IsPlain) {widths : List Nat} {c : Char}
    (hc : c ∈ (rule.draw widths).toList) : c ≠ '\n' ∧ Text.IsPlain c := by
  refine h c ?_
  rw [draw, String.toList_ofList, List.cons_append, List.mem_cons, List.mem_append,
    List.mem_singleton] at hc
  rcases hc with rfl | hc | rfl
  · simp
  · rcases mem_of_mem_intercalate hc with hc | ⟨_, hmem, hc⟩
    · simp [List.mem_singleton.1 hc]
    · obtain ⟨width, -, rfl⟩ := List.mem_map.1 hmem
      simp [List.eq_of_mem_replicate hc]
  · simp

/-- The number of characters between the ends of a rule. -/
theorem length_intercalate_along (rule : Rule) {widths : List Nat} (hne : widths ≠ []) :
    ([rule.crossing].intercalate
      (widths.map fun w => List.replicate (w + 2) rule.along)).length + 2 = lineWidth widths := by
  induction widths with
  | nil => exact absurd rfl hne
  | cons width widths ih =>
    cases widths with
    | nil => simp [lineWidth]
    | cons width' widths =>
      have hmore := ih (List.cons_ne_nil _ _)
      rw [lineWidth_cons, ← hmore, List.map_cons, List.map_cons, List.intercalate_cons_cons]
      simp only [List.length_append, List.length_replicate, List.length_singleton]
      omega

/-- A rule is as wide as the rows that it goes with. -/
theorem IsPlain.fillsLine_draw (h : rule.IsPlain) {widths : List Nat} (hne : widths ≠ []) :
    FillsLine widths (rule.draw widths) := by
  have halong := rule.length_intercalate_along hne
  constructor
  · exact fun hfeed => (h.of_mem_draw hfeed).1 rfl
  · rw [Text.displayWidth, Text.total_plain fun c hc => (h.of_mem_draw hc).2, draw,
      String.toList_ofList, List.cons_append, List.length_cons, List.length_append,
      List.length_singleton]
    omega

end Rule

end Columnar
