import Columnar.Proofs.Literal
import Columnar.Proofs.Loading
import Mathlib.Data.Option.Basic
import Mathlib.Order.MinMax

/-!
# The type of a column of text

A column takes the narrowest type that all its fields can be read as.  The types are ordered by
how much text fits them: an integer literal in range fits all three types, any other decimal
literal fits floats and text, and everything else is text.  So a type is wide enough for a column
exactly if it is wide enough for each of its fields, which does not depend on where the fields
stand, and two columns put together take the wider of their types.

Floats are read by a reader that knows words for infinities and NaNs besides the decimal
literals, and a test of the characters keeps the words out.  The test turns no decimal literal
away, for those are made of its characters and have a digit; and no word passes, for none has a
digit.

## Main definitions

* `DataType.width` — the order of the types.
* `DenotesInt`, `DenotesFloat`, `Fits` — what a field says, and which types are wide enough for it.
* `Cells.ReadFrom` — cells that say what the fields say.

## Main results

* `readNumericField_eq_some_iff` — decimal literals are what is read as a float.
* `type_inferCells_le_iff` — the types that are wide enough for a column.
* `inferCells_narrowest` — **a column takes the narrowest type that all its fields fit.**
-/

namespace Columnar

/-! ### The order of the types -/

/-- How many of the types are narrower. -/
def DataType.width : DataType → Nat
  | .int => 0
  | .float => 1
  | .text => 2

theorem DataType.width_injective : Function.Injective DataType.width := by
  intro t t' h
  cases t <;> cases t' <;> first | rfl | cases h

instance : LinearOrder DataType := LinearOrder.lift' DataType.width DataType.width_injective

theorem DataType.eq_int_iff {t : DataType} : t = .int ↔ t ≤ .int := by
  cases t <;> decide

theorem DataType.eq_float_iff {t : DataType} : t = .float ↔ ¬t ≤ .int ∧ t ≤ .float := by
  cases t <;> decide

theorem DataType.eq_text_iff {t : DataType} : t = .text ↔ ¬t ≤ .int ∧ ¬t ≤ .float := by
  cases t <;> decide

/-! ### What a field says -/

/-- The field is an integer literal for a number in range. -/
def DenotesInt (field : String) (value : Int64) : Prop := IsInteger field.toList value.toInt

/-- The field is a decimal literal, and the number the one nearest to it. -/
def DenotesFloat (field : String) (value : Binary64) : Prop :=
  ∃ literal, IsDecimal field.toList literal ∧ literal.toBinary64 = value

/-- Whether a type is wide enough for a field. -/
def Fits (field : String) : DataType → Prop
  | .int => ∃ value, DenotesInt field value
  | .float => ∃ value, DenotesFloat field value
  | .text => True

theorem Fits.mono {field : String} {t t' : DataType} (h : Fits field t) (hle : t ≤ t') :
    Fits field t' := by
  cases t' with
  | text => trivial
  | float =>
    cases t with
    | float => exact h
    | text => exact absurd hle (by decide)
    | int =>
      obtain ⟨value, hvalue⟩ := h
      obtain ⟨literal, hliteral⟩ := hvalue.isDecimal
      exact ⟨_, literal, hliteral, rfl⟩
  | int =>
    cases t with
    | int => exact h
    | float | text => exact absurd hle (by decide)

/-! ### Characters -/

/-- Characters of decimal literals and nothing else. -/
def AllNumeric (text : List Char) : Prop := ∀ c ∈ text, isNumeric c = true

section

variable {text text' digits : List Char}

theorem AllNumeric.append (h : AllNumeric text) (h' : AllNumeric text') :
    AllNumeric (text ++ text') := by
  intro c hc
  exact (List.mem_append.1 hc).elim (h c) (h' c)

theorem AllDigits.allNumeric (h : AllDigits digits) : AllNumeric digits := by
  intro c hc
  simp [isNumeric, h c hc]

theorem IsSign.allNumeric {negative : Bool} (h : IsSign text negative) : AllNumeric text := by
  cases h with
  | absent => exact nofun
  | plus | minus => exact List.forall_mem_singleton.2 rfl

theorem IsInteger.allNumeric {n : Int} (h : IsInteger text n) : AllNumeric text := by
  obtain ⟨hsign, hdigits, -⟩ := h
  exact hsign.allNumeric.append hdigits.allNumeric

theorem IsFraction.allNumeric (h : IsFraction text digits) : AllNumeric text := by
  cases h with
  | absent => exact nofun
  | present hdigits => exact List.forall_mem_cons.2 ⟨by decide, hdigits.allNumeric⟩

theorem IsExponent.allNumeric {n : Int} (h : IsExponent text n) : AllNumeric text := by
  cases h with
  | absent => exact nofun
  | present hmark hinteger =>
    refine List.forall_mem_cons.2 ⟨?_, hinteger.allNumeric⟩
    rcases hmark with rfl | rfl <;> decide

theorem IsFraction.subset (h : IsFraction text digits) : digits ⊆ text := by
  cases h with
  | absent => exact List.Subset.refl _
  | present _ => exact List.subset_cons_self _ _

theorem IsFraction.allDigits (h : IsFraction text digits) : AllDigits digits := by
  cases h with
  | absent => exact nofun
  | present hdigits => exact hdigits

theorem AllDigits.exists_isDigit (h : AllDigits digits) (hne : digits ≠ []) :
    ∃ c ∈ digits, c.isDigit = true := by
  obtain ⟨c, hc⟩ := List.exists_mem_of_ne_nil digits hne
  exact ⟨c, hc, h c hc⟩

end

/-- The test turns no decimal literal away. -/
theorem looksNumeric_of_isDecimal {field : String} {literal : DecimalLiteral}
    (h : IsDecimal field.toList literal) : looksNumeric field = true := by
  rw [looksNumeric, Bool.and_eq_true, List.any_eq_true, List.all_eq_true]
  generalize field.toList = text at h
  obtain ⟨hsign, hwhole, hpoint, hsuffix, hdigit⟩ := h
  constructor
  · rcases hdigit with hne | hne
    · obtain ⟨c, hc, hdigit⟩ := hwhole.exists_isDigit hne
      exact ⟨c, List.mem_append_right _ (List.mem_append_left _ hc), hdigit⟩
    · obtain ⟨c, hc, hdigit⟩ := hpoint.allDigits.exists_isDigit hne
      exact ⟨c, List.mem_append_right _ (List.mem_append_right _
        (List.mem_append_left _ (hpoint.subset hc))), hdigit⟩
  · exact hsign.allNumeric.append
      (hwhole.allNumeric.append (hpoint.allNumeric.append hsuffix.allNumeric))

/-! ### Words -/

theorem toLower_of_isDigit {c : Char} (h : c.isDigit = true) : c.toLower = c := by
  have hle : c.val ≤ 57 := (Bool.and_eq_true_iff.1 h).2 |> of_decide_eq_true
  refine dif_neg fun hupper => ?_
  exact absurd (UInt32.le_trans hupper.1 hle) (by decide)

/-- No word for a float has a digit. -/
theorem floatWord_of_isDigit {c : Char} {word : String} (hc : c ∈ word.toList)
    (hdigit : c.isDigit = true) (negative : Bool) : floatWord negative word = none := by
  have hnone : ∀ other : String, other.toList.all (!·.isDigit) = true → word ≠ other := by
    rintro _ hother rfl
    have := List.all_eq_true.1 hother c hc
    rw [hdigit] at this
    exact Bool.false_ne_true this
  unfold floatWord
  rw [if_neg (not_or.2 ⟨hnone _ (by decide), hnone _ (by decide)⟩), if_neg (hnone _ (by decide))]

/-- Decimal literals are what is read as a float.  No word passes the test. -/
theorem readNumericField_eq_some_iff {field : String} {value : Binary64} :
    readNumericField field = some value ↔ DenotesFloat field value := by
  unfold readNumericField DenotesFloat
  rw [Option.ite_none_right_eq_some]
  constructor
  · rintro ⟨hlooks, hread⟩
    unfold readBinary64 at hread
    split at hread
    · next literal hliteral =>
      exact ⟨literal, DecimalLiteral.read_eq_some_iff.1 hliteral, Option.some.inj hread⟩
    · obtain ⟨c, hc, hdigit⟩ := List.any_eq_true.1 (Bool.and_eq_true_iff.1 hlooks).1
      rcases hsplit : splitSign field.toList with ⟨negative, word⟩
      obtain ⟨sign, hsign, htext⟩ := exists_isSign hsplit
      have hword : c ∈ word := by
        rw [htext, List.mem_append] at hc
        refine hc.resolve_left fun hc => ?_
        cases hsign with
        | absent => cases hc
        | plus | minus =>
          obtain rfl := List.mem_singleton.1 hc
          exact absurd hdigit (by decide)
      have hlower : c ∈ (String.ofList (word.map Char.toLower)).toList := by
        rw [String.toList_ofList]
        exact List.mem_map.2 ⟨c, hword, toLower_of_isDigit hdigit⟩
      rw [hsplit] at hread
      cases (floatWord_of_isDigit hlower hdigit negative).symm.trans hread
  · rintro ⟨literal, hliteral, rfl⟩
    refine ⟨looksNumeric_of_isDecimal hliteral, ?_⟩
    rw [readBinary64, DecimalLiteral.read_eq_some_iff.2 hliteral]

/-! ### Columns -/

/-- Cells that say what the fields say, one for each in their order. -/
inductive Cells.ReadFrom (fields : List String) : Cells → Prop
  | int {values : Array Int64} (h : List.Forall₂ DenotesInt fields values.toList) :
      ReadFrom fields (.int values)
  | float {values : Array Binary64} (h : List.Forall₂ DenotesFloat fields values.toList) :
      ReadFrom fields (.float values)
  | text : ReadFrom fields (.text fields.toArray)

theorem exists_mapM_eq_some_iff {α β : Type} {f : α → Option β} {xs : List α} :
    (∃ ys, xs.mapM f = some ys) ↔ ∀ x ∈ xs, ∃ y, f x = some y := by
  induction xs with
  | nil => exact ⟨fun _ => nofun, fun _ => ⟨[], rfl⟩⟩
  | cons x xs ih =>
    rw [List.forall_mem_cons, ← ih]
    simp only [mapM_eq_some_iff, List.forall₂_cons_left_iff]
    constructor
    · rintro ⟨_, y, rest, hx, hrest, rfl⟩
      exact ⟨⟨y, hx⟩, rest, hrest⟩
    · rintro ⟨⟨y, hx⟩, rest, hrest⟩
      exact ⟨_, y, rest, hx, hrest, rfl⟩

variable {fields : List String}

theorem exists_mapM_readInt64_iff :
    (∃ values, fields.mapM readInt64 = some values) ↔ ∀ field ∈ fields, Fits field .int := by
  simp only [exists_mapM_eq_some_iff, readInt64_eq_some_iff, Fits, DenotesInt]

theorem exists_mapM_readNumericField_iff :
    (∃ values, fields.mapM readNumericField = some values) ↔
      ∀ field ∈ fields, Fits field .float := by
  simp only [exists_mapM_eq_some_iff, readNumericField_eq_some_iff, Fits]

theorem readFrom_inferCells (fields : List String) : (inferCells fields).ReadFrom fields := by
  unfold inferCells
  split
  · next hvalues => exact .int ((mapM_eq_some_iff.1 hvalues).imp fun _ _ => readInt64_eq_some_iff.1)
  · split
    · next hvalues =>
      exact .float ((mapM_eq_some_iff.1 hvalues).imp fun _ _ => readNumericField_eq_some_iff.1)
    · exact .text

/-- A column has the first of the three types that all its fields fit. -/
theorem type_inferCells (fields : List String) :
    ((inferCells fields).type = .int ∧ ∀ field ∈ fields, Fits field .int) ∨
    ((inferCells fields).type = .float ∧ (¬∀ field ∈ fields, Fits field .int) ∧
      ∀ field ∈ fields, Fits field .float) ∨
    ((inferCells fields).type = .text ∧ ¬∀ field ∈ fields, Fits field .float) := by
  rw [← exists_mapM_readInt64_iff, ← exists_mapM_readNumericField_iff]
  unfold inferCells
  cases hints : fields.mapM readInt64 with
  | some values => exact .inl ⟨rfl, values, rfl⟩
  | none =>
    cases hfloats : fields.mapM readNumericField with
    | some values => exact .inr (.inl ⟨rfl, nofun, values, rfl⟩)
    | none => exact .inr (.inr ⟨rfl, nofun⟩)

/-- A type is wide enough for a column if it is wide enough for each of its fields. -/
theorem type_inferCells_le_iff {t : DataType} :
    (inferCells fields).type ≤ t ↔ ∀ field ∈ fields, Fits field t := by
  rcases type_inferCells fields with ⟨htype, hint⟩ | ⟨htype, hint, hfloat⟩ | ⟨htype, hfloat⟩
  · rw [htype]
    exact iff_of_true (by cases t <;> decide)
      fun field hfield => (hint field hfield).mono (by cases t <;> decide)
  · rw [htype]
    cases t with
    | int => exact iff_of_false (by decide) hint
    | float => exact iff_of_true (by decide) hfloat
    | text => exact iff_of_true (by decide) fun _ _ => trivial
  · rw [htype]
    cases t with
    | int =>
      exact iff_of_false (by decide)
        fun hint => hfloat fun field hfield => (hint field hfield).mono (by decide)
    | float => exact iff_of_false (by decide) hfloat
    | text => exact iff_of_true (by decide) fun _ _ => trivial

/-- Columns put together take the wider of their types, in whatever order their fields stand. -/
theorem type_inferCells_of_perm {fields' merged : List String}
    (h : merged.Perm (fields ++ fields')) :
    (inferCells merged).type = max (inferCells fields).type (inferCells fields').type := by
  refine eq_of_forall_ge_iff fun t => ?_
  rw [max_le_iff, type_inferCells_le_iff, type_inferCells_le_iff, type_inferCells_le_iff,
    ← List.forall_mem_append]
  exact forall_congr' fun field => imp_congr_left h.mem_iff

/-- The floats of a column are numbers. -/
theorem isNaN_of_inferCells_eq {values : Array Binary64} (h : inferCells fields = .float values) :
    ∀ value ∈ values.toList, value.isNaN = false := by
  have hread := readFrom_inferCells fields
  rw [h] at hread
  obtain - | ⟨hvalues⟩ | - := hread
  intro value hvalue
  obtain ⟨_, -, literal, -, rfl⟩ := exists_mem_of_forall₂ hvalues hvalue
  exact literal.isNaN_toBinary64

/-- **A column takes the narrowest type that all its fields fit.**  If the records are long
enough, the column at a position is made of the fields there.  It is one of integers exactly if
all of them are integer literals in range, otherwise one of floats exactly if all are decimal
literals, and otherwise one of text; its cells are what the fields say, in the order of the
records.  Together with other records, in whatever order, it takes the wider of both types, and
no float in it is a NaN. -/
theorem inferCells_narrowest {records : List (List String)} {position : Nat}
    (hwide : ∀ record ∈ records, position < record.length) :
    (∃ fields, records.map (·[position]?) = fields.map some ∧
      ((inferCells (fieldsAt records position)).type = .int ↔
        ∀ field ∈ fields, ∃ value, DenotesInt field value) ∧
      ((inferCells (fieldsAt records position)).type = .float ↔
        (¬∀ field ∈ fields, ∃ value, DenotesInt field value) ∧
          ∀ field ∈ fields, ∃ value, DenotesFloat field value) ∧
      ((inferCells (fieldsAt records position)).type = .text ↔
        (¬∀ field ∈ fields, ∃ value, DenotesInt field value) ∧
          ¬∀ field ∈ fields, ∃ value, DenotesFloat field value) ∧
      (inferCells (fieldsAt records position)).ReadFrom fields) ∧
    (∀ records', (∀ record ∈ records', position < record.length) →
      ∀ merged, merged.Perm (records ++ records') →
        (inferCells (fieldsAt merged position)).type
          = max (inferCells (fieldsAt records position)).type
              (inferCells (fieldsAt records' position)).type) ∧
    ∀ values, inferCells (fieldsAt records position) = .float values →
      ∀ value ∈ values.toList, value.isNaN = false := by
  refine ⟨⟨fieldsAt records position, map_getElem?_eq_fieldsAt hwide, ?_, ?_, ?_,
    readFrom_inferCells _⟩, fun records' _ merged hmerged => ?_,
    fun values => isNaN_of_inferCells_eq⟩
  · rw [DataType.eq_int_iff, type_inferCells_le_iff]
    rfl
  · rw [DataType.eq_float_iff, type_inferCells_le_iff, type_inferCells_le_iff]
    rfl
  · rw [DataType.eq_text_iff, type_inferCells_le_iff, type_inferCells_le_iff]
    rfl
  · refine type_inferCells_of_perm ?_
    unfold fieldsAt
    rw [← List.filterMap_append]
    exact hmerged.filterMap _

/-- Two integers, of which the second is out of range. -/
def overflowingRecords : List (List String) := [["-7", "x"], ["9223372036854775808", "y"]]

/-- Words, one of which is a float elsewhere. -/
def wordRecords : List (List String) := [["NaN"], ["e-"]]

/-- An integer out of range makes a column one of floats, and words in front of it one of text. -/
theorem inferCells_narrowest_outOfRange :
    (∀ record ∈ overflowingRecords, 0 < record.length) ∧
      (∀ record ∈ wordRecords, 0 < record.length) ∧
      (inferCells (fieldsAt (wordRecords ++ overflowingRecords) 0)).type = .text ∧
      (¬∀ field ∈ ["-7", "9223372036854775808"], ∃ value, DenotesInt field value) ∧
      ∀ field ∈ ["-7", "9223372036854775808"], ∃ value, DenotesFloat field value := by
  have hwide : ∀ record ∈ overflowingRecords, 0 < record.length := by decide
  have hwords : ∀ record ∈ wordRecords, 0 < record.length := by decide
  have htype : (inferCells (fieldsAt overflowingRecords 0)).type = .float := by decide +kernel
  obtain ⟨⟨fields, hfields, -, hfloat, -, -⟩, hmerge, -⟩ := inferCells_narrowest hwide
  obtain rfl : fields = ["-7", "9223372036854775808"] :=
    (Option.some_injective String).list_map hfields.symm
  exact ⟨hwide, hwords,
    (hmerge wordRecords hwords _ List.perm_append_comm).trans (by decide +kernel), hfloat.1 htype⟩

end Columnar
