import Columnar.Literal
import Mathlib.Data.List.TakeWhile

/-!
# The grammar of number literals

What the readers of numbers accept, written down as a grammar: a text is an integer or a decimal
literal if it is put together from a sign, digits, a point and an exponent as the rules say.  The
rules derive a text from its parts, and the readers look for the parts in a text, each taking as
much as it can.  That this finds the parts a text was put together from is a matter of what may
follow a part: behind digits there is a point, an exponent or nothing, and none of those begins
with a digit; behind a sign there is a digit or a point, and neither is a sign.

Every integer literal is a decimal literal, and a decimal literal never denotes a NaN: rounding
stops at infinity, whose fraction is zero.

## Main definitions

* `IsSign`, `IsFraction`, `IsExponent` — the optional parts of a literal.
* `IsInteger`, `IsDecimal` — integer and decimal literals, with what they denote.

## Main results

* `readInteger_eq_some_iff`, `readInt64_eq_some_iff` — integer literals are what is read as an
  integer.
* `DecimalLiteral.read_eq_some_iff` — decimal literals are what is read as a decimal.
* `IsInteger.isDecimal` — an integer literal is a decimal literal.
* `DecimalLiteral.isNaN_toBinary64` — a decimal literal denotes no NaN.
-/

namespace Columnar

/-! ### The grammar -/

/-- Digits and nothing else, perhaps none. -/
def AllDigits (text : List Char) : Prop := ∀ c ∈ text, c.isDigit = true

/-- An optional sign, and whether it is a minus. -/
inductive IsSign : List Char → Bool → Prop
  | absent : IsSign [] false
  | plus : IsSign ['+'] false
  | minus : IsSign ['-'] true

/-- An integer literal, and its value. -/
inductive IsInteger : List Char → Int → Prop
  | intro {sign digits : List Char} {negative : Bool} (hsign : IsSign sign negative)
      (hdigits : AllDigits digits) (hne : digits ≠ []) :
      IsInteger (sign ++ digits) (signed negative (Nat.ofDigitChars 10 digits 0))

/-- An optional point and the digits after it. -/
inductive IsFraction : List Char → List Char → Prop
  | absent : IsFraction [] []
  | present {digits : List Char} (hdigits : AllDigits digits) : IsFraction ('.' :: digits) digits

/-- An optional exponent, and its value. -/
inductive IsExponent : List Char → Int → Prop
  | absent : IsExponent [] 0
  | present {c : Char} {text : List Char} {n : Int} (hmark : c = 'e' ∨ c = 'E')
      (hinteger : IsInteger text n) : IsExponent (c :: text) n

/-- A decimal literal, and its parts.  There is a digit before the point or after it. -/
inductive IsDecimal : List Char → DecimalLiteral → Prop
  | intro {sign whole point fraction suffix : List Char} {negative : Bool} {exponent : Int}
      (hsign : IsSign sign negative) (hwhole : AllDigits whole) (hpoint : IsFraction point fraction)
      (hsuffix : IsExponent suffix exponent) (hdigit : whole ≠ [] ∨ fraction ≠ []) :
      IsDecimal (sign ++ (whole ++ (point ++ suffix)))
        ⟨negative, whole ++ fraction, exponent - fraction.length⟩

/-! ### What follows a part -/

/-- Text that does not begin with a digit. -/
def NoDigit (text : List Char) : Prop := ∀ c ∈ text.head?, c.isDigit = false

/-- Text that does not begin with a sign. -/
def NoSign (text : List Char) : Prop := ∀ c ∈ text.head?, c ≠ '-' ∧ c ≠ '+'

theorem ne_sign_of_isDigit {c : Char} (h : c.isDigit = true) : c ≠ '-' ∧ c ≠ '+' := by
  constructor <;> rintro rfl <;> exact absurd h (by decide)

variable {text rest digits : List Char}

theorem AllDigits.noSign_append (h : AllDigits digits) (hne : digits ≠ []) :
    NoSign (digits ++ rest) := by
  obtain ⟨d, more, rfl⟩ := List.exists_cons_of_ne_nil hne
  rintro _ ⟨⟩
  exact ne_sign_of_isDigit (h d List.mem_cons_self)

theorem IsExponent.noDigit {n : Int} (h : IsExponent text n) : NoDigit text := by
  cases h with
  | absent => exact nofun
  | present hmark _ =>
    rintro _ ⟨⟩
    rcases hmark with rfl | rfl <;> decide

theorem IsFraction.noDigit_append (h : IsFraction text digits) (hrest : NoDigit rest) :
    NoDigit (text ++ rest) := by
  cases h with
  | absent => exact hrest
  | present _ =>
    rintro _ ⟨⟩
    decide

theorem IsFraction.noSign_append (h : IsFraction text digits) (hne : digits ≠ []) :
    NoSign (text ++ rest) := by
  cases h with
  | absent => exact absurd rfl hne
  | present _ =>
    rintro _ ⟨⟩
    decide

/-! ### Signs -/

theorem exists_isSign {negative : Bool} (h : splitSign text = (negative, rest)) :
    ∃ sign, IsSign sign negative ∧ text = sign ++ rest := by
  unfold splitSign at h
  split at h
  · cases h
    exact ⟨['-'], .minus, rfl⟩
  · cases h
    exact ⟨['+'], .plus, rfl⟩
  · cases h
    exact ⟨[], .absent, rfl⟩

theorem IsSign.splitSign_append {sign : List Char} {negative : Bool} (h : IsSign sign negative)
    (hrest : NoSign rest) : splitSign (sign ++ rest) = (negative, rest) := by
  cases h with
  | plus | minus => rfl
  | absent =>
    rw [List.nil_append]
    unfold splitSign
    split
    · exact absurd rfl (hrest '-' rfl).1
    · exact absurd rfl (hrest '+' rfl).2
    · rfl

/-! ### Digits -/

theorem allDigits_takeWhile (text : List Char) : AllDigits (text.takeWhile Char.isDigit) :=
  fun _ hc => List.mem_takeWhile_imp hc

theorem NoDigit.takeWhile_eq_nil (h : NoDigit text) : text.takeWhile Char.isDigit = [] := by
  cases text with
  | nil => rfl
  | cons c text => rw [List.takeWhile_cons_of_neg (by rw [h c rfl]; exact Bool.false_ne_true)]

theorem NoDigit.dropWhile_eq_self (h : NoDigit text) : text.dropWhile Char.isDigit = text := by
  cases text with
  | nil => rfl
  | cons c text => rw [List.dropWhile_cons_of_neg (by rw [h c rfl]; exact Bool.false_ne_true)]

/-- All the digits are taken. -/
theorem AllDigits.takeWhile_append (h : AllDigits digits) (hrest : NoDigit rest) :
    (digits ++ rest).takeWhile Char.isDigit = digits := by
  rw [List.takeWhile_append_of_pos h, hrest.takeWhile_eq_nil, List.append_nil]

/-- Nothing but the digits is taken. -/
theorem AllDigits.dropWhile_append (h : AllDigits digits) (hrest : NoDigit rest) :
    (digits ++ rest).dropWhile Char.isDigit = rest := by
  rw [List.dropWhile_append_of_pos h, hrest.dropWhile_eq_self]

/-! ### Integers -/

theorem readNatural_eq_some_iff {n : Nat} :
    readNatural text = some n ↔
      AllDigits text ∧ text ≠ [] ∧ Nat.ofDigitChars 10 text 0 = n := by
  rw [readNatural, Option.ite_none_right_eq_some, Option.some.injEq, List.all_eq_true,
    and_assoc, and_left_comm]
  rfl

theorem readInteger_eq_some_iff {n : Int} : readInteger text = some n ↔ IsInteger text n := by
  constructor
  · intro h
    rcases hsplit : splitSign text with ⟨negative, digits⟩
    obtain ⟨sign, hsign, rfl⟩ := exists_isSign hsplit
    rw [readInteger, hsplit] at h
    obtain ⟨value, hvalue, rfl⟩ := Option.map_eq_some_iff.1 h
    obtain ⟨hdigits, hne, rfl⟩ := readNatural_eq_some_iff.1 hvalue
    exact .intro hsign hdigits hne
  · rintro ⟨hsign, hdigits, hne⟩
    have hrest : NoSign (_ ++ []) := hdigits.noSign_append hne
    rw [List.append_nil] at hrest
    rw [readInteger, hsign.splitSign_append hrest]
    exact Option.map_eq_some_iff.2 ⟨_, readNatural_eq_some_iff.2 ⟨hdigits, hne, rfl⟩, rfl⟩

/-- An integer literal in range is read as its value, and nothing else is read. -/
theorem readInt64_eq_some_iff {field : String} {value : Int64} :
    readInt64 field = some value ↔ IsInteger field.toList value.toInt := by
  unfold readInt64
  rw [Option.bind_eq_some_iff]
  constructor
  · rintro ⟨n, hread, hrange⟩
    obtain ⟨⟨hmin, hmax⟩, hvalue⟩ := Option.ite_none_right_eq_some.1 hrange
    obtain rfl := Option.some.inj hvalue
    rw [Int64.toInt_ofInt_of_le hmin (Int.lt_of_le_of_lt hmax (by decide))]
    exact readInteger_eq_some_iff.1 hread
  · intro h
    refine ⟨value.toInt, readInteger_eq_some_iff.2 h, ?_⟩
    rw [if_pos ⟨value.minValue_le_toInt, value.toInt_le⟩, Int64.ofInt_toInt]

/-! ### Decimals -/

theorem readExponent_eq_some_iff {n : Int} : readExponent text = some n ↔ IsExponent text n := by
  constructor
  · intro h
    cases text with
    | nil =>
      cases h
      exact .absent
    | cons c rest =>
      obtain ⟨hmark, hread⟩ := Option.ite_none_right_eq_some.1 h
      exact .present hmark (readInteger_eq_some_iff.1 hread)
  · rintro (_ | ⟨hmark, hinteger⟩)
    · rfl
    · rw [readExponent, if_pos hmark]
      exact readInteger_eq_some_iff.2 hinteger

theorem exists_isFraction (h : splitFraction text = (digits, rest)) :
    ∃ point, IsFraction point digits ∧ text = point ++ rest := by
  unfold splitFraction at h
  split at h
  · cases h
    exact ⟨_, .present (allDigits_takeWhile _),
      congrArg ('.' :: ·) List.takeWhile_append_dropWhile.symm⟩
  · cases h
    exact ⟨[], .absent, rfl⟩

theorem IsFraction.splitFraction_append {suffix : List Char} {n : Int}
    (h : IsFraction text digits) (hsuffix : IsExponent suffix n) :
    splitFraction (text ++ suffix) = (digits, suffix) := by
  cases h with
  | present hdigits =>
    rw [List.cons_append, splitFraction, hdigits.takeWhile_append hsuffix.noDigit,
      hdigits.dropWhile_append hsuffix.noDigit]
  | absent =>
    cases hsuffix with
    | absent => rfl
    | present hmark _ => rcases hmark with rfl | rfl <;> rfl

/-- Reading, with the sign and the fraction split off. -/
theorem DecimalLiteral.read_eq {negative : Bool} {unsigned fraction suffix : List Char}
    (hsign : splitSign text = (negative, unsigned))
    (hfraction : splitFraction (unsigned.dropWhile Char.isDigit) = (fraction, suffix)) :
    DecimalLiteral.read text =
      if unsigned.takeWhile Char.isDigit = [] ∧ fraction = [] then none
      else (readExponent suffix).map fun exponent =>
        ⟨negative, unsigned.takeWhile Char.isDigit ++ fraction, exponent - fraction.length⟩ := by
  unfold DecimalLiteral.read
  rw [hsign]
  dsimp only
  rw [hfraction]

/-- A decimal literal is read as its parts, and nothing else is read. -/
theorem DecimalLiteral.read_eq_some_iff {literal : DecimalLiteral} :
    DecimalLiteral.read text = some literal ↔ IsDecimal text literal := by
  constructor
  · intro h
    rcases hsplit : splitSign text with ⟨negative, unsigned⟩
    rcases hbehind : splitFraction (unsigned.dropWhile Char.isDigit) with ⟨fraction, suffix⟩
    rw [read_eq hsplit hbehind] at h
    obtain ⟨hdigit, h⟩ := Option.ite_none_left_eq_some.1 h
    obtain ⟨exponent, hexponent, rfl⟩ := Option.map_eq_some_iff.1 h
    obtain ⟨sign, hsign, rfl⟩ := exists_isSign hsplit
    obtain ⟨point, hpoint, hrest⟩ := exists_isFraction hbehind
    have hdecimal := IsDecimal.intro hsign (allDigits_takeWhile unsigned) hpoint
      (readExponent_eq_some_iff.1 hexponent) (not_and_or.1 hdigit)
    rwa [← hrest, List.takeWhile_append_dropWhile] at hdecimal
  · rintro ⟨hsign, hwhole, hpoint, hsuffix, hdigit⟩
    next sign whole point fraction suffix negative exponent =>
    have hbehind : NoDigit (point ++ suffix) := hpoint.noDigit_append hsuffix.noDigit
    have hfront : NoSign (whole ++ (point ++ suffix)) := by
      rcases eq_or_ne whole [] with rfl | hne
      · exact hpoint.noSign_append (hdigit.resolve_left (· rfl))
      · exact hwhole.noSign_append hne
    have hfraction : splitFraction ((whole ++ (point ++ suffix)).dropWhile Char.isDigit)
        = (fraction, suffix) := by
      rw [hwhole.dropWhile_append hbehind, hpoint.splitFraction_append hsuffix]
    rw [read_eq (hsign.splitSign_append hfront) hfraction, hwhole.takeWhile_append hbehind,
      if_neg (not_and_or.2 hdigit), readExponent_eq_some_iff.2 hsuffix]
    rfl

/-- An integer literal is a decimal literal without a point and an exponent. -/
theorem IsInteger.isDecimal {n : Int} (h : IsInteger text n) :
    ∃ literal, IsDecimal text literal := by
  obtain ⟨hsign, hdigits, hne⟩ := h
  have hdecimal := IsDecimal.intro hsign hdigits .absent .absent (.inl hne)
  rw [List.append_nil, List.append_nil] at hdecimal
  exact ⟨_, hdecimal⟩

/-! ### Rounding -/

namespace Binary64

/-- Rounding stops at infinity. -/
theorem nearestBits_le (n d : Nat) : nearestBits n d ≤ infinityBits :=
  Nat.min_le_left _ _

/-- The bits of an infinity are the largest of those that are not a NaN. -/
theorem isNaN_of_bits {x : Binary64} (h : x.bits.toNat % signBit ≤ infinityBits) :
    x.isNaN = false := by
  have hlt := x.bits.toNat_lt
  unfold infinityBits signBit at h
  unfold isNaN exponentField fraction
  unfold fractionCount exponentCount at *
  rw [Bool.and_eq_false_iff, beq_eq_false_iff_ne, bne_eq_false_iff_eq]
  omega

theorem isNaN_ofRatio (negative : Bool) (n d : Nat) : (ofRatio negative n d).isNaN = false := by
  have hle := nearestBits_le n d
  refine isNaN_of_bits (Nat.le_trans (Nat.le_of_eq ?_) hle)
  rw [ofRatio, UInt64.toNat_ofNat']
  unfold infinityBits fractionCount at hle
  unfold signBit
  split <;> omega

theorem isNaN_ofDecimal (negative : Bool) (n : Nat) (exponent : Int) :
    (ofDecimal negative n exponent).isNaN = false := by
  unfold ofDecimal
  dsimp only
  split
  · exact isNaN_ofRatio ..
  · split <;> exact isNaN_ofRatio ..

end Binary64

/-- A decimal literal denotes a number. -/
theorem DecimalLiteral.isNaN_toBinary64 (literal : DecimalLiteral) :
    literal.toBinary64.isNaN = false :=
  Binary64.isNaN_ofDecimal ..

end Columnar
