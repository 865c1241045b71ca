import Columnar.Binary64

/-!
# Number literals

The text of a number, as it stands in a loaded file or on the command line.

An integer literal is an optional sign and at least one digit, within the 64-bit
range.  A decimal literal is an optional sign, digits with an optional point and at
least one digit, and an optional exponent; it denotes the binary64 number nearest to
its exact value, ties going to the even significand and overflow to infinity.  A
float literal may also be one of the words `inf`, `infinity` and `nan`.

## Main definitions

* `readInt64` — the integer a text denotes.
* `DecimalLiteral.read` — the parts of a decimal literal.
* `Binary64.ofDecimal` — the nearest binary64 number.
* `readBinary64` — the float a text denotes.
-/

namespace Columnar

/-! ### Integers -/

/-- An optional sign, and whether it was a minus, in front of the rest. -/
def splitSign : List Char → Bool × List Char
  | '-' :: rest => (true, rest)
  | '+' :: rest => (false, rest)
  | rest => (false, rest)

/-- The number a list of decimal digits denotes. -/
def digitsValue (digits : List Char) : Nat :=
  digits.foldl (fun n c => 10 * n + (c.toNat - '0'.toNat)) 0

/-- A number under its sign. -/
def signed (negative : Bool) (n : Nat) : Int := if negative then -(n : Int) else n

/-- Digits and nothing else, at least one. -/
def readNatural (text : List Char) : Option Nat :=
  if text ≠ [] ∧ text.all Char.isDigit then some (digitsValue text) else none

/-- An optional sign and at least one digit. -/
def readInteger (text : List Char) : Option Int :=
  let (negative, digits) := splitSign text
  (readNatural digits).map (signed negative)

/-- The 64-bit integer that a text denotes; none if it is no integer literal or lies
out of range. -/
def readInt64 (text : String) : Option Int64 :=
  (readInteger text.toList).bind fun n =>
    if Int64.minValue.toInt ≤ n ∧ n ≤ Int64.maxValue.toInt then some (Int64.ofInt n) else none

/-! ### Decimals -/

/-- The parts of a decimal literal: the number `± digits * 10 ^ exponent`. -/
structure DecimalLiteral where
  /-- Whether the sign is a minus. -/
  negative : Bool
  /-- All digits, those before and those after the point, without the point. -/
  digits : List Char
  /-- The written exponent less the number of places after the point. -/
  exponent : Int
  deriving DecidableEq, Repr

/-- What may follow the digits of a decimal literal: nothing, or `e` or `E` and an
integer. -/
def readExponent : List Char → Option Int
  | [] => some 0
  | c :: rest => if c = 'e' ∨ c = 'E' then readInteger rest else none

/-- The digits after the point, if there is one, and what follows them. -/
def splitFraction : List Char → List Char × List Char
  | '.' :: rest => (rest.takeWhile Char.isDigit, rest.dropWhile Char.isDigit)
  | rest => ([], rest)

/-- Reads a decimal literal. -/
def DecimalLiteral.read (text : List Char) : Option DecimalLiteral :=
  let (negative, unsigned) := splitSign text
  let whole := unsigned.takeWhile Char.isDigit
  let (fraction, rest) := splitFraction (unsigned.dropWhile Char.isDigit)
  if whole = [] ∧ fraction = [] then none
  else (readExponent rest).map fun exponent =>
    { negative, digits := whole ++ fraction, exponent := exponent - fraction.length }

/-! ### Rounding to binary64 -/

namespace Binary64

/-- The quotient rounded to the nearest integer, a tie going to the even one. -/
def divNearestEven (n d : Nat) : Nat :=
  let q := n / d
  let r := n % d
  if 2 * r < d then q
  else if d < 2 * r then q + 1
  else q + q % 2

/-- The bits of positive infinity: the top exponent and no fraction. -/
def infinityBits : Nat := 2047 * fractionCount

/-- The bits of the non-negative number nearest to `n / d`.  The quotient is counted in
units of `2 ^ (-1074)`, brought to at most 53 significant bits by dropping `s` of
them, and rounded.  The bits are then `s * 2 ^ 52` plus the rounded significand: the
leading one of a normal significand, and a carry out of the rounding, each add one
to the exponent field, as they should. -/
def nearestBits (n d : Nat) : Nat :=
  let units := n * unitsInOne
  let s := (units / d).log2 - 52
  min infinityBits (s * fractionCount + divNearestEven units (d <<< s))

/-- The number nearest to `± n / d`. -/
def ofRatio (negative : Bool) (n d : Nat) : Binary64 :=
  ⟨UInt64.ofNat (nearestBits n d + if negative then signBit else 0)⟩

/-- The number nearest to `± n * 10 ^ exponent`.  Beyond `10 ^ 400` everything overflows
to infinity and below `10 ^ (-400)` everything vanishes, so powers of ten further out
are not computed. -/
def ofDecimal (negative : Bool) (n : Nat) (exponent : Int) : Binary64 :=
  let place := ((Nat.toDigits 10 n).length : Int) + exponent
  if n = 0 ∨ place < -400 then ofRatio negative 0 1
  else if 400 < place then ofRatio negative (Nat.pow 10 400) 1
  else ofRatio negative (n * Nat.pow 10 exponent.toNat) (Nat.pow 10 (-exponent).toNat)

/-- A positive NaN with a clear payload. -/
def nan : Binary64 := ⟨0x7ff8000000000000⟩

end Binary64

/-- The binary64 number nearest to a decimal literal. -/
def DecimalLiteral.toBinary64 (literal : DecimalLiteral) : Binary64 :=
  .ofDecimal literal.negative (digitsValue literal.digits) literal.exponent

/-- The words that denote floats, in lower case: an infinity is the overflow of any
huge decimal. -/
def floatWord (negative : Bool) (word : String) : Option Binary64 :=
  if word = "inf" ∨ word = "infinity" then some (.ofDecimal negative 1 1000)
  else if word = "nan" then some .nan
  else none

/-- The float that a text denotes: a decimal literal, or a word, in any case and with an
optional sign. -/
def readBinary64 (text : String) : Option Binary64 :=
  match DecimalLiteral.read text.toList with
  | some literal => some literal.toBinary64
  | none =>
    let (negative, word) := splitSign text.toList
    floatWord negative (String.ofList (word.map Char.toLower))

end Columnar
