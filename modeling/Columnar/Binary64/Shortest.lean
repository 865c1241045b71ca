import Columnar.Binary64

/-!
# The shortest decimal that reads back

A float is shown by the fewest decimal digits that identify it: among the decimals
that round to the number, one with the least count of digits, and of those the one
nearest to the number.

The reals that round to a given number form an interval around it.  A decimal with
`d` significant digits lies on a grid of step `10 ^ k`, and if any point of that grid
is in the interval, then so is one of the two points next to the number.  It is
therefore enough to try those two, for `d = 1, 2, …, 17`; seventeen digits always
suffice.

## Main definitions

* `Decimal` — a decimal number `digits * 10 ^ exponent`, and its positional text.
* `Binary64.Interval` — the reals that round to a number.
* `Binary64.shortest` — the shortest decimal in that interval.
* `Binary64.display` — the text of a float cell.
-/

namespace Columnar

/-! ### Decimals and their text -/

/-- The decimal number `digits * 10 ^ exponent`. -/
structure Decimal where
  /-- The significant digits, read as one number. -/
  digits : Nat
  /-- The power of ten that scales them. -/
  exponent : Int
  deriving DecidableEq, Repr

/-- A list of digits without the zeros at its end. -/
def dropTrailingZeros (digits : List Char) : List Char :=
  (digits.reverse.dropWhile (· == '0')).reverse

/-- Positional notation: never an exponent, and a point only in front of a non-zero
fraction. -/
def Decimal.positional (d : Decimal) : String :=
  let digits := Nat.toDigits 10 d.digits
  if 0 ≤ d.exponent then
    String.ofList (digits ++ List.replicate d.exponent.toNat '0')
  else
    let places := (-d.exponent).toNat
    let padded := List.replicate (places + 1 - digits.length) '0' ++ digits
    let whole := padded.take (padded.length - places)
    match dropTrailingZeros (padded.drop (padded.length - places)) with
    | [] => String.ofList whole
    | fraction => String.ofList (whole ++ '.' :: fraction)

namespace Binary64

/-! ### The interval of a number -/

/-- The reals that round to a number, in units of `2 ^ (-1076)`, in which the
midpoints between neighbouring numbers are whole. -/
structure Interval where
  /-- The lower end: the midpoint to the next smaller magnitude. -/
  low : Nat
  /-- The number itself. -/
  centre : Nat
  /-- The upper end: the midpoint to the next larger magnitude. -/
  high : Nat
  /-- Whether the ends belong to the interval.  A tie rounds to the even significand,
  so they do when the number's own is even. -/
  closed : Bool

/-- The interval around the magnitude of a finite number.  Below a power of two the
neighbours are half as far apart as above it. -/
def interval (x : Binary64) : Interval :=
  let unit := 1 <<< x.binade
  let centre := 4 * x.magnitude
  { low := centre - (if x.fraction = 0 ∧ 1 < x.exponentField then unit else 2 * unit)
    centre
    high := centre + 2 * unit
    closed := x.significand % 2 == 0 }

/-- The point of the grid of step `10 ^ k` that lies in the interval and is nearest
to its centre, if there is one; of two equally near, the upper. -/
def Interval.onGrid (i : Interval) (k : Int) : Option Nat :=
  let up := Nat.pow 10 (-k).toNat
  let step := 4 * unitsInOne * Nat.pow 10 k.toNat
  let inside (c : Nat) : Bool :=
    if i.closed then decide (i.low * up ≤ c * step ∧ c * step ≤ i.high * up)
    else decide (i.low * up < c * step ∧ c * step < i.high * up)
  let lower := i.centre * up / step
  match inside lower, inside (lower + 1) with
  | true, true =>
    if i.centre * up - lower * step < (lower + 1) * step - i.centre * up then some lower
    else some (lower + 1)
  | true, false => some lower
  | false, true => some (lower + 1)
  | false, false => none

/-- The position of the leading digit: the `p` with `10 ^ (p - 1) ≤ x < 10 ^ p`.
Every positive number exceeds `10 ^ (-330)`. -/
def leadingPlace (x : Binary64) : Int :=
  ((Nat.toDigits 10 (x.magnitude * Nat.pow 10 330 / unitsInOne)).length : Int) - 330

/-- The shortest decimal that rounds to the magnitude of a finite, non-zero number. -/
def shortest (x : Binary64) : Decimal :=
  let place := x.leadingPlace
  let hit := (List.range 17).findSome? fun d =>
    let k := place - (d + 1 : Nat)
    (x.interval.onGrid k).map fun digits => (⟨digits, k⟩ : Decimal)
  hit.getD ⟨0, 0⟩

/-- The text of a float cell. -/
def display (x : Binary64) : String :=
  if x.isNaN then "NaN"
  else
    let magnitude :=
      if x.isInfinite then "inf"
      else if x.magnitude = 0 then "0"
      else x.shortest.positional
    if x.isNegative then "-" ++ magnitude else magnitude

end Binary64

end Columnar
