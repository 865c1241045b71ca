import Columnar.Key

/-!
# Comparisons

The six comparison operators of selections and joins.  A comparison is tested between
a candidate and a bound, and reads `candidate OP bound`: a selection tests each cell
against its value, and a join each right key against a left key.

## Main definitions

* `Comparison` — the operators, and `Comparison.all`, their order in listings.
* `Comparison.holds` — the test on two keys of one type.
* `Comparison.ofSymbol?` — the operator that a symbol names.
* `Comparison.mirror` — the operator that says the same with the sides exchanged.
-/

namespace Columnar

/-- A comparison operator. -/
inductive Comparison where
  /-- Equal. -/
  | eq
  /-- Not equal. -/
  | ne
  /-- Strictly before. -/
  | lt
  /-- Strictly after. -/
  | gt
  /-- Before or equal. -/
  | le
  /-- After or equal. -/
  | ge
  deriving DecidableEq, Repr, Inhabited

namespace Comparison

/-- All operators, in the order of listings. -/
def all : List Comparison := [.eq, .ne, .lt, .gt, .le, .ge]

/-- Tests `candidate OP bound`.  Only `ne` holds of a pair that has no order. -/
def holds {α : Type} [Key α] (op : Comparison) (candidate bound : α) : Bool :=
  match op with
  | .eq => Key.same candidate bound
  | .ne => !Key.same candidate bound
  | .lt => Key.before candidate bound
  | .gt => Key.before bound candidate
  | .le => Key.before candidate bound || Key.same candidate bound
  | .ge => Key.before bound candidate || Key.same candidate bound

/-- The written form of an operator. -/
def symbol : Comparison → String
  | .eq => "=="
  | .ne => "!="
  | .lt => "<"
  | .gt => ">"
  | .le => "<="
  | .ge => ">="

/-- The operator that a symbol names; a single `=` also names equality. -/
def ofSymbol? (text : String) : Option Comparison :=
  (all.find? fun op => op.symbol == text).or (if text = "=" then some .eq else none)

/-- The operator that holds of two keys exactly when this one holds of them exchanged. -/
def mirror : Comparison → Comparison
  | .eq => .eq
  | .ne => .ne
  | .lt => .gt
  | .gt => .lt
  | .le => .ge
  | .ge => .le

theorem ofSymbol?_symbol (op : Comparison) : ofSymbol? op.symbol = some op := by
  cases op <;> decide

@[simp] theorem mirror_mirror (op : Comparison) : op.mirror.mirror = op := by
  cases op <;> rfl

end Comparison

end Columnar
