import Columnar.Catalog.Basic
import Columnar.Join.Basic

/-!
# Joins by name

The joins between registered relations.  Both relations are looked up, the left one
first, and then joined.  A join through an index keeps the index it builds with the
registered relation, so that later joins find it; it is built only once the key columns
are known to fit.

## Main definitions

* `Catalog.joinWith` — a join of two registered relations.
* `Catalog.nestedLoopJoin`, `Catalog.hashJoin`, `Catalog.parallelHashJoin`.
* `Catalog.indexNestedLoopJoin` — the join that may leave an index behind.
* `Catalog.join` — the join by a given strategy.
-/

namespace Columnar

namespace Catalog

/-- A join of the relations under two names, which are looked up from the left. -/
def joinWith (c : Catalog) (left right : String) (f : Relation → Relation → Run Relation) :
    Run Relation := do
  let l ← c.find left
  let r ← c.find right
  f l r

/-- The nested loop join of two registered relations. -/
def nestedLoopJoin (c : Catalog) (left leftColumn right rightColumn : String)
    (op : Comparison) : Run Relation :=
  c.joinWith left right fun l r => Columnar.nestedLoopJoin l leftColumn r rightColumn op

/-- The hash join of two registered relations. -/
def hashJoin (c : Catalog) (left leftColumn right rightColumn : String)
    (op : Comparison) : Run Relation :=
  c.joinWith left right fun l r => Columnar.hashJoin l leftColumn r rightColumn op

/-- The parallel hash join of two registered relations. -/
def parallelHashJoin (c : Catalog) (schedule : Schedule)
    (left leftColumn right rightColumn : String) (op : Comparison) : Run Relation :=
  c.joinWith left right fun l r =>
    Columnar.parallelHashJoin schedule l leftColumn r rightColumn op

/-- Looks up both relations and their key columns, and compares the key types. -/
def checkKeys (c : Catalog) (left leftColumn right rightColumn : String) :
    Except Error Unit := do
  let l ← c.find left
  let r ← c.find right
  let _ ← JoinKeys.resolve l leftColumn r rightColumn
  .ok ()

/-- The equality join through the index on the right key column, which is built on the
registered relation if it has none. -/
def indexNestedLoopJoin (c : Catalog) (left leftColumn right rightColumn : String) :
    Step Catalog Relation :=
  (Step.ask c (Run.ofCheck (c.checkKeys left leftColumn right rightColumn))).andThen
    fun _ c => (c.edit right (·.makeIndex rightColumn)).andThen
    fun _ c => .ask c <| c.joinWith left right fun l r =>
      Columnar.indexNestedLoopJoin l leftColumn r rightColumn

/-- The join of two registered relations by a given strategy.  An index serves equality
alone, whether or not the relations exist. -/
def join (c : Catalog) (schedule : Schedule) (strategy : JoinStrategy)
    (left leftColumn right rightColumn : String) (op : Comparison) : Step Catalog Relation :=
  match strategy with
  | .indexNestedLoop =>
    if op = .eq then c.indexNestedLoopJoin left leftColumn right rightColumn
    else .ask c (.refuse (.unsupportedComparison strategy op))
  | _ => .ask c <| c.joinWith left right fun l r =>
      joinBy schedule strategy l leftColumn r rightColumn op

end Catalog

end Columnar
