import Columnar.Proofs.Join.Result
import Mathlib.Logic.Relation

/-!
# The parallel hash join

A parallel hash join gives each probing row to a task of its own.  The tasks are handed out
to the workers of a pool in groups, and the groups may be divided and joined at any time; any
number of tasks may be under way at once, each of them comparing its row with one candidate
after the other; and a task that has compared all of them stores what it found in the slot of
its row.  `Pool.Step` allows all of this, in any order.  What tasks share they only read: the
table of the hashed rows and the keys.

Two things are kept throughout.  Each task is waiting, under way or stored, and nowhere
twice; and what a task has found so far, with what its candidates left will give, is its list
of matches.  So when nothing is left to do, the pool has done what some schedule of whole
tasks does (`Pool.exists_schedule`), and a schedule does what a sequential join does.

## Main definitions

* `Probing` — what the tasks read: the candidates of a row, and what a comparison gives.
* `Pool`, `Pool.Step` — the tasks of a join while they are carried out.
* `JoinKeys.probing`, `JoinKeys.probeCount` — the tasks of a hash join.

## Main results

* `Pool.Invariant.step`, `Pool.Invariant.of_reaches` — what every step keeps, and every run.
* `Pool.exists_schedule` — a pool that is done has carried out a schedule.
* `parallelHashJoin_eq_hashJoin` — **a parallel hash join is the sequential one.**
-/

namespace Columnar

/-! ### Tasks under way -/

/-- What the tasks of a join read.  Nothing in it changes while they run. -/
structure Probing (β : Type) where
  /-- The candidates that a row is compared with. -/
  candidates : Nat → List Nat
  /-- What the comparison of a row with a candidate gives. -/
  compare : Nat → Nat → Option β

/-- All that the task of a row finds. -/
def Probing.task {β : Type} (probing : Probing β) (row : Nat) : List β :=
  (probing.candidates row).filterMap (probing.compare row)

/-- A task under way. -/
structure Probe (β : Type) where
  /-- The row that is compared with its candidates. -/
  row : Nat
  /-- The candidates it has not been compared with. -/
  ahead : List Nat
  /-- What was found so far. -/
  found : List β

/-- The tasks of a join while they are carried out. -/
structure Pool (β : Type) where
  /-- The rows whose tasks have not begun, in the groups in which they are handed out. -/
  waiting : List (List Nat)
  /-- The tasks that have begun. -/
  running : List (Probe β)
  /-- For each row, what its task found. -/
  slots : Array (List β)

namespace Pool

variable {β : Type} {probing : Probing β} {n : Nat} {p p' : Pool β}

/-- Nothing has begun, and all rows are in one group. -/
def start (n : Nat) : Pool β := ⟨[List.range n], [], Array.replicate n []⟩

/-- No task is waiting or under way. -/
def Finished (p : Pool β) : Prop := p.waiting.flatten = [] ∧ p.running = []

/-- What was found, by row. -/
def collected (p : Pool β) : List β := p.slots.toList.flatten

/-- One step of a pool. -/
inductive Step (probing : Probing β) : Pool β → Pool β → Prop
  /-- The waiting rows are grouped anew; none is lost and none repeated. -/
  | regroup {p : Pool β} (groups : List (List Nat)) (h : groups.flatten.Perm p.waiting.flatten) :
    Step probing p { p with waiting := groups }
  /-- The first task of a group begins. -/
  | begin (groups groups' : List (List Nat)) (row : Nat) (rows : List Nat)
      (running : List (Probe β)) (slots : Array (List β)) :
    Step probing ⟨groups ++ (row :: rows) :: groups', running, slots⟩
      ⟨groups ++ rows :: groups', ⟨row, probing.candidates row, []⟩ :: running, slots⟩
  /-- A task under way compares its row with the next candidate. -/
  | compare (waiting : List (List Nat)) (others others' : List (Probe β)) (row candidate : Nat)
      (ahead : List Nat) (found : List β) (slots : Array (List β)) :
    Step probing ⟨waiting, others ++ ⟨row, candidate :: ahead, found⟩ :: others', slots⟩
      ⟨waiting,
        others ++ ⟨row, ahead, found ++ (probing.compare row candidate).toList⟩ :: others', slots⟩
  /-- A task without candidates left stores what it found. -/
  | store (waiting : List (List Nat)) (others others' : List (Probe β)) (row : Nat)
      (found : List β) (slots : Array (List β)) :
    Step probing ⟨waiting, others ++ ⟨row, [], found⟩ :: others', slots⟩
      ⟨waiting, others ++ others', slots.setIfInBounds row found⟩

/-- Any number of steps. -/
abbrev Reaches (probing : Probing β) : Pool β → Pool β → Prop :=
  Relation.ReflTransGen (Step probing)

/-! ### What every step keeps -/

/-- What is known of a pool whose tasks were stored in a given order. -/
structure Invariant (probing : Probing β) (n : Nat) (stored : List Nat) (p : Pool β) : Prop where
  /-- Every task is stored, under way or waiting, and only one of these. -/
  perm_range : (stored ++ (p.running.map Probe.row ++ p.waiting.flatten)).Perm (List.range n)
  /-- What a task has found and what it will find make up its list. -/
  found_append : ∀ probe ∈ p.running,
    probe.found ++ probe.ahead.filterMap (probing.compare probe.row) = probing.task probe.row
  /-- The slots are those that the stored tasks leave, carried out one after the other. -/
  slots_eq : p.slots = stored.foldl (Schedule.runTask probing.task) (Array.replicate n [])

namespace Invariant

variable {stored : List Nat}

theorem start (probing : Probing β) (n : Nat) : Invariant probing n [] (Pool.start n) where
  perm_range := by simp [Pool.start]
  found_append probe hprobe := by cases hprobe
  slots_eq := rfl

/-- A step keeps what is known, and adds at most one task to those that are stored. -/
theorem step (h : Invariant probing n stored p) (hstep : Step probing p p') :
    ∃ stored', Invariant probing n stored' p' := by
  obtain ⟨hperm, hfound, hslots⟩ := h
  cases hstep with
  | regroup groups hgroups =>
    refine ⟨stored, ?_, hfound, hslots⟩
    exact ((hgroups.append_left _).append_left _).trans hperm
  | begin groups groups' row rows running slots =>
    refine ⟨stored, ?_, fun probe hprobe => ?_, hslots⟩
    · -- the row moves from the waiting ones to those under way
      refine List.Perm.trans (List.Perm.append_left _ ?_) hperm
      have hmove : (row :: (running.map Probe.row ++ groups.flatten ++
          (rows ++ groups'.flatten))).Perm
          (running.map Probe.row ++ groups.flatten ++ row :: (rows ++ groups'.flatten)) :=
        List.perm_middle.symm
      simpa using hmove
    · rcases List.mem_cons.1 hprobe with rfl | hprobe
      · rfl
      · exact hfound probe hprobe
  | compare waiting others others' row candidate ahead found slots =>
    refine ⟨stored, by simpa using hperm, fun probe hprobe => ?_, hslots⟩
    rcases List.mem_append.1 hprobe with hprobe | hprobe
    · exact hfound probe (List.mem_append_left _ hprobe)
    · rcases List.mem_cons.1 hprobe with rfl | hprobe
      · -- what the comparison gives moves from the end to the front
        have hbefore := hfound ⟨row, candidate :: ahead, found⟩
          (List.mem_append_right _ List.mem_cons_self)
        rw [← hbefore]
        cases hc : probing.compare row candidate <;> simp [hc]
      · exact hfound probe (List.mem_append_right _ (List.mem_cons_of_mem _ hprobe))
  | store waiting others others' row found slots =>
    refine ⟨stored ++ [row], ?_, fun probe hprobe => ?_, ?_⟩
    · refine List.Perm.trans ?_ hperm
      rw [List.append_assoc]
      refine List.Perm.append_left _ ?_
      simp only [List.map_append, List.map_cons, List.append_assoc, List.cons_append,
        List.nil_append]
      exact List.perm_middle.symm
    · refine hfound probe ?_
      rcases List.mem_append.1 hprobe with hprobe | hprobe
      · exact List.mem_append_left _ hprobe
      · exact List.mem_append_right _ (List.mem_cons_of_mem _ hprobe)
    · -- without candidates left, what was found is all there is to find
      have hall := hfound ⟨row, [], found⟩ (List.mem_append_right _ List.mem_cons_self)
      rw [List.filterMap_nil, List.append_nil] at hall
      rw [List.foldl_concat, ← hslots, Schedule.runTask, ← hall]

theorem of_reaches (h : Reaches probing (Pool.start n) p) :
    ∃ stored, Invariant probing n stored p := by
  induction h with
  | refl => exact ⟨[], start probing n⟩
  | tail _ hstep ih =>
    obtain ⟨stored, hstored⟩ := ih
    exact hstored.step hstep

end Invariant

/-- A pool that is done has carried out every task once: it holds what some schedule of whole
tasks collects. -/
theorem exists_schedule (h : Reaches probing (Pool.start n) p) (hdone : p.Finished) :
    ∃ schedule : Schedule, p.collected = schedule.collect n probing.task := by
  obtain ⟨stored, hperm, -, hslots⟩ := Invariant.of_reaches h
  rw [hdone.1, hdone.2, List.map_nil, List.append_nil, List.append_nil] at hperm
  -- for other numbers of tasks the order does not matter
  let order (m : Nat) : List Nat := if m = n then stored else List.range m
  have horder (m : Nat) : (order m).Perm (List.range m) := by
    by_cases hm : m = n
    · subst hm
      simpa [order] using hperm
    · simp [order, hm]
  refine ⟨⟨order, horder⟩, ?_⟩
  unfold collected Schedule.collect
  rw [hslots]
  simp [order]

/-- A task under way can always go on to its end. -/
theorem reaches_compared (waiting : List (List Nat)) (row : Nat) (ahead : List Nat)
    (found : List β) (slots : Array (List β)) :
    ∃ found', Reaches probing ⟨waiting, [⟨row, ahead, found⟩], slots⟩
      ⟨waiting, [⟨row, [], found'⟩], slots⟩ := by
  induction ahead generalizing found with
  | nil => exact ⟨found, .refl⟩
  | cons candidate ahead ih =>
    obtain ⟨found', h⟩ := ih (found ++ (probing.compare row candidate).toList)
    exact ⟨found', .head (.compare waiting [] [] row candidate ahead found slots) h⟩

/-- Tasks can always be carried out, for instance one after the other. -/
theorem exists_finished (probing : Probing β) (n : Nat) :
    ∃ p, Reaches probing (Pool.start n) p ∧ p.Finished := by
  suffices h : ∀ rows (slots : Array (List β)), ∃ slots',
      Reaches probing ⟨[rows], [], slots⟩ ⟨[[]], [], slots'⟩ by
    obtain ⟨slots, h⟩ := h (List.range n) (Array.replicate n [])
    exact ⟨_, h, rfl, rfl⟩
  intro rows
  induction rows with
  | nil => exact fun slots => ⟨slots, .refl⟩
  | cons row rows ih =>
    intro slots
    obtain ⟨found, hcompared⟩ := reaches_compared [rows] row (probing.candidates row) [] slots
    obtain ⟨slots', hrest⟩ := ih (slots.setIfInBounds row found)
    have hbegun := hcompared.head (.begin [] [] row rows [] slots)
    exact ⟨slots', (hbegun.tail (.store [rows] [] [] row found slots)).trans hrest⟩

end Pool

/-! ### The tasks of a hash join -/

/-- What the probes of a hash join read: the table of the hashed keys, and the keys. -/
def probing {α : Type} [Key α] (side : BuildSide) (op : Comparison) (hashed keys : Array α) :
    Probing RowPair where
  candidates p :=
    match keys[p]? with
    | none => []
    | some key => (BucketTable.build hashed).candidates key
  compare p b :=
    match keys[p]?, hashed[b]? with
    | some key, some hashedKey =>
      if side.holds op hashedKey key then some (side.pair b p) else none
    | _, _ => none

theorem probing_task {α : Type} [Key α] (side : BuildSide) (op : Comparison)
    (hashed keys : Array α) :
    (probing side op hashed keys).task
      = probeRow side op hashed keys (BucketTable.build hashed) := by
  funext p
  unfold Probing.task probing probeRow
  cases hkey : keys[p]? with
  | none => simp only [hkey, List.filterMap_nil]
  | some key =>
    simp only [hkey]
    congr 1
    funext b
    cases hashed[b]? <;> rfl

namespace JoinKeys

/-- The tasks of a hash join. -/
def probing (keys : JoinKeys) (op : Comparison) : Probing RowPair :=
  keys.cells.apply fun left right =>
    match keys.buildSide with
    | .left => Columnar.probing .left op left right
    | .right => Columnar.probing .right op right left

/-- The number of tasks. -/
def probeCount (keys : JoinKeys) : Nat :=
  keys.cells.apply fun left right =>
    match keys.buildSide with
    | .left => right.size
    | .right => left.size

/-- A parallel join collects the lists of its tasks. -/
theorem apply_hashPairsBy (keys : JoinKeys) (schedule : Schedule) (op : Comparison) :
    keys.cells.apply (hashPairsBy schedule keys.buildSide op)
      = schedule.collect keys.probeCount (keys.probing op).task := by
  unfold probing probeCount
  cases keys.cells <;> cases keys.buildSide <;>
    simp only [KeyCells.apply, hashPairsBy, probePairsBy, probing_task]

/-- The strategy decides what the result is called, and nothing else about it. -/
theorem outcome_combine_eq_map (keys : JoinKeys) (strategy strategy' : JoinStrategy)
    (pairs : List RowPair) :
    (keys.combine strategy pairs).outcome
      = (keys.combine strategy' pairs).outcome.map
          fun joined => { joined with name := strategy.resultName } := by
  unfold combine
  simp only [Run.outcome_bind]
  show (Run.ofRead (keys.left.gatherColumns _)).outcome.bind _ = _
  cases keys.left.gatherColumns (pairs.map (·.1)) with
  | error f => rfl
  | ok lefts => cases keys.right.gatherColumns (pairs.map (·.2)) <;> rfl

end JoinKeys

/-! ### The join -/

/-- The outcome of a parallel hash join, whatever is reported on the way. -/
theorem outcome_parallelHashJoin {left right : Relation} {leftColumn rightColumn : String}
    {keys : JoinKeys} (h : JoinKeys.resolve left leftColumn right rightColumn = .ok keys)
    (schedule : Schedule) (op : Comparison) :
    (parallelHashJoin schedule left leftColumn right rightColumn op).outcome
      = (keys.combine .parallelHash
          (keys.cells.apply (hashPairsBy schedule keys.buildSide op))).outcome := by
  unfold parallelHashJoin
  rw [h]
  rfl

/-- Whatever the schedule, a parallel hash join ends as the sequential one does, except for
the name of the result. -/
theorem outcome_parallelHashJoin_eq_map (schedule : Schedule) (left : Relation)
    (leftColumn : String) (right : Relation) (rightColumn : String) (op : Comparison) :
    (parallelHashJoin schedule left leftColumn right rightColumn op).outcome
      = (hashJoin left leftColumn right rightColumn op).outcome.map
          fun joined => { joined with name := JoinStrategy.parallelHash.resultName } := by
  cases hkeys : JoinKeys.resolve left leftColumn right rightColumn with
  | error e =>
    unfold parallelHashJoin hashJoin
    rw [hkeys]
    rfl
  | ok keys =>
    have hof := JoinKeys.resolve_eq_ok_iff.1 hkeys
    show (joinBy schedule .parallelHash left leftColumn right rightColumn op).outcome
      = (joinBy schedule .hash left leftColumn right rightColumn op).outcome.map _
    have hparallel : JoinStrategy.Supports .parallelHash op := nofun
    have hhash : JoinStrategy.Supports .hash op := nofun
    rw [outcome_joinBy hparallel hof, outcome_joinBy hhash hof,
      keys.outcome_combine_eq_map _ .hash]
    rfl

/-- No join depends on the schedule. -/
theorem outcome_joinBy_eq (schedule schedule' : Schedule) (strategy : JoinStrategy)
    (left : Relation) (leftColumn : String) (right : Relation) (rightColumn : String)
    (op : Comparison) :
    (joinBy schedule strategy left leftColumn right rightColumn op).outcome
      = (joinBy schedule' strategy left leftColumn right rightColumn op).outcome := by
  cases strategy with
  | nestedLoop | indexNestedLoop | hash => rfl
  | parallelHash =>
    have h := fun schedule =>
      outcome_parallelHashJoin_eq_map schedule left leftColumn right rightColumn op
    exact (h schedule).trans (h schedule').symm

/-- **A parallel hash join is the sequential one.**  Both fail alike, or both give the same
relation but for its name: whatever the order in which the tasks are carried out, and also if
they are handed out in groups and overlap.  In the second form the pairs are those that any
pool that is done has collected; there always is one. -/
theorem parallelHashJoin_eq_hashJoin (left : Relation) (leftColumn : String) (right : Relation)
    (rightColumn : String) (op : Comparison) :
    (∀ schedule : Schedule,
      (parallelHashJoin schedule left leftColumn right rightColumn op).outcome
        = (hashJoin left leftColumn right rightColumn op).outcome.map
            fun joined => { joined with name := JoinStrategy.parallelHash.resultName }) ∧
    ∀ keys, JoinKeys.resolve left leftColumn right rightColumn = .ok keys →
      (∃ pool, Pool.Reaches (keys.probing op) (.start keys.probeCount) pool ∧ pool.Finished) ∧
      ∀ pool, Pool.Reaches (keys.probing op) (.start keys.probeCount) pool → pool.Finished →
        (keys.combine .parallelHash pool.collected).outcome
          = (hashJoin left leftColumn right rightColumn op).outcome.map
              fun joined => { joined with name := JoinStrategy.parallelHash.resultName } := by
  refine ⟨fun schedule => outcome_parallelHashJoin_eq_map schedule left leftColumn right
    rightColumn op, fun keys hkeys => ⟨Pool.exists_finished _ _, fun pool hpool hdone => ?_⟩⟩
  obtain ⟨schedule, hcollected⟩ := Pool.exists_schedule hpool hdone
  rw [hcollected, ← keys.apply_hashPairsBy, ← outcome_parallelHashJoin hkeys,
    outcome_parallelHashJoin_eq_map]

/-- Two rows to probe with. -/
def probingRows : Relation := ⟨"probing", [.ofCells "k" (.int #[1, 2])]⟩

/-- A single row, which is hashed. -/
def hashedRow : Relation := ⟨"hashed", [.ofCells "k" (.int #[1])]⟩

/-- The tasks are divided into two groups, and that of the second row begins and ends before
that of the first.  The pairs stand in the order of the rows all the same. -/
theorem parallelHashJoin_eq_hashJoin_overlapping :
    ∃ keys pool, JoinKeys.resolve probingRows "k" hashedRow "k" = .ok keys ∧
      Pool.Reaches (keys.probing .le) (.start keys.probeCount) pool ∧ pool.Finished ∧
      pool.collected = [(0, 0), (1, 0)] ∧
      (keys.combine .parallelHash pool.collected).outcome
        = (hashJoin probingRows "k" hashedRow "k" .le).outcome.map
            fun joined => { joined with name := "ParallelHashJoin" } := by
  let keys : JoinKeys := ⟨probingRows, hashedRow, 0, 0, .ofCells "k" (.int #[1, 2]),
    .ofCells "k" (.int #[1]), .int #[1, 2] #[1]⟩
  have hkeys : JoinKeys.resolve probingRows "k" hashedRow "k" = .ok keys := rfl
  have hrun : Pool.Reaches (keys.probing .le) (.start keys.probeCount)
      ⟨[[], []], [], #[[(0, 0)], [(1, 0)]]⟩ := by
    refine .head (.regroup [[1], [0]] (by decide)) ?_
    refine .head (.begin [] [[0]] 1 [] [] _) ?_
    refine .head (.begin [[]] [] 0 [] _ _) ?_
    refine .head (.compare [[], []] [⟨0, [0], []⟩] [] 1 0 [] [] _) ?_
    refine .head (.compare [[], []] [] [⟨1, [], [(1, 0)]⟩] 0 0 [] [] _) ?_
    refine .head (.store [[], []] [⟨0, [], [(0, 0)]⟩] [] 1 [(1, 0)] _) ?_
    exact .single (.store [[], []] [] [] 0 [(0, 0)] _)
  have hdone : Pool.Finished ⟨[[], []], [], #[[(0, 0)], [(1, 0)]]⟩ := ⟨rfl, rfl⟩
  exact ⟨keys, _, hkeys, hrun, hdone, rfl,
    ((parallelHashJoin_eq_hashJoin probingRows "k" hashedRow "k" .le).2 keys hkeys).2 _ hrun hdone⟩

end Columnar
