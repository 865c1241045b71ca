import Columnar.CommandLine.Report
import Columnar.Proofs.Join.Parallel
import Columnar.Proofs.Loading
import Columnar.Proofs.Rectangular

/-!
# The command `join`

The command loads two files into a catalog that starts out empty, and joins what it then finds
under the names of the two relations.  A relation has the stem of its file for a name, and the
one that is loaded last takes the place of the other if the stems are the same.  So the command
joins the two relations it loaded if their stems differ, and otherwise the right one with
itself: a table that looks as good as any, and shows nothing of the left file.

## Main results

* `Invocation.parse_join` — the operands are taken in the order in which they stand.
* `joinedText_eq` — what is joined, and what is printed.
* `run_join` — **the report of a join of two files.**
-/

namespace Columnar

/-! ### Loading -/

/-- Loading into a catalog registers what was loaded, under the stem of its file. -/
theorem Catalog.load_ok {c : Catalog} {directory : Directory} {path : String}
    {delimiter : UInt8} {r : Relation}
    (h : (Relation.load directory path delimiter).outcome = .ok r) :
    r.name = fileStem path ∧ (c.load directory path delimiter).run.outcome = .ok r ∧
      (c.load directory path delimiter).after = c.put (fileStem path) r := by
  obtain ⟨document, rfl⟩ := Relation.exists_of_load h
  rw [c.outcome_load, c.after_load_eq, h]
  exact ⟨rfl, rfl, rfl⟩

namespace CommandLine

/-! ### Arguments -/

/-- After the command `join` and some of its operands. -/
def Reading.joining (operands : List String) : Reading :=
  { Reading.start with scope := .join, inner := { Settings.none with operands } }

/-- The next operand is put behind the others.  Where a file is due it must not be empty. -/
theorem Reading.foldlM_joining {operands arguments : List String} {operand : String}
    (hplain : Shape.of operand = .plain) (hlength : operands.length < 4)
    (hfile : operands.length % 2 = 1 ∨ operand ≠ "") :
    (operand :: arguments).foldlM step (joining operands)
      = arguments.foldlM step (joining (operands ++ [operand])) := by
  have haccepts : (joining operands).accepts operands.length operand = true := by
    simpa [accepts, joining, hlength] using hfile
  have hoperand : (joining operands).operand operand = .ok (joining (operands ++ [operand])) := by
    show (if (joining operands).accepts operands.length operand then _ else _) = _
    rw [if_pos haccepts]
    rfl
  have hstep : (joining operands).step operand = (joining operands).operand operand := by
    unfold step
    rw [hplain]
    rfl
  rw [List.foldlM_cons, hstep, hoperand]
  rfl

/-- The operands of a join are taken in the order in which they stand, and the options name
the strategy and the comparison. -/
theorem Invocation.parse_join {left leftColumn right rightColumn : String}
    (hleft : Shape.of left = .plain) (hleftColumn : Shape.of leftColumn = .plain)
    (hright : Shape.of right = .plain) (hrightColumn : Shape.of rightColumn = .plain)
    (hleftFile : left ≠ "") (hrightFile : right ≠ "") (strategy : JoinStrategy)
    (op : Comparison) :
    Invocation.parse ["join", left, leftColumn, right, rightColumn, "--algorithm", strategy.name,
        "--op", op.symbol]
      = .ok ⟨','.toUInt8, none, .join left leftColumn right rightColumn strategy op⟩ := by
  have hcommand : Reading.start.step "join" = .ok (.joining []) := rfl
  unfold Invocation.parse
  rw [List.foldlM_cons, hcommand]
  show List.foldlM Reading.step (.joining []) (left :: _) >>= Reading.finish = _
  rw [Reading.foldlM_joining hleft (by simp) (.inr hleftFile),
    Reading.foldlM_joining hleftColumn (by simp) (.inl rfl),
    Reading.foldlM_joining hright (by simp) (.inr hrightFile),
    Reading.foldlM_joining hrightColumn (by simp) (.inl (by simp))]
  cases strategy <;> cases op <;> rfl

/-! ### The report -/

section

variable {directory : Directory} {delimiter : UInt8} {arguments : List String}
  {invocation : Invocation} {left leftColumn right rightColumn : String}
  {strategy : JoinStrategy} {op : Comparison} {l r : Relation}

/-- Under each of the two names the catalog finds the relation that was loaded last. -/
theorem joinedText_eq (hl : (Relation.load directory left delimiter).outcome = .ok l)
    (hr : (Relation.load directory right delimiter).outcome = .ok r) :
    joinedText directory delimiter left leftColumn right rightColumn strategy op = (do
      let joined ← outcomeOf (joinBy .inOrder strategy
        (if fileStem left = fileStem right then r else l) leftColumn r rightColumn op)
      let table ← outcomeOf joined.render
      .ok s!"{table}\n{joined.rowCount} rows\n") := by
  let c := (Catalog.empty.put (fileStem left) l).put (fileStem right) r
  obtain ⟨hlname, hlrun, hlafter⟩ := Catalog.load_ok (c := .empty) hl
  obtain ⟨hrname, hrrun, hrafter⟩ :=
    Catalog.load_ok (c := Catalog.empty.put (fileStem left) l) hr
  have hjoin : (c.join .inOrder strategy l.name leftColumn r.name rightColumn op).run.outcome
      = (joinBy .inOrder strategy (if fileStem left = fileStem right then r else l) leftColumn r
          rightColumn op).outcome := by
    rw [hlname, hrname]
    refine Catalog.outcome_join ?_ (Catalog.find?_put_self ..)
    rw [Catalog.find?_put, Catalog.find?_put_self]
    simp only [eq_comm, apply_ite some]
  unfold joinedText outcomeOf
  rw [← hjoin]
  simp only [hlrun, hlafter, hrrun, hrafter]
  rfl

/-- What a join gives has columns of equal length, so it can be drawn. -/
theorem exists_joinedText {joined : Relation}
    (hl : (Relation.load directory left delimiter).outcome = .ok l)
    (hr : (Relation.load directory right delimiter).outcome = .ok r)
    (hjoined : (joinBy .inOrder strategy (if fileStem left = fileStem right then r else l)
      leftColumn r rightColumn op).outcome = .ok joined) :
    ∃ table, joined.render.outcome = .ok table ∧
      joinedText directory delimiter left leftColumn right rightColumn strategy op
        = .ok s!"{table}\n{joined.rowCount} rows\n" := by
  obtain ⟨pairs, hjoin⟩ := exists_isJoin_of_joinBy hjoined
  obtain ⟨table, htable⟩ := Relation.exists_render hjoin.rectangular
  refine ⟨table, htable, ?_⟩
  rw [joinedText_eq hl hr]
  simp only [outcomeOf, hjoined, Except.mapError, htable, bind, Except.bind]

theorem joinedText_of_error {failure : Columnar.Failure}
    (hl : (Relation.load directory left delimiter).outcome = .ok l)
    (hr : (Relation.load directory right delimiter).outcome = .ok r)
    (hfailure : (joinBy .inOrder strategy (if fileStem left = fileStem right then r else l)
      leftColumn r rightColumn op).outcome = .error failure) :
    joinedText directory delimiter left leftColumn right rightColumn strategy op
      = .error (.store failure) := by
  rw [joinedText_eq hl hr, outcomeOf, hfailure]
  rfl

/-- **The report of a join of two files.**  Whatever the arguments and the contents of the
files, what is printed is the table of the join and the number of its rows, or nothing if the
join fails.  The left operand of the join is the relation of the left file, unless the stems of
the two are the same: then that of the right file is there in its place.  The schedule is that
of a parallel join, and makes no difference. -/
theorem run_join (hparse : Invocation.parse arguments = .ok invocation)
    (hcommand : invocation.command = .join left leftColumn right rightColumn strategy op)
    (hl : (Relation.load directory left invocation.delimiter).outcome = .ok l)
    (hr : (Relation.load directory right invocation.delimiter).outcome = .ok r)
    (schedule : Schedule) :
    ∃ report, run directory arguments = .ok report ∧
      (∀ joined, (joinBy schedule strategy (if fileStem left = fileStem right then r else l)
          leftColumn r rightColumn op).outcome = .ok joined →
        ∃ table, joined.render.outcome = .ok table ∧
          report.output = s!"{table}\n{joined.rowCount} rows\n" ∧ report.outcome = .ok () ∧
          report.exitStatus = 0) ∧
      ∀ failure, (joinBy schedule strategy (if fileStem left = fileStem right then r else l)
          leftColumn r rightColumn op).outcome = .error failure →
        report.output = "" ∧ report.outcome = .error (.store failure) ∧ report.exitStatus = 1 := by
  refine ⟨invocation.run directory, ?_, fun joined hjoined => ?_, fun failure hfailure => ?_⟩
  · unfold run
    rw [hparse]
    rfl
  · rw [outcome_joinBy_eq schedule .inOrder] at hjoined
    obtain ⟨table, htable, htext⟩ := exists_joinedText hl hr hjoined
    have hreport : invocation.run directory
        = ⟨s!"{table}\n{joined.rowCount} rows\n", .ok ()⟩ := by
      simp only [Invocation.run, hcommand, htext]
    rw [hreport]
    exact ⟨table, htable, rfl, rfl, rfl⟩
  · rw [outcome_joinBy_eq schedule .inOrder] at hfailure
    have hreport : invocation.run directory = ⟨"", .error (.store failure)⟩ := by
      simp only [Invocation.run, hcommand, joinedText_of_error hl hr hfailure]
    rw [hreport]
    exact ⟨rfl, rfl, rfl⟩

end

/-- Two files of one stem, and a third of another. -/
def keyFiles : Directory :=
  .ofFiles [("keys.csv", "k\n1\n".toUTF8), ("keys.txt", "k\n2\n".toUTF8),
    ("more.csv", "k\n1\n2\n".toUTF8)]

/-- The relation of a file with a single column of integers. -/
def keysOf (name : String) (keys : Array Int64) : Relation := ⟨name, [.ofCells "k" (.int keys)]⟩

/-- Two files of different stems are joined, here by an ordering: the one key of the left file
is exceeded by one of the right file. -/
theorem run_join_stems_differ :
    ∃ report joined table,
      run keyFiles ["join", "keys.csv", "k", "more.csv", "k", "--algorithm", "nested-loop", "--op",
        ">"] = .ok report ∧
      (nestedLoopJoin (keysOf "keys" #[1]) "k" (keysOf "more" #[1, 2]) "k" .gt).outcome
        = .ok joined ∧
      joined.render.outcome = .ok table ∧ joined.rowCount = 1 ∧
      report.output = s!"{table}\n{joined.rowCount} rows\n" ∧ report.exitStatus = 0 := by
  let joined : Relation :=
    ⟨"NestedLoopJoin", [.ofCells "k (first)" (.int #[1]), .ofCells "k (second)" (.int #[2])]⟩
  have hparse : Invocation.parse ["join", "keys.csv", "k", "more.csv", "k", "--algorithm",
        JoinStrategy.nestedLoop.name, "--op", Comparison.gt.symbol]
      = .ok ⟨','.toUInt8, none, .join "keys.csv" "k" "more.csv" "k" .nestedLoop .gt⟩ :=
    Invocation.parse_join rfl rfl rfl rfl (by decide) (by decide) .nestedLoop .gt
  have hl : (Relation.load keyFiles "keys.csv" ','.toUInt8).outcome = .ok (keysOf "keys" #[1]) :=
    rfl
  have hr : (Relation.load keyFiles "more.csv" ','.toUInt8).outcome
      = .ok (keysOf "more" #[1, 2]) := rfl
  have hjoined : (nestedLoopJoin (keysOf "keys" #[1]) "k" (keysOf "more" #[1, 2]) "k" .gt).outcome
      = .ok joined := rfl
  obtain ⟨report, hrun, hok, -⟩ := run_join hparse rfl hl hr .inOrder
  obtain ⟨table, htable, houtput, -, hstatus⟩ := hok joined hjoined
  exact ⟨report, joined, table, hrun, hjoined, htable, rfl, houtput, hstatus⟩

/-- Two files of one stem are not: the relation of the left one is gone when the join begins,
and the right one meets itself.  The files have no key in common, and yet a row is printed. -/
theorem run_join_stems_agree :
    ∃ l r joined table report,
      (Relation.load keyFiles "keys.csv" ','.toUInt8).outcome = .ok l ∧
      (Relation.load keyFiles "keys.txt" ','.toUInt8).outcome = .ok r ∧
      (hashJoin l "k" r "k" .eq).outcome = .ok joined ∧ joined.render.outcome = .ok table ∧
      joined.rowCount = 0 ∧
      run keyFiles ["join", "keys.csv", "k", "keys.txt", "k"] = .ok report ∧
      report.output ≠ s!"{table}\n{joined.rowCount} rows\n" := by
  let l := keysOf "keys" #[1]
  let r := keysOf "keys" #[2]
  let joined : Relation :=
    ⟨"HashJoin", [.ofCells "k (first)" (.int #[]), .ofCells "k (second)" (.int #[])]⟩
  let printed : Relation :=
    ⟨"HashJoin", [.ofCells "k (first)" (.int #[2]), .ofCells "k (second)" (.int #[2])]⟩
  have hl : (Relation.load keyFiles "keys.csv" ','.toUInt8).outcome = .ok l := rfl
  have hr : (Relation.load keyFiles "keys.txt" ','.toUInt8).outcome = .ok r := rfl
  have hprinted : (joinBy .inOrder .hash
      (if fileStem "keys.csv" = fileStem "keys.txt" then r else l) "k" r "k" .eq).outcome
        = .ok printed := rfl
  obtain ⟨table, htable⟩ := Relation.exists_render (r := joined) (by decide)
  obtain ⟨drawn, -, htext⟩ := exists_joinedText hl hr hprinted
  refine ⟨l, r, joined, table, ⟨s!"{drawn}\n{printed.rowCount} rows\n", .ok ()⟩, hl, hr, rfl,
    htable, rfl, ?_, ?_⟩
  · have hparse : Invocation.parse ["join", "keys.csv", "k", "keys.txt", "k"]
        = .ok ⟨','.toUInt8, none, .join "keys.csv" "k" "keys.txt" "k" .hash .eq⟩ := rfl
    unfold run
    rw [hparse]
    show Except.ok (Invocation.run _ keyFiles) = _
    simp only [Invocation.run, htext]
  · intro heq
    have hchars := congrArg String.toList heq
    simp only [String.toList_append] at hchars
    -- the two texts differ in the number before the last word
    obtain ⟨hcounts, -⟩ := List.append_inj' hchars rfl
    obtain ⟨-, hcount⟩ := List.append_inj' hcounts (by decide)
    exact absurd hcount (by decide)

end CommandLine

end Columnar
