import Columnar.CommandLine.Report
import Columnar.Proofs.CommandLine.Operands
import Columnar.Proofs.Loading
import Columnar.Proofs.Rectangular
import Columnar.Proofs.Selection

/-!
# The command `show`

The command loads its files one after the other into one catalog, where a file takes the place of
an earlier one with the same stem.  But a file is printed from what loading it hands back, and
nothing is looked up in the catalog; so the report is put together from reports that the files
give by themselves (`Report.sequence`), up to and including the first failure.

What a file gives by itself is the report of the same arguments without the other files.

## Main definitions

* `Report.sequence` — reports one after the other, up to the first failure.
* `IsFiltered` — what a filter leaves of a relation.
* `fileReport` — what a file gives by itself.

## Main results

* `Report.output_sequence`, `Report.outcome_sequence` — what is printed, and how it ends.
* `showFiles_eq` — files are shown independently of each other.
* `fileReport_cases` — a file is loaded, filtered, projected and drawn, or why not.
* `run_show` — **the report of the files of a list of arguments.**
-/

namespace Columnar

theorem Relation.name_of_gatherRows {r taken : Relation} {name : String} {rows : List Nat}
    (h : r.gatherRows name rows = .ok taken) : taken.name = name := by
  unfold gatherRows at h
  cases hcolumns : r.gatherColumns rows with
  | error f =>
    rw [hcolumns] at h
    cases h
  | ok columns =>
    rw [hcolumns] at h
    cases h
    rfl

namespace CommandLine

/-! ### Reports one after the other -/

namespace Report

/-- The report of a text to be printed, or of a failure to make it. -/
def ofText : Except Failure String → Report
  | .ok text => ⟨text, .ok ()⟩
  | .error failure => ⟨"", .error failure⟩

/-- Reports one after the other, up to the first failure. -/
def sequence : List Report → Report
  | [] => ⟨"", .ok ()⟩
  | report :: reports =>
    match report.outcome with
    | .ok () => ⟨report.output ++ (sequence reports).output, (sequence reports).outcome⟩
    | .error failure => ⟨"", .error failure⟩

variable {report : Report} {reports : List Report}

theorem exitStatus_eq_zero_iff : report.exitStatus = 0 ↔ report.outcome = .ok () := by
  unfold exitStatus
  split
  · next h => exact iff_of_true rfl h
  · next h => rw [h]; exact iff_of_false nofun nofun

theorem sequence_of_ok (h : report.exitStatus = 0) :
    sequence (report :: reports)
      = ⟨report.output ++ (sequence reports).output, (sequence reports).outcome⟩ := by
  rw [sequence, exitStatus_eq_zero_iff.1 h]

theorem sequence_of_failed (h : report.exitStatus ≠ 0) :
    sequence (report :: reports) = ⟨"", report.outcome⟩ := by
  rw [sequence]
  split
  · next hok => exact absurd (exitStatus_eq_zero_iff.2 hok) h
  · next hfailure => rw [hfailure]

/-- What is printed is what was printed before the first failure. -/
theorem output_sequence (reports : List Report) :
    (sequence reports).output
      = String.join ((reports.takeWhile (·.exitStatus == 0)).map output) := by
  induction reports with
  | nil => rfl
  | cons report reports ih =>
    by_cases h : report.exitStatus = 0
    · rw [sequence_of_ok h, List.takeWhile_cons_of_pos (by simp [h]), List.map_cons,
        String.join_cons, ih]
    · rw [sequence_of_failed h, List.takeWhile_cons_of_neg (by simp [h])]
      rfl

/-- The end is that of the first failure, if there is one. -/
theorem outcome_sequence (reports : List Report) :
    (sequence reports).outcome
      = ((reports.find? (·.exitStatus != 0)).map outcome).getD (.ok ()) := by
  induction reports with
  | nil => rfl
  | cons report reports ih =>
    by_cases h : report.exitStatus = 0
    · rw [sequence_of_ok h, List.find?_cons_of_neg (by simp [h]), ih]
    · rw [sequence_of_failed h, List.find?_cons_of_pos (by simp [h])]
      rfl

theorem exitStatus_sequence_eq_zero_iff :
    (sequence reports).exitStatus = 0 ↔ ∀ report ∈ reports, report.exitStatus = 0 := by
  induction reports with
  | nil => exact iff_of_true rfl nofun
  | cons report reports ih =>
    rw [List.forall_mem_cons]
    by_cases h : report.exitStatus = 0
    · rw [and_iff_right h, ← ih, sequence_of_ok h]
      rfl
    · rw [sequence_of_failed h]
      exact iff_of_false h fun hall => h hall.1

theorem sequence_singleton (text : Except Failure String) :
    sequence [ofText text] = ofText text := by
  cases text with
  | error failure => rfl
  | ok text => exact congrArg (Report.mk · (.ok ())) String.append_empty

end Report

/-! ### The report of a file -/

/-- What a filter leaves of a relation.  Its rows are those whose cell in the first column of a
name satisfies a comparison with a value, which is read in the type of the column. -/
inductive IsFiltered (r : Relation) : List String → Relation → Prop
  | all : IsFiltered r [] r
  | selected {column symbol text : String} {op : Comparison} {position : Nat} {source : Column}
      {value : Value} {rows : Relation} (hop : Comparison.ofSymbol? symbol = some op)
      (hcolumn : r.FirstNamed column position source)
      (hvalue : readValue source.type text = .ok value)
      (hrows : IsSelection r (cellPasses position op value) rows)
      (hname : rows.name = s!"select from {r.name}") : IsFiltered r [column, symbol, text] rows

variable {directory : Directory} {delimiter : UInt8} {filter columns : List String}

theorem outcomeOf_eq_ok_iff {α : Type} {x : Run α} {a : α} :
    outcomeOf x = .ok a ↔ x.outcome = .ok a := by
  unfold outcomeOf
  cases x.outcome with
  | error e => exact iff_of_false nofun nofun
  | ok b => rw [Except.mapError, Except.ok.injEq, Except.ok.injEq]

/-- A value that is read for a column has the type of the column. -/
theorem type_of_readValue {type : DataType} {text : String} {value : Value}
    (h : readValue type text = .ok value) : value.type = type := by
  unfold readValue at h
  split at h
  · split at h <;> cases h
    rfl
  · split at h <;> cases h
    rfl
  · cases h
    rfl

theorem readComparison_eq_ok {symbol : String} {op : Comparison}
    (h : readComparison symbol = .ok op) : Comparison.ofSymbol? symbol = some op := by
  unfold readComparison at h
  split at h
  · next hop =>
    cases h
    exact hop
  · cases h

theorem isFiltered_of_filterRows {r rows : Relation} (hr : r.Rectangular)
    (h : filterRows r filter = .ok rows) : IsFiltered r filter rows := by
  unfold filterRows at h
  split at h
  · cases h
    exact .all
  · next column symbol text =>
    obtain ⟨op, hop, h⟩ := exists_of_bind_eq_ok h
    split at h
    · cases h
    · next source hcolumn =>
      obtain ⟨value, hvalue, h⟩ := exists_of_bind_eq_ok h
      have hselect := outcomeOf_eq_ok_iff.1 h
      obtain ⟨position, hfirst⟩ := Relation.exists_firstNamed_of_column? hcolumn
      obtain ⟨selected, hselected, hrows⟩ :=
        Relation.select_ok hr hfirst (type_of_readValue hvalue) op
      obtain rfl := Except.ok.inj (hselected.symm.trans hselect)
      obtain ⟨_, hgathered⟩ := Relation.exists_gatherRows_of_select hselect
      exact .selected (readComparison_eq_ok hop) hfirst hvalue hrows
        (Relation.name_of_gatherRows hgathered)
  · cases h

/-- The relation that is printed: all columns, or those of the given names. -/
def shownColumns (columns : List String) (r : Relation) : Relation :=
  if columns = [] then r else r.project columns

/-- What a file gives by itself. -/
def fileReport (directory : Directory) (delimiter : UInt8) (filter columns : List String)
    (file : String) : Report :=
  .ofText (outcomeOf (Relation.load directory file delimiter) >>= shownText filter columns)

theorem rectangular_shownColumns {rows : Relation} (h : rows.Rectangular)
    (columns : List String) : (shownColumns columns rows).Rectangular := by
  unfold shownColumns
  split
  · exact h
  · exact Relation.rectangular_project h columns

theorem shownText_eq {r rows : Relation} {table : String} (hfilter : filterRows r filter = .ok rows)
    (htable : (shownColumns columns rows).render.outcome = .ok table) :
    shownText filter columns r
      = .ok ((shownColumns columns rows).name ++ "\n" ++ table ++ "\n") := by
  have hshown : shownText filter columns r = outcomeOf (shownColumns columns rows).render >>=
      fun table => .ok ((shownColumns columns rows).name ++ "\n" ++ table ++ "\n") := by
    unfold shownText shownColumns
    rw [hfilter]
    by_cases h : columns = []
    · simp only [if_pos h]
      rfl
    · simp only [if_neg h]
      rfl
  rw [hshown, outcomeOf_eq_ok_iff.2 htable]
  rfl

theorem IsFiltered.rectangular {r rows : Relation} (h : IsFiltered r filter rows)
    (hr : r.Rectangular) : rows.Rectangular := by
  cases h with
  | all => exact hr
  | selected _ _ _ hrows _ => exact hrows.rectangular

/-- **A file is loaded, filtered, projected and drawn**, and printed behind its name; or it cannot
be loaded, or not be filtered, and nothing is printed. -/
theorem fileReport_cases (directory : Directory) (delimiter : UInt8)
    (filter columns : List String) (file : String) :
    (∃ r rows table, (Relation.load directory file delimiter).outcome = .ok r ∧
      IsFiltered r filter rows ∧ (shownColumns columns rows).render.outcome = .ok table ∧
      fileReport directory delimiter filter columns file
        = ⟨(shownColumns columns rows).name ++ "\n" ++ table ++ "\n", .ok ()⟩) ∨
    ∃ failure, fileReport directory delimiter filter columns file = ⟨"", .error failure⟩ ∧
      ((∃ cause, (Relation.load directory file delimiter).outcome = .error cause ∧
          failure = .store cause) ∨
        ∃ r, (Relation.load directory file delimiter).outcome = .ok r ∧
          filterRows r filter = .error failure) := by
  unfold fileReport
  cases hload : (Relation.load directory file delimiter).outcome with
  | error cause =>
    refine .inr ⟨.store cause, ?_, .inl ⟨cause, rfl, rfl⟩⟩
    rw [outcomeOf, hload]
    rfl
  | ok r =>
    rw [outcomeOf_eq_ok_iff.2 hload]
    show (∃ _ _ _, _ ∧ _ ∧ _ ∧ Report.ofText (shownText filter columns r) = _)
      ∨ ∃ _, Report.ofText (shownText filter columns r) = _ ∧ _
    cases hfilter : filterRows r filter with
    | error failure =>
      refine .inr ⟨failure, ?_, .inr ⟨r, rfl, hfilter⟩⟩
      rw [shownText, hfilter]
      rfl
    | ok rows =>
      have hr := Relation.rectangular_of_load hload
      have hrows := isFiltered_of_filterRows hr hfilter
      obtain ⟨table, htable⟩ :=
        Relation.exists_render (rectangular_shownColumns (hrows.rectangular hr) columns)
      refine .inl ⟨r, rows, table, rfl, hrows, htable, ?_⟩
      rw [shownText_eq hfilter htable]
      rfl

/-- **Files are shown independently of each other**, whatever the catalog holds. -/
theorem showFiles_eq (c : Catalog) (files : List String) :
    showFiles directory delimiter filter columns c files
      = .sequence (files.map (fileReport directory delimiter filter columns)) := by
  induction files generalizing c with
  | nil => rfl
  | cons file files ih =>
    have hload : outcomeOf (c.load directory file delimiter).run
        = outcomeOf (Relation.load directory file delimiter) := by
      rw [outcomeOf, c.outcome_load, outcomeOf]
    rw [showFiles, List.map_cons, Report.sequence, fileReport, hload]
    cases outcomeOf (Relation.load directory file delimiter) >>= shownText filter columns with
    | error failure => rfl
    | ok text =>
      dsimp only [Report.ofText]
      rw [ih]

/-- The report of arguments that ask for files to be shown. -/
theorem run_of_parse_show {arguments files : List String} {invocation : Invocation}
    (hparse : Invocation.parse arguments = .ok invocation)
    (hcommand : invocation.command = .show files filter columns) :
    run directory arguments
      = .ok (.sequence (files.map (fileReport directory invocation.delimiter filter columns))) := by
  unfold run
  rw [hparse, ← showFiles_eq .empty]
  show Except.ok (Invocation.run invocation directory) = _
  unfold Invocation.run
  rw [hcommand]

/-- **The report of the files of a list of arguments.**  Each file can be shown alone, by the same
arguments without the other files.  What is printed for all of them is what is printed for each
alone, up to the first file that fails; the exit status is zero exactly if none fails, and
otherwise the end is that of the first failing file.  A file that does not fail is loaded, then
filtered, then projected, and printed as a table behind its name; one that fails prints nothing. -/
theorem run_show {arguments files : List String} {invocation : Invocation}
    (hparse : Invocation.parse arguments = .ok invocation)
    (hcommand : invocation.command = .show files filter columns) (directory : Directory) :
    ∃ (report : Report) (alone : String → Report),
      run directory arguments = .ok report ∧
      (∀ file ∈ files,
        (∃ arguments' : List String, arguments'.Sublist arguments ∧
          Invocation.parse arguments'
            = .ok { invocation with command := .show [file] filter columns }) ∧
        ∀ arguments', Invocation.parse arguments'
            = .ok { invocation with command := .show [file] filter columns } →
          run directory arguments' = .ok (alone file)) ∧
      report.output = String.join
        ((files.takeWhile fun file => (alone file).exitStatus == 0).map
          fun file => (alone file).output) ∧
      (report.exitStatus = 0 ↔ ∀ file ∈ files, (alone file).exitStatus = 0) ∧
      (∀ file, files.find? (fun file => (alone file).exitStatus != 0) = some file →
        report.outcome = (alone file).outcome) ∧
      ∀ file ∈ files,
        (∃ r rows table,
          (Relation.load directory file invocation.delimiter).outcome = .ok r ∧
          IsFiltered r filter rows ∧ (shownColumns columns rows).render.outcome = .ok table ∧
          alone file = ⟨(shownColumns columns rows).name ++ "\n" ++ table ++ "\n", .ok ()⟩) ∨
        ∃ failure, alone file = ⟨"", .error failure⟩ ∧
          ((∃ cause, (Relation.load directory file invocation.delimiter).outcome = .error cause ∧
              failure = .store cause) ∨
            ∃ r, (Relation.load directory file invocation.delimiter).outcome = .ok r ∧
              filterRows r filter = .error failure) := by
  refine ⟨_, fileReport directory invocation.delimiter filter columns,
    run_of_parse_show hparse hcommand, fun file hfile => ⟨?_, fun arguments' hparse' => ?_⟩,
    ?_, ?_, fun file hfind => ?_, fun file _ => fileReport_cases ..⟩
  · exact Invocation.exists_parse_show hparse hcommand (List.singleton_sublist.2 hfile)
      (List.cons_ne_nil _ _)
  · rw [run_of_parse_show hparse' rfl, List.map_singleton, fileReport, Report.sequence_singleton]
  · rw [Report.output_sequence, List.takeWhile_map, List.map_map]
    rfl
  · rw [Report.exitStatus_sequence_eq_zero_iff, List.forall_mem_map]
  · rw [Report.outcome_sequence, List.find?_map, Function.comp_def, hfind]
    rfl

/-- Two files of one stem, and one that cannot be filtered by their column. -/
def mixedFiles : Directory :=
  .ofFiles [("keys.csv", "k\n1\n".toUTF8), ("keys.txt", "k\n2\n".toUTF8),
    ("other.csv", "x\n1\n".toUTF8)]

/-- The files before the first that fails are shown, although they have one stem; the one behind
it is not. -/
theorem run_show_mixed :
    Invocation.parse ["-d,", "show", "--where", "k", ">", "1", "keys.csv", "keys.txt",
        "other.csv", "keys.csv"]
      = .ok ⟨','.toUInt8, none,
        .show ["keys.csv", "keys.txt", "other.csv", "keys.csv"] ["k", ">", "1"] []⟩ ∧
    ∃ report first second third,
      run mixedFiles ["-d,", "show", "--where", "k", ">", "1", "keys.csv", "keys.txt",
        "other.csv", "keys.csv"] = .ok report ∧
      run mixedFiles ["-d,", "show", "--where", "k", ">", "1", "keys.csv"] = .ok first ∧
      run mixedFiles ["-d,", "show", "--where", "k", ">", "1", "keys.txt"] = .ok second ∧
      run mixedFiles ["-d,", "show", "--where", "k", ">", "1", "other.csv"] = .ok third ∧
      report.output = first.output ++ second.output ∧
      report.outcome = .error (.noSuchColumn "other" "k") := by
  have hparse : Invocation.parse ["-d,", "show", "--where", "k", ">", "1", "keys.csv", "keys.txt",
        "other.csv", "keys.csv"]
      = .ok ⟨','.toUInt8, none,
        .show ["keys.csv", "keys.txt", "other.csv", "keys.csv"] ["k", ">", "1"] []⟩ := rfl
  obtain ⟨report, alone, hrun, halone, houtput, -, houtcome, -⟩ := run_show hparse rfl mixedFiles
  have hfirst := (halone "keys.csv" (by decide)).2
    ["-d,", "show", "--where", "k", ">", "1", "keys.csv"] rfl
  have hsecond := (halone "keys.txt" (by decide)).2
    ["-d,", "show", "--where", "k", ">", "1", "keys.txt"] rfl
  have hthird := (halone "other.csv" (by decide)).2
    ["-d,", "show", "--where", "k", ">", "1", "other.csv"] rfl
  have hends : (run mixedFiles ["-d,", "show", "--where", "k", ">", "1", "keys.csv"]).map
        Report.exitStatus = .ok 0 ∧
      (run mixedFiles ["-d,", "show", "--where", "k", ">", "1", "keys.txt"]).map
        Report.exitStatus = .ok 0 ∧
      (run mixedFiles ["-d,", "show", "--where", "k", ">", "1", "other.csv"]).map
        Report.outcome = .ok (.error (.noSuchColumn "other" "k")) := ⟨rfl, rfl, rfl⟩
  rw [hfirst, hsecond, hthird] at hends
  obtain ⟨hok, hok', hfailed⟩ := hends
  have hok : (alone "keys.csv").exitStatus = 0 := Except.ok.inj hok
  have hok' : (alone "keys.txt").exitStatus = 0 := Except.ok.inj hok'
  have hfailed : (alone "other.csv").outcome = .error (.noSuchColumn "other" "k") :=
    Except.ok.inj hfailed
  have hstatus : (alone "other.csv").exitStatus = 1 := by
    rw [Report.exitStatus, hfailed]
  refine ⟨hparse, report, _, _, _, hrun, hfirst, hsecond, hthird, ?_, ?_⟩
  · rw [houtput]
    simp [hok, hok', hstatus]
  · rw [houtcome "other.csv" (by simp [hok, hok', hstatus]), hfailed]

end CommandLine

end Columnar
