import Columnar.CommandLine.Arguments
import Columnar.Run
import Mathlib.Data.List.Induction

/-!
# Leaving files out of the arguments

The files that `show` prints stand anywhere among its options, and each option is set when the
next option or operand comes.  Leaving a file out may therefore put off the setting of the
option before it, to the next argument or to the end; it does not change what the option is set
to, since an option does not look at the operands.  So a command line with some of its files left
out is understood as well, and asks for the same with the files that are left.

The two readings go on side by side.  One of them has the operands that were kept, and is
otherwise the other one, or will be once its last option is set (`Reading.Keeps`).

## Main definitions

* `Reading.withOperands` — a reading with other operands.
* `Reading.Keeps` — a reading of the same options with some of the operands.

## Main results

* `Reading.Keeps.step` — one argument, read by both.
* `Invocation.exists_parse_show` — **files can be left out of the arguments.**
-/

namespace Columnar

namespace CommandLine

/-! ### Options do not look at operands -/

/-- What an option is set to does not depend on the operands. -/
theorem Settings.set_operands (s : Settings) (operands : List String) (scope : Scope) (flag : Flag)
    (values : List String) :
    ({ s with operands } : Settings).set scope flag values
      = (s.set scope flag values).map fun s => { s with operands } := by
  unfold Settings.set
  split
  · cases Settings.once s.delimiter _ <;> rfl
  · cases Settings.once s.threads _ <;> rfl
  · rfl
  · rfl
  · cases Settings.once s.strategy _ <;> rfl
  · cases Settings.once s.comparison _ <;> rfl
  all_goals rfl

/-- Setting an option leaves the operands alone. -/
theorem Settings.operands_of_set {s t : Settings} {scope : Scope} {flag : Flag}
    {values : List String} (h : s.set scope flag values = .ok t) : t.operands = s.operands := by
  have hsame := Settings.set_operands s s.operands scope flag values
  change s.set scope flag values = _ at hsame
  rw [h] at hsame
  have hoperands : t = { t with operands := s.operands } := Except.ok.inj hsame
  rw [hoperands]

/-- An option is not set before it has its values. -/
theorem Settings.length_of_set {s t : Settings} {scope : Scope} {flag : Flag}
    {values : List String} (h : s.set scope flag values = .ok t) : values.length = flag.arity := by
  unfold Settings.set at h
  split at h
  all_goals first | rfl | cases h

namespace Reading

/-- The reading with other operands. -/
def withOperands (r : Reading) (operands : List String) : Reading :=
  { r with inner := { r.inner with operands } }

variable {r r' s : Reading} {kept : List String} {argument : String}

theorem settle_withOperands (r : Reading) (operands : List String) :
    (r.withOperands operands).settle = r.settle.map (·.withOperands operands) := by
  unfold settle withOperands
  dsimp only
  split
  · next flag values _ =>
    rw [Settings.set_operands]
    cases r.inner.set r.scope flag values <;> rfl
  · rfl

theorem settle_operandsOnly (r : Reading) :
    settle { r with operandsOnly := true }
      = r.settle.map fun s => { s with operandsOnly := true } := by
  unfold settle
  dsimp only
  split
  · next flag values _ => cases r.inner.set r.scope flag values <;> rfl
  · rfl

/-- Setting the last option changes nothing else. -/
theorem exists_of_settle (h : r.settle = .ok s) :
    ∃ inner, s = { r with inner, pending := none } ∧ inner.operands = r.inner.operands := by
  unfold settle at h
  split at h
  · obtain ⟨inner, hinner, h⟩ := exists_of_bind_eq_ok h
    cases h
    exact ⟨inner, rfl, Settings.operands_of_set hinner⟩
  · next hpending =>
    cases h
    exact ⟨r.inner, by rw [← hpending], rfl⟩

theorem settle_of_pending (h : r.pending = none) : r.settle = .ok r := by
  unfold settle
  rw [h]

theorem awaitsValue_of_settle (h : r.settle = .ok s) : r.awaitsValue = false := by
  unfold settle at h
  unfold awaitsValue
  split at h
  · next flag values hpending =>
    obtain ⟨inner, hinner, -⟩ := exists_of_bind_eq_ok h
    exact decide_eq_false (Nat.not_lt.2 (Nat.le_of_eq (Settings.length_of_set hinner).symm))
  · rfl

theorem option_withOperands (h : r'.settle = r.settle.map (·.withOperands kept))
    (flag : Option Flag) (value : Option String) :
    r'.option flag value = (r.option flag value).map (·.withOperands kept) := by
  unfold option
  rw [h]
  cases r.settle with
  | error e => rfl
  | ok s =>
    cases flag with
    | none => rfl
    | some flag =>
      cases value with
      | some value => exact settle_withOperands { s with pending := some (flag, [value]) } kept
      | none =>
        show (if flag.arity = 0 then _ else _) = Except.map _ (if flag.arity = 0 then _ else _)
        split
        · exact settle_withOperands { s with pending := some (flag, []) } kept
        · rfl

/-- An option is read without looking at the operands or leaving the command. -/
theorem exists_of_option {flag : Option Flag} {value : Option String}
    (h : r.option flag value = .ok s) : s.scope = r.scope ∧ s.inner.operands = r.inner.operands := by
  obtain ⟨t, ht, h⟩ := exists_of_bind_eq_ok h
  obtain ⟨inner, rfl, hinner⟩ := exists_of_settle ht
  rw [← hinner]
  cases flag with
  | none => cases h
  | some flag =>
    cases value with
    | some value =>
      obtain ⟨inner', rfl, hinner'⟩ := exists_of_settle h
      exact ⟨rfl, hinner'⟩
    | none =>
      dsimp only at h
      split at h
      · obtain ⟨inner', rfl, hinner'⟩ := exists_of_settle h
        exact ⟨rfl, hinner'⟩
      · cases h
        exact ⟨rfl, rfl⟩

theorem exists_of_letter {c : Char} {rest : List Char} (h : r.letter c rest = .ok s) :
    s.scope = r.scope ∧ s.inner.operands = r.inner.operands := by
  unfold letter at h
  split at h
  · cases h
  · exact exists_of_option h

/-! ### Two readings side by side -/

/-- A reading of the same options, with the operands that were kept.  Where an operand was left
out, an option that it would have set may still have to be. -/
def Keeps (kept : List String) (r r' : Reading) : Prop :=
  r' = r.withOperands kept ∨ r.pending = none ∧ r'.settle = .ok (r.withOperands kept)

namespace Keeps

theorem settle_eq (h : Keeps kept r r') : r'.settle = r.settle.map (·.withOperands kept) := by
  rcases h with rfl | ⟨hpending, hsettle⟩
  · exact settle_withOperands r kept
  · rw [hsettle, settle_of_pending hpending]
    rfl

theorem awaitsValue_eq (h : Keeps kept r r') : r'.awaitsValue = r.awaitsValue := by
  rcases h with rfl | ⟨hpending, hsettle⟩
  · rfl
  · rw [awaitsValue_of_settle hsettle, awaitsValue_of_settle (settle_of_pending hpending)]

theorem scope_eq (h : Keeps kept r r') : r'.scope = r.scope := by
  rcases h with rfl | ⟨-, hsettle⟩
  · rfl
  · obtain ⟨inner, hr, -⟩ := exists_of_settle hsettle
    exact (congrArg scope hr).symm

theorem operandsOnly_eq (h : Keeps kept r r') : r'.operandsOnly = r.operandsOnly := by
  rcases h with rfl | ⟨-, hsettle⟩
  · rfl
  · obtain ⟨inner, hr, -⟩ := exists_of_settle hsettle
    exact (congrArg operandsOnly hr).symm

/-- An option comes to the same in both readings. -/
theorem option (h : Keeps kept r r') {flag : Option Flag} {value : Option String}
    (hs : r.option flag value = .ok s) :
    ∃ s', r'.option flag value = .ok s' ∧ Keeps kept s s' := by
  refine ⟨s.withOperands kept, ?_, .inl rfl⟩
  rw [option_withOperands h.settle_eq, hs]
  rfl

theorem letter (h : Keeps kept r r') {c : Char} {rest : List Char}
    (hs : r.letter c rest = .ok s) :
    ∃ s', r'.letter c rest = .ok s' ∧ Keeps kept s s' := by
  unfold Reading.letter at hs ⊢
  rw [h.scope_eq]
  cases hflag : Flag.ofLetter? r.scope c with
  | none =>
    rw [hflag] at hs
    cases hs
  | some flag =>
    rw [hflag] at hs
    exact h.option hs

/-- The separator may come before the last option is set. -/
theorem separator (h : Keeps kept r r') :
    Keeps kept { r with operandsOnly := true } { r' with operandsOnly := true } := by
  rcases h with rfl | ⟨hpending, hsettle⟩
  · exact .inl rfl
  · refine .inr ⟨hpending, ?_⟩
    rw [settle_operandsOnly, hsettle]
    rfl

end Keeps

/-- An operand of `show` is put behind the others, once the last option is set. -/
theorem operand_of_show (hscope : r.scope = .show) (argument : String) :
    r.operand argument = r.settle >>= fun t =>
      if argument = "" then .error .usage
      else .ok (t.withOperands (t.inner.operands ++ [argument])) := by
  unfold operand
  rw [hscope]
  cases ht : r.settle with
  | error e => rfl
  | ok t =>
    obtain ⟨inner, rfl, -⟩ := exists_of_settle ht
    set t : Reading := { r with inner, pending := none } with htdef
    have haccepts : t.accepts t.inner.operands.length argument = (argument != "") := by
      unfold accepts
      rw [show t.scope = .show from hscope]
    show (if t.accepts t.inner.operands.length argument then _ else _)
      = (if argument = "" then _ else _)
    rw [haccepts]
    by_cases hempty : argument = ""
    · rw [if_neg (by simp [hempty]), if_pos hempty]
    · rw [if_pos (by simpa using hempty), if_neg hempty]
      rfl

theorem operands_of_operand (hscope : r.scope = .show) (hs : r.operand argument = .ok s) :
    s.inner.operands = r.inner.operands ++ [argument] := by
  rw [operand_of_show hscope] at hs
  obtain ⟨t, ht, hs⟩ := exists_of_bind_eq_ok hs
  obtain ⟨inner, rfl, hinner⟩ := exists_of_settle ht
  split at hs
  · cases hs
  · cases hs
    rw [← hinner]
    rfl

/-- An operand of one reading may be left out of the other. -/
theorem Keeps.operand (h : Keeps kept r r') (hscope : r.scope = .show)
    (hs : r.operand argument = .ok s) :
    Keeps kept s r' ∧ ∃ s', r'.operand argument = .ok s' ∧ Keeps (kept ++ [argument]) s s' := by
  rw [operand_of_show hscope] at hs
  obtain ⟨t, ht, hs⟩ := exists_of_bind_eq_ok hs
  have hsettle := h.settle_eq
  rw [ht] at hsettle
  obtain ⟨inner, rfl, -⟩ := exists_of_settle ht
  split at hs
  · cases hs
  · next hne =>
    cases hs
    refine ⟨.inr ⟨rfl, hsettle⟩, _, ?_, .inl rfl⟩
    rw [operand_of_show (h.scope_eq.trans hscope), hsettle]
    exact if_neg hne

/-! ### One argument -/

theorem step_of_show (hscope : r.scope = .show) (argument : String) :
    r.step argument =
      if r.operandsOnly then r.operand argument
      else
        match Shape.of argument, r.awaitsValue with
        | .plain, true =>
          .ok { r with pending := r.pending.map fun (flag, values) => (flag, values ++ [argument]) }
        | .plain, false => r.operand argument
        | .separator, true => .error .usage
        | .separator, false => .ok { r with operandsOnly := true }
        | .long name value, _ => r.option (Flag.ofName? r.scope name) value
        | .short c rest, _ => r.letter c rest := by
  unfold step
  exact if_neg (by rw [hscope]; decide)

/-- **One argument, read by both.**  Either it is an operand, and can be kept or left out, or it is
read in the same way by both. -/
theorem keeps_step (hscope : r.scope = .show) (hs : r.step argument = .ok s) :
    (s.inner.operands = r.inner.operands ++ [argument] ∧
      ∀ kept r', Keeps kept r r' → Keeps kept s r' ∧
        ∃ s', r'.step argument = .ok s' ∧ Keeps (kept ++ [argument]) s s') ∨
    (s.inner.operands = r.inner.operands ∧
      ∀ kept r', Keeps kept r r' → ∃ s', r'.step argument = .ok s' ∧ Keeps kept s s') := by
  have hstep {kept : List String} {r' : Reading} (h : Keeps kept r r') :=
    step_of_show (h.scope_eq.trans hscope) argument
  rw [step_of_show hscope] at hs
  split at hs
  · next honly =>
    refine .inl ⟨operands_of_operand hscope hs, fun kept r' h => ?_⟩
    rw [hstep h, if_pos (h.operandsOnly_eq.trans honly)]
    exact h.operand hscope hs
  · next honly =>
    have hstep {kept : List String} {r' : Reading} (h : Keeps kept r r') :=
      (hstep h).trans (if_neg fun honly' => honly (h.operandsOnly_eq.symm.trans honly'))
    generalize Shape.of argument = shape at hs hstep
    cases shape with
    | long name value =>
      refine .inr ⟨(exists_of_option hs).2, fun kept r' h => ?_⟩
      rw [hstep h, h.scope_eq]
      exact h.option hs
    | short c rest =>
      refine .inr ⟨(exists_of_letter hs).2, fun kept r' h => ?_⟩
      rw [hstep h]
      exact h.letter hs
    | plain =>
      cases hawaits : r.awaitsValue with
      | true =>
        rw [hawaits] at hs
        cases hs
        refine .inr ⟨rfl, fun kept r' h => ?_⟩
        rw [hstep h, h.awaitsValue_eq, hawaits]
        rcases h with rfl | ⟨hpending, -⟩
        · exact ⟨_, rfl, .inl rfl⟩
        · rw [awaitsValue_of_settle (settle_of_pending hpending)] at hawaits
          cases hawaits
      | false =>
        rw [hawaits] at hs
        refine .inl ⟨operands_of_operand hscope hs, fun kept r' h => ?_⟩
        rw [hstep h, h.awaitsValue_eq, hawaits]
        exact h.operand hscope hs
    | separator =>
      cases hawaits : r.awaitsValue with
      | true =>
        rw [hawaits] at hs
        cases hs
      | false =>
        rw [hawaits] at hs
        cases hs
        refine .inr ⟨rfl, fun kept r' h => ?_⟩
        rw [hstep h, h.awaitsValue_eq, hawaits]
        exact ⟨_, rfl, h.separator⟩

/-! ### All arguments -/

/-- An argument is read within the scope, unless it is the command that opens one. -/
theorem scope_step (hs : r.step argument = .ok s) :
    s.scope = r.scope ∨ ∃ scope, s = r.enter scope := by
  have hoperand (hs : r.operand argument = .ok s) :
      s.scope = r.scope ∨ ∃ scope, s = r.enter scope := by
    unfold operand at hs
    split at hs
    · split at hs
      · next scope _ =>
        split at hs
        · cases hs
        · cases hs
          exact .inr ⟨scope, rfl⟩
      · cases hs
    · obtain ⟨t, ht, hs⟩ := exists_of_bind_eq_ok hs
      obtain ⟨inner, rfl, -⟩ := exists_of_settle ht
      dsimp only at hs
      split at hs
      · cases hs
        exact .inl rfl
      · cases hs
  unfold step at hs
  split at hs
  · unfold takeTopic at hs
    split at hs
    · cases hs
      exact .inl rfl
    · cases hs
  · split at hs
    · exact hoperand hs
    · split at hs
      · cases hs
        exact .inl rfl
      · exact hoperand hs
      · cases hs
      · cases hs
        exact .inl rfl
      · exact .inl (exists_of_option hs).1
      · exact .inl (exists_of_letter hs).1

theorem foldlM_append_singleton {arguments : List String}
    (hr : arguments.foldlM Reading.step start = .ok r) (argument : String) :
    (arguments ++ [argument]).foldlM Reading.step start = r.step argument := by
  rw [List.foldlM_append, hr]
  show (r.step argument >>= fun s => .ok s) = _
  cases r.step argument <;> rfl

/-- **Operands of `show` can be left out.** -/
theorem exists_keeps {arguments : List String} (hr : arguments.foldlM Reading.step start = .ok r)
    (hscope : r.scope = .show) (hkept : kept.Sublist r.inner.operands) :
    ∃ (arguments' : List String) (r' : Reading), arguments'.Sublist arguments ∧
      arguments'.foldlM Reading.step start = .ok r' ∧ Keeps kept r r' := by
  induction arguments using List.reverseRecOn generalizing r kept with
  | nil =>
    cases hr
    cases hscope
  | append_singleton arguments argument ih =>
    obtain ⟨r₀, hr₀, -⟩ := exists_of_bind_eq_ok (List.foldlM_append.symm.trans hr)
    have hs := (foldlM_append_singleton hr₀ argument).symm.trans hr
    rcases scope_step hs with hsame | ⟨scope, rfl⟩
    · have hscope₀ := hsame.symm.trans hscope
      rcases keeps_step hscope₀ hs with ⟨hoperands, hkeeps⟩ | ⟨hoperands, hkeeps⟩
      · rw [hoperands] at hkept
        obtain ⟨before, last, rfl, hbefore, hlast⟩ := List.sublist_append_iff.1 hkept
        obtain ⟨arguments', r', hsublist, hr', hkeeps'⟩ := ih hr₀ hscope₀ hbefore
        obtain ⟨hleft, s', hs', htaken⟩ := hkeeps before r' hkeeps'
        cases hlast with
        | cons _ hnil =>
          obtain rfl := List.sublist_nil.1 hnil
          rw [List.append_nil]
          exact ⟨arguments', r', hsublist.trans (List.sublist_append_left _ _), hr', hleft⟩
        | cons_cons _ hnil =>
          obtain rfl := List.sublist_nil.1 hnil
          exact ⟨arguments' ++ [argument], s', hsublist.append (.refl _),
            (foldlM_append_singleton hr' argument).trans hs', htaken⟩
      · rw [hoperands] at hkept
        obtain ⟨arguments', r', hsublist, hr', hkeeps'⟩ := ih hr₀ hscope₀ hkept
        obtain ⟨s', hs', htaken⟩ := hkeeps kept r' hkeeps'
        exact ⟨arguments' ++ [argument], s', hsublist.append (.refl _),
          (foldlM_append_singleton hr' argument).trans hs', htaken⟩
    · -- the command has been read, and no operand yet
      obtain rfl := List.sublist_nil.1 hkept
      exact ⟨_, _, .refl _, hr, .inl rfl⟩

theorem command_eq_show {files filter columns : List String}
    (h : r.command = .ok (.show files filter columns)) :
    r.scope = .show ∧ r.inner.operands = files ∧ r.inner.filter = filter ∧
      r.inner.columns = columns := by
  unfold command at h
  split at h
  · next file rest hscope hoperands =>
    cases h
    exact ⟨hscope, hoperands, rfl, rfl⟩
  all_goals cases h

/-- At the end the two readings differ in the operands. -/
theorem finish_keeps {invocation : Invocation} {files filter columns : List String}
    (hfinish : r.finish = .ok invocation)
    (hcommand : invocation.command = .show files filter columns) :
    r.scope = .show ∧ r.inner.operands = files ∧
      ∀ kept r', Keeps kept r r' → kept ≠ [] →
        r'.finish = .ok { invocation with command := .show kept filter columns } := by
  obtain ⟨t, ht, hfinish⟩ := exists_of_bind_eq_ok hfinish
  obtain ⟨command, hread, hfinish⟩ := exists_of_bind_eq_ok hfinish
  obtain ⟨outer, houter, hfinish⟩ := exists_of_bind_eq_ok hfinish
  cases hfinish
  obtain rfl : command = _ := hcommand
  obtain ⟨hscope, hoperands, rfl, rfl⟩ := command_eq_show hread
  obtain ⟨inner, rfl, hinner⟩ := exists_of_settle ht
  refine ⟨hscope, hinner.symm.trans hoperands, fun kept r' h hne => ?_⟩
  have hsettle := h.settle_eq
  rw [ht] at hsettle
  obtain ⟨file, rest, rfl⟩ := List.exists_cons_of_ne_nil hne
  set t : Reading := { r with inner, pending := none } with htdef
  have hread' : (t.withOperands (file :: rest)).command
      = .ok (.show (file :: rest) inner.filter inner.columns) := by
    unfold command
    rw [show (t.withOperands (file :: rest)).scope = .show from hscope]
    rfl
  unfold finish
  rw [hsettle]
  show ((t.withOperands (file :: rest)).command >>= _) = _
  rw [hread']
  show (r.outer >>= _) = _
  rw [show r.outer = .ok outer from houter]
  rfl

end Reading

/-- **Files can be left out of the arguments.**  If some arguments ask for a number of files to be
shown, some of the arguments ask for any of these files, with the same options. -/
theorem Invocation.exists_parse_show {arguments : List String} {invocation : Invocation}
    {files filter columns kept : List String} (hparse : Invocation.parse arguments = .ok invocation)
    (hcommand : invocation.command = .show files filter columns) (hkept : kept.Sublist files)
    (hne : kept ≠ []) :
    ∃ arguments' : List String, arguments'.Sublist arguments ∧
      Invocation.parse arguments'
        = .ok { invocation with command := .show kept filter columns } := by
  obtain ⟨r, hr, hfinish⟩ := exists_of_bind_eq_ok hparse
  obtain ⟨hscope, rfl, hkeeps⟩ := Reading.finish_keeps hfinish hcommand
  obtain ⟨arguments', r', hsublist, hr', h⟩ := Reading.exists_keeps hr hscope hkept
  refine ⟨arguments', hsublist, ?_⟩
  unfold Invocation.parse
  rw [hr']
  exact hkeeps kept r' h hne

end CommandLine

end Columnar
