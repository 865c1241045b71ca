import Columnar.Event

/-!
# Runs and steps

An operation reports events while it goes on, and ends with a result or a failure.
`Run` holds both.  What an operation computes is its `outcome`, and `outcome` commutes
with sequencing (`Run.outcome_bind`): reasoning about results can forget the events.

An operation that changes something — a relation that takes a row, a catalog that
takes a relation — is a `Step`: a run together with the state it leaves behind.  The
state is there after a failure too, so "a failed operation changes nothing" is a
statement about operations, to be proved, and not a convention of the representation.

## Main definitions

* `Run` — the events of an operation and its outcome.
* `Step` — a run and the state after it.
* `Step.andThen` — one step after the other, each on the state the last one left.
-/

namespace Columnar

/-- A computation in two parts that goes well goes well in both. -/
theorem exists_of_bind_eq_ok {ε α β : Type} {x : Except ε α} {f : α → Except ε β} {b : β}
    (h : x >>= f = .ok b) : ∃ a, x = .ok a ∧ f a = .ok b := by
  cases x with
  | error e => cases h
  | ok a => exact ⟨a, rfl, h⟩

/-! ### Runs -/

/-- How an operation went. -/
structure Run (α : Type) where
  /-- What was reported, in order. -/
  events : List Event
  /-- The result, or why there is none. -/
  outcome : Except Failure α

namespace Run

variable {α β : Type}

/-- Reports an event. -/
def report (e : Event) : Run Unit := ⟨[e], .ok ()⟩

/-- Refuses to go on. -/
def refuse (e : Error) : Run α := ⟨[], .error (.refused e)⟩

/-- Goes on with the result of a check, or refuses. -/
def ofCheck : Except Error α → Run α
  | .ok a => ⟨[], .ok a⟩
  | .error e => ⟨[], .error (.refused e)⟩

/-- Goes on with what was read from a column, or faults. -/
def ofRead : Except Fault α → Run α
  | .ok a => ⟨[], .ok a⟩
  | .error f => ⟨[], .error (.fault f)⟩

/-- One run after the other; the second is left out when the first fails. -/
def andThen (x : Run α) (f : α → Run β) : Run β :=
  match x.outcome with
  | .ok a =>
    let y := f a
    ⟨x.events ++ y.events, y.outcome⟩
  | .error e => ⟨x.events, .error e⟩

instance : Monad Run where
  pure a := ⟨[], .ok a⟩
  bind := andThen

instance : MonadLift (Except Error) Run := ⟨ofCheck⟩

instance : MonadLift (Except Fault) Run := ⟨ofRead⟩

@[simp] theorem outcome_pure (a : α) : (pure a : Run α).outcome = .ok a := rfl

@[simp] theorem outcome_report (e : Event) : (report e).outcome = .ok () := rfl

@[simp] theorem outcome_refuse (e : Error) :
    (refuse e : Run α).outcome = .error (.refused e) := rfl

/-- The outcome of a sequence depends on the outcomes of its parts alone. -/
@[simp] theorem outcome_bind (x : Run α) (f : α → Run β) :
    (x >>= f).outcome = x.outcome >>= fun a => (f a).outcome := by
  show (andThen x f).outcome = _
  unfold andThen
  cases x.outcome <;> rfl

@[simp] theorem outcome_ofCheck_ok (a : α) : (ofCheck (.ok a)).outcome = .ok a := rfl

@[simp] theorem outcome_ofCheck_error (e : Error) :
    (ofCheck (.error e) : Run α).outcome = .error (.refused e) := rfl

@[simp] theorem outcome_ofRead_ok (a : α) : (ofRead (.ok a)).outcome = .ok a := rfl

@[simp] theorem outcome_ofRead_error (f : Fault) :
    (ofRead (.error f) : Run α).outcome = .error (.fault f) := rfl

/-- A run in two parts that goes well goes well in both. -/
theorem exists_of_bind {x : Run α} {f : α → Run β} {b : β} (h : (x >>= f).outcome = .ok b) :
    ∃ a, x.outcome = .ok a ∧ (f a).outcome = .ok b := by
  rw [outcome_bind] at h
  exact exists_of_bind_eq_ok h

theorem ofCheck_eq_ok {x : Except Error α} {a : α} (h : (ofCheck x).outcome = .ok a) :
    x = .ok a := by
  cases x with
  | error e => cases h
  | ok b => rw [Except.ok.inj h]

/-- Reading may fault, but is not refused. -/
theorem ofRead_ne_refused (x : Except Fault α) (e : Error) :
    (ofRead x).outcome ≠ .error (.refused e) := by
  cases x with
  | ok a => exact nofun
  | error f => exact nofun

theorem ofRead_eq_ok {x : Except Fault α} {a : α} (h : (ofRead x).outcome = .ok a) :
    x = .ok a := by
  cases x with
  | error e => cases h
  | ok b => rw [Except.ok.inj h]

end Run

/-! ### Steps -/

/-- A run on a state, and the state after it. -/
structure Step (σ α : Type) where
  /-- How the step went. -/
  run : Run α
  /-- The state it left behind, whether it failed or not. -/
  after : σ

namespace Step

variable {σ α β : Type}

/-- A step that leaves the state as it is. -/
def ask (s : σ) (x : Run α) : Step σ α := ⟨x, s⟩

/-- One step after the other; the second is left out when the first fails. -/
def andThen (x : Step σ α) (f : α → σ → Step σ β) : Step σ β :=
  match x.run.outcome with
  | .ok a =>
    let y := f a x.after
    ⟨⟨x.run.events ++ y.run.events, y.run.outcome⟩, y.after⟩
  | .error e => ⟨⟨x.run.events, .error e⟩, x.after⟩

/-- The same step on a part of a larger state. -/
def within {τ : Type} (x : Step σ α) (put : σ → τ) : Step τ α := ⟨x.run, put x.after⟩

@[simp] theorem ask_run (s : σ) (x : Run α) : (ask s x).run = x := rfl

@[simp] theorem ask_after (s : σ) (x : Run α) : (ask s x).after = s := rfl

@[simp] theorem within_run {τ : Type} (x : Step σ α) (put : σ → τ) :
    (x.within put).run = x.run := rfl

@[simp] theorem within_after {τ : Type} (x : Step σ α) (put : σ → τ) :
    (x.within put).after = put x.after := rfl

theorem andThen_ok {x : Step σ α} {a : α} (h : x.run.outcome = .ok a)
    (f : α → σ → Step σ β) :
    (x.andThen f).run.outcome = (f a x.after).run.outcome ∧
      (x.andThen f).after = (f a x.after).after := by
  unfold andThen
  rw [h]
  exact ⟨rfl, rfl⟩

theorem andThen_error {x : Step σ α} {e : Failure} (h : x.run.outcome = .error e)
    (f : α → σ → Step σ β) :
    (x.andThen f).run.outcome = .error e ∧ (x.andThen f).after = x.after := by
  unfold andThen
  rw [h]
  exact ⟨rfl, rfl⟩

theorem exists_of_andThen {x : Step σ α} {f : α → σ → Step σ β} {b : β}
    (h : (x.andThen f).run.outcome = .ok b) :
    ∃ a, x.run.outcome = .ok a ∧ (f a x.after).run.outcome = .ok b := by
  cases hx : x.run.outcome with
  | error e => rw [(andThen_error hx f).1] at h; cases h
  | ok a => rw [(andThen_ok hx f).1] at h; exact ⟨a, rfl, h⟩

/-- What holds after a step holds in the end, if the next step keeps it. -/
theorem after_andThen {P : σ → Prop} {x : Step σ α} {f : α → σ → Step σ β} (hx : P x.after)
    (hf : ∀ a, x.run.outcome = .ok a → P (f a x.after).after) : P (x.andThen f).after := by
  cases h : x.run.outcome with
  | error e => rw [(andThen_error h f).2]; exact hx
  | ok a => rw [(andThen_ok h f).2]; exact hf a h

end Step

end Columnar
