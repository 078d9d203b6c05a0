import GovernedMcp.Lib.Traced

/-!
# Computations on a state that may raise

An `EStateM ε σ α` runs in a state, and returns or raises; either way it leaves a state behind. Here
its runs are taken apart into the two things an observer sees.

* `outcome x s`: the value or the exception. `after x s`: the state left behind.
* `outcome_bind`, `after_bind_of_ok`, `after_bind_of_error`: the run of a composed computation in
  terms of its parts, stopping at the first exception.
* `ask`: a computation that consults the state, changes it, and never raises. `after_bind_ofExcept`:
  what follows it may raise, and leaves the state alone.
-/

namespace GovernedMcp.Lib.Stateful

variable {ε σ α β : Type}

/-- What a computation ends in. -/
def outcome (x : EStateM ε σ α) (s : σ) : Except ε α :=
  match x.run s with
  | .ok a _ => .ok a
  | .error e _ => .error e

/-- The state a computation leaves behind, whether it returns or raises. -/
def after (x : EStateM ε σ α) (s : σ) : σ :=
  match x.run s with
  | .ok _ s' => s'
  | .error _ s' => s'

/-- Consult the state, and leave another behind. -/
def ask (f : σ → α × σ) : EStateM ε σ α := fun s => .ok (f s).1 (f s).2

/-- A value is the outcome. -/
@[simp] theorem outcome_pure (a : α) (s : σ) : outcome (pure a : EStateM ε σ α) s = .ok a := rfl

/-- The state is read. -/
@[simp] theorem outcome_get (s : σ) : outcome (get : EStateM ε σ σ) s = .ok s := rfl

/-- Reading leaves it as it is. -/
@[simp] theorem after_get (s : σ) : after (get : EStateM ε σ σ) s = s := rfl

/-- The outcome of asking is the answer. -/
@[simp] theorem outcome_ask (f : σ → α × σ) (s : σ) :
    outcome (ask f : EStateM ε σ α) s = .ok (f s).1 := rfl

/-- It leaves the state that comes with the answer. -/
@[simp] theorem after_ask (f : σ → α × σ) (s : σ) :
    after (ask f : EStateM ε σ α) s = (f s).2 := rfl

/-- An outcome is the outcome. -/
@[simp] theorem outcome_ofExcept (x : Except ε α) (s : σ) :
    outcome (ofExcept x : EStateM ε σ α) s = x := by
  cases x <;> rfl

/-- And leaves the state as it is. -/
@[simp] theorem after_ofExcept (x : Except ε α) (s : σ) :
    after (ofExcept x : EStateM ε σ α) s = s := by
  cases x <;> rfl

/-- Pure parts are composed before or after they are lifted. -/
theorem ofExcept_bind (x : Except ε α) (f : α → Except ε β) :
    (ofExcept (x >>= f) : EStateM ε σ β) = ofExcept x >>= fun a => ofExcept (f a) := by
  cases x <;> rfl

/-- A composed computation ends as its parts do, one after the other. -/
theorem outcome_bind (x : EStateM ε σ α) (f : α → EStateM ε σ β) (s : σ) :
    outcome (x >>= f) s = outcome x s >>= fun a => outcome (f a) (after x s) := by
  unfold outcome after
  rw [EStateM.run_bind]
  cases x.run s <;> rfl

/-- Where the first part returns, the second one runs in the state it left. -/
theorem outcome_bind_of_ok {x : EStateM ε σ α} {s : σ} {a : α} (h : outcome x s = .ok a)
    (f : α → EStateM ε σ β) : outcome (x >>= f) s = outcome (f a) (after x s) := by
  rw [outcome_bind, h]
  rfl

/-- A sequence goes on from the state that its first part leaves. -/
theorem after_bind_of_ok {x : EStateM ε σ α} {s : σ} {a : α} (h : outcome x s = .ok a)
    (f : α → EStateM ε σ β) : after (x >>= f) s = after (f a) (after x s) := by
  unfold outcome at h
  unfold after
  rw [EStateM.run_bind]
  cases hx : x.run s with
  | ok a' s' =>
    rw [hx] at h
    cases h
    rfl
  | error e s' =>
    rw [hx] at h
    cases h

/-- Where the first part raises, the second one does not run. -/
theorem after_bind_of_error {x : EStateM ε σ α} {s : σ} {e : ε} (h : outcome x s = .error e)
    (f : α → EStateM ε σ β) : after (x >>= f) s = after x s := by
  unfold outcome at h
  unfold after
  rw [EStateM.run_bind]
  cases hx : x.run s with
  | ok a s' =>
    rw [hx] at h
    cases h
  | error e' s' => rfl

/-- A last part that only puts the value into another form. -/
theorem outcome_bind_pure (x : EStateM ε σ α) (f : α → β) (s : σ) :
    outcome (x >>= fun a => pure (f a)) s = (outcome x s).map f := by
  rw [outcome_bind]
  cases outcome x s <;> rfl

/-- What a computation does before it raises or returns a value without touching the state. -/
theorem after_bind_ofExcept (x : EStateM ε σ α) (f : α → Except ε β) (s : σ) :
    after (x >>= fun a => ofExcept (f a)) s = after x s := by
  cases h : outcome x s with
  | error e => exact after_bind_of_error h _
  | ok a =>
    rw [after_bind_of_ok h]
    exact after_ofExcept (f a) (after x s)

/-- What is done with the value leaves the state alone. -/
theorem after_bind_pure (x : EStateM ε σ α) (f : α → β) (s : σ) :
    after (x >>= fun a => pure (f a)) s = after x s :=
  after_bind_ofExcept x (fun a => .ok (f a)) s

end GovernedMcp.Lib.Stateful
