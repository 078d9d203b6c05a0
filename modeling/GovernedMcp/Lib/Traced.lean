import Mathlib.Logic.Basic

/-!
# Computations that leave a trace and may raise

`Traced ω ε α` is one run of a piece of imperative code, seen from outside: the observable
events of type `ω` it emitted, in order, and then either the value it returned or the exception
it raised. Events emitted before an exception stay in the trace.

* `pure`, `bind`, `emit`, `raise`: the four ways such a run is put together; `bind` stops at the
  first exception.
* `bind_of_ok`, `bind_of_error` and the simp set: what a composed run shows, in terms of its parts.
* `Except.bind_eq_ok_iff`, `Except.bind_eq_error_iff`: the same reading for computations that may
  raise and leave no trace.
-/

namespace GovernedMcp.Lib

/-- A finished run: the events it emitted, and the value it returned or the exception it raised. -/
structure Traced (ω ε α : Type) where
  /-- The emitted events, first to last. -/
  events : List ω
  /-- How the run ended. -/
  value : Except ε α

namespace Traced

variable {ω ε α β γ : Type}

/-- A run that returns `a` and emits nothing. -/
protected def pure (a : α) : Traced ω ε α := ⟨[], .ok a⟩

/-- Run `x`, and then `f` on the value it returned; an exception of `x` ends the run. -/
protected def bind (x : Traced ω ε α) (f : α → Traced ω ε β) : Traced ω ε β :=
  match x.value with
  | .ok a => ⟨x.events ++ (f a).events, (f a).value⟩
  | .error e => ⟨x.events, .error e⟩

instance : Monad (Traced ω ε) where
  pure := Traced.pure
  bind := Traced.bind

/-- Emit one event. -/
def emit (w : ω) : Traced ω ε Unit := ⟨[w], .ok ()⟩

/-- Raise an exception. -/
def raise (e : ε) : Traced ω ε α := ⟨[], .error e⟩

/-- A value leaves no trace. -/
@[simp] theorem events_pure (a : α) : (pure a : Traced ω ε α).events = [] := rfl

/-- And is the outcome. -/
@[simp] theorem value_pure (a : α) : (pure a : Traced ω ε α).value = .ok a := rfl

/-- An event is the trace. -/
@[simp] theorem events_emit (w : ω) : (emit w : Traced ω ε Unit).events = [w] := rfl

/-- And nothing is the outcome. -/
@[simp] theorem value_emit (w : ω) : (emit w : Traced ω ε Unit).value = .ok () := rfl

/-- An exception leaves no trace. -/
@[simp] theorem events_raise (e : ε) : (raise e : Traced ω ε α).events = [] := rfl

/-- And is the outcome. -/
@[simp] theorem value_raise (e : ε) : (raise e : Traced ω ε α).value = .error e := rfl

/-- A run that returned hands its value on. -/
theorem bind_of_ok {x : Traced ω ε α} {a : α} (h : x.value = .ok a) (f : α → Traced ω ε β) :
    x >>= f = ⟨x.events ++ (f a).events, (f a).value⟩ := by
  show Traced.bind x f = _
  unfold Traced.bind
  rw [h]

/-- A run that raised is the whole run. -/
theorem bind_of_error {x : Traced ω ε α} {e : ε} (h : x.value = .error e)
    (f : α → Traced ω ε β) : x >>= f = ⟨x.events, .error e⟩ := by
  show Traced.bind x f = _
  unfold Traced.bind
  rw [h]

/-- After a value it goes on with that value. -/
@[simp] theorem pure_bind (a : α) (f : α → Traced ω ε β) : (pure a : Traced ω ε α) >>= f = f a := by
  rw [bind_of_ok (value_pure a)]
  simp

/-- After an exception it does not go on. -/
@[simp] theorem raise_bind (e : ε) (f : α → Traced ω ε β) :
    (raise e : Traced ω ε α) >>= f = raise e :=
  bind_of_error (value_raise e) f

/-- After an event it goes on, with the event in front. -/
theorem emit_bind (w : ω) (f : Unit → Traced ω ε β) :
    emit w >>= f = ⟨w :: (f ()).events, (f ()).value⟩ :=
  bind_of_ok (value_emit w) f

/-- After an emitted event the rest of the run follows. -/
@[simp] theorem events_emit_bind (w : ω) (f : Unit → Traced ω ε β) :
    (emit w >>= f).events = w :: (f ()).events := by
  rw [bind_of_ok (value_emit w)]
  rfl

/-- The outcome is that of what follows. -/
@[simp] theorem value_emit_bind (w : ω) (f : Unit → Traced ω ε β) :
    (emit w >>= f).value = (f ()).value := by
  rw [bind_of_ok (value_emit w)]

end Traced

/-! ## Computations that may raise -/

/-- A composed computation returns iff both parts do. -/
theorem Except.bind_eq_ok_iff {ε α β : Type} {x : Except ε α} {f : α → Except ε β} {b : β} :
    x >>= f = .ok b ↔ ∃ a, x = .ok a ∧ f a = .ok b := by
  rcases x with e | a
  · constructor
    · intro h
      cases h
    · rintro ⟨_, h, -⟩
      cases h
  · constructor
    · intro h
      exact ⟨a, rfl, h⟩
    · rintro ⟨_, h, hf⟩
      cases h
      exact hf

/-- A composed computation raises iff one of its parts does. -/
theorem Except.bind_eq_error_iff {ε α β : Type} {x : Except ε α} {f : α → Except ε β} {e : ε} :
    x >>= f = .error e ↔ x = .error e ∨ ∃ a, x = .ok a ∧ f a = .error e := by
  rcases x with e' | a
  · constructor
    · intro h
      cases h
      exact Or.inl rfl
    · rintro (h | ⟨_, h, -⟩)
      · cases h
        rfl
      · cases h
  · constructor
    · intro h
      exact Or.inr ⟨a, rfl, h⟩
    · rintro (h | ⟨_, h, hf⟩)
      · cases h
      · cases h
        exact hf

end GovernedMcp.Lib
