import Mathlib.Data.List.Forall2
import GovernedMcp.Lib.Machine
import GovernedMcp.Lib.Stateful

/-!
# Two computations side by side

Computations on states of two kinds that do the same, up to a relation of the states and one of the
values.

* `Alike S x y`: two values that `S` relates, or one exception twice.
* `Agree R S x y`: from related states, computations that end alike and leave related states behind.
  `Agree.pure`, `Agree.throw`, `Agree.ofExcept` and `Agree.bind` are its rules.
* `Machine.Simulates`: machines whose steps agree on the inputs of a scope. Their runs then do
  (`Simulates.answers`, `Simulates.final`).
-/

namespace GovernedMcp.Lib

namespace Stateful

variable {ε σ τ α α' β β' : Type}

/-! ## Results -/

/-- Two values that are related, or the same exception. -/
inductive Alike (S : α → α' → Prop) : Except ε α → Except ε α' → Prop where
  | ok {a : α} {a' : α'} (h : S a a') : Alike S (.ok a) (.ok a')
  | error (e : ε) : Alike S (.error e) (.error e)

section alike

variable {S : α → α' → Prop} {T : β → β' → Prop} {x : Except ε α} {x' : Except ε α'}

/-- Up to equality, alike is equal. -/
theorem alike_eq_iff {y : Except ε α} : Alike Eq x y ↔ x = y := by
  constructor
  · rintro (⟨rfl⟩ | e)
    · rfl
    · rfl
  · rintro rfl
    cases x with
    | ok a => exact .ok rfl
    | error e => exact .error e

/-- An outcome is like itself where values are. -/
theorem Alike.refl {S : α → α → Prop} (hS : ∀ a, S a a) (x : Except ε α) : Alike S x x := by
  cases x with
  | ok a => exact .ok (hS a)
  | error e => exact .error e

/-- A coarser relation of values makes more outcomes alike. -/
theorem Alike.mono {S' : α → α' → Prop} (h : Alike S x x') (hS : ∀ a a', S a a' → S' a a') :
    Alike S' x x' := by
  cases h with
  | ok h => exact .ok (hS _ _ h)
  | error e => exact .error e

/-- What follows goes on from values that are related. -/
theorem Alike.bind {f : α → Except ε β} {f' : α' → Except ε β'} (h : Alike S x x')
    (hf : ∀ a a', S a a' → Alike T (f a) (f' a')) : Alike T (x >>= f) (x' >>= f') := by
  cases h with
  | ok h => exact hf _ _ h
  | error e => exact .error e

end alike

/-! ## Computations -/

/-- From related states the computations end alike, in related states. -/
structure Agree (R : σ → τ → Prop) (S : α → α' → Prop) (x : EStateM ε σ α) (x' : EStateM ε τ α') :
    Prop where
  outcome : ∀ s t, R s t → Alike S (outcome x s) (outcome x' t)
  after : ∀ s t, R s t → R (after x s) (after x' t)

namespace Agree

variable {R : σ → τ → Prop} {S : α → α' → Prop} {T : β → β' → Prop} {x : EStateM ε σ α}
  {x' : EStateM ε τ α'}

/-- Related values agree. -/
theorem pure {a : α} {a' : α'} (h : S a a') :
    Agree (ε := ε) R S (Pure.pure a) (Pure.pure a') :=
  ⟨fun _ _ _ => .ok h, fun _ _ hR => hR⟩

/-- So do equal exceptions. -/
theorem throw (e : ε) :
    Agree R S (MonadExcept.throw e : EStateM ε σ α) (MonadExcept.throw e : EStateM ε τ α') :=
  ⟨fun _ _ _ => .error e, fun _ _ hR => hR⟩

/-- And outcomes that are alike. -/
theorem ofExcept {y : Except ε α} {y' : Except ε α'} (h : Alike S y y') :
    Agree R S (MonadExcept.ofExcept y : EStateM ε σ α)
      (MonadExcept.ofExcept y' : EStateM ε τ α') := by
  constructor
  · intro s t _
    rwa [outcome_ofExcept, outcome_ofExcept]
  · intro s t hR
    rwa [after_ofExcept, after_ofExcept]

/-- **Composition.** What follows starts from values and states that are related. -/
theorem bind {f : α → EStateM ε σ β} {f' : α' → EStateM ε τ β'} (h : Agree R S x x')
    (hf : ∀ a a', S a a' → Agree R T (f a) (f' a')) : Agree R T (x >>= f) (x' >>= f') := by
  constructor
  · intro s t hR
    rw [outcome_bind, outcome_bind]
    refine (h.outcome s t hR).bind fun a a' haa => ?_
    exact (hf a a' haa).outcome _ _ (h.after s t hR)
  · intro s t hR
    have hafter := h.after s t hR
    have houtcome := h.outcome s t hR
    generalize hx : Stateful.outcome x s = r at houtcome
    generalize hx' : Stateful.outcome x' t = r' at houtcome
    cases houtcome with
    | ok haa =>
      rw [after_bind_of_ok hx, after_bind_of_ok hx']
      exact (hf _ _ haa).after _ _ hafter
    | error e =>
      rw [after_bind_of_error hx, after_bind_of_error hx']
      exact hafter

/-- A last part that only puts the values into another form. -/
theorem map {f : α → β} {f' : α' → β'} (h : Agree R S x x')
    (hf : ∀ a a', S a a' → T (f a) (f' a')) :
    Agree R T (x >>= fun a => Pure.pure (f a)) (x' >>= fun a => Pure.pure (f' a)) :=
  h.bind fun a a' haa => pure (hf a a' haa)

end Agree

end Stateful

/-! ## Machines -/

namespace Machine

variable {σ τ ι ω ω' : Type}

/-- On inputs of the scope, and from related states, a step of the one and a step of the other are
answered alike and end in related states. -/
structure Simulates (M : Machine σ ι ω) (M' : Machine τ ι ω') (scope : ι → Prop)
    (R : σ → τ → Prop) (A : ω → ω' → Prop) : Prop where
  answer : ∀ s t i, scope i → R s t → A (M.answer s i) (M'.answer t i)
  next : ∀ s t i, scope i → R s t → R (M.next s i) (M'.next t i)

variable {M : Machine σ ι ω} {M' : Machine τ ι ω'} {scope : ι → Prop} {R : σ → τ → Prop}
  {A : ω → ω' → Prop} {s : σ} {t : τ} {inputs : List ι}

/-- **Runs answer alike.** -/
theorem Simulates.answers (h : Simulates M M' scope R A) (hR : R s t)
    (hscope : ∀ i ∈ inputs, scope i) :
    List.Forall₂ A (M.answers s inputs) (M'.answers t inputs) := by
  induction inputs generalizing s t with
  | nil => exact .nil
  | cons i inputs ih =>
    obtain ⟨hi, hinputs⟩ := List.forall_mem_cons.mp hscope
    exact .cons (h.answer s t i hi hR) (ih (h.next s t i hi hR) hinputs)

/-- **They end in related states.** -/
theorem Simulates.final (h : Simulates M M' scope R A) (hR : R s t)
    (hscope : ∀ i ∈ inputs, scope i) : R (M.final s inputs) (M'.final t inputs) := by
  induction inputs generalizing s t with
  | nil => exact hR
  | cons i inputs ih =>
    obtain ⟨hi, hinputs⟩ := List.forall_mem_cons.mp hscope
    exact ih (h.next s t i hi hR) hinputs

end Machine

end GovernedMcp.Lib
