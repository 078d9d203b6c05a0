import Mathlib.Data.Nat.Notation
import Mathlib.Order.Defs.Unbundled

/-!
# Machines that answer

A machine answers an input from its state and goes on in another one. `stateAt s inputs n` is where
a run that starts in `s` is before the input at place `n`, and `answers s inputs` what it answers.

* `getElem?_answers`: an answer is the one that the state of its place gives to the input there.
* `Preserves P`: a step keeps `P`. A run then keeps it, from any place on (`Preserves.stateAt`).
* `related_stateAt`: where a step stays in a preorder, so does a run, between any two places.
* `holds_of_restored`: what some steps break and others restore.
-/

namespace GovernedMcp.Lib

/-- A machine with states `σ`, inputs `ι` and answers `ω`. -/
structure Machine (σ ι ω : Type) where
  answer : σ → ι → ω
  next : σ → ι → σ

namespace Machine

variable {σ ι ω : Type} (M : Machine σ ι ω)

/-- The state after some inputs. -/
def final (s : σ) (inputs : List ι) : σ := inputs.foldl M.next s

/-- The state before the input at a place. -/
def stateAt (s : σ) (inputs : List ι) (n : ℕ) : σ := M.final s (inputs.take n)

/-- The answers, first to last. -/
def answers (s : σ) : List ι → List ω
  | [] => []
  | i :: inputs => M.answer s i :: answers (M.next s i) inputs

/-- A run that goes on. -/
theorem final_append (s : σ) (inputs later : List ι) :
    M.final s (inputs ++ later) = M.final (M.final s inputs) later :=
  List.foldl_append

/-! ## Places of a run -/

section places

variable {M} {s : σ} {inputs : List ι} {i : ι} {n : ℕ}

/-- A later place of a run is one of the run from the second state. -/
theorem stateAt_cons_succ :
    M.stateAt s (i :: inputs) (n + 1) = M.stateAt (M.next s i) inputs n := rfl

/-- **One answer of a run.** -/
theorem getElem?_answers : (M.answers s inputs)[n]? =
    inputs[n]?.map fun i => M.answer (M.stateAt s inputs n) i := by
  induction inputs generalizing s n with
  | nil => rfl
  | cons i inputs ih =>
    cases n with
    | zero => rfl
    | succ n =>
      rw [stateAt_cons_succ]
      exact ih

/-- The same, where the input at the place is known. -/
theorem getElem?_answers_of_some (h : inputs[n]? = some i) :
    (M.answers s inputs)[n]? = some (M.answer (M.stateAt s inputs n) i) := by
  rw [getElem?_answers, h]
  rfl

/-- One step of a run. -/
theorem stateAt_succ (h : inputs[n]? = some i) :
    M.stateAt s inputs (n + 1) = M.next (M.stateAt s inputs n) i := by
  unfold stateAt final
  rw [List.take_add_one, h, List.foldl_append]
  rfl

/-- After its last input a run stays where it is. -/
theorem stateAt_succ_of_none (h : inputs[n]? = none) :
    M.stateAt s inputs (n + 1) = M.stateAt s inputs n := by
  unfold stateAt
  rw [List.take_add_one, h]
  simp

end places

/-! ## What a run keeps -/

/-- Every step keeps `P`. -/
def Preserves (P : σ → Prop) : Prop := ∀ s i, P s → P (M.next s i)

variable {M} {s : σ} {inputs : List ι}

/-- **From any place on** a run keeps what a step keeps. -/
theorem Preserves.stateAt {P : σ → Prop} (h : M.Preserves P) {m n : ℕ} (hmn : m ≤ n)
    (hP : P (M.stateAt s inputs m)) : P (M.stateAt s inputs n) := by
  induction hmn with
  | refl => exact hP
  | @step n _ ih =>
    cases hn : inputs[n]? with
    | none => rwa [stateAt_succ_of_none hn]
    | some i =>
      rw [stateAt_succ hn]
      exact h _ i ih

/-- An invariant of the first state holds throughout. -/
theorem Preserves.of_start {P : σ → Prop} (h : M.Preserves P) (hP : P s) (n : ℕ) :
    P (M.stateAt s inputs n) :=
  h.stateAt (Nat.zero_le n) hP

/-- And at the end. -/
theorem Preserves.final {P : σ → Prop} (h : M.Preserves P) (hP : P s) (inputs : List ι) :
    P (M.final s inputs) := by
  have hend : P (M.stateAt s inputs inputs.length) := h.of_start hP inputs.length
  rwa [Machine.stateAt, List.take_length] at hend

/-- **Where steps stay in a preorder** any two places of a run are related. -/
theorem related_stateAt {R : σ → σ → Prop} [IsPreorder σ R] (h : ∀ s i, R s (M.next s i))
    {m n : ℕ} (hmn : m ≤ n) : R (M.stateAt s inputs m) (M.stateAt s inputs n) := by
  have hstep : M.Preserves (R (M.stateAt s inputs m)) := by
    intro t i ht
    exact trans_of R ht (h t i)
  exact hstep.stateAt hmn (refl_of R _)

/-- **A property that some steps break** and others restore: it holds where every step that breaks
it is followed by one that restores it. -/
theorem holds_of_restored {P : σ → Prop} {breaks restores : ℕ → Prop} (hstart : P s)
    (hkeeps : ∀ n, ¬breaks n → P (M.stateAt s inputs n) → P (M.stateAt s inputs (n + 1)))
    (hrestores : ∀ n, restores n → P (M.stateAt s inputs (n + 1))) {n : ℕ}
    (h : ∀ j < n, breaks j → ∃ l, j < l ∧ l < n ∧ restores l) : P (M.stateAt s inputs n) := by
  induction n with
  | zero => exact hstart
  | succ n ih =>
    by_cases hn : restores n
    · exact hrestores n hn
    · have hbreaks : ¬breaks n := by
        intro hbreaks
        obtain ⟨l, hnl, hl, -⟩ := h n (Nat.lt_succ_self n) hbreaks
        exact absurd hl (Nat.not_lt.mpr hnl)
      apply hkeeps n hbreaks
      apply ih
      intro j hj hbreaks
      obtain ⟨l, hjl, hl, hrestores⟩ := h j (Nat.lt_succ_of_lt hj) hbreaks
      -- the last step does not restore it, so an earlier one does
      have hne : l ≠ n := fun heq => hn (heq ▸ hrestores)
      exact ⟨l, hjl, Nat.lt_of_le_of_ne (Nat.le_of_lt_succ hl) hne, hrestores⟩

end Machine

end GovernedMcp.Lib
