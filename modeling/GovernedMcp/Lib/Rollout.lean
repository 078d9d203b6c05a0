import Mathlib.Algebra.Order.Monoid.Defs
import Mathlib.Logic.Function.Basic

/-!
# Staged rollouts

A fleet of replicas goes through the phases `0, 1, 2, …` of a configuration change, one replica at a
time and in any order. A replica may enter phase `k + 1` once every replica has reached phase `k`,
and `grace k` has passed since the last one did. Meanwhile every replica issues tickets, which
remember the phase they were issued in.

Any number of replicas, any timing: a `Run` interleaves waiting, redeploying and issuing. The
question is what a replica of one phase may be presented with, and `Run.ticket` answers it: tickets
of its own phase, of the next, and of any earlier one, but these only until the grace periods
between the two are over.
-/

namespace GovernedMcp.Lib.Rollout

variable {ι T : Type}

/-- What a replica hands out. -/
structure Ticket (T : Type) where
  /-- The phase of the replica that issued it. -/
  phase : ℕ
  /-- When it was issued. -/
  issued : T

/-- The fleet at some moment. -/
structure Fleet (ι T : Type) where
  now : T
  phase : ι → ℕ
  /-- When the last replica reached a phase. -/
  completed : ℕ → Option T
  tickets : List (Ticket T)

open Classical in
/-- One replica enters its next phase. -/
noncomputable def Fleet.redeploy (f : Fleet ι T) (i : ι) : Fleet ι T :=
  { f with
    phase := Function.update f.phase i (f.phase i + 1)
    completed := fun k =>
      if k = f.phase i + 1 ∧ ∀ j, k ≤ Function.update f.phase i (f.phase i + 1) j then some f.now
      else f.completed k }

/-- A phase is completed by the replica that is last to reach it. -/
theorem completed_redeploy {f : Fleet ι T} {k : ℕ} {t : T} {i : ι}
    (h : (f.redeploy i).completed k = some t) :
    f.completed k = some t ∨ t = f.now ∧ ∀ j, k ≤ (f.redeploy i).phase j := by
  simp only [Fleet.redeploy] at h ⊢
  split_ifs at h with hk
  · cases h
    exact Or.inr ⟨rfl, hk.2⟩
  · exact Or.inl h

/-- Redeploying sets no replica back. -/
theorem phase_le_redeploy (f : Fleet ι T) (i j : ι) : f.phase j ≤ (f.redeploy i).phase j := by
  simp only [Fleet.redeploy, Function.update_apply]
  split_ifs with hj
  · rw [hj]
    omega
  · exact le_rfl

/-- Before the rollout every replica is in phase `0`. -/
def Fleet.initial (now : T) : Fleet ι T where
  now
  phase _ := 0
  completed k := if k = 0 then some now else none
  tickets := []

variable [AddCommMonoid T] [LinearOrder T]

/-- What can happen to the fleet. -/
inductive Step (grace : ℕ → T) : Fleet ι T → Fleet ι T → Prop
  | wait (f : Fleet ι T) (d : T) (hd : 0 ≤ d) : Step grace f { f with now := f.now + d }
  | redeploy (f : Fleet ι T) (i : ι) (t : T) (hcompleted : f.completed (f.phase i) = some t)
      (hgrace : t + grace (f.phase i) ≤ f.now) : Step grace f (f.redeploy i)
  | issue (f : Fleet ι T) (i : ι) :
      Step grace f { f with tickets := ⟨f.phase i, f.now⟩ :: f.tickets }

/-- The fleets that a rollout can lead to. -/
inductive Run (grace : ℕ → T) : Fleet ι T → Prop
  | initial (now : T) : Run grace (Fleet.initial now)
  | step {f f' : Fleet ι T} (hrun : Run grace f) (hstep : Step grace f f') : Run grace f'

/-! ## The invariant -/

/-- What holds in every run. -/
structure Inv (grace : ℕ → T) (f : Fleet ι T) : Prop where
  /-- A completed phase has been reached by all, and not in the future. -/
  completed : ∀ k t, f.completed k = some t → (∀ j, k ≤ f.phase j) ∧ t ≤ f.now
  /-- A phase a replica has left is completed, and its grace period over. -/
  left : ∀ j k, k < f.phase j → ∃ t, f.completed k = some t ∧ t + grace k ≤ f.now
  /-- Every ticket is from the past. -/
  issued : ∀ τ ∈ f.tickets, τ.issued ≤ f.now
  /-- The phases before that of a ticket are completed. -/
  before : ∀ τ ∈ f.tickets, ∀ k < τ.phase, ∃ t, f.completed k = some t
  /-- A ticket is no younger than the completion of any phase after its own. -/
  after : ∀ τ ∈ f.tickets, ∀ k t, τ.phase < k → f.completed k = some t → τ.issued ≤ t

section step

variable {grace : ℕ → T} {f : Fleet ι T}

/-- The invariant holds at the start. -/
theorem inv_initial (now : T) : Inv grace (Fleet.initial now : Fleet ι T) := by
  constructor
  · intro k t h
    simp only [Fleet.initial] at h ⊢
    split_ifs at h with hk
    cases h
    exact ⟨fun _ => hk.le, le_rfl⟩
  · intro j k hk
    exact absurd hk (Nat.not_lt_zero k)
  all_goals
    intro τ hτ
    simp [Fleet.initial] at hτ

/-- Issuing a ticket keeps it. -/
theorem inv_issue (h : Inv grace f) (i : ι) :
    Inv grace { f with tickets := ⟨f.phase i, f.now⟩ :: f.tickets } := by
  refine ⟨h.completed, h.left, ?_, ?_, ?_⟩
  · intro τ hτ
    rcases List.mem_cons.mp hτ with rfl | hτ
    · exact le_rfl
    · exact h.issued τ hτ
  · intro τ hτ k hk
    rcases List.mem_cons.mp hτ with rfl | hτ
    · obtain ⟨t, ht, -⟩ := h.left i k hk
      exact ⟨t, ht⟩
    · exact h.before τ hτ k hk
  · intro τ hτ k t hk ht
    rcases List.mem_cons.mp hτ with rfl | hτ
    · -- the issuing replica has not reached phase `k`
      exact absurd ((h.completed k t ht).1 i) (not_le.mpr hk)
    · exact h.after τ hτ k t hk ht

/-- A phase that was completed already is not completed again. -/
theorem completed_redeploy_of_some (h : Inv grace f) {k : ℕ} {t : T} {i : ι}
    (ht : f.completed k = some t) : (f.redeploy i).completed k = some t := by
  simp only [Fleet.redeploy]
  split_ifs with hk
  · have hle := (h.completed k t ht).1 i
    omega
  · exact ht

/-- Redeploying a replica keeps it, where the procedure allows to. -/
theorem inv_redeploy (h : Inv grace f) {i : ι} {t : T}
    (hcompleted : f.completed (f.phase i) = some t) (hgrace : t + grace (f.phase i) ≤ f.now) :
    Inv grace (f.redeploy i) := by
  refine ⟨?_, ?_, h.issued, ?_, ?_⟩
  · intro k s hs
    rcases completed_redeploy hs with hs | ⟨rfl, hall⟩
    · obtain ⟨hall, hle⟩ := h.completed k s hs
      exact ⟨fun j => (hall j).trans (phase_le_redeploy f i j), hle⟩
    · exact ⟨hall, le_rfl⟩
  · intro j k hk
    by_cases hlt : k < f.phase j
    · obtain ⟨s, hs, hle⟩ := h.left j k hlt
      exact ⟨s, completed_redeploy_of_some h hs, hle⟩
    · -- only the redeployed replica has left a phase, namely the one it was in
      have hki : k = f.phase i := by
        simp only [Fleet.redeploy, Function.update_apply] at hk
        split_ifs at hk with hj
        · rw [hj] at hlt
          omega
        · exact absurd hk hlt
      rw [hki]
      exact ⟨t, completed_redeploy_of_some h hcompleted, hgrace⟩
  · intro τ hτ k hk
    obtain ⟨s, hs⟩ := h.before τ hτ k hk
    exact ⟨s, completed_redeploy_of_some h hs⟩
  · intro τ hτ k s hk hs
    rcases completed_redeploy hs with hs | ⟨rfl, -⟩
    · exact h.after τ hτ k s hk hs
    · exact h.issued τ hτ

variable [IsOrderedAddMonoid T]

/-- Waiting keeps it. -/
theorem inv_wait (h : Inv grace f) {d : T} (hd : 0 ≤ d) :
    Inv grace { f with now := f.now + d } := by
  have hnow : f.now ≤ f.now + d := le_add_of_nonneg_right hd
  refine ⟨?_, ?_, fun τ hτ => (h.issued τ hτ).trans hnow, h.before, h.after⟩
  · intro k t ht
    exact ⟨(h.completed k t ht).1, (h.completed k t ht).2.trans hnow⟩
  · intro j k hk
    obtain ⟨t, ht, hle⟩ := h.left j k hk
    exact ⟨t, ht, hle.trans hnow⟩

/-- Every step keeps the invariant. -/
theorem inv_step {f' : Fleet ι T} (h : Inv grace f) (hstep : Step grace f f') : Inv grace f' := by
  cases hstep with
  | wait d hd => exact inv_wait h hd
  | redeploy i t hcompleted hgrace => exact inv_redeploy h hcompleted hgrace
  | issue i => exact inv_issue h i

/-- Every run keeps the invariant. -/
theorem Run.inv (hrun : Run grace f) : Inv grace f := by
  induction hrun with
  | initial now => exact inv_initial now
  | step _ hstep ih => exact inv_step ih hstep

/-- **What a replica may be presented with**: tickets of phases up to the next one; and one from a
phase further back only after the grace periods in between. -/
theorem Run.ticket (hrun : Run grace f) {τ : Ticket T} (hτ : τ ∈ f.tickets) (j : ι) :
    τ.phase ≤ f.phase j + 1 ∧
      ∀ k, τ.phase < k → k < f.phase j → τ.issued + grace k ≤ f.now := by
  have h := hrun.inv
  constructor
  · rcases hp : τ.phase with _ | p
    · omega
    · obtain ⟨t, ht⟩ := h.before τ hτ p (by omega)
      have hle := (h.completed p t ht).1 j
      omega
  · intro k hk hkj
    obtain ⟨t, ht, hgrace⟩ := h.left j k hkj
    exact (add_le_add_left (h.after τ hτ k t hk ht) (grace k)).trans hgrace

end step

end GovernedMcp.Lib.Rollout
