import Mathlib.Data.Fintype.Basic
import GovernedMcp.Lib.Rollout

/-!
# Rollouts that are set back

A rollout is abandoned at some point: the replicas are set back to phase `k`, one at a time and in
any order, while they go on issuing tickets and time goes by (`SetBack k f`).

* `Run.phase_le_succ`, `Run.exists_le_phase`: how far apart replicas and tickets can be when that
  begins.
* `SetBack.phase`, `SetBack.ticket`: where replicas and tickets can be while it lasts.
* `SetBack.run_or_forall`: a single replica is still on its rollout, or back.
* `exists_run_forall_phase`: every phase can be reached, by any finite number of replicas.
-/

namespace GovernedMcp.Lib.Rollout

variable {ι T : Type} [AddCommMonoid T] [LinearOrder T]

open Classical in
/-- One replica is set back. -/
noncomputable def Fleet.setBack (f : Fleet ι T) (k : ℕ) (i : ι) : Fleet ι T :=
  { f with phase := Function.update f.phase i k }

omit [AddCommMonoid T] [LinearOrder T] in
/-- A replica that is set back is in that phase. -/
@[simp] theorem phase_setBack_self (f : Fleet ι T) (k : ℕ) (i : ι) :
    (f.setBack k i).phase i = k := by
  simp [Fleet.setBack]

omit [AddCommMonoid T] [LinearOrder T] in
/-- The others stay where they are. -/
theorem phase_setBack_of_ne (f : Fleet ι T) (k : ℕ) {i j : ι} (h : j ≠ i) :
    (f.setBack k i).phase j = f.phase j := by
  simp [Fleet.setBack, h]

/-- What abandoning the rollout at `f` can lead to. -/
inductive SetBack (k : ℕ) (f : Fleet ι T) : Fleet ι T → Prop
  | start : SetBack k f f
  | wait {g : Fleet ι T} (hg : SetBack k f g) (d : T) (hd : 0 ≤ d) :
      SetBack k f { g with now := g.now + d }
  | setBack {g : Fleet ι T} (hg : SetBack k f g) (i : ι) :
      SetBack k f (g.setBack k i)
  | issue {g : Fleet ι T} (hg : SetBack k f g) (i : ι) :
      SetBack k f { g with tickets := ⟨g.phase i, g.now⟩ :: g.tickets }

section setBack

variable {k : ℕ} {f g : Fleet ι T}

/-- A replica is where the rollout left it, or back. -/
theorem SetBack.phase (h : SetBack k f g) (j : ι) : g.phase j = k ∨ g.phase j = f.phase j := by
  induction h with
  | start => exact Or.inr rfl
  | wait _ d hd ih => exact ih
  | setBack _ i ih =>
    by_cases hj : j = i
    · rw [hj, phase_setBack_self]
      exact Or.inl rfl
    · rw [phase_setBack_of_ne _ _ hj]
      exact ih
  | issue _ i ih => exact ih

/-- A ticket is from before, or was issued by a replica that was where the rollout left it, or
back. -/
theorem SetBack.ticket (h : SetBack k f g) {τ : Ticket T} (hτ : τ ∈ g.tickets) :
    τ ∈ f.tickets ∨ τ.phase = k ∨ ∃ j, τ.phase = f.phase j := by
  induction h with
  | start => exact Or.inl hτ
  | wait _ d hd ih => exact ih hτ
  | setBack _ i ih => exact ih hτ
  | issue hg i ih =>
    rcases List.mem_cons.mp hτ with rfl | hτ
    · rcases hg.phase i with hi | hi
      · exact Or.inr (Or.inl hi)
      · exact Or.inr (Or.inr ⟨i, hi⟩)
    · exact ih hτ

/-- **A single replica** is still on its rollout, or back. -/
theorem SetBack.run_or_forall [Subsingleton ι] {grace : ℕ → T} (hrun : Run grace f)
    (h : SetBack k f g) : Run grace g ∨ ∀ j, g.phase j = k := by
  induction h with
  | start => exact Or.inl hrun
  | wait _ d hd ih =>
    rcases ih with ih | ih
    · exact Or.inl (ih.step (.wait _ d hd))
    · exact Or.inr ih
  | setBack _ i _ =>
    right
    intro j
    rw [Subsingleton.elim j i, phase_setBack_self]
  | issue _ i ih =>
    rcases ih with ih | ih
    · exact Or.inl (ih.step (.issue _ i))
    · exact Or.inr ih

end setBack

section run

variable {grace : ℕ → T} {f : Fleet ι T}

/-- No ticket is ahead of all replicas. -/
theorem Run.exists_le_phase (hrun : Run grace f) {τ : Ticket T} (hτ : τ ∈ f.tickets) :
    ∃ j, τ.phase ≤ f.phase j := by
  induction hrun with
  | initial now => simp [Fleet.initial] at hτ
  | step hrun hstep ih =>
    cases hstep with
    | wait d hd => exact ih hτ
    | redeploy i t hcompleted hgrace =>
      obtain ⟨j, hj⟩ := ih hτ
      exact ⟨j, hj.trans (phase_le_redeploy _ i j)⟩
    | issue i =>
      rcases List.mem_cons.mp hτ with rfl | hτ
      · exact ⟨i, le_rfl⟩
      · exact ih hτ

variable [IsOrderedAddMonoid T]

/-- Two replicas are at most one phase apart. -/
theorem Run.phase_le_succ (hrun : Run grace f) (i j : ι) : f.phase i ≤ f.phase j + 1 := by
  rcases hp : f.phase i with _ | p
  · omega
  · obtain ⟨t, ht, -⟩ := hrun.inv.left i p (by omega)
    have hle := (hrun.inv.completed p t ht).1 j
    omega

/-- Some of the replicas have entered the next phase; the others can. -/
structure Entering (grace : ℕ → T) (k : ℕ) (s : Finset ι) (f : Fleet ι T) : Prop where
  run : Run grace f
  entered : ∀ j ∈ s, f.phase j = k + 1
  waiting : ∀ j ∉ s, f.phase j = k
  leave : ∃ t, f.completed k = some t ∧ t + grace k ≤ f.now
  all : (∀ j, j ∈ s) → ∃ t, f.completed (k + 1) = some t

/-- Any number of replicas may have entered the next phase. -/
theorem exists_entering [Nonempty ι] {k : ℕ} (hgrace : 0 ≤ grace k)
    (hrun : Run grace f) (hphase : ∀ j, f.phase j = k) (hcompleted : ∃ t, f.completed k = some t)
    (s : Finset ι) : ∃ g : Fleet ι T, Entering grace k s g := by
  classical
  induction s using Finset.induction_on with
  | empty =>
    obtain ⟨t, ht⟩ := hcompleted
    refine ⟨_, hrun.step (.wait f (grace k) hgrace), by simp, fun j _ => hphase j, ?_, ?_⟩
    · exact ⟨t, ht, add_le_add_left (hrun.inv.completed k t ht).2 (grace k)⟩
    · intro hall
      simpa using hall (Classical.arbitrary ι)
  | insert i s hi ih =>
    obtain ⟨g, hg⟩ := ih
    obtain ⟨t, ht, hle⟩ := hg.leave
    have hk : g.phase i = k := hg.waiting i hi
    have hself : (g.redeploy i).phase i = k + 1 := by simp [Fleet.redeploy, hk]
    have hother : ∀ j, j ≠ i → (g.redeploy i).phase j = g.phase j := by
      intro j hj
      simp [Fleet.redeploy, hj]
    refine ⟨g.redeploy i, hg.run.step (.redeploy g i t (hk ▸ ht) (hk ▸ hle)), ?_, ?_, ?_, ?_⟩
    · intro j hj
      rcases Finset.mem_insert.mp hj with rfl | hj
      · exact hself
      · rw [hother j (ne_of_mem_of_not_mem hj hi)]
        exact hg.entered j hj
    · intro j hj
      rw [Finset.mem_insert, not_or] at hj
      rw [hother j hj.1]
      exact hg.waiting j hj.2
    · exact ⟨t, completed_redeploy_of_some hg.run.inv ht, hle⟩
    · intro hall
      -- the last replica completes the phase
      have hlast : ∀ j, k + 1 ≤ (g.redeploy i).phase j := by
        intro j
        rcases Finset.mem_insert.mp (hall j) with rfl | hj
        · exact hself.ge
        · rw [hother j (ne_of_mem_of_not_mem hj hi)]
          exact (hg.entered j hj).ge
      refine ⟨g.now, ?_⟩
      simp only [Fleet.redeploy]
      rw [if_pos]
      exact ⟨by rw [hk], hlast⟩

/-- **Every phase can be reached.** -/
theorem exists_run_forall_phase [Fintype ι] [Nonempty ι] {grace : ℕ → T}
    (hgrace : ∀ k, 0 ≤ grace k) (now : T) (k : ℕ) : ∃ f : Fleet ι T, Run grace f ∧
      (∀ j, f.phase j = k) ∧ ∃ t, f.completed k = some t := by
  induction k with
  | zero => exact ⟨_, .initial now, fun _ => rfl, now, rfl⟩
  | succ k ih =>
    obtain ⟨f, hrun, hphase, hcompleted⟩ := ih
    obtain ⟨g, hg⟩ := exists_entering (hgrace k) hrun hphase hcompleted Finset.univ
    exact ⟨g, hg.run, fun j => hg.entered j (Finset.mem_univ j), hg.all Finset.mem_univ⟩

end run

end GovernedMcp.Lib.Rollout
