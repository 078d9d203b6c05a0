import GovernedMcp.Approval.KeyRotation
import GovernedMcp.Lib.Rollback

/-!
# Rolling a key rotation back

The runbook's way out of a rotation that goes wrong is to set the ring back to `<old>,<new>`, the
ring of phase one, on one replica after the other. A replica that is back seals with the old key
again, which a replica of phase three has dropped.

* `RollbackSafe f`: from `f` on, no unexpired state is rejected while the rollback lasts.
* `rollbackSafe_of_phase_le_two`, `rollbackSafe_of_subsingleton`: before phase three the rollback is
  safe, and a single replica is safe anyway.
* `not_rollbackSafe`: two replicas, one of them in phase three, are not.
* `rollbackSafe_iff`: so that is exactly when the rollback is safe.
-/

namespace GovernedMcp.RequestState

open Lib

section rollback

variable (old new : Entry) (audience : Option String) (ttl : ℚ)

/-- At every moment of the rollback every unexpired state is unsealed on every replica. -/
def RollbackSafe (sdk : Sealing) {ι : Type} (f : Rollout.Fleet ι ℚ) : Prop :=
  ∀ g, Rollout.SetBack 1 f g → ∀ τ ∈ g.tickets, ∀ j, g.now - τ.issued < ttl →
    RetryAccepted old new audience ttl sdk g τ j

/-- The ring of phase one holds the key of any sealer. -/
theorem sealer_mem_ring_one (p : ℕ) : sealer old new p ∈ ring old new 1 := by
  unfold sealer
  split_ifs with hp
  · simp [ring]
  · simp [ring]

variable {sdk : Sealing} {ι : Type} {f g : Rollout.Fleet ι ℚ}

/-- Before phase three no ticket is more than one phase ahead of a replica, back or not. -/
theorem phase_le_succ_of_setBack (hrun : Rollout.Run (grace ttl) f)
    (hphase : ∀ j, f.phase j ≤ 2) (hback : Rollout.SetBack 1 f g) {τ : Rollout.Ticket ℚ}
    (hτ : τ ∈ g.tickets) (j : ι) : τ.phase ≤ g.phase j + 1 := by
  have hticket : τ.phase = 1 ∨ ∃ i, τ.phase ≤ f.phase i := by
    rcases hback.ticket hτ with hτ | hone | ⟨i, hi⟩
    · exact Or.inr (hrun.exists_le_phase hτ)
    · exact Or.inl hone
    · exact Or.inr ⟨i, hi.le⟩
  rcases hticket with hone | ⟨i, hi⟩
  · omega
  · have hnear := hrun.phase_le_succ i j
    have htwo := hphase i
    rcases hback.phase j with hj | hj
    · omega
    · omega

/-- **Before phase three the rollback is safe.** -/
theorem rollbackSafe_of_phase_le_two (hsdk : sdk.Documented) (hrun : Rollout.Run (grace ttl) f)
    (hphase : ∀ j, f.phase j ≤ 2) : RollbackSafe old new audience ttl sdk f := by
  intro g hback τ hτ j hage
  rw [retryAccepted_iff old new audience ttl hsdk]
  refine ⟨List.mem_map_of_mem (sealer_mem_ring old new ?_ fun _ => ?_), hage⟩
  · exact phase_le_succ_of_setBack ttl hrun hphase hback hτ j
  · have htwo := hphase j
    rcases hback.phase j with hj | hj
    · omega
    · omega

/-- **A single replica** can be rolled back at any time. -/
theorem rollbackSafe_of_subsingleton [Subsingleton ι] (hsdk : sdk.Documented)
    (hrun : Rollout.Run (grace ttl) f) : RollbackSafe old new audience ttl sdk f := by
  intro g hback τ hτ j hage
  rw [retryAccepted_iff old new audience ttl hsdk]
  refine ⟨List.mem_map_of_mem ?_, hage⟩
  rcases hback.run_or_forall hrun with hrun' | hone
  · exact sealer_mem_ring_of_run old new ttl hrun' hτ j hage
  · rw [hone j]
    exact sealer_mem_ring_one old new τ.phase

/-- **In phase three it is not safe**, as soon as there is a second replica: that one goes back
first, and the state it seals is not unsealed by the other. -/
theorem not_rollbackSafe (hsdk : sdk.Documented) (hkeys : old.key ≠ new.key) (httl : 0 < ttl)
    {i j : ι} (hij : i ≠ j) (hj : 3 ≤ f.phase j) :
    ¬RollbackSafe old new audience ttl sdk f := by
  intro hsafe
  have hback : Rollout.SetBack 1 f (f.setBack 1 i) := .setBack .start i
  have hissued := hback.issue i
  have haccepted := hsafe _ hissued ⟨(f.setBack 1 i).phase i, (f.setBack 1 i).now⟩
    List.mem_cons_self j (by simpa using httl)
  rw [retryAccepted_iff old new audience ttl hsdk] at haccepted
  have hmem := haccepted.1
  rw [Rollout.phase_setBack_self, Rollout.phase_setBack_of_ne f 1 hij.symm] at hmem
  rcases hphase : f.phase j with _ | _ | _ | q
  · omega
  · omega
  · omega
  · rw [hphase] at hmem
    exact hkeys (by simpa [sealer, ring] using hmem)

/-- **When the rollback is safe**: when no replica has entered phase three, or there is no other
replica. -/
theorem rollbackSafe_iff (hsdk : sdk.Documented) (hkeys : old.key ≠ new.key) (httl : 0 < ttl)
    (hrun : Rollout.Run (grace ttl) f) :
    RollbackSafe old new audience ttl sdk f ↔ ∀ j, 3 ≤ f.phase j → ∀ i, i = j := by
  constructor
  · intro hsafe j hj i
    by_contra hij
    exact not_rollbackSafe old new audience ttl hsdk hkeys httl hij hj hsafe
  · intro h
    by_cases hthree : ∃ j, 3 ≤ f.phase j
    · obtain ⟨j, hj⟩ := hthree
      have : Subsingleton ι := ⟨fun a b => (h j hj a).trans (h j hj b).symm⟩
      exact rollbackSafe_of_subsingleton old new audience ttl hsdk hrun
    · apply rollbackSafe_of_phase_le_two old new audience ttl hsdk hrun
      intro j
      by_contra hj
      exact hthree ⟨j, by omega⟩

end rollback

/-! ## Two replicas -/

/-- The two keys are not the same. -/
theorem key_oldEntry_ne_key_newEntry : oldEntry.key ≠ newEntry.key := by decide

/-- While phase one is rolled out, the rollback is safe. -/
theorem rollbackSafe_duringRollout :
    RollbackSafe oldEntry newEntry none 600 plainSealing duringRollout := by
  refine (rollbackSafe_iff oldEntry newEntry none 600 documented_plainSealing
    key_oldEntry_ne_key_newEntry (by norm_num) run_duringRollout).mpr ?_
  intro j hj
  cases j <;> simp [duringRollout, Rollout.Fleet.redeploy, Rollout.Fleet.initial] at hj

/-- **After phase three it is not**: there is a rotation of two replicas, completed as the runbook
says, from which the rollback rejects an unexpired state. -/
theorem not_rollbackSafe_of_completed : plainSealing.Documented ∧
    ∃ f : Rollout.Fleet Bool ℚ, Rollout.Run (grace 600) f ∧ (∀ j, f.phase j = 3) ∧
      ¬RollbackSafe oldEntry newEntry none 600 plainSealing f := by
  refine ⟨documented_plainSealing, ?_⟩
  have hgrace : ∀ k, 0 ≤ grace 600 k := by
    intro k
    unfold grace
    split_ifs <;> norm_num
  have hreach : ∃ f : Rollout.Fleet Bool ℚ, Rollout.Run (grace 600) f ∧ (∀ j, f.phase j = 3) ∧
      ∃ t, f.completed 3 = some t := Rollout.exists_run_forall_phase hgrace 0 3
  obtain ⟨f, hrun, hphase, -⟩ := hreach
  refine ⟨f, hrun, hphase, ?_⟩
  exact not_rollbackSafe oldEntry newEntry none 600 documented_plainSealing
    key_oldEntry_ne_key_newEntry (by norm_num) Bool.false_ne_true (hphase true).ge

end GovernedMcp.RequestState
