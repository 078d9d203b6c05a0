import Mathlib.Algebra.Order.Ring.Rat
import Mathlib.Tactic.Linarith
import GovernedMcp.Lib.Rollout
import GovernedMcp.Model.RequestState

/-!
# A key rotation keeps the approvals in flight

The runbook moves every replica through the rings `<old>`, `<old>,<new>`, `<new>,<old>` and `<new>`,
each phase rolled out to all replicas before the next begins, the last one a full lifetime of a
state later. A rollout is a `Rollout.Run`; its tickets are the questions that were asked, each by
the ring of the replica that asked it.

`retryAccepted_of_run`: a retry within the lifetime is unsealed, on whatever replica it arrives.
-/

namespace GovernedMcp.RequestState

open Lib

/-- The sealing of request states. It belongs to the SDK. -/
structure Sealing where
  /-- What is sent to the client. -/
  Token : Type
  /-- Seal a state at some time. -/
  sealAt : RequestStateSecurity → ℚ → String → Token
  /-- Open what a client sent at some time. -/
  unsealAt : RequestStateSecurity → ℚ → Token → Option String

/-- What `request_state.py` relies on: the first key seals, and a state is opened by the rings that
hold its key, until its lifetime is over. -/
def Sealing.Documented (sdk : Sealing) : Prop :=
  ∀ (key : Key) (ring ring' : List Key) (ttl : ℚ) (audience : Option String) (issued now : ℚ)
    (state : String),
    sdk.unsealAt (.shared ring' ttl audience) now
        (sdk.sealAt (.shared (key :: ring) ttl audience) issued state) = some state ↔
      key ∈ ring' ∧ now - issued < ttl

section rotation

variable (old new : Entry) (audience : Option String) (ttl : ℚ)

/-- `MCP_REQUEST_STATE_KEYS` in each phase of the rotation. -/
def environ : ℕ → String
  | 0 => old.text
  | 1 => old.text ++ "," ++ new.text
  | 2 => new.text ++ "," ++ old.text
  | _ => new.text

/-- The entries of the ring in each phase. -/
def ring : ℕ → List Entry
  | 0 => [old]
  | 1 => [old, new]
  | 2 => [new, old]
  | _ => [new]

/-- The last phase waits for a full lifetime after the one before. -/
def grace (k : ℕ) : ℚ := if k = 2 then ttl else 0

/-- The policy a replica builds in phase `k`. -/
def security (k : ℕ) : Traced LogLine RequestStateKeyError RequestStateSecurity :=
  build (some (environ old new k)) audience ttl

/-- A state that was sealed as the ticket says is unsealed by replica `j` right now. -/
def RetryAccepted (sdk : Sealing) {ι : Type} (f : Rollout.Fleet ι ℚ) (τ : Rollout.Ticket ℚ)
    (j : ι) : Prop :=
  ∃ asking answering, (security old new audience ttl τ.phase).value = .ok asking ∧
    (security old new audience ttl (f.phase j)).value = .ok answering ∧
    ∀ state, sdk.unsealAt answering f.now (sdk.sealAt asking τ.issued state) = some state

/-- The variable of a phase is the text of its ring. -/
theorem environ_eq_ringText (k : ℕ) : environ old new k = ringText (ring old new k) := by
  unfold environ ring
  split
  · rfl
  · rfl
  · rfl
  · rfl

/-- The old key seals before phase two, the new one from there on. -/
def sealer (k : ℕ) : Entry := if k < 2 then old else new

/-- The first key of a ring is the one that seals. -/
theorem exists_ring_eq_cons (k : ℕ) : ∃ rest, ring old new k = sealer old new k :: rest := by
  unfold ring sealer
  split
  · exact ⟨_, rfl⟩
  · exact ⟨_, rfl⟩
  · exact ⟨_, rfl⟩
  · rename_i h₀ h₁ h₂
    have hk : ¬k < 2 := by
      intro hlt
      rcases k with _ | _ | k
      · exact h₀ rfl
      · exact h₁ rfl
      · omega
    rw [if_neg hk]
    exact ⟨_, rfl⟩

/-- Every replica of the rotation has a shared ring, whose first key is that of the sealer. -/
theorem value_security (k : ℕ) : ∃ rest, ring old new k = sealer old new k :: rest ∧
    (security old new audience ttl k).value =
      .ok (.shared ((sealer old new k).key :: rest.map Entry.key) ttl audience) := by
  obtain ⟨rest, hring⟩ := exists_ring_eq_cons old new k
  refine ⟨rest, hring, ?_⟩
  rw [security, environ_eq_ringText, hring, value_build_ringText]
  rfl

/-- The sealer of phase `p` is in the ring of phase `q`, unless `p` is at least two phases ahead, or
phase two lies strictly between them. -/
theorem sealer_mem_ring {p q : ℕ} (hahead : p ≤ q + 1) (hbetween : p < 2 → q ≤ 2) :
    sealer old new p ∈ ring old new q := by
  unfold sealer
  split_ifs with hp
  · have hq := hbetween hp
    rcases q with _ | _ | _ | q
    · simp [ring]
    · simp [ring]
    · simp [ring]
    · omega
  · rcases q with _ | _ | _ | q
    · omega
    · simp [ring]
    · simp [ring]
    · simp [ring]

/-- A state is accepted by the replicas that hold the key of its sealer, for its lifetime. -/
theorem retryAccepted_iff {sdk : Sealing} (hsdk : sdk.Documented) {ι : Type}
    {f : Rollout.Fleet ι ℚ} {τ : Rollout.Ticket ℚ} {j : ι} :
    RetryAccepted old new audience ttl sdk f τ j ↔
      (sealer old new τ.phase).key ∈ (ring old new (f.phase j)).map Entry.key ∧
        f.now - τ.issued < ttl := by
  obtain ⟨rest, hasking, hseals⟩ := value_security old new audience ttl τ.phase
  obtain ⟨rest', hanswering, hunseals⟩ := value_security old new audience ttl (f.phase j)
  have hkeys : (ring old new (f.phase j)).map Entry.key =
      (sealer old new (f.phase j)).key :: rest'.map Entry.key := by
    rw [hanswering]
    rfl
  unfold RetryAccepted
  rw [hseals, hunseals, hkeys]
  constructor
  · rintro ⟨asking, answering, hask, hanswer, hall⟩
    cases hask
    cases hanswer
    exact (hsdk _ _ _ ttl audience τ.issued f.now "").mp (hall "")
  · intro h
    exact ⟨_, _, rfl, rfl, fun state =>
      (hsdk _ _ _ ttl audience τ.issued f.now state).mpr h⟩

/-- In a rollout every replica holds the key of an unexpired state. -/
theorem sealer_mem_ring_of_run {ι : Type} {f : Rollout.Fleet ι ℚ}
    (hrun : Rollout.Run (grace ttl) f) {τ : Rollout.Ticket ℚ} (hτ : τ ∈ f.tickets) (j : ι)
    (hage : f.now - τ.issued < ttl) : sealer old new τ.phase ∈ ring old new (f.phase j) := by
  obtain ⟨hahead, hgrace⟩ := hrun.ticket hτ j
  apply sealer_mem_ring old new hahead
  intro hp
  by_contra hq
  -- the ticket would have outlived the wait before the last phase
  have hexpired := hgrace 2 hp (by omega)
  rw [grace, if_pos rfl] at hexpired
  linarith

end rotation

/-- **No retry is rejected.** Whatever the order of the redeployments, and however questions and
waiting interleave with them, a state younger than its lifetime is unsealed on every replica. -/
theorem retryAccepted_of_run {sdk : Sealing} (hsdk : sdk.Documented) (old new : Entry)
    (audience : Option String) (ttl : ℚ) {ι : Type} {f : Rollout.Fleet ι ℚ}
    (hrun : Rollout.Run (grace ttl) f) {τ : Rollout.Ticket ℚ} (hτ : τ ∈ f.tickets) (j : ι)
    (hage : f.now - τ.issued < ttl) : RetryAccepted old new audience ttl sdk f τ j := by
  rw [retryAccepted_iff old new audience ttl hsdk]
  have hmem := sealer_mem_ring_of_run old new ttl hrun hτ j hage
  exact ⟨List.mem_map_of_mem hmem, hage⟩

/-! ## A run of the rotation -/

/-- A sealing that keeps the key, the time and the state in the clear. -/
@[reducible] def plainSealing : Sealing where
  Token := Option Key × ℚ × String
  sealAt security issued state :=
    match security with
    | .shared keys _ _ => (keys.head?, issued, state)
    | .ephemeral _ _ => (none, issued, state)
  unsealAt security now token :=
    match security, token with
    | .shared keys ttl _, (some key, issued, state) =>
      if key ∈ keys ∧ now - issued < ttl then some state else none
    | _, _ => none

/-- It unseals what was sealed under a key of the ring. -/
theorem documented_plainSealing : plainSealing.Documented := by
  intro key ring ring' ttl audience issued now state
  show (if key ∈ ring' ∧ now - issued < ttl then some state else none) = some state ↔ _
  split_ifs with h
  · simp [h]
  · simp [h]

/-- Two keys of 32 bytes. -/
def oldEntry : Entry where
  text := "AAAAAAAAAAAAAAAAAAAAAAAAAAAAAAAAAAAAAAAAAAA="
  key := List.replicate 32 0
  decodes := by decide
  long := by decide

def newEntry : Entry where
  text := "////////////////////////////////////////////"
  key := List.replicate 33 255
  decodes := by decide
  long := by decide

/-- Two replicas: a question was asked before the rotation, and one replica has entered phase
one. -/
noncomputable def duringRollout : Rollout.Fleet Bool ℚ :=
  Rollout.Fleet.redeploy { Rollout.Fleet.initial 0 with tickets := [⟨0, 0⟩] } true

/-- The fleet gets there by steps of the procedure. -/
theorem run_duringRollout : Rollout.Run (grace 600) duringRollout := by
  refine .step (.step (.initial 0) (.issue _ false)) (.redeploy _ true 0 rfl ?_)
  simp [grace, Rollout.Fleet.initial]

/-- The replica that holds both keys unseals the state of the old ring. -/
theorem retryAccepted_duringRollout : duringRollout.phase true = 1 ∧
    RetryAccepted oldEntry newEntry none 600 plainSealing duringRollout ⟨0, 0⟩ true := by
  constructor
  · simp [duringRollout, Rollout.Fleet.redeploy, Rollout.Fleet.initial]
  · apply retryAccepted_of_run documented_plainSealing oldEntry newEntry none 600 run_duringRollout
    · simp [duringRollout, Rollout.Fleet.redeploy]
    · norm_num [duringRollout, Rollout.Fleet.redeploy, Rollout.Fleet.initial]

end GovernedMcp.RequestState
