import GovernedMcp.Model.Value

/-!
# What a pending approval means

`governance/approval.py`: the plaintext state of a pending approval, and the check of a state and
of the answers that came back with it.
-/

namespace GovernedMcp.Approval

open Lib

/-- Key for the approval question in the input-requests map. -/
def APPROVAL_KEY : String := "approval"

/-- Approval was absent, refused, or could not be established. -/
structure ApprovalError where
  message : String
  deriving DecidableEq

/-- The beginning of every state this layer issues. -/
def statePrefix : String := "awaiting-approval:"

/-- `s.startswith(beginning)`. -/
def startsWith (s beginning : String) : Bool := beginning.toList.isPrefixOf s.toList

/-- The plaintext state for a pending approval; `nonce` is what `secrets.token_urlsafe(9)` drew.
Source: `approval.py`, `new_pending_state`. -/
def newPendingState (tool nonce : String) : String := s!"awaiting-approval:{tool}:{nonce}"

/-- Source: `approval.py`, `_field`. -/
def field (obj : Json) (name : String) : Json :=
  match obj.asMapping with
  | some entries => Value.get name entries
  | none => obj.attrOr name .none

/-- Did the human actually say yes? Source: `approval.py`, `is_affirmative`. -/
def isAffirmative (answer : Json) : Bool :=
  if !(field answer "action").eqStr "accept" then false
  else
    match ((field answer "content").orElse (.dict [])).asMapping with
    | none => false
    | some content => (Value.get "approve" content).isExactlyTrue

/-- `isinstance(state, str) and state.startswith("awaiting-approval:")`. -/
def isPendingState : Json → Bool
  | .str s => startsWith s statePrefix
  | _ => false

/-- Refuse unless a human approved this call. The tool is not looked at: the state has been bound to
it already. Source: `approval.py`, `check`. -/
def check (state answers : Json) (_tool : String) : Except ApprovalError Unit :=
  if !isPendingState state then .error ⟨"no approval was requested for this call"⟩
  else
    match answers.asMapping with
    | none => .error ⟨"the approval question was not answered"⟩
    | some entries =>
      match Dict.lookup APPROVAL_KEY entries with
      | none => .error ⟨"the approval question was not answered"⟩
      | some answer =>
        if !isAffirmative answer then .error ⟨"a human declined the action"⟩ else .ok ()

/-! ## What the check accepts -/

/-- An answers mapping whose `approval` entry says yes. -/
def Affirms (answers : Json) : Prop :=
  ∃ entries answer, answers = .dict entries ∧ Dict.lookup APPROVAL_KEY entries = some answer ∧
    isAffirmative answer = true

instance (answers : Json) : Decidable (Affirms answers) :=
  match answers with
  | .dict entries =>
    match h : Dict.lookup APPROVAL_KEY entries with
    | some answer =>
      decidable_of_iff (isAffirmative answer = true) (by simp [Affirms, h])
    | none => isFalse (by simp [Affirms, h])
  | .scalar _ | .list _ | .model _ _ => isFalse (by simp [Affirms])

/-- The check passes exactly on a pending state with an affirmative answer. -/
theorem check_eq_ok_iff {state answers : Json} (tool : String) :
    check state answers tool = .ok () ↔ isPendingState state = true ∧ Affirms answers := by
  unfold check
  cases hs : isPendingState state
  · simp
  · rcases answers with a | xs | entries | ⟨c, attrs⟩
    · simp [Affirms, Value.asMapping]
    · simp [Affirms, Value.asMapping]
    · rcases h : Dict.lookup APPROVAL_KEY entries with _ | answer
      · simp [Affirms, Value.asMapping, h]
      · cases ha : isAffirmative answer <;> simp [Affirms, Value.asMapping, h, ha]
    · simp [Affirms, Value.asMapping]

/-- A pending state begins with its prefix. -/
theorem newPendingState_eq (tool nonce : String) :
    newPendingState tool nonce = statePrefix ++ (tool ++ ":" ++ nonce) := by
  show "awaiting-approval:" ++ tool ++ ":" ++ nonce = _
  simp only [String.append_assoc]
  rfl

/-- A state this layer issued is recognised. -/
theorem isPendingState_newPendingState (tool nonce : String) :
    isPendingState (.str (newPendingState tool nonce)) = true := by
  show statePrefix.toList.isPrefixOf (newPendingState tool nonce).toList = true
  rw [newPendingState_eq, String.toList_append, List.isPrefixOf_iff_prefix]
  exact List.prefix_append _ _

/-- A pending state is a string. -/
theorem exists_str_of_isPendingState {state : Json} (h : isPendingState state = true) :
    ∃ s, state = .str s ∧ startsWith s statePrefix = true := by
  unfold isPendingState at h
  split at h
  · exact ⟨_, rfl, h⟩
  · cases h

/-- A pending state is truthy, so it is never replaced by a fallback. -/
theorem truthy_of_isPendingState {state : Json} (h : isPendingState state = true) :
    state.truthy = true := by
  obtain ⟨s, rfl, hs⟩ := exists_str_of_isPendingState h
  rw [Value.truthy_str, bne_iff_ne]
  rintro rfl
  exact absurd hs (by decide)

/-- An affirmative answers mapping is truthy. -/
theorem truthy_of_affirms {answers : Json} (h : Affirms answers) : answers.truthy = true := by
  obtain ⟨entries, answer, rfl, hl, -⟩ := h
  cases entries with
  | nil => simp [Dict.lookup] at hl
  | cons e entries => rfl

end GovernedMcp.Approval
