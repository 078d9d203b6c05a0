import Mathlib.Data.List.Forall2
import GovernedMcp.Enforcement.Plan

/-!
# The audit trail agrees with enforcement

Records are written at four places by two methods, and the control flow of a request can end in
three ways. `Accounted` lists which records go with which ending; both guards only ever produce
plans of these five kinds (`accounted_toolPlan`, `accounted_resourcePlan`), so whatever is asked of
the records of one request is read off the list.

* `AuditAgrees`: what one request leaves in the trail, against what became of the request.
* `auditTrail_agrees`: the same for a run of requests, with the trail cut down to the level WARNING.
-/

namespace GovernedMcp

open Lib PolicyEnforcementMiddleware

/-! ## Which records go with which ending -/

/-- A record is written at WARNING exactly when it is a denial. -/
def Audit.Record.Levelled (r : Audit.Record) : Prop := r.level = .warning ↔ r.outcome = "deny"

/-- The record of the decision on `target`, made by a guard for `method`. -/
structure Audit.Record.Decides (r : Audit.Record) (method target outcome : String) : Prop where
  method : r.method = method
  target : r.target = target
  outcome : r.outcome = outcome
  levelled : r.Levelled

/-- The plans of the enforcing middleware for a request with this method and target; `gated` says
whether the approval gate was reached. -/
inductive Accounted (method target : String) : (gated : Prop) → Plan → Prop
  | denied {gated : Prop} {r : Audit.Record} {e : MCPError} (hr : r.Decides method target "deny")
      (hgated : ¬ gated) (he : e.code = AUTHORIZATION_DENIED) :
      Accounted method target gated ⟨[r], .refuse e⟩
  | allowed {gated : Prop} {r : Audit.Record} (hr : r.Decides method target "allow")
      (hgated : ¬ gated) : Accounted method target gated ⟨[r], .forward⟩
  | pending {gated : Prop} {r a : Audit.Record} {asked : InputRequiredResult}
      (hr : r.Decides method target "allow") (ha : a.Decides "approval" target "pending")
      (hgated : gated) : Accounted method target gated ⟨[r, a], .pause asked⟩
  | refused {gated : Prop} {r a : Audit.Record} {e : MCPError}
      (hr : r.Decides method target "allow") (ha : a.Decides "approval" target "deny")
      (hgated : gated) (he : e.code = AUTHORIZATION_DENIED) :
      Accounted method target gated ⟨[r, a], .refuse e⟩
  | approved {gated : Prop} {r a : Audit.Record} (hr : r.Decides method target "allow")
      (ha : a.Decides "approval" target "allow") (hgated : gated) :
      Accounted method target gated ⟨[r, a], .forward⟩

/-- The record of a decision says what the decision says. -/
theorem decides_record {principal method : String} {decision : Decision}
    {arguments : Option (List (String × Json))} {protocolVersion : Option String} :
    (Audit.record principal method decision arguments protocolVersion none).Decides method
      decision.target (if decision.allowed then "allow" else "deny") :=
  ⟨rfl, rfl, rfl, Audit.level_record_eq_warning_iff⟩

/-- A record of the approval gate, with what it says. -/
theorem decides_approvalRecord {self : PolicyEnforcementMiddleware}
    {tool principal outcome reason : String} (h : outcome ≠ "") :
    (self.approvalRecord tool principal outcome reason).Decides "approval" tool outcome :=
  ⟨rfl, rfl, by simp [approvalRecord, Audit.record, Audit.outcomeOf, h],
    Audit.level_record_eq_warning_iff⟩

section plans

variable [Interpreter] {policy : Policy} {ambient : Ambient} {ctx : Ctx}

/-- The plans for calls of tools are accounted for. -/
theorem accounted_toolPlan : Accounted "tools/call" (toolOf ctx) (IsGatedCall policy ambient ctx)
    ((enforcing policy).toolPlan ambient ctx) := by
  have hgated : IsGatedCall policy ambient ctx ↔ _ :=
    isGatedCall_iff (enforcing policy) ambient ctx
  have hr : ((enforcing policy).toolRecord ambient ctx).Decides "tools/call" _ _ := decides_record
  have htarget : ((enforcing policy).toolDecision ambient ctx).target = toolOf ctx :=
    Policy.decideTool_target policy (toolOf ctx) (roles ambient)
  rw [htarget] at hr
  unfold toolPlan
  cases hallowed : ((enforcing policy).toolDecision ambient ctx).allowed
  · rw [if_pos ⟨rfl, rfl⟩]
    rw [hallowed] at hr
    exact .denied hr (by simp [hgated, hallowed]) rfl
  · rw [if_neg (by simp)]
    rw [hallowed] at hr
    cases happroval : ((enforcing policy).toolDecision ambient ctx).requiresApproval
    · rw [if_neg (by simp)]
      exact .allowed hr (by simp [hgated, happroval])
    · rw [if_pos ⟨rfl, rfl⟩]
      have hyes : IsGatedCall policy ambient ctx := hgated.mpr ⟨hallowed, happroval⟩
      unfold gatePlan
      cases gateOf (paramsOf ctx) (toolOf ctx) with
      | unanswered => exact .pending hr (decides_approvalRecord (by simp)) hyes
      | refused reason => exact .refused hr (decides_approvalRecord (by simp)) hyes rfl
      | approved => exact .approved hr (decides_approvalRecord (by simp)) hyes

/-- The plans for reads of resources are accounted for, and never reach the gate. -/
theorem accounted_resourcePlan : Accounted "resources/read" (uriOf ctx) False
    ((enforcing policy).resourcePlan ambient ctx) := by
  have hr : ((enforcing policy).resourceRecord ambient ctx).Decides "resources/read" _ _ :=
    decides_record
  have htarget : ((enforcing policy).resourceDecision ambient ctx).target = uriOf ctx :=
    Policy.decideResource_target policy (uriOf ctx) (roles ambient)
  rw [htarget] at hr
  unfold resourcePlan
  cases hallowed : ((enforcing policy).resourceDecision ambient ctx).allowed
  · rw [if_pos ⟨rfl, rfl⟩]
    rw [hallowed] at hr
    exact .denied hr id rfl
  · rw [if_neg (by simp)]
    rw [hallowed] at hr
    exact .allowed hr id

end plans

/-! ## What the records of one request say about it -/

/-- One record for the decision, one more for the approval gate where it was reached, and the
outcomes tell how the request ended. -/
structure Reconciled (method target : String) (gated : Prop) (plan : Plan) : Prop where
  decision : plan.records.countP (fun r => r.method = method ∧ r.target = target) = 1
  approval : plan.records.countP (fun r => r.method = "approval") = 1 ↔ gated
  approval_le : plan.records.countP (fun r => r.method = "approval") ≤ 1
  total : plan.records.length = 1 + plan.records.countP (fun r => r.method = "approval")
  forwarded : plan.verdict = .forward ↔ ∀ r ∈ plan.records, r.outcome = "allow"
  paused : (∃ asked, plan.verdict = .pause asked) ↔
    plan.records.getLast?.map Audit.Record.outcome = some "pending"
  refused : (∃ e, plan.verdict = .refuse e ∧ e.code = AUTHORIZATION_DENIED) ↔
    plan.records.countP (fun r => r.outcome = "deny") = 1
  refused_le : plan.records.countP (fun r => r.outcome = "deny") ≤ 1
  levelled : ∀ r ∈ plan.records, r.Levelled

/-- Every plan that is accounted for is reconciled with its records. -/
theorem Accounted.reconciled {method target : String} {gated : Prop} {plan : Plan}
    (h : Accounted method target gated plan) (hmethod : method ≠ "approval") :
    Reconciled method target gated plan := by
  cases h with
  | denied hr hgated he =>
      constructor <;> simp [hr.method, hr.target, hr.outcome, hr.levelled, hmethod, hgated, he]
  | allowed hr hgated =>
      constructor <;> simp [hr.method, hr.target, hr.outcome, hr.levelled, hmethod, hgated]
  | pending hr ha hgated =>
      constructor <;> simp [hr.method, hr.target, hr.outcome, hr.levelled, ha.method, ha.target,
        ha.outcome, ha.levelled, hmethod, hmethod.symm, hgated]
  | refused hr ha hgated he =>
      constructor <;> simp [hr.method, hr.target, hr.outcome, hr.levelled, ha.method, ha.target,
        ha.outcome, ha.levelled, hmethod, hmethod.symm, hgated, he]
  | approved hr ha hgated =>
      constructor <;> simp [hr.method, hr.target, hr.outcome, hr.levelled, ha.method, ha.target,
        ha.outcome, ha.levelled, hmethod, hmethod.symm, hgated]

/-! ## Runs -/

/-- A request whose method is guarded, with the surroundings it arrives in and the handler behind
the middleware. -/
structure GuardedRequest (ε : Type) where
  ambient : Ambient
  handler : Ctx → Except ε HandlerResult
  ctx : Ctx
  guarded : ctx.method = some "tools/call" ∨ ctx.method = some "resources/read"

section runs

variable [Interpreter] {ε : Type} (policy : Policy)

namespace GuardedRequest

/-- What the middleware does with the request. -/
def handle (req : GuardedRequest ε) : Handling ε Response :=
  (enforcing policy).call req.ambient req.handler req.ctx

/-- The records of the request. -/
def records (req : GuardedRequest ε) : List Audit.Record := recordsOf (req.handle policy).events

/-- The tool, or the URI, that the request names. -/
def target (req : GuardedRequest ε) : String :=
  if req.ctx.method = some "tools/call" then toolOf req.ctx else uriOf req.ctx

/-- The request is a call that passed authorization for a rule that asks for approval. -/
def Gated (req : GuardedRequest ε) : Prop :=
  req.ctx.method = some "tools/call" ∧ IsGatedCall policy req.ambient req.ctx

/-- The records of a request agree with what became of it. -/
structure AuditAgrees (req : GuardedRequest ε) : Prop where
  /-- Exactly one record has the request's own method and target. -/
  decision : (req.records policy).countP
    (fun r => some r.method = req.ctx.method ∧ r.target = req.target) = 1
  /-- One record of the approval gate is there precisely when the gate was reached. -/
  approval : (req.records policy).countP (fun r => r.method = "approval") = 1 ↔ req.Gated policy
  /-- Otherwise there is none. -/
  approval_le : (req.records policy).countP (fun r => r.method = "approval") ≤ 1
  /-- There are no other records. -/
  total : (req.records policy).length =
    1 + (req.records policy).countP (fun r => r.method = "approval")
  /-- `call_next` is invoked, with the request as it came, iff every record says `allow`. -/
  forwarded : forwardedOf (req.handle policy).events = [req.ctx] ↔
    ∀ r ∈ req.records policy, r.outcome = "allow"
  /-- Otherwise it is not invoked. -/
  once : forwardedOf (req.handle policy).events = [req.ctx] ∨
    forwardedOf (req.handle policy).events = []
  /-- The answer is a question iff the last record is `pending`. -/
  paused : (∃ asked, (req.handle policy).value = .ok (.inputRequired asked)) ↔
    (req.records policy).getLast?.map Audit.Record.outcome = some "pending"
  /-- The request is denied iff exactly one record is `deny`. -/
  refused : isDenial (req.handle policy).value = true ↔
    (req.records policy).countP (fun r => r.outcome = "deny") = 1
  /-- There is never a second one. -/
  refused_le : (req.records policy).countP (fun r => r.outcome = "deny") ≤ 1
  /-- The denials, and only they, are written at WARNING. -/
  levelled : ∀ r ∈ req.records policy, r.Levelled

end GuardedRequest

variable {policy}

/-- What is reconciled for a plan agrees for the request it is the plan of. -/
theorem GuardedRequest.auditAgrees_of_reconciled {req : GuardedRequest ε} {plan : Plan}
    {method : String} {gated : Prop} (hmethod : req.ctx.method = some method)
    (hhandle : req.handle policy = plan.run req.handler req.ctx)
    (hgated : req.Gated policy ↔ gated) (h : Reconciled method req.target gated plan) :
    req.AuditAgrees policy := by
  have hrecords : req.records policy = plan.records := by rw [records, hhandle, Plan.recordsOf_run]
  have hforwarded :
      forwardedOf (req.handle policy).events = [req.ctx] ↔ plan.verdict = .forward := by
    rw [hhandle, Plan.forwardedOf_run]
    split_ifs with hv <;> simp [hv]
  constructor
  · simpa [hrecords, hmethod] using h.decision
  · rw [hrecords, hgated, h.approval]
  · rw [hrecords]
    exact h.approval_le
  · rw [hrecords, h.total]
  · rw [hforwarded, hrecords, h.forwarded]
  · rw [hhandle, Plan.forwardedOf_run]
    split_ifs
    · exact Or.inl rfl
    · exact Or.inr rfl
  · rw [hrecords, ← h.paused, hhandle]
    simp only [Plan.value_run_eq_inputRequired_iff]
  · rw [hhandle, Plan.isDenial_run_iff, h.refused, hrecords]
  · rw [hrecords]
    exact h.refused_le
  · rw [hrecords]
    exact h.levelled

/-- One request leaves in the trail what became of it. -/
theorem GuardedRequest.auditAgrees (req : GuardedRequest ε) : req.AuditAgrees policy := by
  rcases req.guarded with hcall | hread
  · have htarget : req.target = toolOf req.ctx := by rw [target, if_pos hcall]
    have hplan : Reconciled "tools/call" req.target (IsGatedCall policy req.ambient req.ctx)
        ((enforcing policy).toolPlan req.ambient req.ctx) := by
      rw [htarget]
      exact accounted_toolPlan.reconciled (by decide)
    exact auditAgrees_of_reconciled hcall (call_of_toolsCall hcall req.handler)
      ⟨And.right, fun h => ⟨hcall, h⟩⟩ hplan
  · have htarget : req.target = uriOf req.ctx := by rw [target, if_neg (by simp [hread])]
    have hplan : Reconciled "resources/read" req.target False
        ((enforcing policy).resourcePlan req.ambient req.ctx) := by
      rw [htarget]
      exact accounted_resourcePlan.reconciled (by decide)
    exact auditAgrees_of_reconciled hread (call_of_resourcesRead hread req.handler)
      ⟨fun h => absurd (hread.symm.trans h.1) (by simp), False.elim⟩ hplan

variable (policy)

/-- The events of a run of requests, in order. -/
def runEvents (reqs : List (GuardedRequest ε)) : List Event :=
  reqs.flatMap fun req => (req.handle policy).events

/-- The audit stream of a run. -/
def auditTrail (reqs : List (GuardedRequest ε)) : List Audit.Record :=
  recordsOf (runEvents policy reqs)

/-- What is left of the stream when everything below WARNING is dropped. -/
def warnings (reqs : List (GuardedRequest ε)) : List Audit.Record :=
  (auditTrail policy reqs).filter fun r => r.level = .warning

/-- The requests of a run that were refused. -/
def refusedOf (reqs : List (GuardedRequest ε)) : List (GuardedRequest ε) :=
  reqs.filter fun req => isDenial (req.handle policy).value

variable {policy}

/-- The trail of a run begins with the records of its first request. -/
theorem auditTrail_cons (req : GuardedRequest ε) (reqs : List (GuardedRequest ε)) :
    auditTrail policy (req :: reqs) = req.records policy ++ auditTrail policy reqs := by
  simp [auditTrail, runEvents, recordsOf, GuardedRequest.records]

/-- A refused request leaves one record at WARNING, any other request none. -/
theorem GuardedRequest.filter_warning (policy : Policy) (req : GuardedRequest ε) :
    if isDenial (req.handle policy).value = true then
      ∃ r ∈ req.records policy, r.outcome = "deny" ∧
        (req.records policy).filter (fun r => r.level = .warning) = [r]
    else (req.records policy).filter (fun r => r.level = .warning) = [] := by
  have hagrees : req.AuditAgrees policy := req.auditAgrees
  have hfilter : (req.records policy).filter (fun r => r.level = .warning) =
      (req.records policy).filter (fun r => r.outcome = "deny") := by
    exact List.filter_congr fun r hr => decide_eq_decide.mpr (hagrees.levelled r hr)
  split_ifs with hdenied
  · have hone := hagrees.refused.mp hdenied
    rw [List.countP_eq_length_filter, ← hfilter, List.length_eq_one_iff] at hone
    obtain ⟨r, hr⟩ := hone
    have hmem : r ∈ (req.records policy).filter fun r => r.outcome = "deny" := by
      rw [← hfilter, hr]
      exact List.mem_singleton_self r
    exact ⟨r, (List.mem_filter.mp hmem).1, of_decide_eq_true (List.mem_filter.mp hmem).2, hr⟩
  · have hnone : (req.records policy).countP (fun r => r.outcome = "deny") = 0 := by
      have hle := hagrees.refused_le
      have hne := mt hagrees.refused.mpr hdenied
      omega
    rw [hfilter, ← List.length_eq_zero_iff, ← List.countP_eq_length_filter]
    exact hnone

/-- What is left of the trail at WARNING are the denials, one for each refused request. -/
theorem forall₂_warnings (reqs : List (GuardedRequest ε)) :
    List.Forall₂ (fun r req => r ∈ req.records policy ∧ r.outcome = "deny")
      (warnings policy reqs) (refusedOf policy reqs) := by
  induction reqs with
  | nil => exact .nil
  | cons req reqs ih =>
      have hstep := req.filter_warning policy
      unfold warnings refusedOf at ih ⊢
      rw [auditTrail_cons, List.filter_append, List.filter_cons]
      split_ifs at hstep ⊢ with hdenied
      · obtain ⟨r, hr, hdeny, hone⟩ := hstep
        rw [hone]
        exact .cons ⟨hr, hdeny⟩ ih
      · rw [hstep]
        exact ih

/-- **The audit trail agrees with enforcement over every run.** Every request leaves in the trail
what became of it, and the records that survive a log level of WARNING are, in order, one denial for
each refused request. -/
theorem auditTrail_agrees (reqs : List (GuardedRequest ε)) :
    (∀ req ∈ reqs, req.AuditAgrees policy) ∧
      List.Forall₂ (fun r req => r ∈ req.records policy ∧ r.outcome = "deny")
        (warnings policy reqs) (refusedOf policy reqs) :=
  ⟨fun req _ => req.auditAgrees, forall₂_warnings reqs⟩

end runs

end GovernedMcp
