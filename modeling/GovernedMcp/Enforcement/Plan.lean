import GovernedMcp.Model.Middleware

/-!
# A guard is a plan, carried out

What a guard does with a request is settled before anything runs: which audit records are written,
and then one of three things. A `Plan` is that settlement; `Plan.run` carries it out.

* `toolPlan`, `resourcePlan`: the plans of the two guards, as pure functions of the request and its
  surroundings.
* `guardToolCall_eq`, `guardResourceRead_eq`: each guard is its plan, carried out. Everything proved
  about runs of the middleware goes through these two.
* `Gate`: the three ways the approval gate can settle; `gateOf_eq_approved_iff` says when it opens,
  and `forwarded_gated_iff` when a call of a gated tool goes through.
-/

namespace GovernedMcp

open Lib

/-- The middleware that audits without blocking. -/
def shadowing (policy : Policy) : PolicyEnforcementMiddleware := { policy, enforce := false }

/-- The middleware that blocks. -/
def enforcing (policy : Policy) : PolicyEnforcementMiddleware := { policy, enforce := true }

/-! ## Plans -/

/-- What becomes of a request. -/
inductive Verdict where
  /-- `call_next` is invoked, and its outcome is the outcome. -/
  | forward
  /-- The caller is asked for input instead. -/
  | pause (asked : InputRequiredResult)
  /-- An error is raised. -/
  | refuse (e : MCPError)
  deriving DecidableEq

/-- The records of a request, and what becomes of it. -/
structure Plan where
  records : List Audit.Record
  verdict : Verdict
  deriving DecidableEq

/-- The audit records among the events. -/
def recordsOf (events : List Event) : List Audit.Record :=
  events.filterMap fun
    | .record r => some r
    | .next _ => none

/-- The requests handed to `call_next`, one for each invocation. -/
def forwardedOf (events : List Event) : List Ctx :=
  events.filterMap fun
    | .record _ => none
    | .next ctx => some ctx

/-- Whether a response is the middleware's denial. -/
def isDenial {ε : Type} : Except (Raised ε) Response → Bool
  | .error (.mcpError e) => e.code == AUTHORIZATION_DENIED
  | _ => false

namespace Plan

open PolicyEnforcementMiddleware

variable {ε : Type}

/-- Forwarding shows as one invocation of `call_next`, first of all. -/
theorem forward_eq (handler : Ctx → Except ε HandlerResult) (ctx : Ctx) :
    forward handler ctx = ⟨[.next ctx], (forward handler ctx).value⟩ := by
  unfold forward callNext
  rcases handler ctx with e | r
  · rw [Traced.bind_of_error rfl]
  · rw [Traced.bind_of_ok rfl]
    rfl

/-- Write the records, then do what the verdict says. -/
def run (plan : Plan) (handler : Ctx → Except ε HandlerResult) (ctx : Ctx) : Handling ε Response :=
  match plan.verdict with
  | .forward => ⟨plan.records.map .record ++ [.next ctx], (forward handler ctx).value⟩
  | .pause asked => ⟨plan.records.map .record, .ok (.inputRequired asked)⟩
  | .refuse e => ⟨plan.records.map .record, .error (.mcpError e)⟩

variable (plan : Plan) (handler : Ctx → Except ε HandlerResult) (ctx : Ctx)

/-- Records are no forwarded requests. -/
theorem forwardedOf_map_record (rs : List Audit.Record) :
    forwardedOf (rs.map Event.record) = [] := by
  induction rs with
  | nil => rfl
  | cons r rs ih => exact ih

/-- And they are records. -/
theorem recordsOf_map_record (rs : List Audit.Record) : recordsOf (rs.map Event.record) = rs := by
  induction rs with
  | nil => rfl
  | cons r rs ih => exact congrArg (r :: ·) ih

/-- A plan leaves its records, whatever its verdict. -/
@[simp] theorem recordsOf_run : recordsOf (plan.run handler ctx).events = plan.records := by
  unfold run
  split
  · simp only [recordsOf, List.filterMap_append]
    rw [← recordsOf, recordsOf_map_record]
    simp
  · exact recordsOf_map_record _
  · exact recordsOf_map_record _

/-- The request is forwarded once, as it came, or not at all. -/
@[simp] theorem forwardedOf_run : forwardedOf (plan.run handler ctx).events =
    if plan.verdict = .forward then [ctx] else [] := by
  unfold run
  split <;> rename_i h
  · simp only [forwardedOf, List.filterMap_append, h, if_true]
    rw [← forwardedOf, forwardedOf_map_record]
    rfl
  · rw [forwardedOf_map_record, h]
    rfl
  · rw [forwardedOf_map_record, h]
    rfl

/-- How a request ends depends on the verdict alone. -/
theorem value_run : (plan.run handler ctx).value =
    match plan.verdict with
    | .forward => (forward handler ctx).value
    | .pause asked => .ok (.inputRequired asked)
    | .refuse e => .error (.mcpError e) := by
  unfold run
  cases plan.verdict <;> rfl

/-- A forwarded request ends as the handler ends. -/
theorem value_run_of_forward {plan : Plan} (h : plan.verdict = .forward) :
    (plan.run handler ctx).value = (forward handler ctx).value := by
  simp [run, h]

/-- The error of a refused request is the middleware's own. -/
theorem value_run_eq_mcpError_iff {e : MCPError} :
    (plan.run handler ctx).value = .error (.mcpError e) ↔ plan.verdict = .refuse e := by
  unfold run
  split <;> rename_i h
  · simp only [h, reduceCtorEq, iff_false]
    unfold forward callNext
    rcases handler ctx with e' | r
    · rw [Traced.bind_of_error rfl]
      simp
    · rw [Traced.bind_of_ok rfl]
      simp
  · simp [h]
  · simp [h]

/-- A question is the answer exactly to a paused request. -/
theorem value_run_eq_inputRequired_iff {asked : InputRequiredResult} :
    (plan.run handler ctx).value = .ok (.inputRequired asked) ↔ plan.verdict = .pause asked := by
  unfold run
  split <;> rename_i h
  · simp only [h, reduceCtorEq, iff_false]
    unfold forward callNext
    rcases handler ctx with e' | r
    · rw [Traced.bind_of_error rfl]
      simp
    · rw [Traced.bind_of_ok rfl]
      simp
  · simp [h]
  · simp [h]

/-- A plan ends in a denial iff it refuses with that code. -/
theorem isDenial_run_iff : isDenial (plan.run handler ctx).value = true ↔
    ∃ e, plan.verdict = .refuse e ∧ e.code = AUTHORIZATION_DENIED := by
  constructor
  · intro h
    unfold isDenial at h
    split at h
    · rename_i e hvalue
      exact ⟨e, (plan.value_run_eq_mcpError_iff handler ctx).mp hvalue, beq_iff_eq.mp h⟩
    · cases h
  · rintro ⟨e, hverdict, hcode⟩
    rw [(plan.value_run_eq_mcpError_iff handler ctx).mpr hverdict]
    exact beq_iff_eq.mpr hcode

end Plan

/-! ## The approval gate -/

/-- How the approval gate settles. -/
inductive Gate where
  | unanswered
  | refused (reason : Approval.ApprovalError)
  | approved
  deriving DecidableEq

/-- The params carry a pending state and an affirmative answer. -/
def CarriesApproval (params : List (String × Json)) : Prop :=
  Approval.isPendingState (PolicyEnforcementMiddleware.stateOf params) = true ∧
    Approval.Affirms (PolicyEnforcementMiddleware.answersOf params)

instance (params : List (String × Json)) : Decidable (CarriesApproval params) :=
  inferInstanceAs (Decidable (_ ∧ _))

/-- The gate on the state and the answers that `params` carry. -/
def gateOf (params : List (String × Json)) (tool : String) : Gate :=
  if (PolicyEnforcementMiddleware.answersOf params).truthy = false then .unanswered
  else
    match Approval.check (PolicyEnforcementMiddleware.stateOf params)
      (PolicyEnforcementMiddleware.answersOf params) tool with
    | .error reason => .refused reason
    | .ok () => .approved

/-- **The gate opens** exactly on a pending state together with an affirmative answer. -/
theorem gateOf_eq_approved_iff {params : List (String × Json)} (tool : String) :
    gateOf params tool = .approved ↔ CarriesApproval params := by
  unfold CarriesApproval
  rw [← Approval.check_eq_ok_iff tool]
  unfold gateOf
  split_ifs with h
  · simp only [false_iff]
    intro hcheck
    have := Approval.truthy_of_affirms ((Approval.check_eq_ok_iff tool).mp hcheck).2
    simp [h] at this
  · split <;> rename_i hcheck
    · simp [hcheck]
    · simp [hcheck]

/-! ## The plans of the guards -/

namespace PolicyEnforcementMiddleware

open Traced

variable [Interpreter] {ε : Type}

/-- The decision on a tool call. -/
def toolDecision (self : PolicyEnforcementMiddleware) (ambient : Ambient) (ctx : Ctx) : Decision :=
  self.policy.decideTool (toolOf ctx) (roles ambient)

/-- The decision on a resource read. -/
def resourceDecision (self : PolicyEnforcementMiddleware) (ambient : Ambient) (ctx : Ctx) :
    Decision :=
  self.policy.decideResource (uriOf ctx) (roles ambient)

/-- The record of the decision on a tool call. -/
def toolRecord (self : PolicyEnforcementMiddleware) (ambient : Ambient) (ctx : Ctx) :
    Audit.Record :=
  Audit.record (principal ambient) "tools/call" (self.toolDecision ambient ctx)
    (argumentsOf ctx).asMapping ctx.protocolVersion none

/-- The record of the decision on a resource read. -/
def resourceRecord (self : PolicyEnforcementMiddleware) (ambient : Ambient) (ctx : Ctx) :
    Audit.Record :=
  Audit.record (principal ambient) "resources/read" (self.resourceDecision ambient ctx) none
    ctx.protocolVersion none

/-- What the approval gate adds to the record of an authorised call, and what becomes of it. -/
def gatePlan (self : PolicyEnforcementMiddleware) (ambient : Ambient) (ctx : Ctx) : Plan :=
  match gateOf (paramsOf ctx) (toolOf ctx) with
  | .unanswered =>
    { records := [self.toolRecord ambient ctx, self.approvalRecord (toolOf ctx) (principal ambient)
        "pending" "awaiting human approval"]
      verdict := .pause
        (self.question ambient (toolOf ctx) ((argumentsOf ctx).asMapping.getD [])) }
  | .refused reason =>
    { records := [self.toolRecord ambient ctx, self.approvalRecord (toolOf ctx) (principal ambient)
        "deny" reason.message]
      verdict := .refuse (notApproved (toolOf ctx) reason) }
  | .approved =>
    { records := [self.toolRecord ambient ctx, self.approvalRecord (toolOf ctx) (principal ambient)
        "allow" "approved by human"]
      verdict := .forward }

/-- The plan of `_guard_tool_call`. -/
def toolPlan (self : PolicyEnforcementMiddleware) (ambient : Ambient) (ctx : Ctx) : Plan :=
  if (self.toolDecision ambient ctx).allowed = false ∧ self.enforce = true then
    ⟨[self.toolRecord ambient ctx], .refuse (accessDenied (self.toolDecision ambient ctx))⟩
  else if (self.toolDecision ambient ctx).requiresApproval = true ∧ self.enforce = true then
    self.gatePlan ambient ctx
  else ⟨[self.toolRecord ambient ctx], .forward⟩

/-- The plan of `_guard_resource_read`. -/
def resourcePlan (self : PolicyEnforcementMiddleware) (ambient : Ambient) (ctx : Ctx) : Plan :=
  if (self.resourceDecision ambient ctx).allowed = false ∧ self.enforce = true then
    ⟨[self.resourceRecord ambient ctx],
      .refuse (accessDenied (self.resourceDecision ambient ctx))⟩
  else ⟨[self.resourceRecord ambient ctx], .forward⟩

/-- A denial is raised in enforce mode. -/
theorem raiseIfDenied_of_denied {self : PolicyEnforcementMiddleware} {decision : Decision}
    (h : decision.allowed = false ∧ self.enforce = true) :
    (self.raiseIfDenied decision : Handling ε Unit) =
      raise (.mcpError (accessDenied decision)) := by
  simp [raiseIfDenied, h.1, h.2]

/-- Otherwise nothing is raised. -/
theorem raiseIfDenied_of_not_denied {self : PolicyEnforcementMiddleware} {decision : Decision}
    (h : ¬(decision.allowed = false ∧ self.enforce = true)) :
    (self.raiseIfDenied decision : Handling ε Unit) = pure () := by
  unfold raiseIfDenied
  rw [if_pos]
  cases hd : decision.allowed <;> cases he : self.enforce <;> simp_all

/-- The gate writes one record and hands back a question, an error, or leave to proceed. -/
theorem checkApproval_eq (self : PolicyEnforcementMiddleware) (ambient : Ambient)
    (params : List (String × Json)) (tool : String) (arguments : Json) :
    (self.checkApproval ambient params tool arguments : Handling ε (Option InputRequiredResult)) =
      match gateOf params tool with
      | .unanswered =>
        ⟨[.record (self.approvalRecord tool (principal ambient) "pending"
          "awaiting human approval")],
          .ok (some (self.question ambient tool (arguments.asMapping.getD [])))⟩
      | .refused reason =>
        ⟨[.record (self.approvalRecord tool (principal ambient) "deny" reason.message)],
          .error (.mcpError (notApproved tool reason))⟩
      | .approved =>
        ⟨[.record (self.approvalRecord tool (principal ambient) "allow" "approved by human")],
          .ok none⟩ := by
  unfold checkApproval gateOf
  by_cases hanswers : (answersOf params).truthy = false
  · simp only [hanswers, if_true]
    rfl
  · simp only [hanswers]
    rcases Approval.check (stateOf params) (answersOf params) tool with reason | ⟨⟨⟩⟩
    · rfl
    · rfl

/-- An authorised call of a gated tool ends as the gate settles it. -/
theorem checkApproval_bind_eq (self : PolicyEnforcementMiddleware) (ambient : Ambient)
    (handler : Ctx → Except ε HandlerResult) (ctx : Ctx) :
    (emit (.record (self.toolRecord ambient ctx)) >>= fun _ =>
      self.checkApproval ambient (paramsOf ctx) (toolOf ctx) (argumentsOf ctx) >>= fun gate =>
        match gate with
        | some asked => pure (.inputRequired asked)
        | none => forward handler ctx) = (self.gatePlan ambient ctx).run handler ctx := by
  rw [emit_bind, checkApproval_eq]
  unfold gatePlan
  rcases gateOf (paramsOf ctx) (toolOf ctx) with _ | reason | _
  · rfl
  · rfl
  · simp only []
    rw [Plan.forward_eq handler ctx]
    rfl

/-- **The guard of tool calls is its plan, carried out.** -/
theorem guardToolCall_eq (self : PolicyEnforcementMiddleware) (ambient : Ambient)
    (handler : Ctx → Except ε HandlerResult) (ctx : Ctx) :
    self.guardToolCall ambient handler ctx = (self.toolPlan ambient ctx).run handler ctx := by
  unfold guardToolCall toolPlan
  by_cases hdenied : (self.toolDecision ambient ctx).allowed = false ∧ self.enforce = true
  · rw [if_pos hdenied]
    have hraise : (self.raiseIfDenied (self.policy.decideTool (toolOf ctx) (roles ambient)) :
      Handling ε Unit) = _ := raiseIfDenied_of_denied hdenied
    simp only [hraise, raise_bind, emit_bind, Plan.run]
    rfl
  · rw [if_neg hdenied]
    have hpass : (self.raiseIfDenied (self.policy.decideTool (toolOf ctx) (roles ambient)) :
      Handling ε Unit) = _ := raiseIfDenied_of_not_denied hdenied
    simp only [hpass, pure_bind]
    by_cases hgate : (self.toolDecision ambient ctx).requiresApproval = true ∧ self.enforce = true
    · have hcond : ((self.policy.decideTool (toolOf ctx) (roles ambient)).requiresApproval &&
          self.enforce) = true := by
        rw [Bool.and_eq_true]
        exact hgate
      rw [if_pos hgate, if_pos hcond]
      exact self.checkApproval_bind_eq ambient handler ctx
    · have hcond : ¬((self.policy.decideTool (toolOf ctx) (roles ambient)).requiresApproval &&
          self.enforce) = true := by
        rw [Bool.and_eq_true]
        exact hgate
      rw [if_neg hgate, if_neg hcond, emit_bind, Plan.forward_eq handler ctx]
      rfl

/-- **The guard of resource reads is its plan, carried out.** -/
theorem guardResourceRead_eq (self : PolicyEnforcementMiddleware) (ambient : Ambient)
    (handler : Ctx → Except ε HandlerResult) (ctx : Ctx) :
    self.guardResourceRead ambient handler ctx =
      (self.resourcePlan ambient ctx).run handler ctx := by
  unfold guardResourceRead resourcePlan
  by_cases hdenied : (self.resourceDecision ambient ctx).allowed = false ∧ self.enforce = true
  · rw [if_pos hdenied]
    have hraise : (self.raiseIfDenied (self.policy.decideResource (uriOf ctx) (roles ambient)) :
      Handling ε Unit) = _ := raiseIfDenied_of_denied hdenied
    simp only [hraise, raise_bind, emit_bind, Plan.run]
    rfl
  · rw [if_neg hdenied]
    have hpass : (self.raiseIfDenied (self.policy.decideResource (uriOf ctx) (roles ambient)) :
      Handling ε Unit) = _ := raiseIfDenied_of_not_denied hdenied
    simp only [hpass, pure_bind]
    rw [emit_bind, Plan.forward_eq handler ctx]
    rfl

/-! ## When a request is forwarded -/

section verdicts

variable {self : PolicyEnforcementMiddleware} {ambient : Ambient} {ctx : Ctx}

/-- The tool has a rule, the rule grants it to the caller, and it asks for approval. -/
def IsGatedCall (policy : Policy) (ambient : Ambient) (ctx : Ctx) : Prop :=
  ∃ rule, policy.tools.get (toolOf ctx) = some rule ∧ rule.requiresApproval = true ∧
    ∃ r ∈ roles ambient, r ∈ rule.allowRoles

/-- A call is gated where the decision allows it and asks for approval. -/
theorem isGatedCall_iff (self : PolicyEnforcementMiddleware) (ambient : Ambient) (ctx : Ctx) :
    IsGatedCall self.policy ambient ctx ↔
    (self.toolDecision ambient ctx).allowed = true ∧
      (self.toolDecision ambient ctx).requiresApproval = true := by
  unfold toolDecision IsGatedCall
  rcases h : self.policy.tools.get (toolOf ctx) with _ | rule
  · simp [(Policy.decideTool_of_none h (roles ambient)).1]
  · rw [Policy.decideTool_of_some h, Policy.matchRule_allowed_iff,
      Policy.matchRule_requiresApproval]
    simp [and_comm]

/-- **The gate** lets a call through that carries an approval. -/
theorem gatePlan_verdict_eq_forward_iff :
    (self.gatePlan ambient ctx).verdict = .forward ↔ CarriesApproval (paramsOf ctx) := by
  rw [← gateOf_eq_approved_iff (toolOf ctx)]
  unfold gatePlan
  cases gateOf (paramsOf ctx) (toolOf ctx) <;> simp

/-- **When a tool call goes through**: in shadow mode always; otherwise when it is authorised and,
where the rule asks for approval, carries one. -/
theorem toolPlan_verdict_eq_forward_iff :
    (self.toolPlan ambient ctx).verdict = .forward ↔
      self.enforce = false ∨ ((self.toolDecision ambient ctx).allowed = true ∧
        ((self.toolDecision ambient ctx).requiresApproval = true →
          CarriesApproval (paramsOf ctx))) := by
  unfold toolPlan
  cases self.enforce
  · simp
  · cases ha : (self.toolDecision ambient ctx).allowed
    · simp
    · cases hr : (self.toolDecision ambient ctx).requiresApproval
      · simp
      · simp [gatePlan_verdict_eq_forward_iff]

/-- What becomes of a call that is allowed. -/
theorem verdict_toolPlan_of_allowed {policy : Policy}
    (h : ((enforcing policy).toolDecision ambient ctx).allowed = true) :
    ((enforcing policy).toolPlan ambient ctx).verdict =
      if ((enforcing policy).toolDecision ambient ctx).requiresApproval = true then
        match gateOf (paramsOf ctx) (toolOf ctx) with
        | .unanswered => .pause ((enforcing policy).question ambient (toolOf ctx)
            ((argumentsOf ctx).asMapping.getD []))
        | .refused reason => .refuse (notApproved (toolOf ctx) reason)
        | .approved => .forward
      else .forward := by
  unfold toolPlan
  rw [if_neg (by simp [h])]
  by_cases hasks : ((enforcing policy).toolDecision ambient ctx).requiresApproval = true
  · rw [if_pos ⟨hasks, rfl⟩, if_pos hasks]
    unfold gatePlan
    cases gateOf (paramsOf ctx) (toolOf ctx) <;> rfl
  · rw [if_neg fun h => hasks h.1, if_neg hasks]

/-- A question is always the one about the call itself. -/
theorem eq_question_of_pause {asked : InputRequiredResult}
    (h : (self.toolPlan ambient ctx).verdict = .pause asked) :
    asked = self.question ambient (toolOf ctx) ((argumentsOf ctx).asMapping.getD []) := by
  unfold toolPlan gatePlan at h
  split_ifs at h
  · cases hgate : gateOf (paramsOf ctx) (toolOf ctx) <;> simp [hgate] at h
    exact h.symm

/-- **When a resource read goes through**: in shadow mode always, otherwise when it is
authorised. -/
theorem resourcePlan_verdict_eq_forward_iff :
    (self.resourcePlan ambient ctx).verdict = .forward ↔
      self.enforce = false ∨ (self.resourceDecision ambient ctx).allowed = true := by
  unfold resourcePlan
  cases self.enforce
  · simp
  · cases ha : (self.resourceDecision ambient ctx).allowed <;> simp

/-- A `tools/call` runs by its plan. -/
theorem call_of_toolsCall (h : ctx.method = some "tools/call")
    (handler : Ctx → Except ε HandlerResult) :
    self.call ambient handler ctx = (self.toolPlan ambient ctx).run handler ctx := by
  rw [← guardToolCall_eq, call, if_pos h]

/-- A `resources/read` runs by its plan. -/
theorem call_of_resourcesRead (h : ctx.method = some "resources/read")
    (handler : Ctx → Except ε HandlerResult) :
    self.call ambient handler ctx = (self.resourcePlan ambient ctx).run handler ctx := by
  rw [← guardResourceRead_eq, call, if_neg (by simp [h]), if_pos h]

/-- The middleware lets a call of a gated tool through exactly when it is authorised and carries an
approval. -/
theorem forwarded_gated_iff (policy : Policy) (handler : Ctx → Except ε HandlerResult)
    (ambient : Ambient) (ctx : Ctx) (hmethod : ctx.method = some "tools/call") :
    (forwardedOf ((enforcing policy).call ambient handler ctx).events ≠ [] ∧
      ∃ rule, policy.tools.get (toolOf ctx) = some rule ∧ rule.requiresApproval = true) ↔
    IsGatedCall policy ambient ctx ∧ CarriesApproval (paramsOf ctx) := by
  have hgated := isGatedCall_iff (enforcing policy) ambient ctx
  have hreached : forwardedOf ((enforcing policy).call ambient handler ctx).events ≠ [] ↔
      ((enforcing policy).toolPlan ambient ctx).verdict = .forward := by
    rw [call_of_toolsCall hmethod, Plan.forwardedOf_run]
    split_ifs with hverdict <;> simp [hverdict]
  rw [hreached, toolPlan_verdict_eq_forward_iff]
  constructor
  · rintro ⟨hmode | ⟨hallowed, hcarries⟩, rule, hrule, hgate⟩
    · cases hmode
    · have hrequires : ((enforcing policy).toolDecision ambient ctx).requiresApproval = true := by
        rw [toolDecision, ← hgate, ← Policy.matchRule_requiresApproval]
        exact congrArg Decision.requiresApproval (Policy.decideTool_of_some hrule (roles ambient))
      exact ⟨hgated.mpr ⟨hallowed, hrequires⟩, hcarries hrequires⟩
  · rintro ⟨hcall, hcarries⟩
    have hallowed := (hgated.mp hcall).1
    obtain ⟨rule, hrule, hgate, -⟩ := hcall
    exact ⟨Or.inr ⟨hallowed, fun _ => hcarries⟩, rule, hrule, hgate⟩

end verdicts

end PolicyEnforcementMiddleware

end GovernedMcp
