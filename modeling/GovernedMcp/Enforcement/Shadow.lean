import GovernedMcp.Enforcement.Plan

/-!
# Shadow mode as a dry run

With `enforce=False` the middleware writes its records and blocks nothing. It is meant to find the
calls a policy would break before the policy starts breaking them, so two things are asked of it for
every request: the caller gets exactly what the handler returns (`response`), and the records show
a trace of every request that the enforcing middleware would have held up, and of no other
(`trace`).

The first always holds. The second fails for calls of a tool that waits for approval: only the
decision is recorded in shadow mode, and that decision allows the call. `faithfulDryRun_iff` says
that nothing else goes wrong.
-/

namespace GovernedMcp

open Lib PolicyEnforcementMiddleware

variable {ε : Type}

variable [Interpreter] (policy : Policy) (ambient : Ambient)
  (handler : Ctx → Except ε HandlerResult) (ctx : Ctx)

/-- In shadow mode the caller gets what `call_next` gives, and `call_next` is given the request as
it came, once. -/
def ResponseIsHandlers : Prop :=
  ((shadowing policy).call ambient handler ctx).value = (forward handler ctx).value ∧
    forwardedOf ((shadowing policy).call ambient handler ctx).events = [ctx]

/-- The shadow records show something other than `allow` exactly when the enforcing middleware would
not have reached `call_next`. -/
def TraceShowsHoldUps : Prop :=
  (∃ r ∈ recordsOf ((shadowing policy).call ambient handler ctx).events, r.outcome ≠ "allow") ↔
    forwardedOf ((enforcing policy).call ambient handler ctx).events = []

/-- Shadow mode is a faithful dry run of one request. -/
structure FaithfulDryRun : Prop where
  response : ctx.method ∈ [some "tools/call", some "resources/read", some "tools/list"] →
    ResponseIsHandlers policy ambient handler ctx
  trace : ctx.method ∈ [some "tools/call", some "resources/read"] →
    TraceShowsHoldUps policy ambient handler ctx

/-! ## Each method on its own -/

section methods

variable {policy ambient handler ctx}

/-- A shadowing server records the decision on a call, and forwards it. -/
theorem toolPlan_shadowing : (shadowing policy).toolPlan ambient ctx =
    ⟨[(shadowing policy).toolRecord ambient ctx], .forward⟩ := by
  simp [toolPlan, shadowing]

/-- So it does with a read. -/
theorem resourcePlan_shadowing : (shadowing policy).resourcePlan ambient ctx =
    ⟨[(shadowing policy).resourceRecord ambient ctx], .forward⟩ := by
  simp [resourcePlan, shadowing]

/-- The response to a call is the handler's. -/
theorem responseIsHandlers_of_toolsCall (h : ctx.method = some "tools/call") :
    ResponseIsHandlers policy ambient handler ctx := by
  unfold ResponseIsHandlers
  rw [call_of_toolsCall h, toolPlan_shadowing]
  exact ⟨Plan.value_run_of_forward handler ctx rfl, by simp⟩

/-- So is the response to a read. -/
theorem responseIsHandlers_of_resourcesRead (h : ctx.method = some "resources/read") :
    ResponseIsHandlers policy ambient handler ctx := by
  unfold ResponseIsHandlers
  rw [call_of_resourcesRead h, resourcePlan_shadowing]
  exact ⟨Plan.value_run_of_forward handler ctx rfl, by simp⟩

/-- In shadow mode a listing is not filtered. -/
theorem responseIsHandlers_of_toolsList (h : ctx.method = some "tools/list") :
    ResponseIsHandlers policy ambient handler ctx := by
  have hcall : (shadowing policy).call ambient handler ctx = forward handler ctx := by
    rw [call, if_neg (by simp [h]), if_neg (by simp [h]), if_pos h]
    rfl
  unfold ResponseIsHandlers
  rw [hcall, Plan.forward_eq]
  exact ⟨rfl, rfl⟩

/-- The trace of a tool call is right unless the call waits for an approval it does not carry. -/
theorem traceShowsHoldUps_of_toolsCall (h : ctx.method = some "tools/call") :
    TraceShowsHoldUps policy ambient handler ctx ↔
      (IsGatedCall policy ambient ctx → CarriesApproval (paramsOf ctx)) := by
  have hgated : IsGatedCall policy ambient ctx ↔ _ :=
    isGatedCall_iff (enforcing policy) ambient ctx
  have hheld : forwardedOf ((enforcing policy).call ambient handler ctx).events = [] ↔
      ¬ ((enforcing policy).toolPlan ambient ctx).verdict = .forward := by
    rw [call_of_toolsCall h, Plan.forwardedOf_run]
    split_ifs with hv <;> simp [hv]
  have htraced : (∃ r ∈ recordsOf ((shadowing policy).call ambient handler ctx).events,
      r.outcome ≠ "allow") ↔ ((enforcing policy).toolDecision ambient ctx).allowed = false := by
    rw [call_of_toolsCall h, Plan.recordsOf_run, toolPlan_shadowing]
    simp only [List.mem_singleton, exists_eq_left]
    exact Audit.outcome_record_ne_allow_iff
  unfold TraceShowsHoldUps
  rw [hheld, htraced, hgated, toolPlan_verdict_eq_forward_iff]
  cases ((enforcing policy).toolDecision ambient ctx).allowed
  · simp [enforcing]
  · simp [enforcing]

/-- The trace of a resource read is always right. -/
theorem traceShowsHoldUps_of_resourcesRead (h : ctx.method = some "resources/read") :
    TraceShowsHoldUps policy ambient handler ctx := by
  have hheld : forwardedOf ((enforcing policy).call ambient handler ctx).events = [] ↔
      ¬ ((enforcing policy).resourcePlan ambient ctx).verdict = .forward := by
    rw [call_of_resourcesRead h, Plan.forwardedOf_run]
    split_ifs with hv <;> simp [hv]
  have htraced : (∃ r ∈ recordsOf ((shadowing policy).call ambient handler ctx).events,
      r.outcome ≠ "allow") ↔ ((enforcing policy).resourceDecision ambient ctx).allowed = false := by
    rw [call_of_resourcesRead h, Plan.recordsOf_run, resourcePlan_shadowing]
    simp only [List.mem_singleton, exists_eq_left]
    exact Audit.outcome_record_ne_allow_iff
  unfold TraceShowsHoldUps
  rw [hheld, htraced, resourcePlan_verdict_eq_forward_iff]
  simp [enforcing]

end methods

/-! ## The dry run -/

/-- **When shadow mode is a faithful dry run**: for every request but the call of a tool that waits
for approval, is granted to the caller, and does not carry one. -/
theorem faithfulDryRun_iff : FaithfulDryRun policy ambient handler ctx ↔
    (ctx.method = some "tools/call" → IsGatedCall policy ambient ctx →
      CarriesApproval (paramsOf ctx)) := by
  constructor
  · intro h hmethod
    exact (traceShowsHoldUps_of_toolsCall hmethod).mp (h.trace (by simp [hmethod]))
  · intro h
    constructor
    · intro hmethod
      simp only [List.mem_cons, List.not_mem_nil, or_false] at hmethod
      rcases hmethod with hcall | hread | hlist
      · exact responseIsHandlers_of_toolsCall hcall
      · exact responseIsHandlers_of_resourcesRead hread
      · exact responseIsHandlers_of_toolsList hlist
    · intro hmethod
      simp only [List.mem_cons, List.not_mem_nil, or_false] at hmethod
      rcases hmethod with hcall | hread
      · exact (traceShowsHoldUps_of_toolsCall hcall).mpr (h hcall)
      · exact traceShowsHoldUps_of_resourcesRead hread

omit [Interpreter] in
/-- An operator asks for an incident for the first time. The enforcing middleware pauses the call;
the shadow records show only that it is allowed. -/
theorem not_faithfulDryRun_of_pendingApproval : ¬ @FaithfulDryRun Unit plainInterpreter
    Policy.incidentPolicy ⟨some (Verifier.tokenOf "olga" "tlo.operator"), "n1"⟩
    (fun _ => .ok (.value .none))
    ⟨some "tools/call", .dict [("name", .str "raise_shipment_incident"),
      ("arguments", .dict [("shipment_id", .str "SHP-1004")])], none⟩ := by
  intro h
  let _ := plainInterpreter
  have htrace := h.trace (by simp)
  unfold TraceShowsHoldUps at htrace
  exact absurd (htrace.mpr (by decide)) (by decide)

end GovernedMcp
