import GovernedMcp.Enforcement.Plan

/-!
# Where a declared approval gate is honoured

The document accepts `requires_approval` in both of its sections, and the decision carries it for
both. `GateHonoured` asks, of one request, that a rule declaring a gate never lets it reach
`call_next` without a pending state and an affirmative answer.

* `gateHonoured_of_toolsCall`: calls of tools honour every gate.
* `gateHonoured_iff`: reads of resources honour it only by accident, when the role check denies the
  read anyway or the request happens to carry an approval nobody asked for.
-/

namespace GovernedMcp

open Lib PolicyEnforcementMiddleware

/-- The params show, under one of the spellings that are read, a state that starts with
`awaiting-approval:` and answers whose `approval` entry accepts with `approve` true. -/
def ShowsApproval (params : List (String × Json)) : Prop :=
  (∃ name ∈ ["requestState", "request_state"],
    Approval.isPendingState (Value.get name params) = true) ∧
  ∃ name ∈ ["inputResponses", "input_responses"], Approval.Affirms (Value.get name params)

instance (params : List (String × Json)) : Decidable (ShowsApproval params) :=
  inferInstanceAs (Decidable ((∃ name ∈ _, _) ∧ ∃ name ∈ _, _))

/-- One of two alternatives is what `or` gives. -/
theorem Value.orElse_eq {κ : Type} (v w : Value κ) : v.orElse w = v ∨ v.orElse w = w := by
  unfold Value.orElse
  split_ifs
  · exact Or.inl rfl
  · exact Or.inr rfl

/-- An approval the gate accepts is one the params show. -/
theorem showsApproval_of_carriesApproval {params : List (String × Json)}
    (h : CarriesApproval params) : ShowsApproval params := by
  obtain ⟨hstate, hanswers⟩ := h
  constructor
  · rcases Value.orElse_eq (Value.get "requestState" params) (Value.get "request_state" params)
      with heq | heq
    · exact ⟨"requestState", by simp, heq ▸ hstate⟩
    · exact ⟨"request_state", by simp, heq ▸ hstate⟩
  · rcases Value.orElse_eq (Value.get "inputResponses" params)
      (Value.get "input_responses" params) with heq | heq
    · exact ⟨"inputResponses", by simp, heq ▸ hanswers⟩
    · exact ⟨"input_responses", by simp, heq ▸ hanswers⟩

variable [Interpreter] {ε : Type} (policy : Policy) (ambient : Ambient)
  (handler : Ctx → Except ε HandlerResult) (ctx : Ctx)

/-- The rule that governs a request, in the section its method belongs to. -/
def governingRule : Option Rule :=
  if ctx.method = some "tools/call" then policy.tools.get (toolOf ctx)
  else if ctx.method = some "resources/read" then policy.resourceRule (uriOf ctx)
  else none

/-- The gate of the rule that governs the request, if it declares one, is honoured. -/
def GateHonoured : Prop :=
  ∀ rule, governingRule policy ctx = some rule → rule.requiresApproval = true →
    forwardedOf ((enforcing policy).call ambient handler ctx).events ≠ [] →
      ShowsApproval (paramsOf ctx)

section methods

variable {policy ambient handler ctx}

/-- Calls of tools honour every gate. -/
theorem gateHonoured_of_toolsCall (h : ctx.method = some "tools/call") :
    GateHonoured policy ambient handler ctx := by
  intro rule hrule hgate hreached
  rw [governingRule, if_pos h] at hrule
  have hgated := forwarded_gated_iff policy handler ambient ctx h
  exact showsApproval_of_carriesApproval (hgated.mp ⟨hreached, rule, hrule, hgate⟩).2

/-- A granted read goes through, whatever its rule declares. -/
theorem forwardedOf_resourcesRead_ne_nil_iff (h : ctx.method = some "resources/read") {rule : Rule}
    (hrule : policy.resourceRule (uriOf ctx) = some rule) :
    forwardedOf ((enforcing policy).call ambient handler ctx).events ≠ [] ↔
      ∃ r ∈ roles ambient, r ∈ rule.allowRoles := by
  have hdecision : (enforcing policy).resourceDecision ambient ctx = _ :=
    Policy.decideResource_of_some hrule (roles ambient)
  have hforward : ((enforcing policy).resourcePlan ambient ctx).verdict = .forward ↔
      ∃ r ∈ roles ambient, r ∈ rule.allowRoles := by
    rw [resourcePlan_verdict_eq_forward_iff, hdecision, Policy.matchRule_allowed_iff]
    simp [enforcing]
  rw [call_of_resourcesRead h, Plan.forwardedOf_run, ← hforward]
  split_ifs with hv <;> simp [hv]

end methods

/-- **Where a declared gate is honoured**: on every request but the read of a resource whose rule
declares a gate and grants the read to the caller, when the request shows no approval. -/
theorem gateHonoured_iff : GateHonoured policy ambient handler ctx ↔
    (ctx.method = some "resources/read" → ∀ rule, policy.resourceRule (uriOf ctx) = some rule →
      rule.requiresApproval = true → (∃ r ∈ roles ambient, r ∈ rule.allowRoles) →
        ShowsApproval (paramsOf ctx)) := by
  constructor
  · intro h hmethod rule hrule hgate hgranted
    apply h rule _ hgate ((forwardedOf_resourcesRead_ne_nil_iff hmethod hrule).mpr hgranted)
    rw [governingRule, if_neg (by simp [hmethod]), if_pos hmethod, hrule]
  · intro h
    by_cases hcall : ctx.method = some "tools/call"
    · exact gateHonoured_of_toolsCall hcall
    · intro rule hrule hgate hreached
      rw [governingRule, if_neg hcall] at hrule
      split_ifs at hrule with hread
      have hgranted := (forwardedOf_resourcesRead_ne_nil_iff hread hrule).mp hreached
      exact h hread rule hrule hgate hgranted

/-- A document that declares a gate on a resource. -/
def gatedResourceDocument : Yaml :=
  .dict [(.str "version", .int 1), (.str "roles", .dict [(.str "tlo.reader", .none)]),
    (.str "resources", .dict [(.str "shipment://*", .dict [
      (.str "allow_roles", .list [.str "tlo.reader"]), (.str "requires_approval", .bool true)])])]

omit [Interpreter] in
/-- The document is accepted, and a reader reads a shipment without anybody being asked. -/
theorem not_gateHonoured_of_gatedResource :
    ∃ policy,
      @Policy.fromMapping plainInterpreter gatedResourceDocument "policy.yaml" = .ok policy ∧
      ¬ @GateHonoured plainInterpreter Unit policy
        ⟨some (Verifier.tokenOf "rita" "tlo.reader"), "n1"⟩
        (fun _ => .ok (.value .none))
        ⟨some "resources/read", .dict [("uri", .str "shipment://SHP-1004")], none⟩ := by
  let _ := plainInterpreter
  refine ⟨_, rfl, ?_⟩
  intro h
  exact absurd (h _ rfl rfl (by decide)) (by decide)

end GovernedMcp
