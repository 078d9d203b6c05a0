import GovernedMcp.Enforcement.Plan
import GovernedMcp.Policy.Document

/-!
# Authorization from document and token to handler

The parser, the projection of claims, the decision and the middleware, put together. The outcome of
a tool call is stated in terms of the document and of the claims alone:

* `governingEntry raw tool`: the last entry of the document's `tools` section that names the tool.
* `claimedRoles caller`: what `_string_list` makes of the `roles` claim, nothing without a token.

`failClosed` says what becomes of a call; `sameOutcome_of_roles_eq` that of a caller's claims only
`roles` counts.
-/

namespace GovernedMcp

open Lib PolicyEnforcementMiddleware

variable [Interpreter]

/-! ## The two ends -/

/-- The caller, as a claims mapping; `none` is a caller without a token. -/
abbrev Caller := Option (List (String × Json))

/-- The request arrives with the access token the caller's claims are turned into. -/
def Caller.Presents (caller : Caller) (ambient : Ambient) : Prop :=
  match caller with
  | none => ambient.accessToken = none
  | some claims => ∃ audience token t, Verifier.toAccessToken audience token claims = .ok t ∧
      ambient.accessToken = some t

/-- The value of the caller's `roles` claim, `None` without a token. -/
def Caller.rolesClaim (caller : Caller) : Json := caller.elim .none (Value.get "roles")

/-- The roles the caller claims. -/
def Caller.claimedRoles (caller : Caller) : List String := Verifier.stringList caller.rolesClaim

/-- The entry of the document that governs a tool. -/
def governingEntry (raw : Yaml) (tool : String) : Option (Scalar × Yaml) :=
  (Policy.sectionEntries (Policy.member "tools" (raw.asMapping.getD []))).bind
    (Policy.lastEntry tool)

/-- The document lists a role of the caller for the tool. -/
def Grants (raw : Yaml) (caller : Caller) (tool : String) : Prop :=
  ∃ e, governingEntry raw tool = some e ∧ ∃ r ∈ Policy.allowedRoles e, r ∈ caller.claimedRoles

/-- The roles the middleware reads are the roles the caller claims. -/
theorem roles_of_presents {caller : Caller} {ambient : Ambient} (h : caller.Presents ambient) :
    roles ambient = caller.claimedRoles := by
  rcases caller with _ | claims
  · have htoken : ambient.accessToken = none := h
    rw [roles, htoken]
    rfl
  · obtain ⟨audience, token, t, ht, htoken⟩ := h
    rw [roles, htoken, Verifier.rolesFromToken_of_toAccessToken ht]
    rfl

/-- The rule the middleware finds is the one the governing entry describes. -/
theorem get_tools_of_fromMapping {raw : Yaml} {source : String} {policy : Policy}
    (h : Policy.fromMapping raw source = .ok policy) (tool : String) :
    policy.tools.get tool = (governingEntry raw tool).map Policy.ruleOf := by
  obtain ⟨doc, sections, rfl, hdescribes, -, rfl⟩ := Policy.fromMapping_eq_ok_iff.mp h
  have htools : Policy.sectionEntries (Policy.member "tools" doc) = some sections.tools :=
    hdescribes.tools
  rw [Policy.get_tools_policyOf]
  simp [governingEntry, Value.asMapping, htools]

/-! ## What becomes of a call -/

section calls

variable {ε : Type} {raw : Yaml} {source : String} {policy : Policy} {caller : Caller}
  {ambient : Ambient} {handler : Ctx → Except ε HandlerResult} {ctx : Ctx} {tool : String}

/-- The decision is the document's. -/
theorem allowed_iff_grants (hdoc : Policy.fromMapping raw source = .ok policy)
    (hcaller : caller.Presents ambient) (ctx : Ctx) :
    ((enforcing policy).toolDecision ambient ctx).allowed = true ↔
      Grants raw caller (toolOf ctx) := by
  show (policy.decideTool (toolOf ctx) (roles ambient)).allowed = true ↔ _
  rw [Policy.decideTool_allowed_iff, get_tools_of_fromMapping hdoc, roles_of_presents hcaller]
  simp [Grants, Policy.ruleOf, and_comm]

/-- A granted call waits for approval iff the governing entry says so. -/
theorem requiresApproval_of_governingEntry (hdoc : Policy.fromMapping raw source = .ok policy)
    (ambient : Ambient) {e : Scalar × Yaml} (he : governingEntry raw (toolOf ctx) = some e) :
    ((enforcing policy).toolDecision ambient ctx).requiresApproval = Policy.asksApproval e := by
  show (policy.decideTool (toolOf ctx) (roles ambient)).requiresApproval = _
  have hrule : policy.tools.get (toolOf ctx) = some (Policy.ruleOf e) := by
    rw [get_tools_of_fromMapping hdoc, he]
    rfl
  rw [Policy.decideTool_of_some hrule, Policy.matchRule_requiresApproval]
  rfl

/-- The name of the tool is the member `name`. -/
theorem toolOf_of_name (h : Value.get "name" (paramsOf ctx) = .str tool) : toolOf ctx = tool := by
  unfold toolOf Value.getOr
  unfold Value.get at h
  rcases hl : Dict.lookup "name" (paramsOf ctx) with _ | v
  · simp [hl] at h
  · rw [hl, Option.getD_some] at h
    simp [h]

/-- The plan of a call depends on the caller through the roles, and through the principal that
goes into its records. -/
theorem toolPlan_verdict_congr (self : PolicyEnforcementMiddleware) (ctx : Ctx)
    {ambient ambient' : Ambient} (hroles : roles ambient = roles ambient')
    (hnonce : ambient.nonce = ambient'.nonce) :
    (self.toolPlan ambient ctx).verdict = (self.toolPlan ambient' ctx).verdict := by
  have hdecision : self.toolDecision ambient ctx = self.toolDecision ambient' ctx := by
    rw [toolDecision, hroles, toolDecision]
  have hquestion : ∀ args, self.question ambient (toolOf ctx) args =
      self.question ambient' (toolOf ctx) args := by
    intro args
    rw [question, hnonce, question]
  unfold toolPlan gatePlan
  rw [hdecision]
  split_ifs
  · rfl
  · cases gateOf (paramsOf ctx) (toolOf ctx) with
    | unanswered => simp only [hquestion]
    | refused reason => rfl
    | approved => rfl
  · rfl

end calls

/-! ## End to end -/

section endToEnd

variable {ε : Type}

/-- What the document and the claims settle about a call of `tool`. -/
structure FailsClosed (raw : Yaml) (caller : Caller) (tool : String)
    (handler : Ctx → Except ε HandlerResult) (ctx : Ctx) (out : Handling ε Response) : Prop where
  /-- A call the document does not grant is denied and goes nowhere. -/
  denied : ¬ Grants raw caller tool → isDenial out.value = true ∧ forwardedOf out.events = []
  /-- A granted call of a tool without a gate is handed on once, as it came. -/
  granted : Grants raw caller tool →
    (∀ e, governingEntry raw tool = some e → Policy.asksApproval e = false) →
      forwardedOf out.events = [ctx] ∧ out.value = (forward handler ctx).value
  /-- Any other call is handed on at most once. -/
  gated : (forwardedOf out.events).length ≤ 1

variable {raw : Yaml} {source : String} {policy : Policy} {caller : Caller} {ambient : Ambient}
  {ctx : Ctx} {tool : String}

/-- **A call fails closed** by its plan. -/
theorem failsClosed_toolPlan (hdoc : Policy.fromMapping raw source = .ok policy)
    (hcaller : caller.Presents ambient) (handler : Ctx → Except ε HandlerResult) :
    FailsClosed raw caller (toolOf ctx) handler ctx
      (((enforcing policy).toolPlan ambient ctx).run handler ctx) := by
  have hallowed := allowed_iff_grants hdoc hcaller ctx
  refine ⟨fun hno => ?_, fun hyes hungated => ?_, ?_⟩
  · have hdenied : ((enforcing policy).toolDecision ambient ctx).allowed = false ∧
        (enforcing policy).enforce = true := ⟨by simpa using mt hallowed.mp hno, rfl⟩
    have hplan : ((enforcing policy).toolPlan ambient ctx).verdict =
        .refuse (accessDenied ((enforcing policy).toolDecision ambient ctx)) := by
      rw [toolPlan, if_pos hdenied]
    exact ⟨(Plan.isDenial_run_iff _ handler ctx).mpr ⟨_, hplan, rfl⟩, by simp [hplan]⟩
  · obtain ⟨e, he, -⟩ := id hyes
    have happroval := requiresApproval_of_governingEntry hdoc ambient he
    rw [hungated e he] at happroval
    have hplan : ((enforcing policy).toolPlan ambient ctx).verdict = .forward :=
      toolPlan_verdict_eq_forward_iff.mpr
        (Or.inr ⟨hallowed.mpr hyes, fun h => absurd (happroval.symm.trans h) (by simp)⟩)
    exact ⟨by simp [hplan], Plan.value_run_of_forward handler ctx hplan⟩
  · rw [Plan.forwardedOf_run]
    split_ifs <;> simp

/-- **Fail closed, end to end.** For every accepted document, every caller and every call of a tool,
the document and the claimed roles settle the outcome; and of the claims nothing but `roles` counts:
a caller whose `roles` claim is the same gets the same. -/
theorem failsClosed_of_fromMapping (hdoc : Policy.fromMapping raw source = .ok policy)
    (hcaller : caller.Presents ambient) (hmethod : ctx.method = some "tools/call")
    (htool : Value.get "name" (paramsOf ctx) = .str tool)
    (handler : Ctx → Except ε HandlerResult) :
    FailsClosed raw caller tool handler ctx ((enforcing policy).call ambient handler ctx) ∧
      ∀ (caller' : Caller) (ambient' : Ambient), caller'.Presents ambient' →
        caller'.rolesClaim = caller.rolesClaim → ambient'.nonce = ambient.nonce →
          (((enforcing policy).call ambient' handler ctx).value =
              ((enforcing policy).call ambient handler ctx).value ∧
            forwardedOf ((enforcing policy).call ambient' handler ctx).events =
              forwardedOf ((enforcing policy).call ambient handler ctx).events) := by
  rw [call_of_toolsCall hmethod, ← toolOf_of_name htool]
  refine ⟨failsClosed_toolPlan hdoc hcaller handler, ?_⟩
  intro caller' ambient' hcaller' hclaim hnonce
  have hroles : roles ambient' = roles ambient := by
    rw [roles_of_presents hcaller', roles_of_presents hcaller, Caller.claimedRoles, hclaim,
      Caller.claimedRoles]
  have hverdict := toolPlan_verdict_congr (enforcing policy) ctx hroles hnonce
  rw [call_of_toolsCall hmethod]
  constructor
  · rw [Plan.value_run, Plan.value_run, hverdict]
  · rw [Plan.forwardedOf_run, Plan.forwardedOf_run, hverdict]

/-- A document with one tool, which the readers may call. -/
def statusDocument : Yaml :=
  .dict [(.str "version", .int 1), (.str "roles", .dict [(.str "tlo.reader", .none)]),
    (.str "tools", .dict [(.str "get_shipment_status", .dict [
      (.str "allow_roles", .list [.str "tlo.reader"])])])]

/-- The claims of a reader. -/
def readerClaims : List (String × Json) :=
  [("sub", .str "rita"), ("scp", .str "mcp.access"), ("roles", .list [.str "tlo.reader"])]

/-- A call of that tool. -/
def statusCall : Ctx where
  method := some "tools/call"
  params := .dict [("name", .str "get_shipment_status")]
  protocolVersion := none

omit [Interpreter] in
/-- Over that document the call of a reader goes through. -/
theorem statusCall_forwarded : ∃ policy t,
    @Policy.fromMapping plainInterpreter statusDocument "policy.yaml" = .ok policy ∧
    @Verifier.toAccessToken plainInterpreter "governed-mcp" "" readerClaims = .ok t ∧
    forwardedOf (@call plainInterpreter Unit (enforcing policy) ⟨some t, "n1"⟩
      (fun _ => .ok (.value .none)) statusCall).events = [statusCall] := by
  let _ := plainInterpreter
  refine ⟨_, _, rfl, rfl, ?_⟩
  refine ((@failsClosed_of_fromMapping plainInterpreter Unit statusDocument "policy.yaml" _
    (some readerClaims) _ statusCall "get_shipment_status" rfl ⟨_, _, _, rfl, rfl⟩ rfl rfl
    _).1.granted ?_ ?_).1
  · exact ⟨_, rfl, "tlo.reader", by decide, by decide⟩
  · intro e he
    cases he
    rfl

end endToEnd

end GovernedMcp
