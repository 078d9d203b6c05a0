import GovernedMcp.Lib.Guarded
import GovernedMcp.Enforcement.Deployment
import GovernedMcp.Enforcement.Shadow

/-!
# Every request is mediated

What the middleware does with a request is settled by the request, the caller and the policy; the
backend has no part in it. So a governed server is the ungoverned one behind a guard, and over a run
it does to its backend what the ungoverned one does on the requests that get through.

* `planOf`: the plan of a request, whatever its method; `passes` says whether it lets it through.
* `awaits`, `next_eq`: the requests that reach the backend.
* `guards_ungoverned`: the governed server guards the ungoverned one.
* **`mediated`**: runs in enforce mode. **`shadowed`**: runs in shadow mode.
-/

namespace GovernedMcp.Deployment

open Lib PolicyEnforcementMiddleware

variable [Interpreter] {σ ε : Type}

/-! ## The guard -/

section guard

variable (middleware : PolicyEnforcementMiddleware) (a : Arrival)

/-- The plan for a request. Where the method is not guarded, it is to hand it on. -/
def planOf : Plan :=
  if a.ctx.method = some "tools/call" then middleware.toolPlan a.ambient a.ctx
  else if a.ctx.method = some "resources/read" then middleware.resourcePlan a.ambient a.ctx
  else ⟨[], .forward⟩

/-- Whether a request gets through. -/
def passes : Bool := decide ((planOf middleware a).verdict = .forward)

/-- A listing is cut down to what the caller may call; any other response stays as it is. -/
def listed : Response → Response
  | .result r =>
    if a.ctx.method = some "tools/list" ∧ middleware.enforce = true then
      .result (keptTools (middleware.policy.visibleTools (roles a.ambient)) r)
    else .result r
  | r => r

/-- What is shown of the handling of a request that got through. -/
def shown (handling : Handling ε Response) : Handling ε Response where
  events := (planOf middleware a).records.map .record ++ handling.events
  value := handling.value.map (listed middleware a)

/-- What becomes of a request that does not get through. No handler is asked. -/
def refusal : Handling ε Response := (planOf middleware a).run (fun _ => .ok (.value .none)) a.ctx

end guard

variable [Calendar] [Server.Signatures] {middleware : PolicyEnforcementMiddleware} {a : Arrival}

omit [Calendar] [Server.Signatures] in
/-- What is no listing is not cut down. -/
theorem listed_of_guarded (h : a.ctx.method ≠ some "tools/list") :
    listed middleware a = id := by
  funext response
  cases response with
  | result r => exact if_neg fun hboth => h hboth.1
  | inputRequired r => rfl

omit [Calendar] [Server.Signatures] in
/-- A request that gets through is forwarded, and what is shown of it depends on what comes back. -/
theorem call_of_passes (handler : Ctx → Except ε HandlerResult) (h : passes middleware a = true) :
    middleware.call a.ambient handler a.ctx = shown middleware a (forward handler a.ctx) := by
  have hverdict : (planOf middleware a).verdict = .forward := of_decide_eq_true h
  rw [Plan.forward_eq]
  by_cases hcall : a.ctx.method = some "tools/call"
  · have hplan : planOf middleware a = middleware.toolPlan a.ambient a.ctx := if_pos hcall
    rw [call_of_toolsCall hcall, ← hplan, Plan.run, hverdict, shown,
      listed_of_guarded (by simp [hcall])]
    simp
  · by_cases hread : a.ctx.method = some "resources/read"
    · have hplan : planOf middleware a = middleware.resourcePlan a.ambient a.ctx := by
        rw [planOf, if_neg hcall, if_pos hread]
      rw [call_of_resourcesRead hread, ← hplan, Plan.run, hverdict, shown,
        listed_of_guarded (by simp [hread])]
      simp
    · have hplan : planOf middleware a = ⟨[], .forward⟩ := by
        rw [planOf, if_neg hcall, if_neg hread]
      unfold call shown
      rw [if_neg hcall, if_neg hread, hplan]
      by_cases hlist : a.ctx.method = some "tools/list"
      · rw [if_pos hlist]
        unfold filterToolList forward callNext
        cases handler a.ctx with
        | error e =>
          rw [Traced.bind_of_error rfl, Traced.bind_of_error rfl]
          rfl
        | ok r =>
          rw [Traced.bind_of_ok rfl, Traced.bind_of_ok rfl]
          cases henforce : middleware.enforce with
          | true => simp [listed, hlist, henforce, Except.map]
          | false => simp [listed, hlist, henforce, Except.map]
      · rw [if_neg hlist, listed_of_guarded hlist, Plan.forward_eq]
        simp

omit [Calendar] [Server.Signatures] in
/-- Any other request is answered by the middleware alone. -/
theorem call_of_refused (handler : Ctx → Except ε HandlerResult)
    (h : passes middleware a = false) :
    middleware.call a.ambient handler a.ctx = refusal middleware a := by
  have hverdict : (planOf middleware a).verdict ≠ .forward := of_decide_eq_false h
  have hrun : (planOf middleware a).run handler a.ctx = refusal middleware a := by
    unfold refusal Plan.run
    cases hv : (planOf middleware a).verdict with
    | forward => exact absurd hv hverdict
    | pause asked => rfl
    | refuse e => rfl
  rw [← hrun]
  by_cases hcall : a.ctx.method = some "tools/call"
  · rw [call_of_toolsCall hcall, planOf, if_pos hcall]
  · by_cases hread : a.ctx.method = some "resources/read"
    · rw [call_of_resourcesRead hread, planOf, if_neg hcall, if_pos hread]
    · rw [planOf, if_neg hcall, if_neg hread] at hverdict
      exact absurd rfl hverdict

/-- A request that gets through is handled as without the middleware, and shown. -/
theorem handle_of_passes (D : Deployment σ ε) (s : σ) (h : passes middleware a = true) :
    (D.governedBy middleware).handle s a = shown middleware a (D.ungoverned.handle s a) :=
  call_of_passes (D.handler a.now s) h

/-- Any other is refused by the middleware alone. -/
theorem handle_of_refused (D : Deployment σ ε) (s : σ) (h : passes middleware a = false) :
    (D.governedBy middleware).handle s a = refusal middleware a :=
  call_of_refused (D.handler a.now s) h

omit [Calendar] [Server.Signatures] in
/-- What is shown of a request has reached the handler as often. -/
theorem forwardedOf_shown (handling : Handling ε Response) :
    forwardedOf (shown middleware a handling).events = forwardedOf handling.events := by
  simp only [shown, forwardedOf, List.filterMap_append]
  rw [← forwardedOf, Plan.forwardedOf_map_record, List.nil_append]

omit [Calendar] [Server.Signatures] in
/-- A refusal reaches no handler. -/
theorem forwardedOf_refusal (h : passes middleware a = false) :
    forwardedOf (refusal middleware a : Handling ε Response).events = [] := by
  have hverdict : (planOf middleware a).verdict ≠ .forward := of_decide_eq_false h
  rw [refusal, Plan.forwardedOf_run, if_neg hverdict]

/-- Whether `call_next` is awaited. -/
def awaits (self : Deployment σ ε) (a : Arrival) : Bool :=
  match self.middleware with
  | some middleware => passes middleware a
  | none => true

/-- A request reaches `call_next` once, as it came, or never. -/
theorem forwardedOf_handle (D : Deployment σ ε) (s : σ) (a : Arrival) :
    forwardedOf (D.handle s a).events = if D.awaits a then [a.ctx] else [] := by
  unfold handle awaits
  cases D.middleware with
  | none =>
    rw [Plan.forward_eq]
    rfl
  | some middleware =>
    show forwardedOf (middleware.call a.ambient _ a.ctx).events =
      if passes middleware a then _ else _
    cases hpasses : passes middleware a with
    | true =>
      rw [call_of_passes _ hpasses, forwardedOf_shown, Plan.forward_eq]
      rfl
    | false =>
      rw [call_of_refused _ hpasses, forwardedOf_refusal hpasses]
      rfl

/-- The backend is used by a request that does. -/
theorem next_eq (D : Deployment σ ε) (s : σ) (a : Arrival) :
    D.machine.next s a = if D.awaits a then D.effect a.now s a.ctx else s := by
  show (forwardedOf (D.handle s a).events).foldl (D.effect a.now) s = _
  rw [D.forwardedOf_handle]
  cases D.awaits a <;> rfl

/-- Over a run it does to its backend what it would do without a middleware, on the requests that
reach the backend alone. -/
theorem final_filter (D : Deployment σ ε) (s : σ) (arrivals : List Arrival) :
    D.machine.final s arrivals = D.ungoverned.machine.final s (arrivals.filter D.awaits) := by
  induction arrivals generalizing s with
  | nil => rfl
  | cons a arrivals ih =>
    show D.machine.final (D.machine.next s a) arrivals = _
    rw [ih, D.next_eq]
    cases hawaits : D.awaits a with
    | true =>
      rw [List.filter_cons_of_pos hawaits]
      show _ = D.ungoverned.machine.final (D.ungoverned.machine.next s a) _
      rw [D.ungoverned.next_eq]
      rfl
    | false =>
      rw [List.filter_cons_of_neg (by simp [hawaits])]
      rfl

/-- **The governed server guards the ungoverned one.** -/
theorem guards_ungoverned (D : Deployment σ ε) (middleware : PolicyEnforcementMiddleware) :
    Machine.Guards (D.governedBy middleware).machine D.ungoverned.machine (passes middleware)
      (shown middleware) (refusal middleware) where
  next_of_passes s a h := by
    have hawaits : (D.governedBy middleware).awaits a = true := h
    rw [next_eq, if_pos hawaits, next_eq]
    rfl
  answer_of_passes s a h := D.handle_of_passes s h
  next_of_refused s a h := by
    have hawaits : (D.governedBy middleware).awaits a = false := h
    rw [next_eq, if_neg (by simp [hawaits])]
  answer_of_refused s a h := D.handle_of_refused s h

/-! ## Enforce mode -/

/-- The policy lets the request through: a call of a tool that a rule grants to the caller, with an
approval where the rule asks for one; a read of a resource that is allowed; or anything else. -/
structure Authorised (policy : Policy) (a : Arrival) : Prop where
  call : a.ctx.method = some "tools/call" →
    ∃ rule, policy.tools.get (toolOf a.ctx) = some rule ∧
      (∃ r ∈ roles a.ambient, r ∈ rule.allowRoles) ∧
      (rule.requiresApproval = true → CarriesApproval (paramsOf a.ctx))
  read : a.ctx.method = some "resources/read" →
    (policy.decideResource (uriOf a.ctx) (roles a.ambient)).allowed = true

omit [Calendar] [Server.Signatures] in
/-- A call gets through on a rule that grants the tool, and with an approval where it asks for
one. -/
theorem toolPlan_enforcing_forward_iff {policy : Policy} {ambient : Ambient} {ctx : Ctx} :
    ((enforcing policy).toolPlan ambient ctx).verdict = .forward ↔
      ∃ rule, policy.tools.get (toolOf ctx) = some rule ∧
        (∃ r ∈ roles ambient, r ∈ rule.allowRoles) ∧
        (rule.requiresApproval = true → CarriesApproval (paramsOf ctx)) := by
  rw [toolPlan_verdict_eq_forward_iff, or_iff_right (by simp [enforcing])]
  have hdecision : (enforcing policy).toolDecision ambient ctx =
      policy.decideTool (toolOf ctx) (roles ambient) := rfl
  rw [hdecision]
  rcases hrule : policy.tools.get (toolOf ctx) with _ | rule
  · simp [(Policy.decideTool_of_none hrule (roles ambient)).1]
  · rw [Policy.decideTool_of_some hrule, Policy.matchRule_allowed_iff,
      Policy.matchRule_requiresApproval]
    simp

omit [Calendar] [Server.Signatures] in
/-- **What gets through** in enforce mode is what the policy authorises. -/
theorem passes_enforcing_iff {policy : Policy} :
    passes (enforcing policy) a = true ↔ Authorised policy a := by
  rw [passes, decide_eq_true_iff, planOf]
  by_cases hcall : a.ctx.method = some "tools/call"
  · rw [if_pos hcall, toolPlan_enforcing_forward_iff]
    exact ⟨fun h => ⟨fun _ => h, fun hread => absurd (hcall.symm.trans hread) (by simp)⟩,
      fun h => h.call hcall⟩
  · rw [if_neg hcall]
    by_cases hread : a.ctx.method = some "resources/read"
    · rw [if_pos hread, resourcePlan_verdict_eq_forward_iff, or_iff_right (by simp [enforcing])]
      exact ⟨fun h => ⟨fun hcall' => absurd hcall' hcall, fun _ => h⟩, fun h => h.read hread⟩
    · rw [if_neg hread]
      exact ⟨fun _ => ⟨fun hcall' => absurd hcall' hcall, fun hread' => absurd hread' hread⟩,
        fun _ => rfl⟩

/-- **Complete mediation.** Over every run in enforce mode, the server does to its backend what the
ungoverned one does on the authorised requests alone, and answers them as that one does, up to
listings that are cut down; any other request is refused or paused by the middleware alone. Source:
`middleware.py`, `PolicyEnforcementMiddleware`. -/
theorem mediated (D : Deployment σ ε) (policy : Policy) (s : σ) (arrivals : List Arrival) :
    (∀ a, passes (enforcing policy) a = true ↔ Authorised policy a) ∧
    (D.governedBy (enforcing policy)).machine.final s arrivals =
      D.ungoverned.machine.final s (arrivals.filter (passes (enforcing policy))) ∧
    (D.governedBy (enforcing policy)).machine.answers s arrivals =
      Machine.weave (passes (enforcing policy)) (shown (enforcing policy))
        (refusal (enforcing policy)) arrivals
        (D.ungoverned.machine.answers s (arrivals.filter (passes (enforcing policy)))) := by
  have hguards := D.guards_ungoverned (enforcing policy)
  exact ⟨fun _ => passes_enforcing_iff, hguards.final s arrivals, hguards.answers s arrivals⟩

/-! ## Shadow mode -/

omit [Calendar] [Server.Signatures] in
/-- In shadow mode everything gets through. -/
theorem passes_shadowing (policy : Policy) (a : Arrival) : passes (shadowing policy) a = true := by
  rw [passes, decide_eq_true_iff, planOf]
  split_ifs
  · exact toolPlan_verdict_eq_forward_iff.mpr (Or.inl rfl)
  · exact resourcePlan_verdict_eq_forward_iff.mpr (Or.inl rfl)
  · rfl

omit [Calendar] [Server.Signatures] in
/-- And responses are shown as they are. -/
theorem value_shown_shadowing (policy : Policy) (a : Arrival) (handling : Handling ε Response) :
    (shown (shadowing policy) a handling).value = handling.value := by
  have hlisted : listed (shadowing policy) a = id := by
    funext response
    cases response with
    | result r => exact if_neg (by simp [shadowing])
    | inputRequired r => rfl
  rw [shown, hlisted]
  cases handling.value <;> rfl

/-- What is written of a request in shadow mode, and nothing else: the decision on it. -/
def decisionOf (policy : Policy) (a : Arrival) : List Audit.Record :=
  if a.ctx.method = some "tools/call" then [(enforcing policy).toolRecord a.ambient a.ctx]
  else if a.ctx.method = some "resources/read" then
    [(enforcing policy).resourceRecord a.ambient a.ctx]
  else []

omit [Calendar] [Server.Signatures] in
/-- A shadowing server records the decision, and nothing else. -/
theorem records_planOf_shadowing (policy : Policy) (a : Arrival) :
    (planOf (shadowing policy) a).records = decisionOf policy a := by
  unfold planOf decisionOf
  split_ifs
  · rw [toolPlan_shadowing]
    rfl
  · rw [resourcePlan_shadowing]
    rfl
  · rfl

omit [Calendar] [Server.Signatures] in
/-- The records of the middleware come first. -/
theorem recordsOf_shown (handling : Handling ε Response) :
    recordsOf (shown middleware a handling).events =
      (planOf middleware a).records ++ recordsOf handling.events := by
  simp only [shown, recordsOf, List.filterMap_append]
  rw [← recordsOf, Plan.recordsOf_map_record]

/-- **Shadow mode is transparent.** Over every run it leaves the backend as the ungoverned server
does and gives the same responses; and it writes down the decision that enforcing would make on each
request. Source: `middleware.py`, `PolicyEnforcementMiddleware.__init__`. -/
theorem shadowed (D : Deployment σ ε) (policy : Policy) (s : σ) (arrivals : List Arrival) :
    (D.governedBy (shadowing policy)).machine.final s arrivals =
        D.ungoverned.machine.final s arrivals ∧
      ((D.governedBy (shadowing policy)).machine.answers s arrivals).map Lib.Traced.value =
        (D.ungoverned.machine.answers s arrivals).map Lib.Traced.value ∧
      ((D.governedBy (shadowing policy)).machine.answers s arrivals).map
          (fun handling => recordsOf handling.events) =
        arrivals.map (decisionOf policy) := by
  have hguards := D.guards_ungoverned (shadowing policy)
  refine ⟨?_, ?_, ?_⟩
  · rw [hguards.final, List.filter_eq_self.mpr fun a _ => passes_shadowing policy a]
  · induction arrivals generalizing s with
    | nil => rfl
    | cons a arrivals ih =>
      have hpasses := passes_shadowing policy a
      rw [Machine.answers, Machine.answers, List.map_cons, List.map_cons,
        hguards.answer_of_passes s a hpasses, hguards.next_of_passes s a hpasses,
        value_shown_shadowing, ih]
  · induction arrivals generalizing s with
    | nil => rfl
    | cons a arrivals ih =>
      have hpasses := passes_shadowing policy a
      rw [Machine.answers, List.map_cons, List.map_cons, hguards.answer_of_passes s a hpasses, ih]
      have hplain : recordsOf (D.ungoverned.machine.answer s a).events = [] := by
        show recordsOf (forward (D.handler a.now s) a.ctx).events = []
        rw [Plan.forward_eq]
        rfl
      rw [recordsOf_shown, records_planOf_shadowing, hplain, List.append_nil]

end GovernedMcp.Deployment
