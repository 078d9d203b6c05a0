import GovernedMcp.Approval.SingleUse

/-!
# The approval loop completes

A client that is asked comes back with the state it was given and the answer of its human. What
becomes of that retry depends on the answer and on the time, and on nothing else: not on the calls
of other clients before, between or after, nor on which replica answers.

* `Asks`, `Retries`: the two calls of the loop.
* `loop_completes`: the first is answered with a question; the second runs what was asked about iff
  the human agreed and the state is alive.
-/

namespace GovernedMcp

open Lib PolicyEnforcementMiddleware

variable {ε : Type} [Interpreter] (policy : Policy) (B : Boundary)

/-- A call of a gated tool that comes for the first time, with no state and no answers. -/
structure Asks (c : Call ε) : Prop where
  gated : IsGatedCall policy c.ambient (c.ctx c.params)
  stateless : Dict.lookup "requestState" c.params = none
  unanswered : (answersOf c.params).truthy = false

/-- The call again, with a state and answers. The caller is the same, and still holds a role that
is granted the tool. -/
structure Retries (first : Call ε) (token : String) (answers : Json) (retry : Call ε) : Prop where
  state : Dict.lookup "requestState" retry.params = some (.str token)
  answers : answersOf retry.params = answers
  same : ∀ name ∈ ["name", "arguments"],
    Dict.lookup name retry.params = Dict.lookup name first.params
  principal : B.principalOf retry.ambient.accessToken = B.principalOf first.ambient.accessToken
  granted : ∃ rule, policy.tools.get (toolOf (first.ctx first.params)) = some rule ∧
    ∃ r ∈ roles retry.ambient, r ∈ rule.allowRoles

/-- A call was answered with the question about it, and with this state. -/
structure AskedAbout (e : Exchange B.Principal ε) (s : Sealed B.Principal) : Prop where
  question : ∃ ctx handling, e.handled = some (ctx, handling) ∧
    handling.value = .ok (.inputRequired ((enforcing policy).question e.call.ambient
      (toolOf (e.call.ctx e.call.params))
      ((argumentsOf (e.call.ctx e.call.params)).asMapping.getD []))) ∧
    forwardedOf handling.events = []
  sealed : e.sealed = some s
  binding : s.binding = bindingOf B e.call
  issued : s.issued = e.call.now

variable {policy B}

/-! ## The first call -/

/-- A first call is paused with the question about it. -/
theorem verdict_of_asks {c : Call ε} (h : Asks policy c) :
    ((enforcing policy).toolPlan c.ambient (c.ctx c.params)).verdict =
      .pause ((enforcing policy).question c.ambient (toolOf (c.ctx c.params))
        ((argumentsOf (c.ctx c.params)).asMapping.getD [])) := by
  obtain ⟨hallowed, hasks⟩ := (isGatedCall_iff (enforcing policy) c.ambient _).mp h.gated
  have hgate : gateOf (paramsOf (c.ctx c.params)) (toolOf (c.ctx c.params)) = .unanswered :=
    if_pos h.unanswered
  rw [verdict_toolPlan_of_allowed hallowed, if_pos hasks, hgate]

/-- The exchange of a first call: the question about it is asked, no handler is reached, and a state
is sealed for the call. -/
theorem exchange_of_asks (hB : B.Documented) (past : List (Exchange B.Principal ε)) {c : Call ε}
    (h : Asks policy c) : ∃ s, AskedAbout policy B (exchange policy B past c) s := by
  have hin := hB.absent (ledgerOf past) (bindingOf B c) c.now c.params h.stateless
  have hverdict := verdict_of_asks h
  have hcall : (enforcing policy).call c.ambient c.handler (c.ctx c.params) = _ :=
    call_of_toolsCall rfl c.handler
  have hvalue : ((enforcing policy).call c.ambient c.handler (c.ctx c.params)).value =
      .ok (.inputRequired ((enforcing policy).question c.ambient (toolOf (c.ctx c.params))
        ((argumentsOf (c.ctx c.params)).asMapping.getD []))) := by
    rw [hcall, Plan.value_run_eq_inputRequired_iff, hverdict]
  have hforwarded : forwardedOf ((enforcing policy).call c.ambient c.handler
      (c.ctx c.params)).events = [] := by
    rw [hcall, Plan.forwardedOf_run, hverdict]
    rfl
  have hsealed : ∃ s, (exchange policy B past c).sealed = some s ∧ s.binding = bindingOf B c ∧
      s.issued = c.now := by
    unfold exchange
    rw [hin]
    simp only [hvalue, askedOf, Option.map_some]
    exact ⟨_, rfl, rfl, rfl⟩
  obtain ⟨s, hs, hbinding, hissued⟩ := hsealed
  refine ⟨s, ⟨_, _, handled_exchange hin, ?_, hforwarded⟩, hs, ?_, ?_⟩
  · rw [call_exchange]
    exact hvalue
  · rw [call_exchange, hbinding]
  · rw [call_exchange, hissued]

/-! ## The retry -/

/-- Of the states that a run has sealed, no two have the same token. -/
theorem sealed_eq_of_token_eq (hB : B.Stateless) {calls : List (Call ε)}
    {s s' : Sealed B.Principal} (hs : s ∈ ledgerOf (serve policy B calls))
    (hs' : s' ∈ ledgerOf (serve policy B calls)) (h : s.token = s'.token) : s = s' := by
  obtain ⟨e, he, hsealed⟩ := List.mem_filterMap.mp hs
  obtain ⟨e', he', hsealed'⟩ := List.mem_filterMap.mp hs'
  obtain ⟨m, hm⟩ := List.mem_iff_getElem?.mp he
  obtain ⟨n, hn⟩ := List.mem_iff_getElem?.mp he'
  have hissues : issues e = some (some (.str s.token)) := by rw [issues, hsealed]; rfl
  have hissues' : issues e' = some (some (.str s.token)) := by rw [issues, hsealed', h]; rfl
  have hmn := distinct_issues hB calls m n e e' _ hm hn hissues hissues'
  rw [hmn, hn] at hm
  cases hm
  exact Option.some.inj (hsealed.symm.trans hsealed')

/-- A state that is sealed in a run stays in its ledger. -/
theorem mem_ledgerOf_append {past : List (Call ε)} (between : List (Call ε)) {first : Call ε}
    {s : Sealed B.Principal} (h : (exchange policy B (serve policy B past) first).sealed = some s) :
    s ∈ ledgerOf (serve policy B (past ++ first :: between)) := by
  have hplace : (serve policy B (past ++ first :: between))[past.length]? =
      some (exchange policy B (serve policy B past) first) := by
    unfold serve
    rw [History.run_getElem?, List.getElem?_append_right (Nat.le_refl _), Nat.sub_self]
    simp
  exact List.mem_filterMap.mpr ⟨_, List.mem_of_getElem? hplace, h⟩

section retry

variable {first retry : Call ε} {answers : Json} {s : Sealed B.Principal} {calls : List (Call ε)}

/-- A retry is bound to what the first call is bound to. -/
theorem bindingOf_retry {token : String} (h : Retries policy B first token answers retry) :
    bindingOf B retry = bindingOf B first := by
  have htool : toolOf (retry.ctx retry.params) = toolOf (first.ctx first.params) := by
    show (Value.getOr "name" _ retry.params).toStr = (Value.getOr "name" _ first.params).toStr
    rw [Value.getOr, Value.getOr, h.same "name" (by simp)]
  have harguments : argumentsOf (retry.ctx retry.params) =
      argumentsOf (first.ctx first.params) := by
    show Value.get "arguments" retry.params = Value.get "arguments" first.params
    rw [Value.get, Value.get, h.same "arguments" (by simp)]
  rw [bindingOf, bindingOf, htool, harguments, h.principal]

/-- **The boundary lets a retry in** while the state is alive. -/
theorem inbound_retry_eq_none_iff (hB : B.Stateless)
    (h : Retries policy B first s.token answers retry) (hs : s ∈ ledgerOf (serve policy B calls))
    (hbinding : s.binding = bindingOf B first) (hissued : s.issued = first.now) :
    B.inbound (ledgerOf (serve policy B calls)) (bindingOf B retry) retry.now retry.params = none ↔
      B.ttl ≤ retry.now - first.now := by
  rw [← not_lt, ← hissued, ← Option.not_isSome_iff_eq_none, not_iff_not]
  constructor
  · intro hsome
    obtain ⟨params, hin⟩ := Option.isSome_iff_exists.mp hsome
    obtain ⟨s', hs', -⟩ := hB.present _ _ _ _ _ hin (by simp [h.state])
    have htoken : s.token = s'.token := by
      have heq := h.state.symm.trans hs'.2.1
      simpa using heq
    rw [sealed_eq_of_token_eq hB hs hs'.1 htoken]
    exact hs'.2.2.2
  · intro halive
    exact hB.again _ _ _ _ s ⟨hs, h.state, by rw [hbinding, bindingOf_retry h], halive⟩

/-- What the params of a retry that was let in carry. -/
structure LetIn (first : Call ε) (answers : Json) (params : List (String × Json)) : Prop where
  tool : toolOf (first.ctx params) = toolOf (first.ctx first.params)
  arguments : argumentsOf (first.ctx params) = argumentsOf (first.ctx first.params)
  answers : answersOf params = answers
  state : Approval.isPendingState (stateOf params) = true

/-- What the boundary passes on of a retry is the same call, with the answers and a pending state.
-/
theorem letIn_of_inbound (hB : B.Stateless) (h : Retries policy B first s.token answers retry)
    {params : List (String × Json)}
    (hin : B.inbound (ledgerOf (serve policy B calls)) (bindingOf B retry) retry.now
      retry.params = some params) : LetIn first answers params := by
  obtain ⟨s', hs', hstate, hothers⟩ := hB.present _ _ _ _ _ hin (by simp [h.state])
  obtain ⟨tool, nonce, hpending⟩ := exists_newPendingState_of_mem_ledgerOf hs'.1
  constructor
  · show (Value.getOr "name" _ params).toStr = (Value.getOr "name" _ first.params).toStr
    rw [Value.getOr, Value.getOr, hothers "name" (by decide), h.same "name" (by simp)]
  · show Value.get "arguments" params = Value.get "arguments" first.params
    rw [Value.get, Value.get, hothers "arguments" (by decide), h.same "arguments" (by simp)]
  · rw [answersOf_congr hothers, h.answers]
  · rw [hpending] at hstate
    rw [stateOf_of_pending hstate]
    exact Approval.isPendingState_newPendingState tool nonce

/-- **What becomes of a retry** that was let in depends on the answer. -/
theorem verdict_of_letIn {token : String} (hfirst : Asks policy first)
    (h : Retries policy B first token answers retry) {params : List (String × Json)}
    (hin : LetIn first answers params) :
    (Approval.Affirms answers →
      ((enforcing policy).toolPlan retry.ambient (retry.ctx params)).verdict = .forward) ∧
    (¬Approval.Affirms answers →
      ((enforcing policy).toolPlan retry.ambient (retry.ctx params)).verdict ≠ .forward ∧
      (answers.truthy = true → ∃ e,
        ((enforcing policy).toolPlan retry.ambient (retry.ctx params)).verdict = .refuse e ∧
          e.code = AUTHORIZATION_DENIED)) := by
  have hgated : IsGatedCall policy retry.ambient (retry.ctx params) := by
    obtain ⟨rule, hrule, hasks, -⟩ := hfirst.gated
    obtain ⟨rule', hrule', hgranted⟩ := h.granted
    cases hrule.symm.trans hrule'
    exact ⟨rule, hin.tool ▸ hrule, hasks, hgranted⟩
  obtain ⟨hallowed, hasks⟩ := (isGatedCall_iff (enforcing policy) retry.ambient _).mp hgated
  have hverdict := verdict_toolPlan_of_allowed hallowed
  rw [if_pos hasks] at hverdict
  have hcarries : CarriesApproval params ↔ Approval.Affirms answers := by
    rw [CarriesApproval, hin.answers]
    exact and_iff_right hin.state
  have hgate : gateOf (paramsOf (retry.ctx params)) (toolOf (retry.ctx params)) = .approved ↔
      Approval.Affirms answers := by
    rw [gateOf_eq_approved_iff]
    exact hcarries
  constructor
  · intro haffirms
    rw [hverdict, hgate.mpr haffirms]
  · intro hnot
    have hnotApproved := mt hgate.mp hnot
    cases hwhich : gateOf (paramsOf (retry.ctx params)) (toolOf (retry.ctx params)) with
    | approved => exact absurd hwhich hnotApproved
    | refused reason =>
      rw [hwhich] at hverdict
      rw [hverdict]
      exact ⟨nofun, fun _ => ⟨_, rfl, rfl⟩⟩
    | unanswered =>
      rw [hwhich] at hverdict
      rw [hverdict]
      refine ⟨nofun, fun hanswered => ?_⟩
      -- only an answer that is not one counts as none
      have hanswers : (answersOf (paramsOf (retry.ctx params))).truthy = true := by
        show (answersOf params).truthy = true
        rw [hin.answers, hanswered]
      unfold gateOf at hwhich
      rw [if_neg (by simp [hanswers])] at hwhich
      split at hwhich <;> cases hwhich

end retry

/-- **The loop completes.** Whatever calls came before, a call of a gated tool that carries no state
and no answers, by a caller who is granted it, is answered with the question about it. And whatever
calls come in between, its retry under the state it was given is turned away exactly when that state
has expired; otherwise it calls the same tool with the same arguments, which runs once if the human
agreed, and does not run if not.
Source: `middleware.py`, `_check_approval`; `approval.py`. -/
theorem loop_completes (hB : B.Stateless) (past : List (Call ε)) {first : Call ε}
    (hfirst : Asks policy first) :
    ∃ s, AskedAbout policy B (exchange policy B (serve policy B past) first) s ∧
      ∀ (between : List (Call ε)) (answers : Json) (retry : Call ε),
        Retries policy B first s.token answers retry →
        let later := exchange policy B (serve policy B (past ++ first :: between)) retry
        (later.handled = none ↔ B.ttl ≤ retry.now - first.now) ∧
        ∀ ctx handling, later.handled = some (ctx, handling) →
          toolOf ctx = toolOf (first.ctx first.params) ∧
          argumentsOf ctx = argumentsOf (first.ctx first.params) ∧
          (Approval.Affirms answers → forwardedOf handling.events = [ctx] ∧
            handling.value = (forward retry.handler ctx).value) ∧
          (¬Approval.Affirms answers → forwardedOf handling.events = [] ∧
            (answers.truthy = true → isDenial handling.value = true)) := by
  obtain ⟨s, hasked⟩ := exchange_of_asks hB.toDocumented (serve policy B past) hfirst
  refine ⟨s, hasked, fun between answers retry h => ?_⟩
  intro later
  have hledger := mem_ledgerOf_append between hasked.sealed
  have hbinding : s.binding = bindingOf B first := by rw [hasked.binding, call_exchange]
  have hissued : s.issued = first.now := by rw [hasked.issued, call_exchange]
  rw [← inbound_retry_eq_none_iff hB h hledger hbinding hissued]
  cases hin : B.inbound (ledgerOf (serve policy B (past ++ first :: between))) (bindingOf B retry)
      retry.now retry.params with
  | none =>
    have hlater : later.handled = none := by
      show (exchange policy B _ retry).handled = none
      unfold exchange
      rw [hin]
    refine ⟨iff_of_true hlater rfl, fun ctx handling hhandled => ?_⟩
    rw [hlater] at hhandled
    cases hhandled
  | some params =>
    have hlater : later.handled = some (retry.ctx params,
        (enforcing policy).call retry.ambient retry.handler (retry.ctx params)) :=
      handled_exchange hin
    refine ⟨iff_of_false (by simp [hlater]) nofun, fun ctx handling hhandled => ?_⟩
    cases hlater.symm.trans hhandled
    have hletIn := letIn_of_inbound hB h hin
    obtain ⟨hyes, hno⟩ := verdict_of_letIn hfirst h hletIn
    rw [call_of_toolsCall rfl, Plan.forwardedOf_run]
    refine ⟨hletIn.tool, hletIn.arguments, fun haffirms => ?_, fun hnot => ?_⟩
    · have hverdict := hyes haffirms
      exact ⟨if_pos hverdict, Plan.value_run_of_forward _ _ hverdict⟩
    · obtain ⟨hverdict, hdenied⟩ := hno hnot
      exact ⟨if_neg hverdict, fun hanswered => (Plan.isDenial_run_iff _ _ _).mpr
        (hdenied hanswered)⟩

omit [Interpreter] in
/-- The approved retry runs, though somebody else was asked in between. -/
theorem loop_completes_honestRetry : ∃ ctx handling,
    (@exchange Unit plainInterpreter Policy.incidentPolicy plainBoundary
      (@serve Unit plainInterpreter Policy.incidentPolicy plainBoundary
        ([] ++ incidentCall 0 [] :: [incidentCall 5 []])) honestRetry).handled =
      some (ctx, handling) ∧ forwardedOf handling.events = [ctx] := by
  have hfirst : @Asks Unit plainInterpreter Policy.incidentPolicy (incidentCall 0 []) := by
    refine @Asks.mk Unit plainInterpreter _ _ ?_ rfl rfl
    exact ⟨Policy.incidentRule, rfl, rfl, "tlo.operator", by decide, by decide⟩
  obtain ⟨s, hasked, hloop⟩ := @loop_completes Unit plainInterpreter Policy.incidentPolicy
    plainBoundary stateless_plainBoundary [] (incidentCall 0 []) hfirst
  have htoken : s.token = "." := by
    have hsealed := congrArg (Option.map Sealed.token)
      (@AskedAbout.sealed _ plainInterpreter _ _ _ _ hasked)
    exact Option.some.inj (hsealed.symm.trans rfl)
  have hretries : @Retries Unit plainInterpreter Policy.incidentPolicy plainBoundary
      (incidentCall 0 []) s.token yes honestRetry := by
    rw [htoken]
    refine @Retries.mk Unit plainInterpreter _ _ _ _ _ _ rfl rfl (by decide) rfl ?_
    exact ⟨Policy.incidentRule, rfl, "tlo.operator", by decide, by decide⟩
  obtain ⟨hexpired, hlater⟩ := hloop [incidentCall 5 []] yes honestRetry hretries
  obtain ⟨⟨ctx, handling⟩, hhandled⟩ : ∃ h, _ = some h :=
    Option.ne_none_iff_exists'.mp (mt hexpired.mp (by decide +kernel))
  exact ⟨ctx, handling, hhandled, ((hlater ctx handling hhandled).2.2.1 (by decide)).1⟩

end GovernedMcp
