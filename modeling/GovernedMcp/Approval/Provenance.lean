import GovernedMcp.Approval.Exchange

/-!
# Where an approval comes from

`approval.check` takes the presence of a state for proof that the server sealed it for this very
call. `Provenance` says so about a run: whenever the handler of a gated tool is reached, an earlier
call of the same caller, with the same tool and arguments (in whatever order), was answered with the
question, and the state that was checked is the one that was sealed into that answer.

The boundary opens the member `requestState` only, and the middleware falls back on `request_state`.
`provenance_iff`: provenance holds in all runs exactly when no call makes use of that.
-/

namespace GovernedMcp

open Lib PolicyEnforcementMiddleware

variable {ε : Type} [Interpreter] (policy : Policy) (B : Boundary)

/-- The first call was answered with the question about the second, and the second is checked with
the state of that answer. -/
def AskedFor (e' e : Exchange B.Principal ε) : Prop :=
  bindingOf B e'.call = bindingOf B e.call ∧ ∃ ctx' handling' ctx handling asked,
    e'.handled = some (ctx', handling') ∧ handling'.value = .ok (.inputRequired asked) ∧
      asked = (enforcing policy).question e'.call.ambient (toolOf ctx')
        ((argumentsOf ctx').asMapping.getD []) ∧
      e.handled = some (ctx, handling) ∧ stateOf (paramsOf ctx) = .str asked.requestState

/-- Every call that reaches the handler of a gated tool has been asked about before. -/
def Provenance (outputs : List (Exchange B.Principal ε)) : Prop :=
  History.Preceded (Executes policy) (AskedFor policy B) outputs

/-- An authorised call of a gated tool that carries an affirmative answer, and no `requestState` but
a `request_state` that looks like a pending state. -/
def Slips (c : Call ε) : Prop :=
  IsGatedCall policy c.ambient (c.ctx c.params) ∧ Dict.lookup "requestState" c.params = none ∧
    Approval.isPendingState (Value.get "request_state" c.params) = true ∧
    Approval.Affirms (answersOf c.params)

variable {policy B}

omit [Interpreter] in
/-- Without `requestState` the middleware falls back on `request_state`. -/
theorem stateOf_of_absent {params : List (String × Json)}
    (h : Dict.lookup "requestState" params = none) :
    stateOf params = Value.get "request_state" params := by
  rw [stateOf, Value.get_of_lookup_none h, Value.orElse_none]

omit [Interpreter] in
/-- A sealed pending state is what is checked. -/
theorem stateOf_of_pending {params : List (String × Json)} {tool nonce : String}
    (h : Dict.lookup "requestState" params = some (.str (Approval.newPendingState tool nonce))) :
    stateOf params = .str (Approval.newPendingState tool nonce) := by
  have hget : Value.get "requestState" params = .str (Approval.newPendingState tool nonce) := by
    simp [Value.get, h]
  rw [stateOf, hget]
  exact Value.orElse_of_truthy
    (Approval.truthy_of_isPendingState (Approval.isPendingState_newPendingState tool nonce)) _

/-- A call that slips past the boundary runs at once. -/
theorem executes_of_slips (hB : B.Documented) {c : Call ε} (h : Slips policy c)
    (past : List (Exchange B.Principal ε)) : Executes policy (exchange policy B past c) := by
  obtain ⟨hgated, habsent, hstate, hanswers⟩ := h
  apply executes_exchange_iff.mpr
  refine ⟨c.params, hB.absent _ _ _ _ habsent, hgated, ?_, hanswers⟩
  rw [stateOf_of_absent habsent]
  exact hstate

/-- Any other call that runs presents a state that was sealed for it. -/
theorem exists_presents_of_executes (hB : B.Documented) {c : Call ε} (hc : ¬Slips policy c)
    {past : List (Exchange B.Principal ε)} (h : Executes policy (exchange policy B past c)) :
    ∃ s params, B.Presents (ledgerOf past) (bindingOf B c) c.now c.params s ∧
      B.inbound (ledgerOf past) (bindingOf B c) c.now c.params = some params ∧
      Dict.lookup "requestState" params = some (.str s.state) ∧
      ∀ name ≠ "requestState", Dict.lookup name params = Dict.lookup name c.params := by
  obtain ⟨params, hin, hgated, hcarries⟩ := executes_exchange_iff.mp h
  have hpresent : Dict.lookup "requestState" c.params ≠ none := by
    intro habsent
    have heq : params = c.params :=
      Option.some.inj (hin.symm.trans (hB.absent _ _ _ _ habsent))
    subst heq
    apply hc
    refine ⟨hgated, habsent, ?_, hcarries.2⟩
    rw [← stateOf_of_absent habsent]
    exact hcarries.1
  obtain ⟨s, hs, hreplaced⟩ := hB.present _ _ _ _ _ hin hpresent
  exact ⟨s, params, hs, hin, hreplaced⟩

/-- **Provenance.** In every run of calls of some kind an approval comes from a question, if and
only if no call of that kind slips past the boundary. -/
theorem provenance_iff (hB : B.Documented) (kind : Call ε → Prop) :
    (∀ calls : List (Call ε), (∀ c ∈ calls, kind c) → Provenance policy B (serve policy B calls)) ↔
      ∀ c, kind c → ¬Slips policy c := by
  constructor
  · intro h c hc hslips
    obtain ⟨m, hm, -⟩ := h [c] (by simpa using hc) 0 _ rfl (executes_of_slips hB hslips [])
    exact absurd hm (Nat.not_lt_zero m)
  · intro h calls hcalls
    apply History.preceded_run
    intro earlier _ c hc hexecutes
    obtain ⟨s, params, hpresents, hin, hstate, -⟩ :=
      exists_presents_of_executes hB (h c (hcalls c hc)) hexecutes
    obtain ⟨e', he', hs⟩ := List.mem_filterMap.mp hpresents.1
    -- the state was sealed into the answer to an earlier call, which was the question about it
    obtain ⟨past, c', -, rfl⟩ := History.exists_step_of_mem_run he'
    obtain ⟨hbinding, params', handling', asked, hhandled', hvalue', rfl, hsealed, -⟩ :=
      sealed_exchange hs
    refine ⟨_, he', ?_, _, _, _, _, _, hhandled', hvalue', ?_, handled_exchange hin, ?_⟩
    · rw [call_exchange, call_exchange, ← hbinding, hpresents.2.2.1]
    · rw [call_exchange]
    · rw [hsealed] at hstate
      exact stateOf_of_pending hstate

/-- The retry of an approved call, with the state of the first question. -/
def honestRetry : Call Unit :=
  incidentCall 60 [("inputResponses", yes), ("requestState", .str ".")]

omit [Interpreter] in
/-- It reaches the handler. -/
theorem executes_honestRetry : @Executes Unit plainInterpreter Policy.incidentPolicy _
    (@exchange Unit plainInterpreter Policy.incidentPolicy plainBoundary
      (@serve Unit plainInterpreter Policy.incidentPolicy plainBoundary [incidentCall 0 []])
      honestRetry) := by
  refine (@executes_exchange_iff _ plainInterpreter _ _ _ _).mpr
    ⟨honestRetry.params.dropLast ++
      [("requestState", .str "awaiting-approval:raise_shipment_incident:n1")], ?_, ?_, ?_⟩
  · decide +kernel
  · exact ⟨Policy.incidentRule, rfl, rfl, "tlo.operator", by decide, by decide⟩
  · decide

omit [Interpreter] in
/-- Asked about, then retried with the approval: the call runs, and it has been asked about. -/
theorem provenance_honestRetry :
    @Provenance Unit plainInterpreter Policy.incidentPolicy plainBoundary
        (@serve Unit plainInterpreter Policy.incidentPolicy plainBoundary
          [incidentCall 0 [], honestRetry]) ∧
      @Executes Unit plainInterpreter Policy.incidentPolicy _
        (@exchange Unit plainInterpreter Policy.incidentPolicy plainBoundary
          (@serve Unit plainInterpreter Policy.incidentPolicy plainBoundary [incidentCall 0 []])
          honestRetry) := by
  refine ⟨(@provenance_iff Unit plainInterpreter Policy.incidentPolicy plainBoundary
    stateless_plainBoundary.toDocumented
    fun c => Value.get "request_state" c.params = .none).mpr ?_ [incidentCall 0 [], honestRetry] ?_,
    executes_honestRetry⟩
  · rintro c hc ⟨-, -, hstate, -⟩
    rw [hc] at hstate
    cases hstate
  · decide

/-- An affirmative answer to a question nobody asked. -/
def forgedCall : Call Unit :=
  incidentCall 0 [("inputResponses", yes), ("request_state", .str "awaiting-approval:forged")]

omit [Interpreter] in
/-- The call slips past the boundary. -/
theorem slips_forgedCall : @Slips Unit plainInterpreter Policy.incidentPolicy forgedCall := by
  refine ⟨⟨Policy.incidentRule, rfl, rfl, "tlo.operator", by decide, by decide⟩, rfl, ?_, ?_⟩
  · decide
  · decide

omit [Interpreter] in
/-- An operator opens an incident, and nobody was asked. -/
theorem not_provenance_of_forgedCall : plainBoundary.Documented ∧
    ¬ @Provenance Unit plainInterpreter Policy.incidentPolicy plainBoundary
      (@serve Unit plainInterpreter Policy.incidentPolicy plainBoundary [forgedCall]) := by
  refine ⟨stateless_plainBoundary.toDocumented, ?_⟩
  intro h
  have hexecutes := @executes_of_slips Unit plainInterpreter Policy.incidentPolicy plainBoundary
    stateless_plainBoundary.toDocumented forgedCall slips_forgedCall []
  obtain ⟨m, hm, -⟩ := h 0 _ rfl hexecutes
  exact absurd hm (Nat.not_lt_zero m)

end GovernedMcp
