import GovernedMcp.Approval.Provenance

/-!
# How often an approval is used

A human agrees to one instance of a call. `SingleUse` says so about a run: the executions of gated
tools are matched with the states that were sealed, each with the one it presents, and no two with
the same.

The boundary is stateless and opens a token again and again, and the middleware does not remember
which states it has seen. `singleUse_iff`: an approval is used once exactly as long as nobody sends
its token twice.
-/

namespace GovernedMcp

open Lib PolicyEnforcementMiddleware

variable {ε : Type} [Interpreter] (policy : Policy) (B : Boundary)

/-- The `requestState` that an answer hands out. -/
def issues {π : Type} (e : Exchange π ε) : Option (Option Json) :=
  e.sealed.map fun s => some (.str s.token)

/-- The `requestState` that an execution presents. -/
def redeems {π : Type} (e : Exchange π ε) : Option (Option Json) :=
  if Executes policy e then some (Dict.lookup "requestState" e.call.params) else none

/-- Every execution has a sealed state of its own. -/
def SingleUse {π : Type} (outputs : List (Exchange π ε)) : Prop :=
  History.Covered issues (redeems policy) outputs

/-- The params use the names of the wire only. -/
def WireNames (c : Call ε) : Prop :=
  Dict.lookup "request_state" c.params = none ∧ Dict.lookup "input_responses" c.params = none

instance (c : Call ε) : Decidable (WireNames c) := inferInstanceAs (Decidable (_ ∧ _))

/-- An authorised call of a gated tool with an affirmative answer, and with the token of a living
state that is bound to it. -/
def Redeemable (past : List (Exchange B.Principal ε)) (c : Call ε) : Prop :=
  IsGatedCall policy c.ambient (c.ctx c.params) ∧ Approval.Affirms (answersOf c.params) ∧
    ∃ s, B.Presents (ledgerOf past) (bindingOf B c) c.now c.params s

variable {policy B}

/-- A call with wire names only does not slip past the boundary. -/
theorem not_slips_of_wireNames {c : Call ε} (h : WireNames c) : ¬Slips policy c := by
  rintro ⟨-, -, hstate, -⟩
  rw [Value.get_of_lookup_none h.1] at hstate
  cases hstate

/-- What is read of the params, apart from the state, is left alone by the boundary. -/
theorem isGatedCall_congr {c : Call ε} {params params' : List (String × Json)}
    (h : ∀ name ≠ "requestState", Dict.lookup name params' = Dict.lookup name params) :
    IsGatedCall policy c.ambient (c.ctx params') ↔ IsGatedCall policy c.ambient (c.ctx params) := by
  have htool : toolOf (c.ctx params') = toolOf (c.ctx params) := by
    show (Value.getOr "name" _ params').toStr = (Value.getOr "name" _ params).toStr
    rw [Value.getOr, Value.getOr, h "name" (by decide)]
  rw [IsGatedCall, IsGatedCall, htool]

omit [Interpreter] in
/-- Nor does the boundary touch the answers. -/
theorem answersOf_congr {params params' : List (String × Json)}
    (h : ∀ name ≠ "requestState", Dict.lookup name params' = Dict.lookup name params) :
    answersOf params' = answersOf params := by
  rw [answersOf, answersOf, Value.get, Value.get, Value.get, Value.get,
    h "inputResponses" (by decide), h "input_responses" (by decide)]

/-- Whatever was sealed in a run is a pending state. -/
theorem exists_newPendingState_of_mem_ledgerOf {calls : List (Call ε)} {s : Sealed B.Principal}
    (h : s ∈ ledgerOf (serve policy B calls)) :
    ∃ tool nonce, s.state = Approval.newPendingState tool nonce := by
  obtain ⟨e, he, hs⟩ := List.mem_filterMap.mp h
  obtain ⟨past, c, -, rfl⟩ := History.exists_step_of_mem_run he
  obtain ⟨-, params, handling, asked, -, -, rfl, hstate, -⟩ := sealed_exchange hs
  exact ⟨_, _, hstate⟩

/-- **An execution is a redemption**: with wire names only, a call runs iff it can redeem a sealed
state. -/
theorem executes_iff_redeemable (hB : B.Stateless) {calls : List (Call ε)} {c : Call ε}
    (hc : WireNames c) : Executes policy (exchange policy B (serve policy B calls) c) ↔
      Redeemable policy B (serve policy B calls) c := by
  constructor
  · intro h
    obtain ⟨s, params, hs, hin, -, hothers⟩ :=
      exists_presents_of_executes hB.toDocumented (not_slips_of_wireNames hc) h
    obtain ⟨params', hin', hgated, hcarries⟩ := executes_exchange_iff.mp h
    cases hin.symm.trans hin'
    refine ⟨(isGatedCall_congr hothers).mp hgated, ?_, s, hs⟩
    rw [← answersOf_congr hothers]
    exact hcarries.2
  · rintro ⟨hgated, hanswers, s, hs⟩
    obtain ⟨params, hin⟩ := Option.isSome_iff_exists.mp (hB.again _ _ _ _ s hs)
    obtain ⟨s', hs', hstate, hothers⟩ := hB.present _ _ _ _ _ hin (by simp [hs.2.1])
    apply executes_exchange_iff.mpr
    refine ⟨params, hin, (isGatedCall_congr hothers).mpr hgated, ?_, ?_⟩
    · obtain ⟨tool, nonce, heq⟩ := exists_newPendingState_of_mem_ledgerOf hs'.1
      rw [heq] at hstate
      rw [stateOf_of_pending hstate]
      exact Approval.isPendingState_newPendingState tool nonce
    · rw [answersOf_congr hothers]
      exact hanswers

/-- What an execution redeems is the token it presents. -/
theorem redeems_eq_some_iff {past : List (Exchange B.Principal ε)} {c : Call ε} {t : Option Json} :
    redeems policy (exchange policy B past c) = some t ↔
      Executes policy (exchange policy B past c) ∧ Dict.lookup "requestState" c.params = t := by
  unfold redeems
  rw [call_exchange]
  split_ifs with h
  · simp [h]
  · simp [h]

/-- No two answers of a run hand out the same token. -/
theorem distinct_issues (hB : B.Stateless) (calls : List (Call ε)) :
    History.Distinct issues (serve policy B calls) := by
  apply History.distinct_run
  intro earlier _ c _ t ht e he heq
  obtain ⟨s, hs, rfl⟩ := Option.map_eq_some_iff.mp ht
  obtain ⟨s', hs', htoken⟩ := Option.map_eq_some_iff.mp heq
  obtain ⟨-, _, _, _, -, -, -, -, houtbound⟩ := sealed_exchange hs
  apply hB.fresh _ (bindingOf B c) c.now s.state s' (List.mem_filterMap.mpr ⟨e, he, hs'⟩)
  apply houtbound.symm.trans
  injection htoken with hvalue
  injection hvalue with hscalar
  injection hscalar with heq
  exact heq.symm

/-- An execution presents what an earlier answer has handed out. -/
theorem preceded_redeems (hB : B.Stateless) {calls : List (Call ε)}
    (hcalls : ∀ c ∈ calls, WireNames c) :
    History.Preceded (fun e => (redeems policy e).isSome = true)
      (fun e' e => issues e' = redeems policy e) (serve policy B calls) := by
  apply History.preceded_run
  intro earlier _ c hc hredeems
  obtain ⟨t, ht⟩ := Option.isSome_iff_exists.mp hredeems
  obtain ⟨hexecutes, rfl⟩ := redeems_eq_some_iff.mp ht
  obtain ⟨s, _, hs, -⟩ := exists_presents_of_executes hB.toDocumented
    (not_slips_of_wireNames (hcalls c hc)) hexecutes
  obtain ⟨e, he, hsealed⟩ := List.mem_filterMap.mp hs.1
  refine ⟨e, he, ?_⟩
  rw [ht, issues, hsealed, hs.2.1]
  rfl

/-- **Single use.** An approval is used once iff no token is presented twice by calls that can
redeem it. -/
theorem singleUse_iff (hB : B.Stateless) {calls : List (Call ε)}
    (hcalls : ∀ c ∈ calls, WireNames c) :
    SingleUse policy (serve policy B calls) ↔
      ∀ (m n : ℕ) (c c' : Call ε), m < n → calls[m]? = some c → calls[n]? = some c' →
        Redeemable policy B (serve policy B (calls.take m)) c →
        Redeemable policy B (serve policy B (calls.take n)) c' →
          Dict.lookup "requestState" c.params ≠ Dict.lookup "requestState" c'.params := by
  have hwire : ∀ (n : ℕ) (c : Call ε), calls[n]? = some c → WireNames c :=
    fun n c hn => hcalls c (List.mem_of_getElem? hn)
  rw [SingleUse, History.covered_iff (preceded_redeems hB hcalls) (distinct_issues hB calls), serve,
    History.distinct_run_iff]
  constructor
  · intro h m n c c' hmn hm hn hc hc' heq
    have hexecutes := (executes_iff_redeemable hB (hwire m c hm)).mpr hc
    have hexecutes' := (executes_iff_redeemable hB (hwire n c' hn)).mpr hc'
    apply h m n c c' _ hmn hm hn (redeems_eq_some_iff.mpr ⟨hexecutes, rfl⟩)
    exact redeems_eq_some_iff.mpr ⟨hexecutes', heq.symm⟩
  · intro h m n c c' t hmn hm hn ht ht'
    obtain ⟨hexecutes, rfl⟩ := redeems_eq_some_iff.mp ht
    obtain ⟨hexecutes', heq⟩ := redeems_eq_some_iff.mp ht'
    exact h m n c c' hmn hm hn ((executes_iff_redeemable hB (hwire m c hm)).mp hexecutes)
      ((executes_iff_redeemable hB (hwire n c' hn)).mp hexecutes') heq.symm

omit [Interpreter] in
/-- Asked about and retried: the approval is used, and used once. -/
theorem singleUse_honestRetry :
    @SingleUse Unit plainInterpreter Policy.incidentPolicy _
        (@serve Unit plainInterpreter Policy.incidentPolicy plainBoundary
          [incidentCall 0 [], honestRetry]) ∧
      @Executes Unit plainInterpreter Policy.incidentPolicy _
        (@exchange Unit plainInterpreter Policy.incidentPolicy plainBoundary
          (@serve Unit plainInterpreter Policy.incidentPolicy plainBoundary [incidentCall 0 []])
          honestRetry) := by
  have hfirst : ¬Approval.Affirms (answersOf (incidentCall 0 []).params) := by decide
  refine ⟨(@singleUse_iff Unit plainInterpreter _ _ stateless_plainBoundary
    [incidentCall 0 [], honestRetry] (by decide)).mpr ?_, executes_honestRetry⟩
  intro m n c c' hmn hm hn hredeemable
  have hn' : n < 2 := (List.getElem?_eq_some_iff.mp hn).1
  have hm' : m = 0 := by omega
  subst hm'
  cases hm
  exact absurd hredeemable.2.1 hfirst

/-- Asked about once, and retried twice. -/
def resentCalls : List (Call Unit) := [incidentCall 0 [], honestRetry, honestRetry]

omit [Interpreter] in
/-- Both retries run on the one state that was sealed. -/
theorem not_singleUse_of_resentCalls : plainBoundary.Stateless ∧ (∀ c ∈ resentCalls, WireNames c) ∧
    ¬ @SingleUse Unit plainInterpreter Policy.incidentPolicy _
      (@serve Unit plainInterpreter Policy.incidentPolicy plainBoundary resentCalls) := by
  refine ⟨stateless_plainBoundary, by decide, ?_⟩
  intro h
  have hdistinct := h.distinct
    (@distinct_issues Unit plainInterpreter _ _ stateless_plainBoundary resentCalls)
  exact History.distinct_run_iff.mp hdistinct 1 2 honestRetry honestRetry (some (.str "."))
    Nat.one_lt_two rfl rfl (by decide +kernel) (by decide +kernel)

end GovernedMcp
