import GovernedMcp.Connector.Assessment
import GovernedMcp.Enforcement.Mediation

/-!
# Every effect is accounted for

One tool changes something in ServiceNow. Behind the middleware, whatever it changes is traced back
to a request that was authorised, and to the record of it.

* `invocationOf_eq_raise_iff`: the tool is called by its name only.
* `Opened`, `incidents_accounted`: every incident of the mock store.
-/

namespace GovernedMcp.Deployment

open Lib Stateful PolicyEnforcementMiddleware Server

/-! ## Calls of the tool -/

section calls

variable [Signatures] {ctx : Ctx} {shipmentId urgency : String}

/-- The call that opens an incident is one of the tool of that name. -/
theorem invocationOf_eq_raise_iff {tool : String} {arguments : Json} :
    invocationOf tool arguments = some (.serviceNow (.raiseShipmentIncident shipmentId urgency)) ↔
      tool = "raise_shipment_incident" ∧
        Signatures.raise arguments = some (shipmentId, urgency) := by
  unfold invocationOf
  split_ifs with h₁ h₂ h₃ h₄ h₅ h₆
  · simp [h₁]
  · simp [h₂]
  · simp [h₃]
  · simp [h₄]
  · simp [h₅]
  · simp [h₆]
  · simp [h₆]

variable [Interpreter]

/-- A request that opens an incident is a call of the tool. -/
theorem call_of_workOf_eq_raise
    (h : workOf ctx = some (.serviceNow (.raiseShipmentIncident shipmentId urgency))) :
    ctx.method = some "tools/call" ∧ toolOf ctx = "raise_shipment_incident" ∧
      Signatures.raise (argumentsOf ctx) = some (shipmentId, urgency) := by
  unfold workOf at h
  split_ifs at h with hmethod
  split at h
  · rename_i tool hname
    obtain ⟨rfl, hraise⟩ := invocationOf_eq_raise_iff.mp h
    refine ⟨hmethod, ?_, hraise⟩
    have hlookup := Value.lookup_of_get hname (by simp)
    simp [toolOf, Value.getOr, hlookup]
  · cases h

end calls

variable [Interpreter] [Calendar] [Signatures] {σ ε : Type}

/-- What an authorised call of the tool is. -/
structure AuthorisedRaise (policy : Policy) (shipments : Dict String Shipment) (a : Arrival)
    (shipment : Shipment) (urgency : String) : Prop where
  method : a.ctx.method = some "tools/call"
  tool : toolOf a.ctx = "raise_shipment_incident"
  /-- A rule grants the tool to the caller, who has an approval where the rule asks for one. -/
  granted : ∃ rule, policy.tools.get "raise_shipment_incident" = some rule ∧
    (∃ r ∈ roles a.ambient, r ∈ rule.allowRoles) ∧
    (rule.requiresApproval = true → CarriesApproval (paramsOf a.ctx))
  /-- The arguments name the shipment, and an urgency there is. -/
  arguments : ∃ shipmentId, Signatures.raise (argumentsOf a.ctx) = some (shipmentId, urgency) ∧
    shipments.get shipmentId = some shipment ∧ urgency ∈ ["1", "2", "3"]
  /-- The decision is in the trail as an `allow`. -/
  allowed : ((enforcing policy).toolRecord a.ambient a.ctx).outcome = "allow"

omit [Calendar] in
/-- A request that gets through and opens an incident is an authorised call of the tool. -/
theorem authorisedRaise_of_passes {policy : Policy} {shipments : Dict String Shipment} {a : Arrival}
    {shipmentId urgency : String} {shipment : Shipment}
    (hpasses : passes (enforcing policy) a = true)
    (hwork : workOf a.ctx = some (.serviceNow (.raiseShipmentIncident shipmentId urgency)))
    (hshipment : shipments.get shipmentId = some shipment) (hurgency : urgency ∈ ["1", "2", "3"]) :
    AuthorisedRaise policy shipments a shipment urgency := by
  obtain ⟨hmethod, htool, hraise⟩ := call_of_workOf_eq_raise hwork
  obtain ⟨rule, hrule, hgranted, happroval⟩ := (passes_enforcing_iff.mp hpasses).call hmethod
  have hallowed : (policy.decideTool (toolOf a.ctx) (roles a.ambient)).allowed = true :=
    Policy.decideTool_allowed_iff.mpr ⟨rule, hrule, hgranted⟩
  refine ⟨hmethod, htool, ⟨rule, htool ▸ hrule, hgranted, happroval⟩,
    ⟨shipmentId, hraise, hshipment, hurgency⟩, ?_⟩
  show Audit.outcomeOf (policy.decideTool (toolOf a.ctx) (roles a.ambient)) none = "allow"
  rw [Audit.outcomeOf_none, hallowed]
  rfl

/-- The records of a run, whatever became of the backend. -/
theorem trail_eq (D : Deployment σ ε) (middleware : PolicyEnforcementMiddleware) (s : σ)
    (arrivals : List Arrival) :
    ((D.governedBy middleware).machine.answers s arrivals).flatMap
        (fun handling => recordsOf handling.events) =
      arrivals.flatMap fun a => (planOf middleware a).records := by
  have hguards := D.guards_ungoverned middleware
  induction arrivals generalizing s with
  | nil => rfl
  | cons a arrivals ih =>
    rw [Machine.answers, List.flatMap_cons, List.flatMap_cons, ih]
    congr 1
    cases hpasses : passes middleware a with
    | true =>
      rw [hguards.answer_of_passes s a hpasses, recordsOf_shown]
      have hplain : recordsOf (D.ungoverned.machine.answer s a).events = [] := by
        show recordsOf (forward (D.handler a.now s) a.ctx).events = []
        rw [Plan.forward_eq]
        rfl
      rw [hplain, List.append_nil]
    | false =>
      rw [hguards.answer_of_refused s a hpasses, refusal, Plan.recordsOf_run]

omit [Calendar] [Signatures] in
/-- The record of the decision on a call is among its records. -/
theorem toolRecord_mem_planOf {middleware : PolicyEnforcementMiddleware} {a : Arrival}
    (h : a.ctx.method = some "tools/call") :
    [middleware.toolRecord a.ambient a.ctx].Sublist (planOf middleware a).records := by
  rw [planOf, if_pos h, List.singleton_sublist]
  unfold toolPlan gatePlan
  split_ifs
  · exact List.mem_singleton_self _
  · split <;> exact List.mem_cons_self
  · exact List.mem_singleton_self _

/-- The decisions on some calls of a run are in its trail, in order. -/
theorem toolRecords_sublist (D : Deployment σ ε) (middleware : PolicyEnforcementMiddleware) (s : σ)
    {calls arrivals : List Arrival} (hsub : calls.Sublist arrivals)
    (hcalls : ∀ a ∈ calls, a.ctx.method = some "tools/call") :
    (calls.map fun a => middleware.toolRecord a.ambient a.ctx).Sublist
      (((D.governedBy middleware).machine.answers s arrivals).flatMap
        fun handling => recordsOf handling.events) := by
  rw [trail_eq]
  induction hsub with
  | slnil => exact .slnil
  | cons a _ ih =>
    rw [List.flatMap_cons]
    exact (ih hcalls).trans (List.sublist_append_right _ _)
  | cons_cons a _ ih =>
    rw [List.forall_mem_cons] at hcalls
    rw [List.flatMap_cons, List.map_cons, ← List.singleton_append]
    exact (toolRecord_mem_planOf hcalls.1).append (ih hcalls.2)

/-! ## The mock store -/

/-- The server over the mock store. -/
def onMock (self : Deployment σ ε) : Deployment MockServiceNow ε where
  middleware := self.middleware
  shipments := self.shipments
  backend := MockServiceNow.backend
  reply := self.reply
  contents := self.contents
  elsewhere := self.elsewhere

omit [Signatures] in
/-- What a call of a tool adds to the incidents of the store. -/
theorem incidents_after (shipments : Dict String Shipment) (now : ℚ) (store : MockServiceNow)
    (call : Invocation) :
    (call.after (MockServiceNow.backend now) shipments now store).incidents = store.incidents ∨
      ∃ shipmentId urgency shipment,
        call = .serviceNow (.raiseShipmentIncident shipmentId urgency) ∧
        shipments.get shipmentId = some shipment ∧ urgency ∈ ["1", "2", "3"] ∧
        (∃ item, store.configurationItems.get shipment.ci = some item) ∧
        (call.after (MockServiceNow.backend now) shipments now store).incidents =
          store.incidents ++
            [store.nextIncident now (shortDescriptionOf shipment) shipment.ci urgency] := by
  rcases call with shipmentId | thresholdHours | call
  · exact Or.inl rfl
  · exact Or.inl rfl
  · rcases call with ⟨configurationItem, limit⟩ | name | shipmentId | ⟨shipmentId, urgency⟩
    · exact Or.inl rfl
    · left
      show (after (Call.run _ shipments now (.getConfigurationItem name)) store).incidents = _
      unfold Call.run
      rw [after_bind_pure, MockServiceNow.after_getConfigurationItem]
    · left
      show (after (Call.run _ shipments now (.assessShipmentDelay shipmentId)) store).incidents = _
      unfold Call.run
      rw [after_bind_pure, MockServiceNow.after_assessShipmentDelay]
    · have hafter : (Invocation.after (MockServiceNow.backend now) shipments now store
          (.serviceNow (.raiseShipmentIncident shipmentId urgency))) =
          after (raiseShipmentIncident (MockServiceNow.backend now) shipments shipmentId urgency)
            store := after_bind_pure _ _ store
      rw [hafter]
      by_cases hurgency : urgency ∈ ["1", "2", "3"]
      · cases hshipment : shipments.get shipmentId with
        | none =>
          rw [after_raiseShipmentIncident_of_invalid store (.inl hshipment)]
          exact .inl rfl
        | some shipment =>
          rw [after_raiseShipmentIncident hshipment hurgency]
          cases hitem : store.configurationItems.get shipment.ci with
          | none =>
            have hsame := MockServiceNow.after_createIncident_of_none now
              (shortDescriptionOf shipment) urgency (descriptionOf shipment) hitem
            exact .inl (congrArg MockServiceNow.incidents hsame)
          | some item =>
            have hadded := MockServiceNow.after_createIncident_of_some now
              (shortDescriptionOf shipment) urgency (descriptionOf shipment) hitem
            exact .inr ⟨shipmentId, urgency, shipment, rfl, hshipment, hurgency, ⟨item, hitem⟩,
              congrArg MockServiceNow.incidents hadded⟩
      · rw [after_raiseShipmentIncident_of_invalid store (.inr hurgency)]
        exact .inl rfl

omit [Signatures] in
/-- A call of a tool adds to the incidents at most, and leaves the items alone. -/
theorem extends_after (shipments : Dict String Shipment) (now : ℚ) (store : MockServiceNow)
    (call : Invocation) :
    store.Extends (call.after (MockServiceNow.backend now) shipments now store) := by
  rcases call with shipmentId | thresholdHours | call
  · exact MockServiceNow.Extends.refl store
  · exact MockServiceNow.Extends.refl store
  · exact MockServiceNow.extends_next store (now, call)

/-- An incident that an authorised call of the tool has opened, for one of the items. -/
def Opened (policy : Policy) (shipments : Dict String Shipment)
    (items : Dict String ConfigurationItem) (a : Arrival) (incident : Incident) : Prop :=
  ∃ shipment urgency, AuthorisedRaise policy shipments a shipment urgency ∧
    (∃ item, items.get shipment.ci = some item) ∧
    incident.shortDescription = shortDescriptionOf shipment ∧
    incident.configurationItem = shipment.ci ∧ incident.urgency = urgency ∧
    incident.state = "1"

/-- The state that a server goes on in: the one it was in, or the one that the tool leaves behind
which a request calls that has got through. -/
theorem next_governedBy (D : Deployment σ ε) (middleware : PolicyEnforcementMiddleware) (s : σ)
    (a : Arrival) : (D.governedBy middleware).machine.next s a = s ∨
      ∃ call, passes middleware a = true ∧ workOf a.ctx = some call ∧
        (D.governedBy middleware).machine.next s a =
          call.after (D.backend a.now) D.shipments a.now s := by
  have hnext := (D.governedBy middleware).next_eq s a
  cases hpasses : passes middleware a with
  | false =>
    have hawaits : (D.governedBy middleware).awaits a = false := hpasses
    rw [if_neg (by simp [hawaits])] at hnext
    exact Or.inl hnext
  | true =>
    have hawaits : (D.governedBy middleware).awaits a = true := hpasses
    rw [if_pos hawaits, effect] at hnext
    cases hwork : workOf a.ctx with
    | none =>
      rw [hwork] at hnext
      exact Or.inl hnext
    | some call =>
      rw [hwork] at hnext
      exact Or.inr ⟨call, rfl, rfl, hnext⟩

/-- The items of the store stay what they are, whatever requests reach the server. -/
theorem configurationItems_next (D : Deployment σ ε) (policy : Policy) (store : MockServiceNow)
    (a : Arrival) :
    ((D.onMock.governedBy (enforcing policy)).machine.next store a).configurationItems =
      store.configurationItems := by
  rcases D.onMock.next_governedBy (enforcing policy) store a with hsame | ⟨call, -, -, hnext⟩
  · rw [hsame]
  · rw [hnext]
    exact (extends_after D.shipments a.now store call).items

/-- **Every incident is accounted for.** Whatever requests reach a server in enforce mode, each
incident that is added to the store was opened by a request of its own, an authorised call of the
tool for an item that the store has, and is recorded in the audit trail as allowed, in the same
order. Source: `middleware.py`, `_guard_tool_call`; `server.py`, `raise_shipment_incident`. -/
theorem incidents_accounted (D : Deployment σ ε) (policy : Policy) (store : MockServiceNow)
    (arrivals : List Arrival) :
    let server := (D.onMock.governedBy (enforcing policy)).machine
    ∃ journal : List (Arrival × Incident),
      (server.final store arrivals).incidents = store.incidents ++ journal.map Prod.snd ∧
      (journal.map Prod.fst).Sublist arrivals ∧
      (∀ e ∈ journal, Opened policy D.shipments store.configurationItems e.1 e.2) ∧
      (journal.map fun e => (enforcing policy).toolRecord e.1.ambient e.1.ctx).Sublist
        ((server.answers store arrivals).flatMap fun handling => recordsOf handling.events) := by
  intro server
  have hkeeps : server.Preserves fun s => s.configurationItems = store.configurationItems := by
    intro s a hs
    exact (D.configurationItems_next policy s a).trans hs
  have hstep : ∀ (s : MockServiceNow) (a : Arrival),
      s.configurationItems = store.configurationItems →
      (server.next s a).incidents = s.incidents ∨
        ∃ incident, (server.next s a).incidents = s.incidents ++ [incident] ∧
          Opened policy D.shipments store.configurationItems a incident := by
    intro s a hitems
    rcases D.onMock.next_governedBy (enforcing policy) s a with
      hsame | ⟨call, hpasses, hwork, hnext⟩
    · exact Or.inl (congrArg MockServiceNow.incidents hsame)
    · have hincidents : (server.next s a).incidents =
          (call.after (MockServiceNow.backend a.now) D.shipments a.now s).incidents :=
        congrArg MockServiceNow.incidents hnext
      rw [hincidents]
      rcases incidents_after D.shipments a.now s call with
        hkept | ⟨shipmentId, urgency, shipment, rfl, hshipment, hurgency, hitem, hadded⟩
      · exact Or.inl hkept
      · rw [hitems] at hitem
        exact Or.inr ⟨_, hadded, shipment, urgency,
          authorisedRaise_of_passes hpasses hwork hshipment hurgency, hitem, rfl, rfl, rfl, rfl⟩
  obtain ⟨journal, hfinal, hsub, hopened⟩ := Machine.exists_journal hkeeps hstep rfl arrivals
  refine ⟨journal, hfinal, hsub, hopened, ?_⟩
  have hrecords := D.onMock.toolRecords_sublist (enforcing policy) store hsub (by
    intro a ha
    obtain ⟨e, he, rfl⟩ := List.mem_map.mp ha
    obtain ⟨shipment, urgency, hraise, -⟩ := hopened e he
    exact hraise.method)
  rwa [List.map_map] at hrecords

end GovernedMcp.Deployment
