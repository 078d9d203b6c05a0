import GovernedMcp.Enforcement.Accountability

/-!
# What is sent to a live instance

A server over a live backend, with a network that keeps every request it is handed. Queries may be
sent by any tool; a request that creates something is sent by one tool only, and only behind the
middleware.

* `keeping`: the network that keeps requests.
* `sent_after`: what one call of a tool sends.
* **`posts_accounted`**: what is sent over a run.
-/

namespace GovernedMcp.Deployment

open Lib Stateful PolicyEnforcementMiddleware Server

variable [Interpreter] [Calendar] {σ ε : Type}

/-- The network, keeping the requests it is handed, first to last. -/
def keeping (transport : Transport σ) : Transport (List Request × σ) :=
  fun r s => ((transport r s.2).1, s.1 ++ [r], (transport r s.2).2)

/-- A request that asks for something. -/
def IsQuery (client : LiveServiceNow) (r : Request) : Prop :=
  (∃ name, r = client.findRequest name) ∨
    ∃ configurationItem activeOnly limit,
      r = client.searchRequest configurationItem activeOnly limit

omit [Interpreter] [Calendar] in
/-- Queries are read requests, to one of two tables. -/
theorem method_of_isQuery {client : LiveServiceNow} {r : Request} (h : IsQuery client r) :
    r.method = "GET" := by
  rcases h with ⟨name, rfl⟩ | ⟨configurationItem, activeOnly, limit, rfl⟩
  · rfl
  · rfl

section sent

variable (client : LiveServiceNow) (transport : Transport σ) (shipments : Dict String Shipment)
  (now : ℚ) (s : List Request × σ)

omit [Calendar] in
/-- A lookup sends its query. -/
theorem sent_findConfigurationItem (name : String) :
    (after (client.findConfigurationItem (keeping transport) name) s).1 =
      s.1 ++ [client.findRequest name] := by
  rw [LiveServiceNow.after_findConfigurationItem]
  rfl

omit [Calendar] in
/-- A search sends its query. -/
theorem sent_searchIncidents (configurationItem : Option String) (activeOnly : Bool) (limit : ℤ) :
    (after (client.searchIncidents (keeping transport) configurationItem activeOnly limit) s).1 =
      s.1 ++ [client.searchRequest configurationItem activeOnly limit] := by
  rw [LiveServiceNow.after_searchIncidents]
  rfl

omit [Calendar] in
/-- Looking up an item is one query. -/
theorem sent_getConfigurationItem (name : String) :
    (after (Server.getConfigurationItem (client.backend (keeping transport)) name) s).1 =
      s.1 ++ [client.findRequest name] := by
  have hfind := sent_findConfigurationItem client transport s name
  unfold Server.getConfigurationItem
  cases hfound : outcome ((client.backend (keeping transport)).findConfigurationItem name) s with
  | error e =>
    rw [after_bind_of_error hfound]
    exact hfind
  | ok item =>
    rw [after_bind_of_ok hfound]
    cases item with
    | none => exact hfind
    | some item => exact hfind

omit [Calendar] in
/-- An assessment is a query for the item and one for its incidents. -/
theorem sent_assessShipmentDelay (shipmentId : String) :
    ∃ sent, (after (assessShipmentDelay (client.backend (keeping transport)) shipments now
      shipmentId) s).1 = s.1 ++ sent ∧ ∀ r ∈ sent, IsQuery client r := by
  unfold assessShipmentDelay
  cases shipments.get shipmentId with
  | none => exact ⟨[], (List.append_nil s.1).symm, by simp⟩
  | some shipment =>
    have hfind := sent_findConfigurationItem client transport s shipment.ci
    have hquery : IsQuery client (client.findRequest shipment.ci) := Or.inl ⟨shipment.ci, rfl⟩
    simp only []
    cases hfound :
        outcome ((client.backend (keeping transport)).findConfigurationItem shipment.ci) s with
    | error e =>
      rw [after_bind_of_error hfound]
      exact ⟨_, hfind, by simpa using hquery⟩
    | ok item =>
      rw [after_bind_of_ok hfound]
      have hsearch := sent_searchIncidents client transport
        (after (client.findConfigurationItem (keeping transport) shipment.ci) s)
        (some shipment.ci) true 10
      rw [hfind, List.append_assoc] at hsearch
      refine ⟨_, (congrArg Prod.fst (after_bind_pure _ _ _)).trans hsearch, ?_⟩
      rw [List.forall_mem_append, List.forall_mem_singleton, List.forall_mem_singleton]
      exact ⟨hquery, Or.inr ⟨some shipment.ci, true, 10, rfl⟩⟩

/-- **What one call of a tool sends**: queries, or the one request that opens an incident. -/
theorem sent_after (call : Invocation) :
    ∃ sent, (call.after (client.backend (keeping transport)) shipments now s).1 = s.1 ++ sent ∧
      ((∀ r ∈ sent, IsQuery client r) ∨ ∃ shipmentId urgency shipment,
        call = .serviceNow (.raiseShipmentIncident shipmentId urgency) ∧
        shipments.get shipmentId = some shipment ∧ urgency ∈ ["1", "2", "3"] ∧
        sent = [client.createRequest (shortDescriptionOf shipment) shipment.ci urgency
          (descriptionOf shipment)]) := by
  have hnothing : s.1 = s.1 ++ [] ∧ ∀ r ∈ [], IsQuery client r := by simp
  rcases call with shipmentId | thresholdHours | call
  · exact ⟨[], hnothing.1, Or.inl hnothing.2⟩
  · exact ⟨[], hnothing.1, Or.inl hnothing.2⟩
  · rcases call with ⟨configurationItem, limit⟩ | name | shipmentId | ⟨shipmentId, urgency⟩
    · have hsearch := sent_searchIncidents client transport s
        (if configurationItem = "" then none else some configurationItem) true limit
      refine ⟨_, (congrArg Prod.fst ((after_bind_pure _ _ s).trans (after_bind_pure _ _ s))).trans
        hsearch, Or.inl ?_⟩
      rw [List.forall_mem_singleton]
      exact Or.inr ⟨_, true, limit, rfl⟩
    · refine ⟨_, (congrArg Prod.fst (after_bind_pure _ _ s)).trans
        (sent_getConfigurationItem client transport s name), Or.inl ?_⟩
      rw [List.forall_mem_singleton]
      exact Or.inl ⟨name, rfl⟩
    · obtain ⟨sent, hsent, hall⟩ :=
        sent_assessShipmentDelay client transport shipments now s shipmentId
      exact ⟨sent, (congrArg Prod.fst (after_bind_pure _ _ s)).trans hsent, Or.inl hall⟩
    · have hafter : (Invocation.after (client.backend (keeping transport)) shipments now s
          (.serviceNow (.raiseShipmentIncident shipmentId urgency))) =
          after (raiseShipmentIncident (client.backend (keeping transport)) shipments shipmentId
            urgency) s := after_bind_pure _ _ s
      rw [hafter]
      by_cases hurgency : urgency ∈ ["1", "2", "3"]
      · cases hshipment : shipments.get shipmentId with
        | none =>
          rw [after_raiseShipmentIncident_of_invalid s (.inl hshipment)]
          exact ⟨[], hnothing.1, Or.inl hnothing.2⟩
        | some shipment =>
          rw [after_raiseShipmentIncident hshipment hurgency]
          refine ⟨_, ?_, Or.inr ⟨shipmentId, urgency, shipment, rfl, hshipment, hurgency, rfl⟩⟩
          exact congrArg Prod.fst (LiveServiceNow.after_createIncident client (keeping transport)
            _ _ _ _ s)
      · rw [after_raiseShipmentIncident_of_invalid s (.inr hurgency)]
        exact ⟨[], hnothing.1, Or.inl hnothing.2⟩

end sent

/-! ## Runs -/

variable [Signatures]

/-- The server over a live backend; its state is what has been sent, and the instance. -/
def onLive (self : Deployment σ ε) (client : LiveServiceNow) (transport : Transport σ) :
    Deployment (List Request × σ) ε where
  middleware := self.middleware
  shipments := self.shipments
  backend := fun _ => client.backend (keeping transport)
  reply := self.reply
  contents := self.contents
  elsewhere := self.elsewhere

/-- A request to open an incident that an authorised call of the tool has sent. -/
def Posted (client : LiveServiceNow) (policy : Policy) (shipments : Dict String Shipment)
    (a : Arrival) (r : Request) : Prop :=
  ∃ shipment urgency, AuthorisedRaise policy shipments a shipment urgency ∧
    r = client.createRequest (shortDescriptionOf shipment) shipment.ci urgency
      (descriptionOf shipment)

/-- What one step of a server in enforce mode sends. -/
theorem sent_next (D : Deployment σ ε) (client : LiveServiceNow) (transport : Transport σ)
    (policy : Policy) (s : List Request × σ) (a : Arrival) :
    ∃ sent, (((D.onLive client transport).governedBy (enforcing policy)).machine.next s a).1 =
        s.1 ++ sent ∧
      ((∀ r ∈ sent, IsQuery client r) ∨
        ∃ r, sent = [r] ∧ Posted client policy D.shipments a r) := by
  rcases (D.onLive client transport).next_governedBy (enforcing policy) s a with
    hsame | ⟨call, hpasses, hwork, hnext⟩
  · refine ⟨[], ?_, Or.inl (by simp)⟩
    rw [hsame, List.append_nil]
  · obtain ⟨sent, hsent, hwhich⟩ := sent_after client transport D.shipments a.now s call
    refine ⟨sent, (congrArg Prod.fst hnext).trans hsent, ?_⟩
    rcases hwhich with hqueries | ⟨shipmentId, urgency, shipment, rfl, hshipment, hurgency, hpost⟩
    · exact Or.inl hqueries
    · exact Or.inr ⟨_, hpost, shipment, urgency,
        authorisedRaise_of_passes hpasses hwork hshipment hurgency, rfl⟩

/-- The requests that create something. -/
def postsOf (s : List Request × σ) : List Request := s.1.filter fun r => r.method = "POST"

/-- **Everything sent is accounted for.** Whatever requests reach a server in enforce mode, and
whatever the instance answers, what is sent are queries, and requests to open an incident, each sent
by a request of its own, an authorised call of the tool that is recorded in the audit trail as
allowed. Source: `middleware.py`, `_guard_tool_call`; `servicenow.py`, `LiveServiceNow`. -/
theorem posts_accounted (D : Deployment σ ε) (client : LiveServiceNow) (transport : Transport σ)
    (policy : Policy) (instances : σ) (arrivals : List Arrival) :
    let server := ((D.onLive client transport).governedBy (enforcing policy)).machine
    let final := server.final ([], instances) arrivals
    (∀ r ∈ final.1, IsQuery client r ∨ r ∈ postsOf final) ∧
    ∃ journal : List (Arrival × Request),
      postsOf final = journal.map Prod.snd ∧
      (journal.map Prod.fst).Sublist arrivals ∧
      (∀ e ∈ journal, Posted client policy D.shipments e.1 e.2) ∧
      (journal.map fun e => (enforcing policy).toolRecord e.1.ambient e.1.ctx).Sublist
        ((server.answers ([], instances) arrivals).flatMap
          fun handling => recordsOf handling.events) := by
  intro server final
  constructor
  · have hkeeps : server.Preserves fun s => ∀ r ∈ s.1, IsQuery client r ∨ r.method = "POST" := by
      intro s a hs
      obtain ⟨sent, hsent, hwhich⟩ := D.sent_next client transport policy s a
      show ∀ r ∈ (server.next s a).1, _
      rw [hsent, List.forall_mem_append]
      refine ⟨hs, ?_⟩
      rcases hwhich with hqueries | ⟨r, rfl, shipment, urgency, -, rfl⟩
      · exact fun r hr => Or.inl (hqueries r hr)
      · rw [List.forall_mem_singleton]
        exact Or.inr rfl
    have hfinal : ∀ r ∈ final.1, IsQuery client r ∨ r.method = "POST" :=
      hkeeps.final (by simp) arrivals
    intro r hr
    refine (hfinal r hr).imp_right fun hpost => ?_
    exact List.mem_filter.mpr ⟨hr, decide_eq_true hpost⟩
  · have hstep : ∀ (s : List Request × σ) (a : Arrival), postsOf (server.next s a) = postsOf s ∨
        ∃ r, postsOf (server.next s a) = postsOf s ++ [r] ∧
          Posted client policy D.shipments a r := by
      intro s a
      obtain ⟨sent, hsent, hwhich⟩ := D.sent_next client transport policy s a
      have hposts : postsOf (server.next s a) =
          postsOf s ++ sent.filter fun r => r.method = "POST" := by
        unfold postsOf
        rw [hsent, List.filter_append]
      rw [hposts]
      rcases hwhich with hqueries | ⟨r, rfl, hposted⟩
      · left
        have hnone : sent.filter (fun r => r.method = "POST") = [] := by
          rw [List.filter_eq_nil_iff]
          intro r hr
          simp [method_of_isQuery (hqueries r hr)]
        rw [hnone, List.append_nil]
      · right
        refine ⟨r, ?_, hposted⟩
        obtain ⟨shipment, urgency, -, rfl⟩ := hposted
        rfl
    -- here no invariant is needed
    have hany : server.Preserves fun _ => True := fun _ _ _ => trivial
    obtain ⟨journal, hfinal, hsub, hall⟩ :=
      Machine.exists_journal hany (fun s a _ => hstep s a) trivial arrivals
    refine ⟨journal, hfinal, hsub, hall, ?_⟩
    have hrecords := (D.onLive client transport).toolRecords_sublist (enforcing policy)
      ([], instances) hsub (by
        intro a ha
        obtain ⟨e, he, rfl⟩ := List.mem_map.mp ha
        obtain ⟨shipment, urgency, hraise, -⟩ := hall e he
        exact hraise.method)
    rwa [List.map_map] at hrecords

end GovernedMcp.Deployment
