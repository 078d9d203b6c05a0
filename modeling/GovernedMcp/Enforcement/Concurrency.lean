import GovernedMcp.Model.Coroutines
import GovernedMcp.Connector.Confinement
import GovernedMcp.Connector.StandIn
import GovernedMcp.Enforcement.Mediation

/-!
# Many requests at a time

A server does not handle one request after the other: while a tool awaits the instance, other
requests are served, by the same server or by another that has been started beside it. In all there
are many coroutines before one instance, which has users of its own.

* `Deployment.thread`: the handling of a request as a thread. `run_thread`: with nothing in between
  it is what the server does with the request.
* `Settled`: the instance answers a lookup of an item the same, whatever requests of the tools come
  in between.
* **`concurrent`**: any number of requests, to any number of servers, in any interleaving, might as
  well have been handled one at a time.
-/

namespace GovernedMcp

open Lib Thread

/-! ## A request as a thread -/

section threads

variable [Interpreter] [Calendar]

/-- A call of a tool. -/
def Server.Invocation.thread (client : LiveServiceNow) (shipments : Dict String Shipment)
    (now : ℚ) : Invocation → Thread Request HttpOutcome (Except ToolFailure Output)
  | .getShipmentStatus shipmentId =>
    pure (((Server.getShipmentStatus shipments shipmentId).map .status).mapError .tool)
  | .listDelayedShipments thresholdHours =>
    pure (((Server.listDelayedShipments shipments now thresholdHours).map .delayed).mapError
      .overflow)
  | .serviceNow call => do
    let result ← (call.thread client shipments now).run
    return (result.map .result).mapError .tool

variable [Server.Signatures] {ρ ε : Type}

namespace Deployment

variable (self : Deployment ρ ε)

/-- What is behind the middleware. -/
def handlerThread (client : LiveServiceNow) (now : ℚ) (ctx : Ctx) :
    Thread Request HttpOutcome (Except ε HandlerResult) :=
  match workOf ctx with
  | some call => do
    let result ← call.thread client self.shipments now
    return self.reply ctx result
  | none =>
    match resourceOf ctx with
    | some shipmentId => pure (self.contents ctx (Server.shipmentDetail self.shipments shipmentId))
    | none => pure (self.elsewhere ctx)

/-- What the middleware does with a request if this is what `call_next` ends in. -/
def answered (a : Arrival) (result : Except ε HandlerResult) : Handling ε Response :=
  match self.middleware with
  | some middleware => middleware.call a.ambient (fun _ => result) a.ctx
  | none => PolicyEnforcementMiddleware.forward (fun _ => result) a.ctx

/-- The handling of a request, from its arrival on. -/
def thread (client : LiveServiceNow) (a : Arrival) :
    Thread Request HttpOutcome (Handling ε Response) :=
  .pause (
    if self.awaits a then do
      let result ← self.handlerThread client a.now a.ctx
      return self.answered a result
    else pure (self.answered a (self.elsewhere a.ctx)))

end Deployment

end threads

/-! ## A request on its own -/

section alone

variable [Interpreter] [Calendar] {ρ σ ε : Type}

/-- Run without interruption, the thread of a call does what the call does. -/
theorem Server.Invocation.run_thread (client : LiveServiceNow) (transport : Transport σ)
    (shipments : Dict String Shipment) (now : ℚ) (call : Server.Invocation) (s : σ) :
    (call.thread client shipments now).run (network transport) s =
      (call.outcome (client.backend transport) shipments now s,
        call.after (client.backend transport) shipments now s) := by
  cases call with
  | getShipmentStatus shipmentId => rfl
  | listDelayedShipments thresholdHours => rfl
  | serviceNow call =>
    refine (run_bind (network transport) _ _ s).trans ?_
    rw [Server.carries_thread client transport shipments now call s]
    rfl

variable [Server.Signatures]

namespace Deployment

/-- And that of a handler does what the handler does. -/
theorem run_handlerThread (D : Deployment ρ ε) (client : LiveServiceNow) (transport : Transport σ)
    (now : ℚ) (ctx : Ctx) (s : σ) :
    (D.handlerThread client now ctx).run (network transport) s =
      ((D.live client transport).handler now s ctx,
        (D.live client transport).effect now s ctx) := by
  unfold handlerThread handler effect
  cases workOf ctx with
  | none => cases resourceOf ctx <;> rfl
  | some call =>
    refine (run_bind (network transport) _ _ s).trans ?_
    rw [call.run_thread]
    rfl

omit [Interpreter] [Calendar] [Server.Signatures] in
/-- A handler is asked for nothing but the request. -/
theorem forward_congr {handler handler' : Ctx → Except ε HandlerResult} {ctx : Ctx}
    (h : handler ctx = handler' ctx) : PolicyEnforcementMiddleware.forward handler ctx =
      PolicyEnforcementMiddleware.forward handler' ctx := by
  unfold PolicyEnforcementMiddleware.forward PolicyEnforcementMiddleware.callNext
  rw [h]

/-- Answered with what its handler gives, a request is handled. -/
theorem answered_handler (D : Deployment σ ε) (s : σ) (a : Arrival) :
    D.answered a (D.handler a.now s a.ctx) = D.handle s a := by
  unfold answered handle
  cases D.middleware with
  | none => exact forward_congr rfl
  | some middleware =>
    show middleware.call a.ambient (fun _ => D.handler a.now s a.ctx) a.ctx =
      middleware.call a.ambient (D.handler a.now s) a.ctx
    cases hpasses : passes middleware a with
    | true =>
      rw [call_of_passes _ hpasses, call_of_passes _ hpasses]
      exact congrArg (shown middleware a) (forward_congr rfl)
    | false => rw [call_of_refused _ hpasses, call_of_refused _ hpasses]

/-- Where `call_next` is not awaited, what it would have ended in does not matter. -/
theorem answered_of_not_awaits {D : Deployment σ ε} {a : Arrival} (h : D.awaits a = false) (s : σ)
    (result : Except ε HandlerResult) : D.answered a result = D.handle s a := by
  unfold awaits at h
  unfold answered handle
  cases hmiddleware : D.middleware with
  | none =>
    rw [hmiddleware] at h
    cases h
  | some middleware =>
    rw [hmiddleware] at h
    exact (call_of_refused _ h).trans (call_of_refused _ h).symm

/-- **A request that nothing gets in between** is handled as it was. -/
theorem run_thread (D : Deployment ρ ε) (client : LiveServiceNow) (transport : Transport σ)
    (a : Arrival) (s : σ) : (D.thread client a).run (network transport) s =
      ((D.live client transport).machine.answer s a,
        (D.live client transport).machine.next s a) := by
  rw [next_eq]
  show Thread.run (network transport) (if D.awaits a then _ else _) s = _
  cases hawaits : D.awaits a with
  | true =>
    have hlive : (D.live client transport).awaits a = true := hawaits
    rw [if_pos rfl, if_pos hlive]
    refine (run_bind (network transport) _ _ s).trans ?_
    rw [D.run_handlerThread client transport]
    exact Prod.ext ((D.live client transport).answered_handler s a) rfl
  | false =>
    have hlive : (D.live client transport).awaits a = false := hawaits
    rw [if_neg Bool.false_ne_true, if_neg (by simp [hlive])]
    exact Prod.ext (answered_of_not_awaits hlive s _) rfl

end Deployment

end alone

/-! ## The instance -/

section settled

variable {σ : Type} (client : LiveServiceNow) (transport : Transport σ)

/-- A request after which an item is looked up as before. -/
def LeavesItems (r : Request) : Prop :=
  ∀ name s, (transport (client.findRequest name) (transport r s).2).1 =
    (transport (client.findRequest name) s).1

/-- What is assumed of the instance: looking an item up changes nothing, and the items are not
changed by searching for incidents and opening them. -/
structure Settled : Prop where
  find : ∀ name s, (transport (client.findRequest name) s).2 = s
  search : ∀ configurationItem limit,
    LeavesItems client transport (client.searchRequest configurationItem true limit)
  create : ∀ shortDescription configurationItem urgency description, LeavesItems client transport
    (client.createRequest shortDescription configurationItem urgency description)

variable {client transport}

/-- The answer to a lookup stays what it is. -/
theorem Settled.fixed_find (h : Settled client transport) (name : String) :
    Fixed (network transport) (LeavesItems client transport) (client.findRequest name) where
  next := h.find name
  answer s _ hr := hr name s

end settled

/-! ## The tools act last -/

section acting

variable [Interpreter] [Calendar] {σ : Type} {client : LiveServiceNow} {transport : Transport σ}

namespace Server

omit [Calendar] in
/-- Looking up an item asks nothing that changes anything. -/
theorem actsLast_getConfigurationItem (h : Settled client transport) (name : String) :
    ActsLast (network transport) (LeavesItems client transport) 2
      (getConfigurationItemThread client name).run := by
  refine .bind (h.fixed_find name) _ fun item => ?_
  cases item with
  | none => exact .done 1 _
  | some item => exact .done 1 _

omit [Calendar] in
/-- An assessment searches after the lookup, and that is all. -/
theorem actsLast_assessShipmentDelay (h : Settled client transport)
    (shipments : Dict String Shipment) (now : ℚ) (shipmentId : String) :
    ActsLast (network transport) (LeavesItems client transport) 2
      (assessShipmentDelayThread client shipments now shipmentId).run := by
  unfold assessShipmentDelayThread
  cases shipments.get shipmentId with
  | none => exact .done 2 _
  | some shipment =>
    refine .bind (h.fixed_find shipment.ci) _ fun item => ?_
    exact (ActsLast.asks (h.search (some shipment.ci) 10) _).map_ok _

/-- Raising an incident creates it with its last request. -/
theorem actsLast_raiseShipmentIncident (h : Settled client transport)
    (shipments : Dict String Shipment) (shipmentId urgency : String) :
    ActsLast (network transport) (LeavesItems client transport) 2
      (raiseShipmentIncidentThread client shipments shipmentId urgency).run := by
  unfold raiseShipmentIncidentThread
  cases shipments.get shipmentId with
  | none => exact .done 2 _
  | some shipment =>
    simp only []
    split_ifs with hurgency
    · exact (ActsLast.asks (h.create _ _ _ _) _).map_ok _
    · exact .done 2 _

/-- **A call of a tool** is two requests at most, of which the last one alone can change anything.
-/
theorem actsLast_thread (h : Settled client transport) (shipments : Dict String Shipment) (now : ℚ)
    (call : Invocation) : ActsLast (network transport) (LeavesItems client transport) 2
      (call.thread client shipments now) := by
  cases call with
  | getShipmentStatus shipmentId => exact .done 2 _
  | listDelayedShipments thresholdHours => exact .done 2 _
  | serviceNow call =>
    have hcall : ActsLast (network transport) (LeavesItems client transport) 2
        (call.thread client shipments now).run := by
      cases call with
      | searchIncidents configurationItem limit =>
        exact ((ActsLast.asks (h.search _ limit) _).map_ok _).map_ok _
      | getConfigurationItem name => exact (actsLast_getConfigurationItem h name).map_ok _
      | assessShipmentDelay shipmentId =>
        exact (actsLast_assessShipmentDelay h shipments now shipmentId).map_ok _
      | raiseShipmentIncident shipmentId urgency =>
        exact (actsLast_raiseShipmentIncident h shipments shipmentId urgency).map_ok _
    exact hcall.map _

end Server

namespace Deployment

variable [Server.Signatures] {ρ ε : Type}

/-- **A request acts last**, and ends after three steps. -/
theorem actsLast_thread (h : Settled client transport) (D : Deployment ρ ε) (a : Arrival) :
    ActsLast (network transport) (LeavesItems client transport) 3 (D.thread client a) := by
  have hhandler : ActsLast (network transport) (LeavesItems client transport) 2
      (D.handlerThread client a.now a.ctx) := by
    unfold handlerThread
    cases workOf a.ctx with
    | none => cases resourceOf a.ctx <;> exact .done 2 _
    | some call => exact (Server.actsLast_thread h D.shipments a.now call).map _
  refine .pause ?_
  split_ifs
  · exact hhandler.map _
  · exact .done 2 _

/-! ## One request after the other -/

/-- The requests to some servers, each handled by its own server from beginning to end where it gets
its turn; in between, whatever others send to the instance. -/
def oneByOne (client : LiveServiceNow) (transport : Transport σ)
    (requests : List (Deployment ρ ε × Arrival)) :
    Machine σ (Turn Request) (Option (Handling ε Response)) where
  answer s
    | .thread n => requests[n]?.map fun r => (r.1.live client transport).machine.answer s r.2
    | .other _ => none
  next s
    | .thread n =>
      match requests[n]? with
      | some r => (r.1.live client transport).machine.next s r.2
      | none => s
    | .other r => (transport r s).2

/-- It is what their threads do one at a time. -/
theorem oneAtATime_thread (client : LiveServiceNow) (transport : Transport σ)
    (requests : List (Deployment ρ ε × Arrival)) :
    oneAtATime (network transport) (requests.map fun r => r.1.thread client r.2) =
      oneByOne client transport requests := by
  unfold oneAtATime oneByOne
  congr 1
  · funext s turn
    cases turn with
    | other r => rfl
    | thread n =>
      simp only [List.getElem?_map, Option.map_map]
      congr 1
      funext r
      exact congrArg Prod.fst (r.1.run_thread client transport r.2 s)
  · funext s turn
    cases turn with
    | other r => rfl
    | thread n =>
      simp only [List.getElem?_map]
      cases requests[n]? with
      | none => rfl
      | some r => exact congrArg Prod.snd (r.1.run_thread client transport r.2 s)

/-- **Many requests at a time.** Take any number of requests to any number of servers before one
instance, with their HTTP requests interleaved in any way, and with whatever others send to the
instance in between that leaves the items alone. What the instance has become, and how the requests
have been handled that are finished, is what comes of handling these one at a time, each where one
of its own turns was; the others have done nothing so far. A request is finished after three turns.
Source: `server.py`; `servicenow.py`, `LiveServiceNow`; `middleware.py`. -/
theorem concurrent (h : Settled client transport) (requests : List (Deployment ρ ε × Arrival))
    (s : σ) (turns : List (Turn Request))
    (hothers : ∀ r, .other r ∈ turns → LeavesItems client transport r) :
    let pool := interleaved (network transport)
      ⟨requests.map fun r => r.1.thread client r.2, s⟩ turns
    (∃ order, Serialises (oneByOne client transport requests) s turns order pool) ∧
      ∀ n < requests.length, 3 ≤ (turns.filterMap Turn.thread?).count n →
        ∃ handling, pool.threads[n]? = some (.done handling) := by
  intro pool
  have hall : ∀ t ∈ requests.map fun r => r.1.thread client r.2,
      (∀ handling, t ≠ .done handling) ∧
        ActsLast (network transport) (LeavesItems client transport) 3 t := by
    intro t ht
    obtain ⟨r, -, rfl⟩ := List.mem_map.mp ht
    exact ⟨nofun, actsLast_thread h r.1 r.2⟩
  constructor
  · rw [← oneAtATime_thread]
    exact exists_serialises (fun t ht => (hall t ht).1) (fun t ht => (hall t ht).2) s hothers
  · intro n hn hturns
    have hthread : (requests.map fun r => r.1.thread client r.2)[n]? =
        some (requests[n].1.thread client requests[n].2) := by
      rw [List.getElem?_map, List.getElem?_eq_getElem hn]
      rfl
    exact finished_of_turns hthread (actsLast_thread h _ _).endsWithin hturns

/-! ## Two requests that cross -/

end Deployment

end acting

section crossing

/-- A call of a tool for a shipment. -/
def callFor (tool shipmentId : String) : Arrival where
  ctx :=
    { method := some "tools/call"
      params := .dict [("name", .str tool),
        ("arguments", .dict [("shipment_id", .str shipmentId)])]
      protocolVersion := none }
  ambient := { accessToken := none, nonce := "" }
  now := 0

/-- One caller has a shipment assessed while another raises an incident for it. -/
def crossing : List (Deployment Unit Server.ToolFailure × Arrival) :=
  [(Deployment.openDeployment, callFor "assess_shipment_delay" "SHP-1004"),
    (Deployment.openDeployment, callFor "raise_shipment_incident" "SHP-1004")]

/-- The incident is opened between the two requests of the assessment. -/
def crossingTurns : List (Turn Request) :=
  [.thread 0, .thread 1, .thread 0, .thread 1, .other (LiveServiceNow.devClient.findRequest "x"),
    .thread 0, .thread 1]

/-- The ticket table is settled: no request changes its items. -/
theorem settled_ticketTable : Settled LiveServiceNow.devClient ticketTable where
  find _ _ := rfl
  search _ _ _ _ := rfl
  create _ _ _ _ _ _ := rfl

/-- Both are handled, one after the other in effect. -/
theorem concurrent_crossing :
    let pool := interleaved (network ticketTable)
      ⟨crossing.map fun r => @Deployment.thread plainInterpreter plainCalendar
        Deployment.plainSignatures _ _ r.1 LiveServiceNow.devClient r.2,
        [MockServiceNow.seedIncident]⟩ crossingTurns
    (∃ order, Serialises (@Deployment.oneByOne plainInterpreter plainCalendar _
      Deployment.plainSignatures _ _ LiveServiceNow.devClient ticketTable crossing)
        [MockServiceNow.seedIncident] crossingTurns order pool) ∧
      ∀ n < 2, ∃ handling, pool.threads[n]? = some (.done handling) := by
  have hothers : ∀ r, .other r ∈ crossingTurns →
      LeavesItems LiveServiceNow.devClient ticketTable r := by
    intro r hr
    obtain rfl : r = LiveServiceNow.devClient.findRequest "x" := by simpa [crossingTurns] using hr
    exact fun _ _ => rfl
  obtain ⟨hserial, hfinished⟩ := @Deployment.concurrent plainInterpreter plainCalendar _ _ _
    Deployment.plainSignatures _ _ settled_ticketTable crossing [MockServiceNow.seedIncident]
    crossingTurns hothers
  have hturns : ∀ n < 2, 3 ≤ (crossingTurns.filterMap Turn.thread?).count n := by decide
  exact ⟨hserial, fun n hn => hfinished n hn (hturns n hn)⟩

end crossing

end GovernedMcp
