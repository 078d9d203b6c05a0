import GovernedMcp.Lib.Relational
import GovernedMcp.Enforcement.Deployment

/-!
# Backends that cannot be told apart

The tools know a backend by its three operations. Where the operations of two backends agree, from
states that correspond, so do the tools, and so does a server over either backend.

* `ServiceNow.Agree`: two backends agree, on the operations within reach.
* `run_agree`: so does every call of a ServiceNow tool that stays within reach.
* `Deployment.withBackend` puts another backend under a server. **`answers_withBackend`**: over
  backends that agree up to equality, a server gives the same answers.
-/

namespace GovernedMcp

open Lib Stateful

/-- The operations that are considered, by their arguments. The tools search for active incidents
only. -/
structure Reach where
  finds : String → Prop
  searches : Option String → ℤ → Prop
  opens : String → Prop

namespace Reach

/-- All of them. -/
def everything : Reach where
  finds _ := True
  searches _ _ := True
  opens _ := True

end Reach

/-- From states that `R` relates, the operations of two backends agree: `found` relates incidents
that they find, and `opened` those that they open. -/
structure ServiceNow.Agree {σ τ : Type} (reach : Reach) (R : σ → τ → Prop)
    (found opened : Incident → Incident → Prop) (sn : ServiceNow σ) (sn' : ServiceNow τ) :
    Prop where
  find : ∀ name, reach.finds name →
    Stateful.Agree R Eq (sn.findConfigurationItem name) (sn'.findConfigurationItem name)
  search : ∀ configurationItem limit, reach.searches configurationItem limit →
    Stateful.Agree R (List.Forall₂ found) (sn.searchIncidents configurationItem true limit)
      (sn'.searchIncidents configurationItem true limit)
  create : ∀ shortDescription configurationItem urgency description, reach.opens configurationItem →
    Stateful.Agree R opened
      (sn.createIncident shortDescription configurationItem urgency description)
      (sn'.createIncident shortDescription configurationItem urgency description)

namespace Server

/-! ## The tools -/

/-- A call asks the backend for nothing that is out of reach. -/
def Call.Within (reach : Reach) (shipments : Dict String Shipment) : Call → Prop
  | .searchIncidents configurationItem limit =>
    reach.searches (if configurationItem = "" then none else some configurationItem) limit
  | .getConfigurationItem name => reach.finds name
  | .assessShipmentDelay shipmentId => ∀ shipment, shipments.get shipmentId = some shipment →
    reach.finds shipment.ci ∧ reach.searches (some shipment.ci) 10
  | .raiseShipmentIncident shipmentId _ => ∀ shipment, shipments.get shipmentId = some shipment →
    reach.opens shipment.ci

/-- Two results that differ in nothing but the incidents they are about. -/
inductive ToolResult.Alike (found opened : Incident → Incident → Prop) :
    ToolResult → ToolResult → Prop where
  | incidents {is js : List Incident} (h : List.Forall₂ found is js) :
    Alike found opened (.incidents (is.map summarise)) (.incidents (js.map summarise))
  | item (found' : Json) : Alike found opened (.item found') (.item found')
  /-- The advice is the same, except for the incident that it names. -/
  | assessment {is js : List Incident} (shipmentId : String) (delayed : Bool) (hoursLate : ℚ)
      (ci : String) (item : Option ConfigurationItem) (h : List.Forall₂ found is js) :
    Alike found opened
      (.assessment ⟨shipmentId, delayed, hoursLate, ci, item.isSome, is.map summarise,
        (recommend delayed ci item is).text⟩)
      (.assessment ⟨shipmentId, delayed, hoursLate, ci, item.isSome, js.map summarise,
        (recommend delayed ci item js).text⟩)
  | raised {i j : Incident} (h : opened i j) :
    Alike found opened (.raised (summarise i)) (.raised (summarise j))

/-- Up to equality they do not differ at all. -/
theorem ToolResult.Alike.eq {r r' : ToolResult} (h : ToolResult.Alike Eq Eq r r') : r = r' := by
  cases h with
  | incidents h =>
    rw [List.forall₂_eq_eq_eq] at h
    rw [h]
  | item => rfl
  | assessment shipmentId delayed hoursLate ci item h =>
    rw [List.forall₂_eq_eq_eq] at h
    rw [h]
  | raised h => rw [h]

/-- Where everything is within reach, so is every call. -/
theorem Call.within_everything (shipments : Dict String Shipment) (call : Call) :
    call.Within .everything shipments := by
  cases call with
  | searchIncidents configurationItem limit => trivial
  | getConfigurationItem name => trivial
  | assessShipmentDelay shipmentId => exact fun _ _ => ⟨trivial, trivial⟩
  | raiseShipmentIncident shipmentId urgency => exact fun _ _ => trivial

section tools

variable {σ τ : Type} {reach : Reach} {R : σ → τ → Prop}
  {found opened : Incident → Incident → Prop} {sn : ServiceNow σ} {sn' : ServiceNow τ}

/-- Looking up an item agrees where the backends do. -/
theorem getConfigurationItem_agree (h : sn.Agree reach R found opened sn') {name : String}
    (hname : reach.finds name) :
    Stateful.Agree R Eq (getConfigurationItem sn name) (getConfigurationItem sn' name) := by
  refine (h.find name hname).bind fun item item' hitem => ?_
  cases hitem
  cases item with
  | none => exact .pure rfl
  | some item => exact .pure rfl

/-- So does assessing a shipment, up to the incident that is found. -/
theorem assessShipmentDelay_agree (h : sn.Agree reach R found opened sn')
    {shipments : Dict String Shipment} {now : ℚ} {shipmentId : String}
    (hwithin : (Call.assessShipmentDelay shipmentId).Within reach shipments) :
    Stateful.Agree R (fun a a' => ToolResult.Alike found opened (.assessment a) (.assessment a'))
      (assessShipmentDelay sn shipments now shipmentId)
      (assessShipmentDelay sn' shipments now shipmentId) := by
  unfold assessShipmentDelay
  cases hshipment : shipments.get shipmentId with
  | none => exact .throw _
  | some shipment =>
    obtain ⟨hfinds, hsearches⟩ := hwithin shipment hshipment
    refine (h.find shipment.ci hfinds).bind fun item item' hitem => ?_
    cases hitem
    exact (h.search (some shipment.ci) 10 hsearches).map fun is js his => .assessment _ _ _ _ _ his

/-- And so does raising an incident, up to the one that is opened. -/
theorem raiseShipmentIncident_agree [Calendar] (h : sn.Agree reach R found opened sn')
    {shipments : Dict String Shipment} {shipmentId urgency : String}
    (hwithin : (Call.raiseShipmentIncident shipmentId urgency).Within reach shipments) :
    Stateful.Agree R (fun a a' => ToolResult.Alike found opened (.raised a) (.raised a'))
      (raiseShipmentIncident sn shipments shipmentId urgency)
      (raiseShipmentIncident sn' shipments shipmentId urgency) := by
  unfold raiseShipmentIncident
  cases hshipment : shipments.get shipmentId with
  | none => exact .throw _
  | some shipment =>
    simp only []
    split_ifs with hurgency
    · exact (h.create _ _ _ _ (hwithin shipment hshipment)).map fun i j hij => .raised hij
    · exact .throw _

/-- **Every call of a tool** does the same on either backend. -/
theorem run_agree [Calendar] (h : sn.Agree reach R found opened sn')
    {shipments : Dict String Shipment} (now : ℚ) {call : Call}
    (hwithin : call.Within reach shipments) :
    Stateful.Agree R (ToolResult.Alike found opened) (call.run sn shipments now)
      (call.run sn' shipments now) := by
  cases call with
  | searchIncidents configurationItem limit =>
    have hsearch := (h.search _ limit hwithin).map (T := fun a a' =>
      ToolResult.Alike found opened (.incidents a) (.incidents a')) fun is js his => .incidents his
    exact hsearch.map fun _ _ => id
  | getConfigurationItem name =>
    refine (getConfigurationItem_agree h hwithin).map fun item item' hitem => ?_
    cases hitem
    exact .item item
  | assessShipmentDelay shipmentId => exact (assessShipmentDelay_agree h hwithin).map fun _ _ => id
  | raiseShipmentIncident shipmentId urgency =>
    exact (raiseShipmentIncident_agree h hwithin).map fun _ _ => id

end tools

end Server

/-! ## A server over either -/

namespace Deployment

variable [Interpreter] [Calendar] [Server.Signatures] {ρ σ τ ε : Type}

/-- The server over another backend. -/
def withBackend (self : Deployment ρ ε) (backend : ℚ → ServiceNow σ) : Deployment σ ε :=
  { self with backend }

/-- The server over the live backend. -/
def live (self : Deployment ρ ε) (client : LiveServiceNow) (transport : Transport σ) :
    Deployment σ ε :=
  self.withBackend fun _ => client.backend transport

section withBackend

variable {R : σ → τ → Prop} {sn : ℚ → ServiceNow σ} {sn' : ℚ → ServiceNow τ} {s : σ} {t : τ}

omit [Interpreter] [Server.Signatures] in
/-- A call of a tool ends the same. -/
theorem outcome_of_agree (h : ∀ now, (sn now).Agree .everything R Eq Eq (sn' now))
    (shipments : Dict String Shipment) (now : ℚ) (hR : R s t) (call : Server.Invocation) :
    call.outcome (sn now) shipments now s = call.outcome (sn' now) shipments now t := by
  cases call with
  | getShipmentStatus shipmentId => rfl
  | listDelayedShipments thresholdHours => rfl
  | serviceNow call =>
    have halike := (Server.run_agree (h now) now (call.within_everything shipments)).outcome s t hR
    have heq := alike_eq_iff.mp (halike.mono fun _ _ => Server.ToolResult.Alike.eq)
    show ((Stateful.outcome _ s).map _).mapError _ = _
    rw [heq]
    rfl

omit [Interpreter] [Server.Signatures] in
/-- It leaves states behind that correspond. -/
theorem after_of_agree (h : ∀ now, (sn now).Agree .everything R Eq Eq (sn' now))
    (shipments : Dict String Shipment) (now : ℚ) (hR : R s t) (call : Server.Invocation) :
    R (call.after (sn now) shipments now s) (call.after (sn' now) shipments now t) := by
  cases call with
  | getShipmentStatus shipmentId => exact hR
  | listDelayedShipments thresholdHours => exact hR
  | serviceNow call =>
    exact (Server.run_agree (h now) now (call.within_everything shipments)).after s t hR

/-- So does whatever is behind the middleware. -/
theorem handler_withBackend (D : Deployment ρ ε)
    (h : ∀ now, (sn now).Agree .everything R Eq Eq (sn' now))
    (now : ℚ) (hR : R s t) :
    (D.withBackend sn).handler now s = (D.withBackend sn').handler now t := by
  funext ctx
  unfold handler
  cases workOf ctx with
  | none => rfl
  | some call =>
    exact congrArg (D.reply ctx) (outcome_of_agree h D.shipments now hR call)

omit [Interpreter] in
/-- A request leaves related states behind. -/
theorem effect_withBackend (D : Deployment ρ ε)
    (h : ∀ now, (sn now).Agree .everything R Eq Eq (sn' now))
    (now : ℚ) (hR : R s t) (ctx : Ctx) :
    R ((D.withBackend sn).effect now s ctx) ((D.withBackend sn').effect now t ctx) := by
  unfold effect
  cases workOf ctx with
  | none => exact hR
  | some call => exact after_of_agree h D.shipments now hR call

/-- And it is handled the same. -/
theorem handle_withBackend (D : Deployment ρ ε)
    (h : ∀ now, (sn now).Agree .everything R Eq Eq (sn' now))
    (hR : R s t) (a : Arrival) :
    (D.withBackend sn).handle s a = (D.withBackend sn').handle t a := by
  unfold handle
  rw [D.handler_withBackend h a.now hR]
  rfl

/-- One step of the server is the same over either backend. -/
theorem simulates_withBackend (D : Deployment ρ ε)
    (h : ∀ now, (sn now).Agree .everything R Eq Eq (sn' now)) :
    Machine.Simulates (D.withBackend sn).machine (D.withBackend sn').machine
      (fun _ => True) R Eq where
  answer s t a _ hR := D.handle_withBackend h hR a
  next s t a _ hR := by
    show R (List.foldl _ s _) (List.foldl _ t _)
    rw [D.handle_withBackend h hR a]
    generalize forwardedOf ((D.withBackend sn').handle t a).events = ctxs
    induction ctxs generalizing s t with
    | nil => exact hR
    | cons ctx ctxs ih => exact ih _ _ (D.effect_withBackend h a.now hR ctx)

/-- **Over backends that agree a server gives the same answers**, whatever requests reach it. -/
theorem answers_withBackend (D : Deployment ρ ε)
    (h : ∀ now, (sn now).Agree .everything R Eq Eq (sn' now)) (hR : R s t)
    (arrivals : List Arrival) :
    (D.withBackend sn).machine.answers s arrivals =
        (D.withBackend sn').machine.answers t arrivals ∧
      R ((D.withBackend sn).machine.final s arrivals)
        ((D.withBackend sn').machine.final t arrivals) := by
  have hsimulates := D.simulates_withBackend h
  have hanswers : List.Forall₂ Eq ((D.withBackend sn).machine.answers s arrivals)
      ((D.withBackend sn').machine.answers t arrivals) := hsimulates.answers hR fun _ _ => trivial
  rw [List.forall₂_eq_eq_eq] at hanswers
  exact ⟨hanswers, hsimulates.final hR fun _ _ => trivial⟩

end withBackend

end Deployment

end GovernedMcp
