import GovernedMcp.Lib.Threads
import GovernedMcp.Model.Server

/-!
# The tools as coroutines

The tools are coroutines: while one awaits a response of the instance, the server goes on with
others. Here are the operations of the live client and the four tools once more, as threads that
stop at each request.

`carries_thread`: run from beginning to end, on whatever network, such a thread does what the tool
does.
-/

namespace GovernedMcp

open Lib Stateful Thread

/-- A coroutine that sends requests. -/
abbrev Coroutine := ExceptT ToolError (Thread Request HttpOutcome)

/-- The network as a machine. -/
def network {σ : Type} (transport : Transport σ) : Machine σ Request HttpOutcome where
  answer s r := (transport r s).1
  next s r := (transport r s).2

variable [Interpreter]

/-! ## The operations of the live client -/

namespace LiveServiceNow

variable (self : LiveServiceNow)

/-- Source: `servicenow.py`, `LiveServiceNow.find_configuration_item`. -/
def findThread (name : String) : Coroutine (Option ConfigurationItem) :=
  asks (self.findRequest name) fun response => resultOf "cmdb_ci" response >>= itemOf

/-- Source: `servicenow.py`, `LiveServiceNow.search_incidents`. -/
def searchThread (configurationItem : Option String) (activeOnly : Bool) (limit : ℤ) :
    Coroutine (List Incident) :=
  asks (self.searchRequest configurationItem activeOnly limit) fun response =>
    resultOf "incident" response >>= incidentsOf

/-- Source: `servicenow.py`, `LiveServiceNow.create_incident`. -/
def createThread (shortDescription configurationItem urgency description : String) :
    Coroutine Incident :=
  asks (self.createRequest shortDescription configurationItem urgency description) fun response =>
    (resultOf "incident" response).map createdOf

section carries

variable {σ : Type} (transport : Transport σ)

/-- The thread of a lookup. -/
theorem carries_find (name : String) : CarriesOut (network transport) (self.findThread name)
    ((self.backend transport).findConfigurationItem name) :=
  .asks (self.outcome_findConfigurationItem transport name)
    (self.after_findConfigurationItem transport name)

/-- The thread of a search. -/
theorem carries_search (configurationItem : Option String) (activeOnly : Bool) (limit : ℤ) :
    CarriesOut (network transport) (self.searchThread configurationItem activeOnly limit)
      ((self.backend transport).searchIncidents configurationItem activeOnly limit) :=
  .asks (self.outcome_searchIncidents transport configurationItem activeOnly limit)
    (self.after_searchIncidents transport configurationItem activeOnly limit)

/-- The thread of a creation. -/
theorem carries_create (shortDescription configurationItem urgency description : String) :
    CarriesOut (network transport)
      (self.createThread shortDescription configurationItem urgency description)
      ((self.backend transport).createIncident shortDescription configurationItem urgency
        description) :=
  .asks
    (self.outcome_createIncident transport shortDescription configurationItem urgency description)
    (self.after_createIncident transport shortDescription configurationItem urgency description)

end carries

end LiveServiceNow

/-! ## The tools -/

namespace Server

variable (client : LiveServiceNow)

/-- Source: `server.py`, `search_incidents`. -/
def searchIncidentsThread (configurationItem : String) (limit : ℤ) :
    Coroutine (List IncidentSummary) := do
  let found ← client.searchThread
    (if configurationItem = "" then none else some configurationItem) true limit
  return found.map summarise

/-- Source: `server.py`, `get_configuration_item`. -/
def getConfigurationItemThread (name : String) : Coroutine Json := do
  match ← client.findThread name with
  | none => return .dict [("found", .bool false), ("name", .str name)]
  | some item =>
    return .dict
      [("found", .bool true), ("name", .str item.name), ("class", .str item.ciClass),
        ("operational_status", .str item.operationalStatus)]

/-- Source: `server.py`, `assess_shipment_delay`. -/
def assessShipmentDelayThread (shipments : Dict String Shipment) (now : ℚ) (shipmentId : String) :
    Coroutine DelayAssessment :=
  match shipments.get shipmentId with
  | none => throw (.valueError s!"unknown shipment: {shipmentId}")
  | some shipment => do
    let hoursLate := hoursLateOf shipment.eta now
    let delayed := decide (shipment.status = "delayed")
    let item ← client.findThread shipment.ci
    let openIncidents ← client.searchThread (some shipment.ci) true 10
    return {
      shipmentId := shipment.id
      delayed
      hoursLate := roundToTenth hoursLate
      configurationItem := shipment.ci
      configurationItemFound := item.isSome
      openIncidents := openIncidents.map summarise
      recommendation := (recommend delayed shipment.ci item openIncidents).text }

/-- Source: `server.py`, `raise_shipment_incident`. -/
def raiseShipmentIncidentThread [Calendar] (shipments : Dict String Shipment) (shipmentId : String)
    (urgency : String) : Coroutine IncidentSummary :=
  match shipments.get shipmentId with
  | none => throw (.valueError s!"unknown shipment: {shipmentId}")
  | some shipment =>
    if urgency ∉ ["1", "2", "3"] then
      throw (.valueError "urgency must be '1' (high), '2' (medium) or '3' (low)")
    else do
      let incident ← client.createThread (shortDescriptionOf shipment) shipment.ci urgency
        (descriptionOf shipment)
      return summarise incident

/-- Carries out a call, at some time. -/
def Call.thread [Calendar] (shipments : Dict String Shipment) (now : ℚ) :
    Call → Coroutine ToolResult
  | .searchIncidents configurationItem limit => do
    return .incidents (← searchIncidentsThread client configurationItem limit)
  | .getConfigurationItem name => do
    return .item (← getConfigurationItemThread client name)
  | .assessShipmentDelay shipmentId => do
    return .assessment (← assessShipmentDelayThread client shipments now shipmentId)
  | .raiseShipmentIncident shipmentId urgency => do
    return .raised (← raiseShipmentIncidentThread client shipments shipmentId urgency)

section carries

variable {σ : Type} (transport : Transport σ) (shipments : Dict String Shipment)

/-- The thread of the tool `get_configuration_item`. -/
theorem carries_getConfigurationItem (name : String) :
    CarriesOut (network transport) (getConfigurationItemThread client name)
      (getConfigurationItem (client.backend transport) name) := by
  refine (client.carries_find transport name).bind fun item => ?_
  cases item with
  | none => exact .pure _
  | some item => exact .pure _

/-- The thread of the tool `assess_shipment_delay`. -/
theorem carries_assessShipmentDelay (now : ℚ) (shipmentId : String) :
    CarriesOut (network transport) (assessShipmentDelayThread client shipments now shipmentId)
      (assessShipmentDelay (client.backend transport) shipments now shipmentId) := by
  unfold assessShipmentDelayThread assessShipmentDelay
  cases shipments.get shipmentId with
  | none => exact .throw _
  | some shipment =>
    refine (client.carries_find transport shipment.ci).bind fun item => ?_
    exact (client.carries_search transport (some shipment.ci) true 10).bind fun _ => .pure _

/-- The thread of the tool `raise_shipment_incident`. -/
theorem carries_raiseShipmentIncident [Calendar] (shipmentId urgency : String) :
    CarriesOut (network transport) (raiseShipmentIncidentThread client shipments shipmentId urgency)
      (raiseShipmentIncident (client.backend transport) shipments shipmentId urgency) := by
  unfold raiseShipmentIncidentThread raiseShipmentIncident
  cases shipments.get shipmentId with
  | none => exact .throw _
  | some shipment =>
    simp only []
    split_ifs with hurgency
    · exact (client.carries_create transport _ _ _ _).bind fun _ => .pure _
    · exact .throw _

/-- **A call that nothing gets in between** is the call as it was. -/
theorem carries_thread [Calendar] (now : ℚ) (call : Call) :
    CarriesOut (network transport) (call.thread client shipments now)
      (call.run (client.backend transport) shipments now) := by
  cases call with
  | searchIncidents configurationItem limit =>
    refine CarriesOut.bind ?_ fun found => .pure _
    exact (client.carries_search transport _ true limit).bind fun _ => .pure _
  | getConfigurationItem name =>
    exact (carries_getConfigurationItem client transport name).bind fun _ => .pure _
  | assessShipmentDelay shipmentId =>
    exact (carries_assessShipmentDelay client transport shipments now shipmentId).bind
      fun _ => .pure _
  | raiseShipmentIncident shipmentId urgency =>
    exact (carries_raiseShipmentIncident client transport shipments shipmentId urgency).bind
      fun _ => .pure _

end carries

end Server

end GovernedMcp
