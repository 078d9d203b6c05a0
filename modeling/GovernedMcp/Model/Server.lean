import Mathlib.Data.Int.Log
import Mathlib.Data.Rat.Floor
import GovernedMcp.Model.ServiceNow

/-!
# The tools of the server

The ServiceNow tools of `server.py`, over any backend and any table of shipments.

* `assessShipmentDelay` looks: is the shipment late, which item handles it, and is there an open
  incident. `recommend` is what it advises.
* `raiseShipmentIncident` acts.
* `searchIncidents` and `getConfigurationItem` hand the backend's answers on.
* `Call` is a call of one of the four, and `Call.run` carries it out.

A time is in seconds, an exact rational number; hours are rounded as `float` rounds them.
-/

namespace GovernedMcp

open Lib Stateful

/-- Source: `server.py`, `Shipment`. -/
structure Shipment where
  id : String
  origin : String
  destination : String
  status : String
  eta : ℚ
  /-- The CMDB item of the handling system. -/
  ci : String
  deriving DecidableEq

/-- Source: `server.py`, `IncidentSummary`. -/
structure IncidentSummary where
  number : String
  shortDescription : String
  state : String
  urgency : String
  configurationItem : String
  openedAt : String
  deriving DecidableEq

/-- Source: `server.py`, `DelayAssessment`. -/
structure DelayAssessment where
  shipmentId : String
  delayed : Bool
  hoursLate : ℚ
  configurationItem : String
  configurationItemFound : Bool
  openIncidents : List IncidentSummary
  recommendation : String
  deriving DecidableEq

namespace Server

/-- Source: `server.py`, `_summarise`. -/
def summarise (incident : Incident) : IncidentSummary where
  number := incident.number
  shortDescription := incident.shortDescription
  state := incident.state
  urgency := incident.urgency
  configurationItem := incident.configurationItem
  openedAt := incident.openedAt

/-! ## The recommendation -/

/-- What an assessment advises. -/
inductive Recommendation where
  | noAction
  | escalate (ci : String)
  | enrich (number ci : String)
  | raiseNew (ci : String)
  deriving DecidableEq

/-- How it is put. -/
def Recommendation.text : Recommendation → String
  | .noAction => "No action: shipment is not flagged as delayed."
  | .escalate ci => s!"Escalate manually: {ci} is not in the CMDB, so an incident " ++
      "raised against it would not route."
  | .enrich number ci => s!"Enrich {number} rather than opening a duplicate — " ++
      s!"{ci} already has an open incident."
  | .raiseNew ci => s!"Raise a new incident against {ci}."

/-- The branches of `assess_shipment_delay`. -/
def recommend (delayed : Bool) (ci : String) (item : Option ConfigurationItem)
    (openIncidents : List Incident) : Recommendation :=
  if !delayed then .noAction
  else
    match item, openIncidents with
    | none, _ => .escalate ci
    | some _, incident :: _ => .enrich incident.number ci
    | some _, [] => .raiseNew ci

/-! ## Hours late -/

/-- The integer nearest to a number; a tie goes to the even one. -/
def roundHalfEven (x : ℚ) : ℤ :=
  if x - ⌊x⌋ < 1 / 2 ∨ x - ⌊x⌋ = 1 / 2 ∧ ⌊x⌋ % 2 = 0 then ⌊x⌋ else ⌊x⌋ + 1

/-- The `float` nearest to a number. Its significand has 53 bits; the exponent is not bounded, as
hours stay far from the bounds. -/
def nearestFloat (x : ℚ) : ℚ :=
  let unit : ℚ := 2 ^ (Int.log 2 |x| - 52)
  roundHalfEven (x / unit) * unit

/-- `hours_late` in `assess_shipment_delay`: `total_seconds`, the division and the subtraction each
round to a `float`. -/
def hoursLateOf (eta now : ℚ) : ℚ :=
  max 0 (nearestFloat (nearestFloat (nearestFloat (eta - now) / 3600) - 24))

/-- `round(x, 1)`: the nearest tenth of the exact value, as a `float`. -/
def roundToTenth (x : ℚ) : ℚ :=
  nearestFloat (roundHalfEven (x * 10) / 10)

/-! ## The tools -/

section tools

variable {σ : Type} (sn : ServiceNow σ)

/-- Source: `server.py`, `search_incidents`. -/
def searchIncidents (configurationItem : String := "") (limit : ℤ := 10) :
    EStateM ToolError σ (List IncidentSummary) := do
  let found ← sn.searchIncidents
    (if configurationItem = "" then none else some configurationItem) true limit
  return found.map summarise

/-- Source: `server.py`, `get_configuration_item`. -/
def getConfigurationItem (name : String) : EStateM ToolError σ Json := do
  match ← sn.findConfigurationItem name with
  | none => return .dict [("found", .bool false), ("name", .str name)]
  | some item =>
    return .dict
      [("found", .bool true), ("name", .str item.name), ("class", .str item.ciClass),
        ("operational_status", .str item.operationalStatus)]

/-- Source: `server.py`, `assess_shipment_delay`. -/
def assessShipmentDelay (shipments : Dict String Shipment) (now : ℚ) (shipmentId : String) :
    EStateM ToolError σ DelayAssessment :=
  match shipments.get shipmentId with
  | none => throw (.valueError s!"unknown shipment: {shipmentId}")
  | some shipment => do
    let hoursLate := hoursLateOf shipment.eta now
    let delayed := decide (shipment.status = "delayed")
    let item ← sn.findConfigurationItem shipment.ci
    let openIncidents ← sn.searchIncidents (some shipment.ci) true 10
    return {
      shipmentId := shipment.id
      delayed
      hoursLate := roundToTenth hoursLate
      configurationItem := shipment.ci
      configurationItemFound := item.isSome
      openIncidents := openIncidents.map summarise
      recommendation := (recommend delayed shipment.ci item openIncidents).text }

/-- The short description of an incident. -/
def shortDescriptionOf (shipment : Shipment) : String :=
  s!"Shipment {shipment.id} delayed to {shipment.destination}"

/-- The description of an incident. -/
def descriptionOf [Calendar] (shipment : Shipment) : String :=
  s!"Shipment {shipment.id} from {shipment.origin} to {shipment.destination} " ++
    s!"is flagged {shipment.status} with an estimated arrival of " ++
    Calendar.strftime "%Y-%m-%d %H:%M" shipment.eta ++ " UTC. Raised from the MCP layer."

/-- Source: `server.py`, `raise_shipment_incident`. -/
def raiseShipmentIncident [Calendar] (shipments : Dict String Shipment) (shipmentId : String)
    (urgency : String := "3") : EStateM ToolError σ IncidentSummary :=
  match shipments.get shipmentId with
  | none => throw (.valueError s!"unknown shipment: {shipmentId}")
  | some shipment =>
    if urgency ∉ ["1", "2", "3"] then
      throw (.valueError "urgency must be '1' (high), '2' (medium) or '3' (low)")
    else do
      let incident ← sn.createIncident (shortDescriptionOf shipment) shipment.ci urgency
        (descriptionOf shipment)
      return summarise incident

/-- A call of a ServiceNow tool. -/
inductive Call where
  | searchIncidents (configurationItem : String) (limit : ℤ)
  | getConfigurationItem (name : String)
  | assessShipmentDelay (shipmentId : String)
  | raiseShipmentIncident (shipmentId urgency : String)
  deriving DecidableEq

/-- What a tool returns. -/
inductive ToolResult where
  | incidents (found : List IncidentSummary)
  | item (found : Json)
  | assessment (assessment : DelayAssessment)
  | raised (incident : IncidentSummary)
  deriving DecidableEq

/-- Carries out a call, at some time. -/
def Call.run [Calendar] (shipments : Dict String Shipment) (now : ℚ) :
    Call → EStateM ToolError σ ToolResult
  | .searchIncidents configurationItem limit => do
    return .incidents (← Server.searchIncidents sn configurationItem limit)
  | .getConfigurationItem name => do
    return .item (← Server.getConfigurationItem sn name)
  | .assessShipmentDelay shipmentId => do
    return .assessment (← Server.assessShipmentDelay sn shipments now shipmentId)
  | .raiseShipmentIncident shipmentId urgency => do
    return .raised (← Server.raiseShipmentIncident sn shipments shipmentId urgency)

end tools

/-! ## What the tools do with the backend -/

section equations

variable {σ : Type} {sn : ServiceNow σ} {shipments : Dict String Shipment} {shipmentId : String}
  {shipment : Shipment}

/-- For a known shipment and an urgency there is, an incident is created. -/
theorem raiseShipmentIncident_eq [Calendar] {urgency : String}
    (hshipment : shipments.get shipmentId = some shipment) (hurgency : urgency ∈ ["1", "2", "3"]) :
    raiseShipmentIncident sn shipments shipmentId urgency =
      sn.createIncident (shortDescriptionOf shipment) shipment.ci urgency (descriptionOf shipment)
        >>= fun incident => pure (summarise incident) := by
  unfold raiseShipmentIncident
  rw [hshipment]
  exact if_neg (not_not.mpr hurgency)

/-- An incident that is raised is the one created at the backend. -/
theorem outcome_raiseShipmentIncident [Calendar] {urgency : String}
    (hshipment : shipments.get shipmentId = some shipment) (hurgency : urgency ∈ ["1", "2", "3"])
    (s : σ) : outcome (raiseShipmentIncident sn shipments shipmentId urgency) s =
      (outcome (sn.createIncident (shortDescriptionOf shipment) shipment.ci urgency
        (descriptionOf shipment)) s).map summarise := by
  rw [raiseShipmentIncident_eq hshipment hurgency]
  exact outcome_bind_pure _ _ s

/-- Nothing else is done there. -/
theorem after_raiseShipmentIncident [Calendar] {urgency : String}
    (hshipment : shipments.get shipmentId = some shipment) (hurgency : urgency ∈ ["1", "2", "3"])
    (s : σ) : after (raiseShipmentIncident sn shipments shipmentId urgency) s =
      after (sn.createIncident (shortDescriptionOf shipment) shipment.ci urgency
        (descriptionOf shipment)) s := by
  rw [raiseShipmentIncident_eq hshipment hurgency]
  exact after_bind_pure _ _ s

/-- An invalid call raises before the backend is asked. -/
theorem after_raiseShipmentIncident_of_invalid [Calendar] {urgency : String} (s : σ)
    (h : shipments.get shipmentId = none ∨ urgency ∉ ["1", "2", "3"]) :
    after (raiseShipmentIncident sn shipments shipmentId urgency) s = s := by
  unfold raiseShipmentIncident
  cases hshipment : shipments.get shipmentId with
  | none => rfl
  | some shipment =>
    have hurgency := h.resolve_left (by simp [hshipment])
    simp only [if_pos hurgency]
    rfl

end equations

end Server

end GovernedMcp
