import GovernedMcp.Model.Server

/-!
# The shipment tools

The tools of `server.py` that read the table of shipments and nothing else, and the resource that
shows a shipment. None of them touches a backend.

A time is in seconds, so an hour is `3600`, and times are exact.
-/

namespace GovernedMcp.Server

open Lib

/-- Source: `server.py`, `ShipmentStatus`. -/
structure ShipmentStatus where
  id : String
  status : String
  origin : String
  destination : String
  eta : ℚ
  configurationItem : String
  deriving DecidableEq

/-- Source: `server.py`, `DelayedShipment`. -/
structure DelayedShipment where
  id : String
  destination : String
  eta : ℚ
  configurationItem : String
  deriving DecidableEq

/-- Source: `server.py`, `_fixtures`. -/
def fixtures (now : ℚ) : Dict String Shipment :=
  ⟨[("SHP-1001", ⟨"SHP-1001", "Rotterdam", "Duisburg", "in_transit", now + 6 * 3600, "CI-WMS-01"⟩),
    ("SHP-1002", ⟨"SHP-1002", "Antwerp", "Venlo", "delayed", now + 31 * 3600, "CI-WMS-01"⟩),
    ("SHP-1003", ⟨"SHP-1003", "Rotterdam", "Lille", "delivered", now - 12 * 3600, "CI-TMS-02"⟩),
    ("SHP-1004", ⟨"SHP-1004", "Zeebrugge", "Koln", "delayed", now + 52 * 3600, "CI-TMS-02"⟩)],
    by simp⟩

/-- Source: `server.py`, `get_shipment_status`. -/
def getShipmentStatus (shipments : Dict String Shipment) (shipmentId : String) :
    Except ToolError ShipmentStatus :=
  match shipments.get shipmentId with
  | none => .error (.valueError s!"unknown shipment: {shipmentId}")
  | some shipment =>
    .ok
      { id := shipment.id
        status := shipment.status
        origin := shipment.origin
        destination := shipment.destination
        eta := shipment.eta
        configurationItem := shipment.ci }

/-- A date is out of range. -/
structure OverflowError where
  deriving DecidableEq

/-- `now + timedelta(hours=hours)`: a date lies between the years 1 and 9999. -/
def addHours (now : ℚ) (hours : ℤ) : Except OverflowError ℚ :=
  let sum := now + hours * 3600
  if -62135596800 ≤ sum ∧ sum < 253402300800 then .ok sum else .error {}

/-- How a shipment is listed. -/
def delayedOf (shipment : Shipment) : DelayedShipment where
  id := shipment.id
  destination := shipment.destination
  eta := shipment.eta
  configurationItem := shipment.ci

/-- Source: `server.py`, `list_delayed_shipments`. -/
def listDelayedShipments (shipments : Dict String Shipment) (now : ℚ) (thresholdHours : ℤ := 24) :
    Except OverflowError (List DelayedShipment) := do
  let cutoff ← addHours now thresholdHours
  return ((shipments.entries.map Prod.snd).filter fun s =>
    decide (s.status ≠ "delivered") && decide (cutoff < s.eta)).map delayedOf

/-- Source: `server.py`, `shipment_detail`. -/
def shipmentDetail [Calendar] (shipments : Dict String Shipment) (shipmentId : String) : String :=
  match shipments.get shipmentId with
  | none => s!"No shipment {shipmentId}."
  | some shipment =>
    s!"{shipment.id}: {shipment.origin} -> {shipment.destination}, " ++
      s!"status {shipment.status}, ETA " ++ Calendar.strftime "%Y-%m-%d %H:%M" shipment.eta ++
      s!" UTC, CI {shipment.ci}."

end GovernedMcp.Server
