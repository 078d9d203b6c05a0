import GovernedMcp.Connector.Assessment

/-!
# What is written, and what was read

The flow has two halves. Assessing a shipment tells whether it is late and whether its item is
known; raising an incident opens one that says the shipment is delayed. Either half looks up for
itself what it goes by.

* `opens_iff`: raising goes by the table, the urgency and the item.
* `confirmed_iff`: assessing goes by the table, the item and the status of the shipment.
* **`writesWhereRead_iff`**: so an incident is opened behind the back of the read half exactly when
  the call is in order and the shipment is not flagged delayed.
-/

namespace GovernedMcp

open Lib Stateful Server

namespace MockServiceNow

section halves

variable [Interpreter] [Calendar] (shipments : Dict String Shipment) (shipmentId urgency : String)
  (store : MockServiceNow)

/-- The call opens an incident. -/
def Opens (now : ℚ) : Prop :=
  ∃ incident, (after (raiseShipmentIncident (backend now) shipments shipmentId urgency)
    store).incidents = store.incidents ++ [incident]

/-- An assessment reports that the shipment is late and that its item is known. -/
def Confirmed (now : ℚ) : Prop :=
  ∃ assessment,
    outcome (assessShipmentDelay (backend now) shipments now shipmentId) store = .ok assessment ∧
      assessment.delayed = true ∧ assessment.configurationItemFound = true

/-- Whatever the call opens, an assessment of the store before it reports. -/
def WritesWhereRead : Prop :=
  ∀ earlier now, Opens shipments shipmentId urgency store now →
    Confirmed shipments shipmentId store earlier

variable {shipments} {shipmentId} {urgency} {store} {now : ℚ}

/-- **What raising goes by**: the status of the shipment is not part of it. -/
theorem opens_iff : Opens shipments shipmentId urgency store now ↔
    ∃ shipment, shipments.get shipmentId = some shipment ∧ urgency ∈ ["1", "2", "3"] ∧
      ∃ item, store.configurationItems.get shipment.ci = some item := by
  constructor
  · rintro ⟨incident, hopened⟩
    have hchanged : after (raiseShipmentIncident (backend now) shipments shipmentId urgency)
        store ≠ store := by
      intro hsame
      rw [hsame] at hopened
      exact List.cons_ne_nil _ _ (List.self_eq_append_right.mp hopened)
    -- a call that raises leaves the store as it was
    rcases hshipment : shipments.get shipmentId with _ | shipment
    · exact absurd (after_raiseShipmentIncident_of_invalid store (.inl hshipment)) hchanged
    · by_cases hurgency : urgency ∈ ["1", "2", "3"]
      · rw [after_raiseShipmentIncident hshipment hurgency] at hchanged
        rcases hitem : store.configurationItems.get shipment.ci with _ | item
        · have hrefused := after_createIncident_of_none now (shortDescriptionOf shipment) urgency
            (descriptionOf shipment) hitem
          exact absurd hrefused hchanged
        · exact ⟨shipment, rfl, hurgency, item, hitem⟩
      · exact absurd (after_raiseShipmentIncident_of_invalid store (.inr hurgency)) hchanged
  · rintro ⟨shipment, hshipment, hurgency, item, hitem⟩
    refine ⟨store.nextIncident now (shortDescriptionOf shipment) shipment.ci urgency, ?_⟩
    have hcreated : after ((backend now).createIncident (shortDescriptionOf shipment) shipment.ci
        urgency (descriptionOf shipment)) store = _ :=
      after_createIncident_of_some now (shortDescriptionOf shipment) urgency
        (descriptionOf shipment) hitem
    rw [after_raiseShipmentIncident hshipment hurgency, hcreated]

/-- **What assessing goes by.** -/
theorem confirmed_iff : Confirmed shipments shipmentId store now ↔
    ∃ shipment, shipments.get shipmentId = some shipment ∧ shipment.status = "delayed" ∧
      ∃ item, store.configurationItems.get shipment.ci = some item := by
  rcases hshipment : shipments.get shipmentId with _ | shipment
  · constructor
    · rintro ⟨assessment, hassessment, -⟩
      unfold assessShipmentDelay at hassessment
      rw [hshipment] at hassessment
      cases hassessment
    · rintro ⟨shipment, hnone, -⟩
      cases hnone
  · have hassessed := outcome_assessShipmentDelay store now hshipment
    constructor
    · rintro ⟨assessment, hassessment, hdelayed, hfound⟩
      rw [hassessed] at hassessment
      cases hassessment
      exact ⟨shipment, rfl, of_decide_eq_true hdelayed, Option.isSome_iff_exists.mp hfound⟩
    · rintro ⟨shipment', hsame, hdelayed, hfound⟩
      cases hsame
      exact ⟨_, hassessed, decide_eq_true hdelayed, Option.isSome_iff_exists.mpr hfound⟩

/-- **When the write half acts only where the read half says so**: unless the call is in order for a
shipment that is not flagged delayed. Source: `server.py`, `assess_shipment_delay` and
`raise_shipment_incident`. -/
theorem writesWhereRead_iff : WritesWhereRead shipments shipmentId urgency store ↔
    ∀ shipment, shipments.get shipmentId = some shipment → urgency ∈ ["1", "2", "3"] →
      (∃ item, store.configurationItems.get shipment.ci = some item) →
        shipment.status = "delayed" := by
  unfold WritesWhereRead
  simp only [opens_iff, confirmed_iff]
  constructor
  · intro h shipment hshipment hurgency hitem
    obtain ⟨shipment', hsame, hdelayed, -⟩ := h 0 0 ⟨shipment, hshipment, hurgency, hitem⟩
    rw [hshipment] at hsame
    cases hsame
    exact hdelayed
  · rintro h - - ⟨shipment, hshipment, hurgency, hitem⟩
    exact ⟨shipment, hshipment, h shipment hshipment hurgency hitem, hitem⟩

end halves

/-! ## A shipment that is on its way -/

/-- A shipment in transit, handled by a known system. -/
def shipmentInTransit : Shipment where
  id := "SHP-1001"
  origin := "Rotterdam"
  destination := "Duisburg"
  status := "in_transit"
  eta := 0
  ci := "CI-WMS-01"

/-- The table with this shipment. -/
def tableInTransit : Dict String Shipment := ⟨[("SHP-1001", shipmentInTransit)], by simp⟩

/-- **The failing input**: an incident is opened that calls it delayed. -/
theorem not_writesWhereRead_of_inTransit :
    ¬∀ shipments shipmentId urgency store,
      @WritesWhereRead plainInterpreter plainCalendar shipments shipmentId urgency store := by
  intro h
  obtain ⟨assessment, hassessment, hdelayed, -⟩ := h tableInTransit "SHP-1001" "3" new 0 0 ⟨_, rfl⟩
  cases hassessment
  cases hdelayed

end MockServiceNow

end GovernedMcp
