import GovernedMcp.Model.Server

/-!
# Tickets that would not route

An incident should be raised only against an item of the CMDB. The mock backend looks the item up
before it opens an incident; the live backend leaves that to the instance.

* `NoUnroutableTicket`: the item is found, or the call is refused and no incident is added.
* `RecordsPosts`: what is assumed of the instance.
* `noUnroutableTicket_mock`, `noUnroutableTicket_live_iff`: when it holds of either backend.
-/

namespace GovernedMcp

open Lib Stateful Server

variable [Calendar]

/-- Either the lookup finds the item of the shipment, or raising an incident for it is refused and
leaves the incidents alone. -/
def NoUnroutableTicket {σ ι : Type} (sn : ServiceNow σ) (incidents : σ → List ι)
    (shipments : Dict String Shipment) (shipmentId urgency ci : String) (s : σ) : Prop :=
  (∃ item, outcome (sn.findConfigurationItem ci) s = .ok (some item)) ∨
    (∃ message, outcome (raiseShipmentIncident sn shipments shipmentId urgency) s =
        .error (.serviceNow message)) ∧
      incidents (after (raiseShipmentIncident sn shipments shipmentId urgency) s) = incidents s

variable [Interpreter] {shipments : Dict String Shipment} {shipmentId urgency : String}
  {shipment : Shipment}

/-! ## The mock backend -/

/-- **The mock backend refuses** an unknown item, and is left as it was. -/
theorem noUnroutableTicket_mock (hshipment : shipments.get shipmentId = some shipment)
    (hurgency : urgency ∈ ["1", "2", "3"]) (now : ℚ) (store : MockServiceNow) :
    NoUnroutableTicket (MockServiceNow.backend now) MockServiceNow.incidents shipments shipmentId
      urgency shipment.ci store := by
  cases hitem : store.configurationItems.get shipment.ci with
  | some item =>
    left
    refine ⟨item, ?_⟩
    show outcome (MockServiceNow.findConfigurationItem shipment.ci) store = _
    rw [MockServiceNow.outcome_findConfigurationItem, hitem]
  | none =>
    right
    have houtcome : outcome ((MockServiceNow.backend now).createIncident
        (shortDescriptionOf shipment) shipment.ci urgency (descriptionOf shipment)) store = _ :=
      MockServiceNow.outcome_createIncident_of_none now _ urgency (descriptionOf shipment) hitem
    have hafter : after ((MockServiceNow.backend now).createIncident
        (shortDescriptionOf shipment) shipment.ci urgency (descriptionOf shipment)) store = _ :=
      MockServiceNow.after_createIncident_of_none now _ urgency (descriptionOf shipment) hitem
    rw [outcome_raiseShipmentIncident hshipment hurgency,
      after_raiseShipmentIncident hshipment hurgency, houtcome, hafter]
    exact ⟨⟨_, rfl⟩, rfl⟩

/-! ## The live backend -/

/-- The instance answers a new incident with a record, which it adds, whatever its item. -/
def RecordsPosts (client : LiveServiceNow) {σ : Type} (transport : Transport σ)
    (incidents : σ → List (List (String × Json))) : Prop :=
  ∀ shortDescription ci urgency description s, ∃ members,
    (transport (client.createRequest shortDescription ci urgency description) s).1 =
        .response 201 (some (.dict [("result", .dict members)])) ∧
      incidents (transport (client.createRequest shortDescription ci urgency description) s).2 =
        incidents s ++ [members]

/-- **The live backend never refuses**, so it depends on the lookup alone. -/
theorem noUnroutableTicket_live_iff {client : LiveServiceNow} {σ : Type} {transport : Transport σ}
    {incidents : σ → List (List (String × Json))}
    (hposts : RecordsPosts client transport incidents)
    (hshipment : shipments.get shipmentId = some shipment)
    (hurgency : urgency ∈ ["1", "2", "3"]) (s : σ) :
    NoUnroutableTicket (client.backend transport) incidents shipments shipmentId urgency shipment.ci
        s ↔
      ∃ item, outcome (client.findConfigurationItem transport shipment.ci) s = .ok (some item) := by
  constructor
  · rintro (hfound | ⟨⟨message, hmessage⟩, -⟩)
    · exact hfound
    · obtain ⟨members, hanswer, -⟩ := hposts (shortDescriptionOf shipment) shipment.ci urgency
        (descriptionOf shipment) s
      have hcreated : outcome ((client.backend transport).createIncident
          (shortDescriptionOf shipment) shipment.ci urgency (descriptionOf shipment)) s =
            .ok (Incident.fromRecord members) := by
        show outcome (client.createIncident transport _ _ _ _) s = _
        rw [LiveServiceNow.outcome_createIncident, hanswer]
        rfl
      rw [outcome_raiseShipmentIncident hshipment hurgency, hcreated] at hmessage
      cases hmessage
  · intro hfound
    exact Or.inl hfound

/-- **When no ticket is unroutable**: always on the mock backend, and on the live one exactly when
the lookup finds the item. -/
theorem noUnroutableTicket_iff {client : LiveServiceNow} {σ : Type} {transport : Transport σ}
    {incidents : σ → List (List (String × Json))}
    (hposts : RecordsPosts client transport incidents)
    (hshipment : shipments.get shipmentId = some shipment)
    (hurgency : urgency ∈ ["1", "2", "3"]) (now : ℚ) (store : MockServiceNow) (s : σ) :
    NoUnroutableTicket (MockServiceNow.backend now) MockServiceNow.incidents shipments shipmentId
        urgency shipment.ci store ∧
      (NoUnroutableTicket (client.backend transport) incidents shipments shipmentId urgency
          shipment.ci s ↔
        ∃ item, outcome (client.findConfigurationItem transport shipment.ci) s =
          .ok (some item)) :=
  ⟨noUnroutableTicket_mock hshipment hurgency now store,
    noUnroutableTicket_live_iff hposts hshipment hurgency s⟩

/-! ## Two instances -/

section instances

omit [Calendar] [Interpreter]

/-- A shipment that is late, and whose system is not in the mock's CMDB either. -/
def lateShipment : Shipment where
  id := "SHP-2001"
  origin := "Antwerp"
  destination := "Venlo"
  status := "delayed"
  eta := 0
  ci := "CI-NEW-09"

/-- The table with this shipment. -/
def lateTable : Dict String Shipment := ⟨[("SHP-2001", lateShipment)], by simp⟩

/-- An instance that numbers and keeps what it is sent, and that has these items. -/
def keepingInstance (items : List (List (String × Json))) :
    Transport (List (List (String × Json))) := fun req s =>
  match req.json with
  | some (.dict members) =>
    (.response 201 (some (.dict [("result", .dict (("number", .str "INC0000001") :: members))])),
      s ++ [("number", .str "INC0000001") :: members])
  | _ =>
    let named := items.filter fun item =>
      "name=" ++ @textOf plainInterpreter "name" item =
        (Dict.lookup "sysparm_query" req.params).getD ""
    (.response 200 (some (.dict [("result", .list (named.map Value.dict))])), s)

/-- It keeps what is posted to it. -/
theorem recordsPosts_keepingInstance (items : List (List (String × Json))) :
    RecordsPosts LiveServiceNow.devClient (keepingInstance items) id :=
  fun _ _ _ _ _ => ⟨_, rfl, rfl⟩

/-- With the item in its CMDB the instance takes no unroutable ticket. -/
theorem noUnroutableTicket_of_knownItem :
    @NoUnroutableTicket plainCalendar _ _
      (@LiveServiceNow.backend plainInterpreter LiveServiceNow.devClient _
        (keepingInstance [[("name", .str "CI-NEW-09")]])) id lateTable "SHP-2001" "3" "CI-NEW-09"
      [] := by
  refine ((@noUnroutableTicket_iff plainCalendar plainInterpreter lateTable "SHP-2001" "3"
    lateShipment _ _ _ id (recordsPosts_keepingInstance _) rfl (by decide) 0 MockServiceNow.new
    []).2).mpr ?_
  exact ⟨_, rfl⟩

/-- **The failing input**: the lookup finds nothing, and the incident is opened all the same. -/
theorem not_noUnroutableTicket_of_unknownItem :
    RecordsPosts LiveServiceNow.devClient (keepingInstance []) id ∧
      ¬@NoUnroutableTicket plainCalendar _ _
        (@LiveServiceNow.backend plainInterpreter LiveServiceNow.devClient _ (keepingInstance []))
        id lateTable "SHP-2001" "3" "CI-NEW-09" [] := by
  refine ⟨recordsPosts_keepingInstance [], ?_⟩
  rintro (⟨item, hitem⟩ | ⟨⟨message, hmessage⟩, -⟩)
  · cases hitem
  · cases hmessage

end instances

end GovernedMcp
