import GovernedMcp.Connector.Assessment
import GovernedMcp.Connector.Interchange
import GovernedMcp.Connector.Search

/-!
# The mock as a stand-in

The mock backend answers the same calls as a live instance, with the same shapes, so that nothing
else needs credentials. Here the two are run side by side.

* `Instance`: how the tables of an instance are seen from outside. `Instance.Documented` is what is
  assumed of its Table API.
* `StandsFor`: a store that corresponds to the tables of an instance, up to what the instance
  decides by itself: numbers, ids, times and labels.
* `comparable`: the operations on which the two do not part. A text with a separator, an item
  without a name, a negative limit, and an incident of an unknown item are left out.
* **`standsIn`**: over every run of such calls the mock does what the instance does.
-/

namespace GovernedMcp

open Lib Stateful Server

/-! ## An instance -/

/-- The tables of an instance in some state, how it understands a clause of a query, and the records
it sends: with display values, and without. -/
structure Instance (σ : Type) where
  incidents : σ → List Incident
  items : σ → List ConfigurationItem
  holds : String → Incident → Bool
  itemHolds : String → ConfigurationItem → Bool
  shown : Incident → List (String × Json)
  stored : Incident → List (String × Json)
  itemRecord : ConfigurationItem → List (String × Json)

/-- What is assumed of the Table API. -/
structure Instance.Documented [Interpreter] {σ : Type} (inst : Instance σ) (client : LiveServiceNow)
    (transport : Transport σ) : Prop where
  /-- A query is the conjunction of its clauses, and the first matches in table order are sent. -/
  search : ∀ query (limit : ℕ) s,
    transport (client.requestOf "GET" "incident"
        [("sysparm_query", query), ("sysparm_limit", toString limit),
          ("sysparm_display_value", "true")] none) s =
      (.response 200 (some (.dict [("result", .list
        ((((inst.incidents s).filter fun i => (LiveServiceNow.clauses query).all fun c =>
          inst.holds c i).take limit).map fun i => .dict (inst.shown i)))])), s)
  find : ∀ query s,
    transport (client.requestOf "GET" "cmdb_ci"
        [("sysparm_query", query), ("sysparm_limit", "1")] none) s =
      (.response 200 (some (.dict [("result", .list
        ((((inst.items s).filter fun i => (LiveServiceNow.clauses query).all fun c =>
          inst.itemHolds c i).take 1).map fun i => .dict (inst.itemRecord i)))])), s)
  /-- A new incident is open, and comes last. -/
  create : ∀ shortDescription ci urgency description s, ∃ i s',
    transport (client.createRequest shortDescription ci urgency description) s =
        (.response 201 (some (.dict [("result", .dict (inst.stored i))])), s') ∧
      inst.incidents s' = inst.incidents s ++ [i] ∧ inst.items s' = inst.items s ∧
      i.shortDescription = shortDescription ∧ i.urgency = urgency ∧ i.configurationItem = ci ∧
      MockServiceNow.isOpen i = true
  byItem : ∀ x i, inst.holds ("cmdb_ci.name=" ++ x) i = decide (i.configurationItem = x)
  active : ∀ i, inst.holds "active=true" i = MockServiceNow.isOpen i
  byName : ∀ x i, inst.itemHolds ("name=" ++ x) i = decide (i.name = x)
  /-- The display value of a text is the text, and that of a reference the name of what it refers
  to. -/
  shown_eq : ∀ i, (Incident.fromRecord (inst.shown i)).shortDescription = i.shortDescription ∧
    (Incident.fromRecord (inst.shown i)).configurationItem = i.configurationItem
  stored_eq : ∀ i, (Incident.fromRecord (inst.stored i)).shortDescription = i.shortDescription ∧
    (Incident.fromRecord (inst.stored i)).urgency = i.urgency
  itemRecord_eq : ∀ i, ConfigurationItem.fromRecord (inst.itemRecord i) = i

/-! ## Side by side -/

/-- The same ticket, whatever its number. -/
structure SameTicket (i j : Incident) : Prop where
  shortDescription : i.shortDescription = j.shortDescription
  configurationItem : i.configurationItem = j.configurationItem
  urgency : i.urgency = j.urgency
  isOpen : MockServiceNow.isOpen i = MockServiceNow.isOpen j

/-- The store holds the tickets of the instance, in the same order, and both have these items. -/
structure StandsFor {σ : Type} (inst : Instance σ) (known : Dict String ConfigurationItem) (s : σ)
    (store : MockServiceNow) : Prop where
  incidents : List.Forall₂ SameTicket (inst.incidents s) store.incidents
  items : ∀ name, (inst.items s).find? (fun i => i.name = name) = known.get name
  configurationItems : store.configurationItems = known

/-- A text that cannot bring a clause of its own into a query. -/
def Plain (text : String) : Prop := '^' ∉ text.toList

/-- The operations that are compared. -/
def comparable (known : Dict String ConfigurationItem) : Reach where
  finds := Plain
  searches configurationItem limit :=
    (∀ ci, configurationItem = some ci → ci ≠ "" ∧ Plain ci) ∧ 0 ≤ limit
  opens ci := (known.get ci).isSome = true

/-- An incident that is found on either side tells the same of its ticket. -/
def FoundAlike (i j : Incident) : Prop :=
  i.shortDescription = j.shortDescription ∧ i.configurationItem = j.configurationItem

/-- So does one that has been opened. -/
def OpenedAlike (i j : Incident) : Prop :=
  i.shortDescription = j.shortDescription ∧ i.urgency = j.urgency

section sides

variable [Interpreter] {σ : Type} {inst : Instance σ} {client : LiveServiceNow}
  {transport : Transport σ} {known : Dict String ConfigurationItem}

/-! ### Finding an item -/

omit [Interpreter] in
/-- A plain name is one clause. -/
theorem clauses_name {name : String} (h : Plain name) :
    LiveServiceNow.clauses ("name=" ++ name) = ["name=" ++ name] := by
  have hjoined := @Text.fields_intercalate_iff '^' ["name=" ++ name]
  rw [String.intercalate_singleton] at hjoined
  refine hjoined.mpr ⟨List.cons_ne_nil _ _, ?_⟩
  rw [List.forall_mem_singleton]
  exact (LiveServiceNow.not_mem_append_iff name (by decide)).mpr h

omit [Interpreter] in
/-- The first match is what a lookup finds. -/
theorem take_one_filter_eq {α : Type} (p : α → Bool) (l : List α) :
    (l.filter p).take 1 = (l.find? p).toList := by
  rw [← List.head?_filter]
  cases l.filter p <;> rfl

/-- A lookup finds the same item. -/
theorem find_agree (hinst : inst.Documented client transport) {name : String} (h : Plain name)
    (now : ℚ) [Calendar] :
    Stateful.Agree (StandsFor inst known) Eq (client.findConfigurationItem transport name)
      ((MockServiceNow.backend now).findConfigurationItem name) := by
  have hanswer : ∀ s, transport (client.findRequest name) s =
      (.response 200 (some (.dict [("result", .list
        (((inst.items s).find? fun i => i.name = name).toList.map fun i =>
          .dict (inst.itemRecord i)))])), s) := by
    intro s
    have hfound := hinst.find ("name=" ++ name) s
    simp only [clauses_name h, List.all_cons, List.all_nil, Bool.and_true, hinst.byName,
      take_one_filter_eq] at hfound
    exact hfound
  constructor
  · intro s store hR
    rw [LiveServiceNow.outcome_findConfigurationItem, hanswer]
    show Alike Eq (LiveServiceNow.itemOf (.list _)) (.ok (store.configurationItems.get name))
    rw [hR.items, hR.configurationItems]
    cases known.get name with
    | none => exact .ok rfl
    | some item => exact .ok (congrArg some (hinst.itemRecord_eq item))
  · intro s store hR
    rw [LiveServiceNow.after_findConfigurationItem, hanswer]
    exact hR

/-! ### Searching for incidents -/

/-- The instance selects the tickets that the store selects. -/
theorem selects_alike (hinst : inst.Documented client transport) {s : σ} {store : MockServiceNow}
    (hR : StandsFor inst known s store) {configurationItem : Option String}
    (hitem : ∀ ci, configurationItem = some ci → ci ≠ "" ∧ Plain ci) :
    List.Forall₂ SameTicket
      ((inst.incidents s).filter fun i => (LiveServiceNow.clauses
        (LiveServiceNow.queryOf configurationItem true)).all fun c => inst.holds c i)
      (store.matching configurationItem true) := by
  have hfree : '^' ∉ (configurationItem.getD "").toList := by
    cases configurationItem with
    | none => simp
    | some ci => exact (hitem ci rfl).2
  have hclauses := (LiveServiceNow.clauses_queryOf_iff configurationItem true).mpr
    ⟨hfree, Or.inr rfl⟩
  have hactive : ∀ i, ["active=true"].all (fun c => inst.holds c i) = MockServiceNow.isOpen i := by
    intro i
    rw [List.all_cons, List.all_nil, Bool.and_true, hinst.active]
  rw [hclauses]
  refine List.rel_filter (fun i j hij => ?_) hR.incidents
  show (List.all _ _) = true ↔ _
  rw [LiveServiceNow.clausesOf, List.all_append, if_pos rfl, hactive, hij.isOpen]
  cases configurationItem with
  | none => simp
  | some ci =>
    rw [Option.getD_some, if_neg (hitem ci rfl).1]
    have hholds : inst.holds ("cmdb_ci.name=" ++ ci) i = decide (j.configurationItem = ci) := by
      rw [hinst.byItem, hij.configurationItem]
    show ((inst.holds ("cmdb_ci.name=" ++ ci) i && true) && _) = true ↔ _
    rw [hholds]
    simp

/-- A search finds the same tickets. -/
theorem search_agree (hinst : inst.Documented client transport) {configurationItem : Option String}
    {limit : ℤ} (h : (comparable known).searches configurationItem limit) (now : ℚ) [Calendar] :
    Stateful.Agree (StandsFor inst known) (List.Forall₂ FoundAlike)
      (client.searchIncidents transport configurationItem true limit)
      ((MockServiceNow.backend now).searchIncidents configurationItem true limit) := by
  obtain ⟨hitem, hlimit⟩ := h
  obtain ⟨n, rfl⟩ := Int.eq_ofNat_of_zero_le hlimit
  have hanswer := fun s => hinst.search (LiveServiceNow.queryOf configurationItem true) n s
  constructor
  · intro s store hR
    have hlive : outcome (client.searchIncidents transport configurationItem true n) s =
        .ok ((((inst.incidents s).filter fun i => (LiveServiceNow.clauses
          (LiveServiceNow.queryOf configurationItem true)).all fun c => inst.holds c i).take n).map
            fun i => Incident.fromRecord (inst.shown i)) := by
      rw [LiveServiceNow.outcome_searchIncidents]
      unfold LiveServiceNow.searchRequest
      have hshown : toString (n : ℤ) = toString n := rfl
      rw [hshown, hanswer]
      have hrecords := LiveServiceNow.incidentsOf_map_dict
        ((((inst.incidents s).filter fun i => (LiveServiceNow.clauses
          (LiveServiceNow.queryOf configurationItem true)).all fun c => inst.holds c i).take n).map
            inst.shown)
      rw [List.map_map, List.map_map] at hrecords
      exact hrecords
    rw [hlive]
    refine .ok ?_
    show List.Forall₂ _ _ (MockServiceNow.sliceTo (store.matching configurationItem true) n)
    unfold MockServiceNow.sliceTo
    rw [if_pos hlimit, Int.toNat_natCast, List.forall₂_map_left_iff]
    refine (List.forall₂_take n (selects_alike hinst hR hitem)).imp fun i j hij => ?_
    obtain ⟨hshort, hci⟩ := hinst.shown_eq i
    exact ⟨hshort.trans hij.shortDescription, hci.trans hij.configurationItem⟩
  · intro s store hR
    rw [LiveServiceNow.after_searchIncidents]
    unfold LiveServiceNow.searchRequest
    have hshown : toString (n : ℤ) = toString n := rfl
    rw [hshown, hanswer]
    exact hR

/-! ### Opening an incident -/

/-- And the same ticket is opened. -/
theorem create_agree (hinst : inst.Documented client transport)
    (shortDescription ci urgency description : String) (h : (comparable known).opens ci) (now : ℚ)
    [Calendar] :
    Stateful.Agree (StandsFor inst known) OpenedAlike
      (client.createIncident transport shortDescription ci urgency description)
      ((MockServiceNow.backend now).createIncident shortDescription ci urgency description) := by
  obtain ⟨item, hitem⟩ := Option.isSome_iff_exists.mp h
  constructor
  · intro s store hR
    obtain ⟨i, s', hanswer, -, -, hshort, hurgency, -, -⟩ :=
      hinst.create shortDescription ci urgency description s
    have hknown : store.configurationItems.get ci = some item := hR.configurationItems ▸ hitem
    have hmock : outcome ((MockServiceNow.backend now).createIncident shortDescription ci urgency
        description) store = _ :=
      MockServiceNow.outcome_createIncident_of_some now shortDescription urgency description hknown
    rw [LiveServiceNow.outcome_createIncident, hanswer, hmock]
    obtain ⟨hstoredShort, hstoredUrgency⟩ := hinst.stored_eq i
    exact .ok ⟨hstoredShort.trans hshort, hstoredUrgency.trans hurgency⟩
  · intro s store hR
    obtain ⟨i, s', hanswer, hincidents, hitems, hshort, hurgency, hci, hopen⟩ :=
      hinst.create shortDescription ci urgency description s
    have hknown : store.configurationItems.get ci = some item := hR.configurationItems ▸ hitem
    have hmock : after ((MockServiceNow.backend now).createIncident shortDescription ci urgency
        description) store = _ :=
      MockServiceNow.after_createIncident_of_some now shortDescription urgency description hknown
    rw [LiveServiceNow.after_createIncident, hanswer, hmock]
    refine ⟨?_, fun name => hitems ▸ hR.items name, hR.configurationItems⟩
    show List.Forall₂ _ (inst.incidents s') _
    rw [hincidents]
    exact List.rel_append hR.incidents (.cons ⟨hshort, hci, hurgency, hopen⟩ .nil)

/-- **The two backends agree** on what is compared. -/
theorem agree_mock (hinst : inst.Documented client transport) (now : ℚ) [Calendar] :
    (client.backend transport).Agree (comparable known) (StandsFor inst known) FoundAlike
      OpenedAlike (MockServiceNow.backend now) where
  find _ h := find_agree hinst h now
  search _ _ h := search_agree hinst h now
  create _ _ _ _ h := create_agree hinst _ _ _ _ h now

/-! ### Runs -/

/-- The calls of all clients on one instance, each at its time. -/
def LiveServiceNow.machine [Calendar] (client : LiveServiceNow) (transport : Transport σ)
    (shipments : Dict String Shipment) :
    Machine σ (ℚ × Server.Call) (Except ToolError ToolResult) where
  answer s input := outcome (input.2.run (client.backend transport) shipments input.1) s
  next s input := after (input.2.run (client.backend transport) shipments input.1) s

/-- One call does the same on either side. -/
theorem simulates_mock [Calendar] (hinst : inst.Documented client transport)
    (shipments : Dict String Shipment) :
    Machine.Simulates (client.machine transport shipments) (MockServiceNow.machine shipments)
      (fun input => input.2.Within (comparable known) shipments) (StandsFor inst known)
      (Alike (ToolResult.Alike FoundAlike OpenedAlike)) where
  answer s store input hwithin hR :=
    (run_agree (agree_mock hinst input.1) input.1 hwithin).outcome s store hR
  next s store input hwithin hR :=
    (run_agree (agree_mock hinst input.1) input.1 hwithin).after s store hR

/-- **The mock stands in for an instance.** Over every run of calls that are compared, from a store
that stands for the instance, both answer alike call by call: they raise the same, find the same
tickets, give the same advice about them, and open the same; and the store stands for the instance
in the end. Source: `servicenow.py`, `LiveServiceNow` and `MockServiceNow`; `server.py`, the tools.
-/
theorem standsIn [Calendar] (hinst : inst.Documented client transport)
    {shipments : Dict String Shipment} {s : σ} {store : MockServiceNow}
    (hstart : StandsFor inst known s store) {calls : List (ℚ × Server.Call)}
    (hcalls : ∀ call ∈ calls, call.2.Within (comparable known) shipments) :
    List.Forall₂ (Alike (ToolResult.Alike FoundAlike OpenedAlike))
        ((client.machine transport shipments).answers s calls)
        ((MockServiceNow.machine shipments).answers store calls) ∧
      StandsFor inst known ((client.machine transport shipments).final s calls)
        ((MockServiceNow.machine shipments).final store calls) :=
  ⟨(simulates_mock hinst shipments).answers hstart hcalls,
    (simulates_mock hinst shipments).final hstart hcalls⟩

end sides

/-! ## An instance with two items -/

section ticketTable

/-- A member that is a text. -/
def memberText (name : String) (members : List (String × Json)) : String :=
  match Value.get name members with
  | .str text => text
  | _ => ""

/-- The ticket of a new record, numbered by its place. -/
def ticketOf (table : List Incident) (members : List (String × Json)) : Incident where
  number := s!"INC{table.length}"
  sysId := s!"{table.length}"
  shortDescription := memberText "short_description" members
  state := "1"
  urgency := memberText "urgency" members
  configurationItem := memberText "cmdb_ci" members
  openedAt := ""

/-- The record of an item. -/
def plainItemRecord (i : ConfigurationItem) : List (String × Json) :=
  [("name", .str i.name), ("sys_id", .str i.sysId), ("sys_class_name", .str i.ciClass),
    ("operational_status", .str i.operationalStatus)]

/-- The items of the mock. -/
def plainItems : List ConfigurationItem := MockServiceNow.defaultItems.entries.map Prod.snd

/-- A table of tickets that is searched and added to, and the items. -/
def ticketTable : Transport (List Incident) := fun req table =>
  match req.json with
  | some (.dict members) =>
    let i := ticketOf table members
    (.response 201 (some (.dict [("result", .dict (LiveServiceNow.plainRender i))])), table ++ [i])
  | _ =>
    if (Dict.lookup "sysparm_display_value" req.params).isSome then
      LiveServiceNow.plainTableApi req table
    else
      let query := (Dict.lookup "sysparm_query" req.params).getD ""
      (.response 200 (some (.dict [("result", .list
        (((plainItems.filter fun i => (LiveServiceNow.clauses query).all fun c =>
          c = "name=" ++ i.name).take 1).map fun i => .dict (plainItemRecord i)))])), table)

/-- How it is seen. -/
def ticketInstance : Instance (List Incident) where
  incidents := id
  items _ := plainItems
  holds := LiveServiceNow.plainHolds
  itemHolds c i := c = "name=" ++ i.name
  shown := LiveServiceNow.plainRender
  stored := LiveServiceNow.plainRender
  itemRecord := plainItemRecord

/-- A reference is read as its display value. -/
theorem referenceOf_display (name : String) :
    @referenceOf plainInterpreter (.dict [("display_value", .str name)]) = name := by
  let _ := plainInterpreter
  show (((Value.str name : Json).orElse .none).orElse (.str "")).toStr = name
  by_cases hempty : name = ""
  · subst hempty
    rfl
  · have htruthy : (Value.str name : Json).truthy = true := by simpa using hempty
    rw [Value.orElse_of_truthy htruthy, Value.orElse_of_truthy htruthy]
    rfl

/-- It does what is documented of an instance. -/
theorem documented_ticketInstance : @Instance.Documented plainInterpreter _ ticketInstance
    LiveServiceNow.devClient ticketTable := by
  let _ := plainInterpreter
  have hapi := LiveServiceNow.faithful_plainTableApi
  constructor
  · exact fun query limit table => hapi.answers query limit table
  · exact fun query table => rfl
  · intro shortDescription ci urgency description table
    exact ⟨_, _, rfl, rfl, rfl, rfl, rfl, rfl, rfl⟩
  · exact hapi.item
  · exact hapi.active
  · intro x i
    show decide ("name=" ++ x = "name=" ++ i.name) = _
    rw [decide_eq_decide, String.append_right_inj]
    exact eq_comm
  · exact fun i => ⟨rfl, referenceOf_display i.configurationItem⟩
  · exact fun i => ⟨rfl, rfl⟩
  · exact fun i => rfl

/-- A shipment is assessed, an incident is raised for it and looked for. -/
def threeCalls : List (ℚ × Server.Call) :=
  [(0, .assessShipmentDelay "SHP-1004"), (60, .raiseShipmentIncident "SHP-1004" "2"),
    (120, .searchIncidents "CI-TMS-02" 10)]

/-- On both sides. -/
theorem standsIn_threeCalls :
    List.Forall₂ (Alike (ToolResult.Alike FoundAlike OpenedAlike))
      ((@LiveServiceNow.machine plainInterpreter _ plainCalendar LiveServiceNow.devClient
        ticketTable (fixtures 0)).answers [MockServiceNow.seedIncident] threeCalls)
      ((@MockServiceNow.machine plainInterpreter plainCalendar (fixtures 0)).answers
        MockServiceNow.new threeCalls) := by
  have hitems : ∀ name, plainItems.find? (fun i => i.name = name) =
      MockServiceNow.defaultItems.get name := by
    intro name
    show List.find? _ [_, _] = Dict.lookup name [_, _]
    rw [List.find?_cons, List.find?_cons]
    by_cases hfirst : "CI-WMS-01" = name
    · simp [Dict.lookup, hfirst]
    · by_cases hsecond : "CI-TMS-02" = name <;> simp [Dict.lookup, hfirst, hsecond]
  have hstart : StandsFor ticketInstance MockServiceNow.defaultItems [MockServiceNow.seedIncident]
      MockServiceNow.new := ⟨.cons ⟨rfl, rfl, rfl, rfl⟩ .nil, hitems, rfl⟩
  have hplain : ("CI-TMS-02" : String) ≠ "" ∧ Plain "CI-TMS-02" :=
    ⟨by decide, (by decide : '^' ∉ ("CI-TMS-02" : String).toList)⟩
  refine (@standsIn plainInterpreter _ _ _ _ MockServiceNow.defaultItems plainCalendar
    documented_ticketInstance (fixtures 0) _ _ hstart threeCalls ?_).1
  simp only [threeCalls, List.forall_mem_cons]
  refine ⟨?_, ?_, ?_, List.forall_mem_nil _⟩
  · rintro shipment hshipment
    cases hshipment
    exact ⟨hplain.2, fun ci hci => by cases hci; exact hplain, by decide⟩
  · rintro shipment hshipment
    cases hshipment
    rfl
  · exact ⟨fun ci hci => by cases hci; exact hplain, by decide⟩

end ticketTable

end GovernedMcp
