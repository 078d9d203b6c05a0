import GovernedMcp.Lib.Machine
import GovernedMcp.Model.Server

/-!
# Assessing and acting

An assessment looks, and an agent that follows it acts. What is advised has to stay in step with
what was done, over any run of calls on one mock store.

* A recommendation is a text. `Recommendation.initial`: two letters tell the four kinds apart.
* `Extends`: a store only grows, at the end of its incidents, and its items stay. Every call
  extends the store (`extends_next`), so the first open incident of an item stays the first.
* `adviceOf`: what an assessment of a shipment advises, as a function of the store.
* **`assessmentConsistent`**: in any run from a new store, raising is recommended exactly for a
  delayed shipment of a known item without open incidents; once an incident has been raised against
  an item, enriching is recommended for it; and enriching sticks to one open incident.
-/

namespace GovernedMcp

open Lib Stateful Server

/-! ## Reading a recommendation -/

namespace Server.Recommendation

/-- The text of the advice for an item that is not in the CMDB. -/
theorem text_escalate (ci : String) : (escalate ci).text = "Escalate manually: " ++ ci ++
    " is not in the CMDB, so an incident " ++ "raised against it would not route." := rfl

/-- The text of the advice for an item with an open incident. -/
theorem text_enrich (number ci : String) : (enrich number ci).text = "Enrich " ++ number ++
    " rather than opening a duplicate — " ++ (ci ++ " already has an open incident.") := rfl

/-- The text of the advice for an item without one. -/
theorem text_raiseNew (ci : String) :
    (raiseNew ci).text = "Raise a new incident against " ++ ci ++ "." := rfl

/-- The first letters of the text. -/
def initial : Recommendation → List Char
  | .noAction => ['N', 'o']
  | .escalate _ => ['E', 's']
  | .enrich _ _ => ['E', 'n']
  | .raiseNew _ => ['R', 'a']

/-- The first two characters of a recommendation tell which of the four it is. -/
theorem take_text (r : Recommendation) : r.text.toList.take 2 = r.initial := by
  cases r with
  | noAction => rfl
  | escalate ci =>
    rw [text_escalate]
    simp only [String.toList_append]
    rfl
  | enrich number ci =>
    rw [text_enrich]
    simp only [String.toList_append]
    rfl
  | raiseNew ci =>
    rw [text_raiseNew]
    simp only [String.toList_append]
    rfl

/-- **The kinds are told apart** by their texts. -/
theorem initial_eq_of_text_eq {r r' : Recommendation} (h : r.text = r'.text) :
    r.initial = r'.initial := by
  rw [← take_text, ← take_text, h]

/-- The number can be read back. -/
theorem number_eq_of_text_eq {number number' ci : String}
    (h : (enrich number ci).text = (enrich number' ci).text) : number = number' := by
  rw [text_enrich, text_enrich] at h
  simpa using h

end Server.Recommendation

open Recommendation

namespace MockServiceNow

/-! ## The store only grows -/

/-- Incidents are added at the end, and the items stay. -/
structure Extends (store later : MockServiceNow) : Prop where
  items : later.configurationItems = store.configurationItems
  incidents : store.incidents <+: later.incidents

/-- A store extends itself. -/
theorem Extends.refl (self : MockServiceNow) : Extends self self :=
  ⟨rfl, List.prefix_refl _⟩

/-- What extends an extension extends the store. -/
theorem Extends.trans {s t u : MockServiceNow} (h : Extends s t) (h' : Extends t u) : Extends s u :=
  ⟨h'.items.trans h.items, h.incidents.trans h'.incidents⟩

instance : IsPreorder MockServiceNow Extends where
  refl := Extends.refl
  trans _ _ _ := Extends.trans

/-- What a search selects only grows at the end, too. -/
theorem Extends.matching {self later : MockServiceNow} (h : Extends self later)
    (configurationItem : Option String) (activeOnly : Bool) :
    self.matching configurationItem activeOnly <+: later.matching configurationItem activeOnly :=
  h.incidents.filter _

/-- So the first one selected stays the first. -/
theorem Extends.head?_matching {self later : MockServiceNow} (h : Extends self later)
    {configurationItem : Option String} {activeOnly : Bool} {incident : Incident}
    (hfirst : (self.matching configurationItem activeOnly).head? = some incident) :
    (later.matching configurationItem activeOnly).head? = some incident := by
  obtain ⟨rest, hrest⟩ := h.matching configurationItem activeOnly
  rw [← hrest, List.head?_append, hfirst]
  rfl

/-- The incidents of an item that are open. -/
theorem mem_matching_iff {self : MockServiceNow} {ci : String} {incident : Incident} :
    incident ∈ self.matching (some ci) true ↔
      incident ∈ self.incidents ∧ incident.configurationItem = ci ∧ isOpen incident = true := by
  simp [matching]

/-- An incident is open unless it is resolved or closed. -/
theorem isOpen_iff {incident : Incident} :
    isOpen incident = true ↔ incident.state ∉ ["6", "7"] := by
  simp [isOpen]

/-- There is none when every incident of the item is resolved or closed. -/
theorem matching_eq_nil_iff {self : MockServiceNow} {ci : String} :
    self.matching (some ci) true = [] ↔
      ∀ incident ∈ self.incidents, incident.configurationItem = ci →
        incident.state ∈ ["6", "7"] := by
  rw [List.eq_nil_iff_forall_not_mem]
  constructor
  · intro h incident hmem hci
    by_contra hstate
    exact h incident (mem_matching_iff.mpr ⟨hmem, hci, isOpen_iff.mpr hstate⟩)
  · intro h incident hmem
    obtain ⟨hmem, hci, hopen⟩ := mem_matching_iff.mp hmem
    exact isOpen_iff.mp hopen (h incident hmem hci)

/-! ## What an assessment advises -/

/-- The advice for a shipment. -/
def adviceOf (self : MockServiceNow) (shipment : Shipment) : Recommendation :=
  recommend (shipment.status = "delayed") shipment.ci (self.configurationItems.get shipment.ci)
    (self.matching (some shipment.ci) true)

/-- A limit leaves the advice as it is: it rests on the first incident. -/
theorem recommend_take {delayed : Bool} {ci : String} {item : Option ConfigurationItem}
    {openIncidents : List Incident} (limit : ℕ) :
    recommend delayed ci item (openIncidents.take (limit + 1)) =
      recommend delayed ci item openIncidents := by
  cases openIncidents with
  | nil => rfl
  | cons incident rest =>
    cases item <;> rfl

section advice

variable {self : MockServiceNow} {shipment : Shipment}

/-- Nothing is to be done about a shipment that is not delayed. -/
theorem adviceOf_of_not_delayed (h : shipment.status ≠ "delayed") :
    self.adviceOf shipment = .noAction := by
  unfold adviceOf recommend
  simp [h]

/-- An item that is not in the CMDB is escalated. -/
theorem adviceOf_of_unknown (hdelayed : shipment.status = "delayed")
    (hitem : self.configurationItems.get shipment.ci = none) :
    self.adviceOf shipment = .escalate shipment.ci := by
  unfold adviceOf recommend
  simp [hdelayed, hitem]

/-- The first open incident of the item is the one to enrich. -/
theorem adviceOf_of_head? {item : ConfigurationItem} {incident : Incident}
    (hdelayed : shipment.status = "delayed")
    (hitem : self.configurationItems.get shipment.ci = some item)
    (hfirst : (self.matching (some shipment.ci) true).head? = some incident) :
    self.adviceOf shipment = .enrich incident.number shipment.ci := by
  obtain ⟨rest, hrest⟩ := List.head?_eq_some_iff.mp hfirst
  unfold adviceOf recommend
  simp [hdelayed, hitem, hrest]

/-- Where there is none, a new one is to be raised. -/
theorem adviceOf_of_no_incident {item : ConfigurationItem} (hdelayed : shipment.status = "delayed")
    (hitem : self.configurationItems.get shipment.ci = some item)
    (hnone : self.matching (some shipment.ci) true = []) :
    self.adviceOf shipment = .raiseNew shipment.ci := by
  unfold adviceOf recommend
  simp [hdelayed, hitem, hnone]

/-- The four cases of an assessment. -/
theorem adviceOf_cases (self : MockServiceNow) (shipment : Shipment) :
    (shipment.status ≠ "delayed" ∧ self.adviceOf shipment = .noAction) ∨
    (self.configurationItems.get shipment.ci = none ∧
      self.adviceOf shipment = .escalate shipment.ci) ∨
    (∃ item incident, shipment.status = "delayed" ∧
      self.configurationItems.get shipment.ci = some item ∧
      (self.matching (some shipment.ci) true).head? = some incident ∧
      self.adviceOf shipment = .enrich incident.number shipment.ci) ∨
    ∃ item, shipment.status = "delayed" ∧ self.configurationItems.get shipment.ci = some item ∧
      self.matching (some shipment.ci) true = [] ∧
      self.adviceOf shipment = .raiseNew shipment.ci := by
  by_cases hdelayed : shipment.status = "delayed"
  · right
    rcases hitem : self.configurationItems.get shipment.ci with _ | item
    · exact Or.inl ⟨rfl, adviceOf_of_unknown hdelayed hitem⟩
    · right
      rcases hfirst : (self.matching (some shipment.ci) true).head? with _ | incident
      · have hnone := List.head?_eq_none_iff.mp hfirst
        exact Or.inr ⟨item, hdelayed, rfl, hnone, adviceOf_of_no_incident hdelayed hitem hnone⟩
      · exact Or.inl ⟨item, incident, hdelayed, rfl, rfl, adviceOf_of_head? hdelayed hitem hfirst⟩
  · exact Or.inl ⟨hdelayed, adviceOf_of_not_delayed hdelayed⟩

/-- **When raising is advised**: nothing else has this text. -/
theorem text_adviceOf_eq_raiseNew_iff :
    (∃ ci, (self.adviceOf shipment).text = (raiseNew ci).text) ↔
      shipment.status = "delayed" ∧ (∃ item, self.configurationItems.get shipment.ci = some item) ∧
        self.matching (some shipment.ci) true = [] := by
  constructor
  · rintro ⟨ci, htext⟩
    have hinitial := initial_eq_of_text_eq htext
    rcases self.adviceOf_cases shipment with ⟨-, hadvice⟩ | ⟨-, hadvice⟩ |
      ⟨item, incident, -, -, -, hadvice⟩ | ⟨item, hdelayed, hitem, hnone, -⟩
    · rw [hadvice] at hinitial
      cases hinitial
    · rw [hadvice] at hinitial
      cases hinitial
    · rw [hadvice] at hinitial
      cases hinitial
    · exact ⟨hdelayed, ⟨item, hitem⟩, hnone⟩
  · rintro ⟨hdelayed, ⟨item, hitem⟩, hnone⟩
    exact ⟨shipment.ci, by rw [adviceOf_of_no_incident hdelayed hitem hnone]⟩

/-- **When enriching is advised**, and which incident. -/
theorem text_adviceOf_eq_enrich_iff {number : String} :
    (self.adviceOf shipment).text = (enrich number shipment.ci).text ↔
      shipment.status = "delayed" ∧ (∃ item, self.configurationItems.get shipment.ci = some item) ∧
        ∃ incident, (self.matching (some shipment.ci) true).head? = some incident ∧
          incident.number = number := by
  constructor
  · intro htext
    have hinitial := initial_eq_of_text_eq htext
    rcases self.adviceOf_cases shipment with ⟨-, hadvice⟩ | ⟨-, hadvice⟩ |
      ⟨item, incident, hdelayed, hitem, hfirst, hadvice⟩ | ⟨item, -, -, -, hadvice⟩
    · rw [hadvice] at hinitial
      cases hinitial
    · rw [hadvice] at hinitial
      cases hinitial
    · rw [hadvice] at htext
      exact ⟨hdelayed, ⟨item, hitem⟩, incident, hfirst, number_eq_of_text_eq htext⟩
    · rw [hadvice] at hinitial
      cases hinitial
  · rintro ⟨hdelayed, ⟨item, hitem⟩, incident, hfirst, rfl⟩
    rw [adviceOf_of_head? hdelayed hitem hfirst]

end advice

/-! ## The calls on one store -/

variable [Interpreter] [Calendar]

/-- The store under the calls of all clients, each at its time. -/
def machine (shipments : Dict String Shipment) :
    Machine MockServiceNow (ℚ × Call) (Except ToolError ToolResult) where
  answer self input := outcome (input.2.run (backend input.1) shipments input.1) self
  next self input := after (input.2.run (backend input.1) shipments input.1) self

section calls

variable {shipments : Dict String Shipment} {shipmentId : String} {shipment : Shipment}
  (self : MockServiceNow) (now : ℚ)

/-- The assessment of a known shipment. -/
def assessmentOf (shipment : Shipment) : DelayAssessment where
  shipmentId := shipment.id
  delayed := shipment.status = "delayed"
  hoursLate := roundToTenth (hoursLateOf shipment.eta now)
  configurationItem := shipment.ci
  configurationItemFound := (self.configurationItems.get shipment.ci).isSome
  openIncidents := (sliceTo (self.matching (some shipment.ci) true) 10).map summarise
  recommendation := (self.adviceOf shipment).text

/-- The assessment of a shipment that there is. -/
theorem outcome_assessShipmentDelay (h : shipments.get shipmentId = some shipment) :
    outcome (assessShipmentDelay (backend now) shipments now shipmentId) self =
      .ok (self.assessmentOf now shipment) := by
  unfold assessmentOf adviceOf
  -- a limit of ten keeps the first incident
  rw [← recommend_take 9]
  unfold assessShipmentDelay
  rw [h]
  rfl

/-- Looking leaves the store as it is. -/
theorem after_assessShipmentDelay :
    after (assessShipmentDelay (backend now) shipments now shipmentId) self = self := by
  unfold assessShipmentDelay
  cases shipments.get shipmentId <;> rfl

/-- Looking up an item leaves the store as it is. -/
theorem after_getConfigurationItem (name : String) :
    after (Server.getConfigurationItem (backend now) name) self = self := by
  have hfound : outcome ((backend now).findConfigurationItem name) self =
      .ok (self.configurationItems.get name) := rfl
  unfold Server.getConfigurationItem
  rw [after_bind_of_ok hfound]
  cases self.configurationItems.get name <;> rfl

/-- Opening an incident extends the store. -/
theorem extends_createIncident (shortDescription configurationItem urgency description : String) :
    Extends self
      (after (createIncident now shortDescription configurationItem urgency description) self) := by
  cases hitem : self.configurationItems.get configurationItem with
  | none =>
    rw [after_createIncident_of_none _ _ _ _ hitem]
    exact Extends.refl self
  | some item =>
    rw [after_createIncident_of_some _ _ _ _ hitem]
    exact ⟨rfl, List.prefix_append _ _⟩

/-- Raising an incident extends the store. -/
theorem extends_raiseShipmentIncident (urgency : String) : Extends self
    (after (raiseShipmentIncident (backend now) shipments shipmentId urgency) self) := by
  by_cases hurgency : urgency ∈ ["1", "2", "3"]
  · cases hshipment : shipments.get shipmentId with
    | none =>
      rw [after_raiseShipmentIncident_of_invalid self (.inl hshipment)]
      exact Extends.refl self
    | some shipment =>
      rw [after_raiseShipmentIncident hshipment hurgency]
      exact extends_createIncident self now _ _ _ (descriptionOf shipment)
  · rw [after_raiseShipmentIncident_of_invalid self (.inr hurgency)]
    exact Extends.refl self

/-- **Every call** extends the store. -/
theorem extends_next (input : ℚ × Call) : Extends self ((machine shipments).next self input) := by
  obtain ⟨now, call⟩ := input
  show Extends self (after (call.run (backend now) shipments now) self)
  cases call with
  | searchIncidents configurationItem limit => exact Extends.refl self
  | getConfigurationItem name =>
    unfold Call.run
    rw [after_bind_pure, after_getConfigurationItem]
    exact Extends.refl self
  | assessShipmentDelay shipmentId =>
    unfold Call.run
    rw [after_bind_pure, after_assessShipmentDelay]
    exact Extends.refl self
  | raiseShipmentIncident shipmentId urgency =>
    unfold Call.run
    rw [after_bind_pure]
    exact extends_raiseShipmentIncident self now urgency

/-- Only an incident of a known item is opened; it is then found under its item. -/
theorem head?_matching_of_created {shortDescription configurationItem urgency description : String}
    {incident : Incident}
    (h : outcome (createIncident now shortDescription configurationItem urgency description) self =
      .ok incident) :
    (∃ item, self.configurationItems.get configurationItem = some item) ∧
      ∃ opened, ((after (createIncident now shortDescription configurationItem urgency description)
        self).matching (some configurationItem) true).head? = some opened := by
  cases hitem : self.configurationItems.get configurationItem with
  | none =>
    rw [outcome_createIncident_of_none _ _ _ _ hitem] at h
    cases h
  | some item =>
    refine ⟨⟨item, rfl⟩, ?_⟩
    rw [after_createIncident_of_some _ _ _ _ hitem]
    have hmem : self.nextIncident now shortDescription configurationItem urgency ∈
        ({ self with
          counter := self.counter + 1
          incidents := self.incidents ++ [self.nextIncident now shortDescription configurationItem
            urgency] } : MockServiceNow).matching (some configurationItem) true := by
      rw [mem_matching_iff]
      -- a new incident is in state 1
      exact ⟨List.mem_append_right _ (List.mem_singleton_self _), rfl, rfl⟩
    exact ⟨_, List.head?_eq_some_head (List.ne_nil_of_mem hmem)⟩

/-- A call to raise that returned has asked the store. -/
theorem outcome_createIncident_of_raised {urgency : String} {result : ToolResult}
    (hshipment : shipments.get shipmentId = some shipment)
    (h : (machine shipments).answer self (now, .raiseShipmentIncident shipmentId urgency) =
      .ok result) :
    (∃ incident, outcome (createIncident now (shortDescriptionOf shipment) shipment.ci urgency
      (descriptionOf shipment)) self = .ok incident) ∧
      (machine shipments).next self (now, .raiseShipmentIncident shipmentId urgency) =
        after (createIncident now (shortDescriptionOf shipment) shipment.ci urgency
          (descriptionOf shipment)) self := by
  have hanswer : (outcome (raiseShipmentIncident (backend now) shipments shipmentId urgency)
      self).map ToolResult.raised = .ok result := by
    rw [← outcome_bind_pure]
    exact h
  have hnext : (machine shipments).next self (now, .raiseShipmentIncident shipmentId urgency) =
      after (raiseShipmentIncident (backend now) shipments shipmentId urgency) self :=
    after_bind_pure _ _ self
  by_cases hurgency : urgency ∈ ["1", "2", "3"]
  · rw [outcome_raiseShipmentIncident hshipment hurgency] at hanswer
    rw [hnext, after_raiseShipmentIncident hshipment hurgency]
    refine ⟨?_, rfl⟩
    change ((outcome (createIncident now (shortDescriptionOf shipment) shipment.ci urgency
      (descriptionOf shipment)) self).map summarise).map ToolResult.raised = .ok result at hanswer
    cases hcreate : outcome (createIncident now (shortDescriptionOf shipment) shipment.ci urgency
        (descriptionOf shipment)) self with
    | error e =>
      rw [hcreate] at hanswer
      cases hanswer
    | ok incident => exact ⟨incident, rfl⟩
  · unfold raiseShipmentIncident at hanswer
    rw [hshipment] at hanswer
    simp only [if_pos hurgency] at hanswer
    cases hanswer

end calls

/-! ## Runs from a new store -/

section runs

variable (shipments : Dict String Shipment) (inputs : List (ℚ × Call))

/-- The store before the call at a place. -/
def storeAt (n : ℕ) : MockServiceNow := (machine shipments).stateAt new inputs n

/-- What the calls return, or raise. -/
def resultsOf : List (Except ToolError ToolResult) := (machine shipments).answers new inputs

/-- The call at a place assesses a shipment of the table. -/
def Assesses (n : ℕ) (shipment : Shipment) : Prop :=
  ∃ now shipmentId, inputs[n]? = some (now, .assessShipmentDelay shipmentId) ∧
    shipments.get shipmentId = some shipment

/-- The call at a place raised an incident for a shipment of the table. -/
def Raised (n : ℕ) (shipment : Shipment) : Prop :=
  ∃ now shipmentId urgency incident,
    inputs[n]? = some (now, .raiseShipmentIncident shipmentId urgency) ∧
      shipments.get shipmentId = some shipment ∧
        (resultsOf shipments inputs)[n]? = some (.ok (.raised incident))

/-- The call at a place returned an assessment that recommends this. -/
def Recommends (n : ℕ) (recommendation : Recommendation) : Prop :=
  ∃ assessment, (resultsOf shipments inputs)[n]? = some (.ok (.assessment assessment)) ∧
    assessment.recommendation = recommendation.text

variable {shipments} {inputs} {m n : ℕ} {shipment : Shipment}

/-- Of two places of a run the later store extends the earlier one. -/
theorem extends_storeAt (h : m ≤ n) :
    Extends (storeAt shipments inputs m) (storeAt shipments inputs n) :=
  Machine.related_stateAt extends_next h

/-- An assessment recommends what the store of its place advises. -/
theorem Assesses.recommends_iff (h : Assesses shipments inputs n shipment)
    {recommendation : Recommendation} : Recommends shipments inputs n recommendation ↔
      ((storeAt shipments inputs n).adviceOf shipment).text = recommendation.text := by
  obtain ⟨now, shipmentId, hinput, hshipment⟩ := h
  have hresult : (resultsOf shipments inputs)[n]? =
      some (.ok (.assessment ((storeAt shipments inputs n).assessmentOf now shipment))) := by
    unfold resultsOf
    rw [Machine.getElem?_answers_of_some hinput]
    show some (outcome (assessShipmentDelay _ shipments now shipmentId >>= fun a =>
      pure (ToolResult.assessment a)) _) = _
    rw [outcome_bind_pure, outcome_assessShipmentDelay _ now hshipment]
    rfl
  unfold Recommends
  rw [hresult]
  constructor
  · rintro ⟨assessment, heq, htext⟩
    cases heq
    exact htext
  · intro htext
    exact ⟨_, rfl, htext⟩

/-- After an incident has been raised the item stays known and has an open incident. -/
theorem Raised.exists_open (h : Raised shipments inputs m shipment) (hmn : m < n) :
    (∃ item, (storeAt shipments inputs n).configurationItems.get shipment.ci = some item) ∧
      ∃ opened,
        ((storeAt shipments inputs n).matching (some shipment.ci) true).head? = some opened := by
  obtain ⟨now, shipmentId, urgency, incident, hinput, hshipment, hresult⟩ := h
  unfold resultsOf at hresult
  rw [Machine.getElem?_answers_of_some hinput, Option.some_inj] at hresult
  obtain ⟨⟨created, hcreated⟩, hnext⟩ := outcome_createIncident_of_raised _ _ hshipment hresult
  obtain ⟨⟨item, hitem⟩, opened, hopened⟩ := head?_matching_of_created _ _ hcreated
  rw [← hnext, ← Machine.stateAt_succ hinput] at hopened
  have hbefore : Extends (storeAt shipments inputs m) (storeAt shipments inputs n) :=
    extends_storeAt (Nat.le_of_lt hmn)
  have hsince : Extends (storeAt shipments inputs (m + 1)) (storeAt shipments inputs n) :=
    extends_storeAt hmn
  refine ⟨⟨item, ?_⟩, opened, hsince.head?_matching hopened⟩
  rw [hbefore.items]
  exact hitem

/-- **Advising and acting stay in step** over every run. Source: `server.py`,
`assess_shipment_delay` and `raise_shipment_incident`. -/
theorem assessmentConsistent (shipments : Dict String Shipment) (inputs : List (ℚ × Call)) :
    -- when raising is recommended
    (∀ n shipment, Assesses shipments inputs n shipment →
      ((∃ ci, Recommends shipments inputs n (.raiseNew ci)) ↔
        shipment.status = "delayed" ∧
        (∃ item, (storeAt shipments inputs n).configurationItems.get shipment.ci = some item) ∧
        ∀ incident ∈ (storeAt shipments inputs n).incidents,
          incident.configurationItem = shipment.ci → incident.state ∈ ["6", "7"])) ∧
    -- what is recommended once an incident has been raised
    (∀ m n raised shipment, Raised shipments inputs m raised → m < n →
      Assesses shipments inputs n shipment → shipment.ci = raised.ci →
      shipment.status = "delayed" →
        (∃ number, Recommends shipments inputs n (.enrich number shipment.ci)) ∧
        ∀ ci, ¬Recommends shipments inputs n (.raiseNew ci) ∧
          ¬Recommends shipments inputs n (.escalate ci)) ∧
    -- enriching sticks to one open incident
    ∀ m n earlier number, Assesses shipments inputs m earlier →
      Recommends shipments inputs m (.enrich number earlier.ci) → m ≤ n →
        (∃ incident ∈ (storeAt shipments inputs n).incidents, incident.number = number ∧
          incident.configurationItem = earlier.ci ∧ incident.state ∉ ["6", "7"]) ∧
        ∀ shipment, Assesses shipments inputs n shipment → shipment.ci = earlier.ci →
          shipment.status = "delayed" →
            ∀ number', Recommends shipments inputs n (.enrich number' shipment.ci) ↔
              number' = number := by
  refine ⟨?_, ?_, ?_⟩
  · intro n shipment hassesses
    simp only [hassesses.recommends_iff]
    rw [text_adviceOf_eq_raiseNew_iff, matching_eq_nil_iff]
  · intro m n raised shipment hraised hmn hassesses hci hdelayed
    obtain ⟨⟨item, hitem⟩, opened, hopened⟩ := hraised.exists_open hmn
    rw [← hci] at hitem hopened
    have hadvice := adviceOf_of_head? hdelayed hitem hopened
    simp only [hassesses.recommends_iff, hadvice]
    refine ⟨⟨opened.number, rfl⟩, ?_⟩
    intro ci
    constructor
    · intro htext
      cases initial_eq_of_text_eq htext
    · intro htext
      cases initial_eq_of_text_eq htext
  · intro m n earlier number hearlier hrecommends hmn
    rw [hearlier.recommends_iff, text_adviceOf_eq_enrich_iff] at hrecommends
    obtain ⟨-, ⟨item, hitem⟩, incident, hfirst, hnumber⟩ := hrecommends
    have hextends : Extends (storeAt shipments inputs m) (storeAt shipments inputs n) :=
      extends_storeAt hmn
    have hlater := hextends.head?_matching hfirst
    rw [← hextends.items] at hitem
    constructor
    · obtain ⟨hmem, hci, hopen⟩ := mem_matching_iff.mp (List.mem_of_head? hlater)
      exact ⟨incident, hmem, hnumber, hci, isOpen_iff.mp hopen⟩
    · intro shipment hassesses hci hdelayed number'
      rw [← hci] at hitem hlater
      rw [hassesses.recommends_iff, adviceOf_of_head? hdelayed hitem hlater, hnumber]
      constructor
      · intro htext
        exact (number_eq_of_text_eq htext).symm
      · rintro rfl
        rfl

end runs

/-! ## One run -/

section instances

omit [Interpreter] [Calendar]

/-- A shipment that is late, handled by a known system without incidents. -/
def delayedShipment : Shipment where
  id := "SHP-1004"
  origin := "Zeebrugge"
  destination := "Koln"
  status := "delayed"
  eta := 0
  ci := "CI-TMS-02"

/-- The table with this shipment. -/
def delayedTable : Dict String Shipment := ⟨[("SHP-1004", delayedShipment)], by simp⟩

/-- An assessment, the incident it recommends, and another assessment. -/
def assessRaiseAssess : List (ℚ × Call) :=
  [(0, .assessShipmentDelay "SHP-1004"), (0, .raiseShipmentIncident "SHP-1004" "2"),
    (0, .assessShipmentDelay "SHP-1004")]

/-- First raising is recommended, and then enriching. -/
theorem assessmentConsistent_assessRaiseAssess :
    (∃ ci, @Recommends plainInterpreter plainCalendar delayedTable assessRaiseAssess 0
      (.raiseNew ci)) ∧
    ∃ number, @Recommends plainInterpreter plainCalendar delayedTable assessRaiseAssess 2
      (.enrich number "CI-TMS-02") := by
  obtain ⟨hraising, hraised, -⟩ :=
    @assessmentConsistent plainInterpreter plainCalendar delayedTable assessRaiseAssess
  constructor
  · rw [hraising 0 delayedShipment ⟨0, "SHP-1004", rfl, rfl⟩]
    refine ⟨rfl, ⟨_, rfl⟩, ?_⟩
    intro incident hmem hci
    rw [List.mem_singleton.mp hmem] at hci
    exact absurd hci (by decide)
  · exact (hraised 1 2 delayedShipment delayedShipment ⟨0, "SHP-1004", "2", _, rfl, rfl, rfl⟩
      (by decide) ⟨0, "SHP-1004", rfl, rfl⟩ rfl rfl).1

end instances

end MockServiceNow

end GovernedMcp
