import GovernedMcp.Lib.Traced
import GovernedMcp.Model.ServiceNow

/-!
# Which failures of the instance are contained

Whatever comes of a call, an operation of the live backend should raise `ServiceNowError`, or return
a value that is read off a well-formed result.

* `Carries o result`: the outcome is an accepted response, with that `result`.
* `IsItem`, `AreIncidents`, `IsCreated`: the well-formed results of the three operations, each with
  the value that is read off it.
* `Contained`: what should become of a call.
* `contained_bind_iff`: when it does, for any way of reading results; `containedExactly` for the
  three operations.
-/

namespace GovernedMcp

open Lib Stateful

namespace LiveServiceNow

/-! ## Outcomes -/

/-- The call failed, or the instance rejected it. -/
def Rejected : HttpOutcome → Prop
  | .httpError _ => True
  | .response statusCode _ => 400 ≤ statusCode

/-- The response is accepted, and its body is an object with this `result`; the empty list where it
has none. -/
def Carries (o : HttpOutcome) (result : Json) : Prop :=
  ∃ statusCode entries, o = .response statusCode (some (.dict entries)) ∧ statusCode < 400 ∧
    result = Value.getOr "result" (.list []) entries

/-- Raised as it should be, or read off a well-formed result. -/
inductive Contained {α : Type} (WellFormed : Json → α → Prop) (o : HttpOutcome) :
    Except ToolError α → Prop
  | refused (message : String) : Contained WellFormed o (.error (.serviceNow message))
  | read (result : Json) (a : α) (hcarries : Carries o result) (h : WellFormed result a) :
      Contained WellFormed o (.ok a)

/-- A rejected call is refused. -/
theorem resultOf_of_rejected {table : String} {o : HttpOutcome} (h : Rejected o) :
    ∃ message, resultOf table o = .error (.serviceNow message) := by
  cases o with
  | httpError name => exact ⟨_, rfl⟩
  | response statusCode body =>
    simp only [resultOf]
    split_ifs with h401 h400
    · exact ⟨_, rfl⟩
    · exact ⟨_, rfl⟩
    · exact absurd h h400

/-- The result of an accepted response. -/
theorem resultOf_of_carries {table : String} {o : HttpOutcome} {result : Json}
    (h : Carries o result) : resultOf table o = .ok result := by
  obtain ⟨statusCode, entries, rfl, hstatus, rfl⟩ := h
  simp only [resultOf]
  rw [if_neg (by omega), if_neg (by omega)]

/-- A call ends in a result, or in one of the other exceptions, or it was rejected. -/
theorem resultOf_cases (table : String) (o : HttpOutcome) :
    Rejected o ∨ (∃ result, Carries o result) ∨
      ∃ e, resultOf table o = .error e ∧ ∀ message, e ≠ .serviceNow message := by
  cases o with
  | httpError name => exact Or.inl trivial
  | response statusCode body =>
    by_cases hstatus : 400 ≤ statusCode
    · exact Or.inl hstatus
    · right
      simp only [resultOf]
      rw [if_neg (by omega), if_neg hstatus]
      rcases body with _ | a | xs | entries | ⟨cls, attrs⟩
      case some.dict => exact Or.inl ⟨_, statusCode, entries, rfl, by omega, rfl⟩
      all_goals exact Or.inr ⟨_, rfl, by simp⟩

/-- **When a call is contained**, for a way of reading results that never raises `ServiceNowError`
and reads the well-formed ones: when it was rejected, or the result is well-formed. -/
theorem contained_bind_iff {α : Type} {WellFormed : Json → α → Prop}
    {decode : Json → Except ToolError α}
    (hread : ∀ result a, WellFormed result a → decode result = .ok a)
    (hraise : ∀ result message, decode result ≠ .error (.serviceNow message))
    (table : String) (o : HttpOutcome) : Contained WellFormed o (resultOf table o >>= decode) ↔
      Rejected o ∨ ∃ result a, Carries o result ∧ WellFormed result a := by
  constructor
  · intro h
    rcases resultOf_cases table o with hrejected | ⟨result, hcarries⟩ | ⟨e, he, hother⟩
    · exact Or.inl hrejected
    · right
      rw [resultOf_of_carries hcarries] at h
      have hdecode : Contained WellFormed o (decode result) := h
      generalize hx : decode result = x at hdecode
      cases hdecode with
      | refused message => exact absurd hx (hraise result message)
      | read result' a hcarries' hformed => exact ⟨result', a, hcarries', hformed⟩
    · rw [he] at h
      have herror : Contained WellFormed o (.error e : Except ToolError α) := h
      cases herror with
      | refused message => exact absurd rfl (hother message)
  · rintro (hrejected | ⟨result, a, hcarries, hformed⟩)
    · obtain ⟨message, hmessage⟩ := @resultOf_of_rejected table o hrejected
      rw [hmessage]
      exact .refused message
    · rw [resultOf_of_carries hcarries]
      show Contained WellFormed o (decode result)
      rw [hread result a hformed]
      exact .read result a hcarries hformed

/-! ## Well-formed results -/

variable [Interpreter]

/-- A list that is empty or begins with a record, and the item that is read off it. -/
inductive IsItem : Json → Option ConfigurationItem → Prop
  | absent : IsItem (.list []) none
  | found (members : List (String × Json)) (rest : List Json) :
      IsItem (.list (.dict members :: rest)) (some (ConfigurationItem.fromRecord members))

/-- A list of records, and their incidents. -/
inductive AreIncidents : Json → List Incident → Prop
  | mk (records : List (List (String × Json))) :
      AreIncidents (.list (records.map Value.dict)) (records.map Incident.fromRecord)

/-- A record with a number, and its incident. -/
inductive IsCreated : Json → Incident → Prop
  | mk (members : List (String × Json)) (number : String)
      (hnumber : Value.get "number" members = .str number) (hne : number ≠ "") :
      IsCreated (.dict members) (Incident.fromRecord members)

/-- A well-formed result is read as the item it holds. -/
theorem itemOf_of_isItem {result : Json} {item : Option ConfigurationItem}
    (h : IsItem result item) : itemOf result = .ok item := by
  cases h with
  | absent => rfl
  | found members rest => rfl

/-- A well-formed result is read as the incidents it holds. -/
theorem incidentsOf_of_areIncidents {result : Json} {incidents : List Incident}
    (h : AreIncidents result incidents) : incidentsOf result = .ok incidents := by
  obtain ⟨records⟩ := h
  exact incidentsOf_map_dict records

/-- A well-formed result is read as the incident it holds. -/
theorem createdOf_of_isCreated {result : Json} {incident : Incident}
    (h : IsCreated result incident) : createdOf result = incident := by
  obtain ⟨members, number, hnumber, hne⟩ := h
  rfl

/-! ## Reading a result never raises `ServiceNowError` -/

omit [Interpreter] in
/-- Reading members raises no `ServiceNowError`. -/
theorem membersOf_ne_serviceNow (v : Json) (message : String) :
    membersOf v ≠ .error (.serviceNow message) := by
  unfold membersOf
  split <;> simp

omit [Interpreter] in
/-- Nor does taking the first of a result. -/
theorem firstOf_ne_serviceNow (v : Json) (message : String) :
    firstOf v ≠ .error (.serviceNow message) := by
  unfold firstOf
  split <;> simp

omit [Interpreter] in
/-- Nor does going through one. -/
theorem itemsOf_ne_serviceNow (v : Json) (message : String) :
    itemsOf v ≠ .error (.serviceNow message) := by
  unfold itemsOf
  split <;> simp

/-- So what is wrong with an item is no `ServiceNowError`. -/
theorem itemOf_ne_serviceNow (result : Json) (message : String) :
    itemOf result ≠ .error (.serviceNow message) := by
  unfold itemOf
  split_ifs
  · simp
  · intro h
    rcases Except.bind_eq_error_iff.mp h with h | ⟨record, -, h⟩
    · exact firstOf_ne_serviceNow _ _ h
    · rcases Except.bind_eq_error_iff.mp h with h | ⟨members, -, h⟩
      · exact membersOf_ne_serviceNow _ _ h
      · cases h

/-- And what is wrong with incidents is none either. -/
theorem incidentsOf_ne_serviceNow (result : Json) (message : String) :
    incidentsOf result ≠ .error (.serviceNow message) := by
  unfold incidentsOf
  intro h
  rcases Except.bind_eq_error_iff.mp h with h | ⟨items, -, h⟩
  · exact itemsOf_ne_serviceNow _ _ h
  · induction items with
    | nil => cases h
    | cons item items ih =>
      rw [List.mapM_cons] at h
      rcases Except.bind_eq_error_iff.mp h with h | ⟨incident, -, h⟩
      · cases hmembers : membersOf item with
        | error e =>
          rw [hmembers] at h
          cases h
          exact membersOf_ne_serviceNow _ _ hmembers
        | ok members =>
          rw [hmembers] at h
          cases h
      · rcases Except.bind_eq_error_iff.mp h with h | ⟨incidents, -, h⟩
        · exact ih h
        · cases h

/-! ## The three operations -/

/-- For each operation, the outcomes of its request that are contained. -/
structure ContainedExactly (self : LiveServiceNow) {σ : Type} (transport : Transport σ) (s : σ) :
    Prop where
  find : ∀ name,
    Contained IsItem (transport (self.findRequest name) s).1
        (outcome (self.findConfigurationItem transport name) s) ↔
      Rejected (transport (self.findRequest name) s).1 ∨
        ∃ result item, Carries (transport (self.findRequest name) s).1 result ∧ IsItem result item
  search : ∀ configurationItem activeOnly limit,
    Contained AreIncidents
        (transport (self.searchRequest configurationItem activeOnly limit) s).1
        (outcome (self.searchIncidents transport configurationItem activeOnly limit) s) ↔
      Rejected (transport (self.searchRequest configurationItem activeOnly limit) s).1 ∨
        ∃ result incidents,
          Carries (transport (self.searchRequest configurationItem activeOnly limit) s).1 result ∧
            AreIncidents result incidents
  create : ∀ shortDescription configurationItem urgency description,
    Contained IsCreated
        (transport (self.createRequest shortDescription configurationItem urgency description) s).1
        (outcome (self.createIncident transport shortDescription configurationItem urgency
          description) s) ↔
      Rejected
          (transport (self.createRequest shortDescription configurationItem urgency description)
            s).1 ∨
        ∃ result incident,
          Carries
              (transport (self.createRequest shortDescription configurationItem urgency description)
                s).1 result ∧
            IsCreated result incident

/-- **When a failure is contained**: when the call is rejected, or the result it is answered with is
well-formed. Every other outcome escapes, as an exception of another type or as a value that is not
in the response. -/
theorem containedExactly (self : LiveServiceNow) {σ : Type} (transport : Transport σ) (s : σ) :
    ContainedExactly self transport s := by
  constructor
  · intro name
    rw [outcome_findConfigurationItem]
    apply contained_bind_iff ?_ itemOf_ne_serviceNow
    intro result item h
    exact itemOf_of_isItem h
  · intro configurationItem activeOnly limit
    rw [outcome_searchIncidents]
    apply contained_bind_iff ?_ incidentsOf_ne_serviceNow
    intro result incidents h
    exact incidentsOf_of_areIncidents h
  · intro shortDescription configurationItem urgency description
    rw [outcome_createIncident]
    have hread : ∀ result incident, IsCreated result incident →
        (.ok (createdOf result) : Except ToolError Incident) = .ok incident := by
      intro result incident h
      rw [createdOf_of_isCreated h]
    rw [← contained_bind_iff hread (by simp) "incident"]
    cases resultOf "incident" (transport (self.createRequest shortDescription configurationItem
      urgency description) s).1 <;> rfl

omit [Interpreter]

/-! ## Two responses that are not contained -/

/-- An instance that answers everything alike. -/
def answering (o : HttpOutcome) : Transport Unit := fun _ s => (o, s)

/-- **The failing inputs**: a page in place of JSON, as a sleeping instance serves it, ends in a
decoding error; and an empty object, in answer to a new incident, in an incident without a
number. -/
theorem not_contained_of_page :
    outcome (@findConfigurationItem plainInterpreter devClient Unit (answering (.response 200 none))
        "CI-WMS-01") () = .error .jsonDecodeError ∧
      ¬@Contained _ (@IsItem plainInterpreter) (.response 200 none)
        (outcome (@findConfigurationItem plainInterpreter devClient Unit
          (answering (.response 200 none)) "CI-WMS-01") ()) ∧
      ∃ incident, outcome (@createIncident plainInterpreter devClient Unit
          (answering (.response 201 (some (.dict [])))) "late" "CI-WMS-01" "3" "") () =
            .ok incident ∧ incident.number = "" := by
  refine ⟨rfl, ?_, _, rfl, rfl⟩
  have hraised : outcome (@findConfigurationItem plainInterpreter devClient Unit
      (answering (.response 200 none)) "CI-WMS-01") () = .error .jsonDecodeError := rfl
  rw [hraised]
  intro h
  cases h

end LiveServiceNow

end GovernedMcp
