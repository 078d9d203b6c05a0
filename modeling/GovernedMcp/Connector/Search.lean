import GovernedMcp.Connector.Query

/-!
# Live and mock search

The same search, put as a query to an instance and as a filter to the store. The instance is a
parameter; `FaithfulTableApi` says what is assumed of it.

* `take_filter_eq_take_iff`: when a filter makes no difference to the first few elements.
* `outcome_searchIncidents_of_faithful`: what the live search returns on a table.
* `searches_agree_iff`: when that is what the mock search returns on the same table.
-/

namespace GovernedMcp

open Lib Stateful

/-! ## The first elements of a filtered list -/

/-- Where all of the first pass a test, they are the first that do. -/
theorem take_filter_of_forall {α : Type} {p : α → Bool} {l : List α} {n : ℕ}
    (h : ∀ a ∈ l.take n, p a = true) : (l.filter p).take n = l.take n := by
  induction l generalizing n with
  | nil => rfl
  | cons a l ih =>
    cases n with
    | zero => rfl
    | succ n =>
      rw [List.take_succ_cons] at h ⊢
      rw [List.filter_cons_of_pos (h a List.mem_cons_self), List.take_succ_cons,
        ih fun b hb => h b (List.mem_cons_of_mem a hb)]

/-- Seen through a function that tells the kept elements from the others, a filter makes no
difference to the first elements iff it keeps them. -/
theorem map_take_filter_eq_iff {α β : Type} {p : α → Bool} {f : α → β}
    (hf : ∀ a b, f a = f b → p a = p b) (l : List α) (n : ℕ) :
    ((l.filter p).take n).map f = (l.take n).map f ↔ ∀ a ∈ l.take n, p a = true := by
  constructor
  · intro h a ha
    have hmem : f a ∈ ((l.filter p).take n).map f := by
      rw [h]
      exact List.mem_map_of_mem ha
    obtain ⟨b, hb, hab⟩ := List.mem_map.mp hmem
    rw [← hf b a hab]
    exact (List.mem_filter.mp (List.mem_of_mem_take hb)).2
  · intro h
    rw [take_filter_of_forall h]

namespace LiveServiceNow

variable [Interpreter]

/-! ## The instance -/

/-- What is assumed of the Table API: how clauses are understood (`holds`), how incidents are sent
with display values (`render`), and which are sent. -/
structure FaithfulTableApi (client : LiveServiceNow) (transport : Transport (List Incident))
    (holds : String → Incident → Bool) (render : Incident → List (String × Json)) : Prop where
  /-- A query is the conjunction of its clauses, and the first matches in table order are sent. -/
  answers : ∀ (query : String) (limit : ℕ) (table : List Incident),
    transport (client.requestOf "GET" "incident"
        [("sysparm_query", query), ("sysparm_limit", toString limit),
          ("sysparm_display_value", "true")] none) table =
      (.response 200 (some (.dict [("result", .list
        (((table.filter fun i => (clauses query).all fun c => holds c i).take limit).map
          fun i => .dict (render i)))])), table)
  item : ∀ x i, holds ("cmdb_ci.name=" ++ x) i = decide (i.configurationItem = x)
  active : ∀ i, holds "active=true" i = MockServiceNow.isOpen i
  /-- The display value of a state tells whether it is resolved or closed. -/
  shown : ∀ i j, Incident.fromRecord (render i) = Incident.fromRecord (render j) →
    MockServiceNow.isOpen i = MockServiceNow.isOpen j

variable {self : LiveServiceNow} {transport : Transport (List Incident)}
  {holds : String → Incident → Bool} {render : Incident → List (String × Json)}

/-- The live search returns what the instance selects, as it is shown. -/
theorem outcome_searchIncidents_of_faithful
    (hapi : FaithfulTableApi self transport holds render) (configurationItem : Option String)
    (activeOnly : Bool) (limit : ℕ) (table : List Incident) :
    outcome (self.searchIncidents transport configurationItem activeOnly limit) table =
      .ok (((table.filter fun i => (clauses (queryOf configurationItem activeOnly)).all
        fun c => holds c i).take limit).map fun i => Incident.fromRecord (render i)) := by
  have hanswer := hapi.answers (queryOf configurationItem activeOnly) limit table
  rw [outcome_searchIncidents]
  unfold searchRequest
  have hlimit : toString (limit : ℤ) = toString limit := rfl
  rw [hlimit, hanswer]
  show incidentsOf (.list _) = _
  have hrecords := incidentsOf_map_dict (((table.filter fun i =>
    (clauses (queryOf configurationItem activeOnly)).all fun c => holds c i).take limit).map render)
  rw [List.map_map, List.map_map] at hrecords
  exact hrecords

/-- The clauses of a search hold of the incidents that the store selects. -/
theorem all_clausesOf (hapi : FaithfulTableApi self transport holds render)
    {configurationItem : Option String} (hitem : ∀ x, configurationItem = some x → x ≠ "")
    (activeOnly : Bool) (i : Incident) :
    (clausesOf configurationItem activeOnly).all (fun c => holds c i) =
      ((configurationItem.elim true fun ci => i.configurationItem = ci) &&
        (!activeOnly || MockServiceNow.isOpen i)) := by
  unfold clausesOf
  rw [List.all_append]
  congr 1
  · cases configurationItem with
    | none => rfl
    | some x =>
      rw [Option.getD_some, if_neg (hitem x rfl)]
      show (holds ("cmdb_ci.name=" ++ x) i && true) = _
      rw [hapi.item, Bool.and_true]
      rfl
  · cases activeOnly
    · rfl
    · show (holds "active=true" i && true) = _
      rw [hapi.active, Bool.and_true]
      rfl

/-- A search with clauses selects what the store selects. -/
theorem filter_queryOf_of_clauses (hapi : FaithfulTableApi self transport holds render)
    (store : MockServiceNow) {configurationItem : Option String}
    (hitem : ∀ x, configurationItem = some x → x ≠ "" ∧ '^' ∉ x.toList) {activeOnly : Bool}
    (hwith : configurationItem.getD "" ≠ "" ∨ activeOnly = true) :
    (store.incidents.filter fun i =>
        (clauses (queryOf configurationItem activeOnly)).all fun c => holds c i) =
      store.matching configurationItem activeOnly := by
  have hfree : '^' ∉ (configurationItem.getD "").toList := by
    cases configurationItem with
    | none => simp
    | some x => exact (hitem x rfl).2
  rw [(clauses_queryOf_iff configurationItem activeOnly).mpr ⟨hfree, hwith⟩]
  unfold MockServiceNow.matching
  congr 1
  funext i
  apply all_clausesOf hapi
  intro x hx
  exact (hitem x hx).1

/-- One without selects what is active. -/
theorem filter_queryOf_of_none (hapi : FaithfulTableApi self transport holds render)
    (table : List Incident) :
    (table.filter fun i => (clauses (queryOf none false)).all fun c => holds c i) =
      table.filter MockServiceNow.isOpen := by
  congr 1
  funext i
  show (holds "active=true" i && true) = _
  rw [hapi.active, Bool.and_true]

/-- **When the two searches agree**: when an item is named, or only active incidents are asked for,
or the incidents that come first are all active. -/
theorem searches_agree_iff (hapi : FaithfulTableApi self transport holds render)
    (store : MockServiceNow) {configurationItem : Option String}
    (hitem : ∀ x, configurationItem = some x → x ≠ "" ∧ '^' ∉ x.toList) (activeOnly : Bool)
    (limit : ℕ) :
    outcome (self.searchIncidents transport configurationItem activeOnly limit) store.incidents =
        (outcome (MockServiceNow.searchIncidents configurationItem activeOnly limit) store).map
          (List.map fun i => Incident.fromRecord (render i)) ↔
      configurationItem.isSome = true ∨ activeOnly = true ∨
        ∀ i ∈ store.incidents.take limit, MockServiceNow.isOpen i = true := by
  have hmock : (outcome (MockServiceNow.searchIncidents configurationItem activeOnly limit)
      store).map (List.map fun i => Incident.fromRecord (render i)) =
        .ok (((store.matching configurationItem activeOnly).take limit).map
          fun i => Incident.fromRecord (render i)) := by
    simp [MockServiceNow.sliceTo, Except.map]
  rw [hmock, outcome_searchIncidents_of_faithful hapi, Except.ok.injEq]
  rcases configurationItem with _ | x
  · cases activeOnly with
    | true =>
      rw [filter_queryOf_of_clauses hapi store hitem (Or.inr rfl)]
      simp
    | false =>
      -- the store selects everything, the instance only what is active
      have hall : store.matching none false = store.incidents := by
        simp [MockServiceNow.matching]
      rw [filter_queryOf_of_none hapi, hall, map_take_filter_eq_iff hapi.shown]
      simp
  · rw [filter_queryOf_of_clauses hapi store hitem (Or.inl (hitem x rfl).1)]
    simp

/-! ## An instance -/

section instanceOf

omit [Interpreter]

/-- How a clause is understood. -/
def plainHolds (clause : String) (i : Incident) : Bool :=
  if clause = "active=true" then MockServiceNow.isOpen i
  else clause = "cmdb_ci.name=" ++ i.configurationItem

/-- The label of a state. -/
def stateLabel (state : String) : String :=
  if state = "6" then "Resolved" else if state = "7" then "Closed" else "Open (" ++ state ++ ")"

/-- The record of an incident. -/
def plainRender (i : Incident) : List (String × Json) :=
  [("number", .str i.number), ("sys_id", .str i.sysId),
    ("short_description", .str i.shortDescription), ("state", .str (stateLabel i.state)),
    ("urgency", .str i.urgency),
    ("cmdb_ci", .dict [("display_value", .str i.configurationItem)]),
    ("opened_at", .str i.openedAt)]

/-- An instance that answers searches. -/
def plainTableApi : Transport (List Incident) := fun req table =>
  let query := (Dict.lookup "sysparm_query" req.params).getD ""
  let limit := Nat.ofDigitChars 10 ((Dict.lookup "sysparm_limit" req.params).getD "").toList 0
  (.response 200 (some (.dict [("result", .list
    (((table.filter fun i => (clauses query).all fun c => plainHolds c i).take limit).map
      fun i => .dict (plainRender i)))])), table)

/-- The label of a state tells whether it is resolved or closed. -/
theorem isOpen_of_stateLabel {i j : Incident} (h : stateLabel i.state = stateLabel j.state) :
    MockServiceNow.isOpen i = MockServiceNow.isOpen j := by
  have hlabel : ∀ s, (stateLabel s = "Resolved" ∨ stateLabel s = "Closed") ↔ s ∈ ["6", "7"] := by
    intro s
    have hopen : ∀ t, "Open (" ++ t ++ ")" ≠ "Resolved" ∧ "Open (" ++ t ++ ")" ≠ "Closed" := by
      intro t
      constructor
      · intro heq
        have hhead := congrArg (fun s : String => s.toList.head?) heq
        simp at hhead
      · intro heq
        have hhead := congrArg (fun s : String => s.toList.head?) heq
        simp at hhead
    unfold stateLabel
    split_ifs with h6 h7
    · simp [h6]
    · simp [h7]
    · simp [h6, h7, hopen s]
  have hclosed : i.state ∈ ["6", "7"] ↔ j.state ∈ ["6", "7"] := by
    rw [← hlabel, ← hlabel, h]
  unfold MockServiceNow.isOpen
  rw [decide_eq_decide, hclosed]

/-- It answers as the Table API is documented to. -/
theorem faithful_plainTableApi :
    @FaithfulTableApi plainInterpreter devClient plainTableApi plainHolds plainRender := by
  let _ := plainInterpreter
  constructor
  · intro query limit table
    have hlimit : Nat.ofDigitChars 10 (toString limit).toList 0 = limit := by
      show Nat.ofDigitChars 10 limit.repr.toList 0 = limit
      rw [Nat.toList_repr, Nat.ofDigitChars_ten_toDigits]
    show (HttpOutcome.response 200 (some (.dict [("result", .list (((table.filter fun i =>
      (clauses query).all fun c => plainHolds c i).take (Nat.ofDigitChars 10
        (toString limit).toList 0)).map fun i => .dict (plainRender i)))])), table) = _
    rw [hlimit]
  · intro x i
    have hne : "cmdb_ci.name=" ++ x ≠ "active=true" := by
      intro heq
      have hhead := congrArg (fun s : String => s.toList.head?) heq
      simp at hhead
    unfold plainHolds
    rw [if_neg hne, decide_eq_decide, String.append_right_inj]
    exact eq_comm
  · intro i
    rfl
  · intro i j h
    apply isOpen_of_stateLabel
    have hstate := congrArg Incident.state h
    simpa [Incident.fromRecord, plainRender, textOf, Value.getOr, Dict.lookup] using hstate

/-- On the default store the searches for an item agree. -/
theorem searches_agree_for_item :
    outcome (@searchIncidents plainInterpreter devClient _ plainTableApi (some "CI-WMS-01") true 10)
        MockServiceNow.new.incidents =
      (outcome (MockServiceNow.searchIncidents (some "CI-WMS-01") true 10)
        MockServiceNow.new).map
        (List.map fun i => @Incident.fromRecord plainInterpreter (plainRender i)) := by
  refine (@searches_agree_iff plainInterpreter _ _ _ _ faithful_plainTableApi MockServiceNow.new
    (some "CI-WMS-01") ?_ true 10).mpr (Or.inl rfl)
  intro x hx
  cases hx
  decide

/-- A store whose one incident is resolved. -/
def resolvedStore : MockServiceNow :=
  MockServiceNow.new [{ MockServiceNow.seedIncident with state := "6" }]

/-- **The failing input**: asked for all incidents of such a store, the live search leaves the
resolved one out. -/
theorem not_searches_agree_of_resolved :
    @FaithfulTableApi plainInterpreter devClient plainTableApi plainHolds plainRender ∧
      outcome (@searchIncidents plainInterpreter devClient _ plainTableApi none false 10)
          resolvedStore.incidents ≠
        (outcome (MockServiceNow.searchIncidents none false 10) resolvedStore).map
          (List.map fun i => @Incident.fromRecord plainInterpreter (plainRender i)) := by
  refine ⟨faithful_plainTableApi, ?_⟩
  have hlive := @outcome_searchIncidents_of_faithful plainInterpreter _ _ _ _ faithful_plainTableApi
    none false 10 resolvedStore.incidents
  have hselected : (resolvedStore.incidents.filter fun i =>
      (clauses (queryOf none false)).all fun c => plainHolds c i) = [] := by decide
  rw [hselected] at hlive
  intro h
  cases hlive.symm.trans h

end instanceOf

end LiveServiceNow

end GovernedMcp
