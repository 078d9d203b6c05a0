import GovernedMcp.Model.ServiceNow

/-!
# The queries of the live backend

The live backend puts its arguments into a query text, whose clauses are separated by `^`.

* `KeepsShape`: one request is sent, whose query is cut into the intended clauses; or none, and the
  call is refused.
* `find_keepsShape_iff`, `search_keepsShape_iff`: when that is so. The arguments go into the query
  as they come, and a search without clauses is given one.
-/

namespace GovernedMcp

open Lib Stateful

namespace LiveServiceNow

/-! ## What is sent -/

/-- A network that keeps the requests it was sent, and answers them in some way. -/
def recording (answer : Request → HttpOutcome) : Transport (List Request) :=
  fun req sent => (answer req, sent ++ [req])

/-- The query of a request. -/
def queryOfRequest (req : Request) : String := (Dict.lookup "sysparm_query" req.params).getD ""

/-- The clauses of a query. -/
def clauses (query : String) : List String := Text.fields '^' query

/-- An operation sends one request, whose query has these clauses; or it refuses, and sends none. -/
def KeepsShape {α : Type} (x : EStateM ToolError (List Request) α) (intended : List String) :
    Prop :=
  (∃ req, after x [] = [req] ∧ clauses (queryOfRequest req) = intended) ∨
    (after x [] = [] ∧ ∃ message, outcome x [] = .error (.serviceNow message))

/-- An operation that sends a request keeps the shape iff its query does. -/
theorem keepsShape_iff_of_after {α : Type} {x : EStateM ToolError (List Request) α} {req : Request}
    (h : after x [] = [req]) (intended : List String) :
    KeepsShape x intended ↔ clauses (queryOfRequest req) = intended := by
  unfold KeepsShape
  rw [h]
  constructor
  · rintro (⟨req', hreq, hclauses⟩ | ⟨hnone, -⟩)
    · rw [← List.singleton_inj.mp hreq] at hclauses
      exact hclauses
    · cases hnone
  · intro hclauses
    exact Or.inl ⟨req, rfl, hclauses⟩

/-! ## The two builders -/

/-- The clauses a search is meant to have. -/
def intendedClauses (configurationItem : String) (activeOnly : Bool) : List String :=
  (if configurationItem = "" then [] else ["cmdb_ci.name=" ++ configurationItem]) ++
    (if activeOnly then ["active=true"] else [])

/-- A character outside a text that is put in front is in the whole iff it is in the rest. -/
theorem not_mem_append_iff {c : Char} {s : String} (t : String) (h : c ∉ s.toList) :
    c ∉ (s ++ t).toList ↔ c ∉ t.toList := by
  rw [String.toList_append, List.mem_append, not_or]
  exact and_iff_right h

/-- No clause of a search contains the separator iff the item does not. -/
theorem forall_clausesOf_iff (configurationItem : Option String) (activeOnly : Bool) :
    (∀ clause ∈ clausesOf configurationItem activeOnly, '^' ∉ clause.toList) ↔
      '^' ∉ (configurationItem.getD "").toList := by
  have hactive : ∀ clause ∈ (if activeOnly then ["active=true"] else [] : List String),
      '^' ∉ clause.toList := by
    cases activeOnly <;> simp
  have hname : '^' ∉ ("cmdb_ci.name=" ++ configurationItem.getD "").toList ↔
      '^' ∉ (configurationItem.getD "").toList := not_mem_append_iff _ (by decide)
  unfold clausesOf
  rw [List.forall_mem_append]
  by_cases hempty : configurationItem.getD "" = ""
  · simp [hempty]
  · rw [if_neg hempty, List.forall_mem_singleton]
    constructor
    · rintro ⟨hclause, -⟩
      exact hname.mp hclause
    · intro hfree
      exact ⟨hname.mpr hfree, hactive⟩

/-- A search without conditions has no clauses. -/
theorem clausesOf_eq_nil_iff (configurationItem : Option String) (activeOnly : Bool) :
    clausesOf configurationItem activeOnly = [] ↔
      configurationItem.getD "" = "" ∧ activeOnly = false := by
  unfold clausesOf
  by_cases hempty : configurationItem.getD "" = ""
  · cases activeOnly <;> simp [hempty]
  · cases activeOnly <;> simp [hempty]

/-- Any condition gives a clause. -/
theorem clausesOf_ne_nil_iff (configurationItem : Option String) (activeOnly : Bool) :
    clausesOf configurationItem activeOnly ≠ [] ↔
      configurationItem.getD "" ≠ "" ∨ activeOnly = true := by
  rw [Ne, clausesOf_eq_nil_iff, not_and_or, Bool.not_eq_false]

/-- No clause is empty. -/
theorem ne_empty_of_mem_clausesOf {configurationItem : Option String} {activeOnly : Bool}
    {clause : String} (h : clause ∈ clausesOf configurationItem activeOnly) : clause ≠ "" := by
  unfold clausesOf at h
  rcases List.mem_append.mp h with h | h
  · split_ifs at h
    · cases h
    · rw [List.mem_singleton.mp h]
      show "cmdb_ci.name=" ++ configurationItem.getD "" ≠ ""
      simp
  · split_ifs at h
    · rw [List.mem_singleton.mp h]
      decide
    · cases h

/-- A search with clauses sends them joined. -/
theorem queryOf_of_ne_nil {configurationItem : Option String} {activeOnly : Bool}
    (h : clausesOf configurationItem activeOnly ≠ []) :
    queryOf configurationItem activeOnly =
      (String.singleton '^').intercalate (clausesOf configurationItem activeOnly) := by
  have hne : "^".intercalate (clausesOf configurationItem activeOnly) ≠ "" := by
    obtain ⟨clause, hclause⟩ := List.exists_mem_of_ne_nil _ h
    exact Text.intercalate_ne_empty hclause (ne_empty_of_mem_clausesOf hclause)
  unfold queryOf
  rw [if_neg hne]
  rfl

/-- **The clauses that are sent** are the intended ones iff there are any, and the item does not
contain the separator. -/
theorem clauses_queryOf_iff (configurationItem : Option String) (activeOnly : Bool) :
    clauses (queryOf configurationItem activeOnly) = clausesOf configurationItem activeOnly ↔
      '^' ∉ (configurationItem.getD "").toList ∧
        (configurationItem.getD "" ≠ "" ∨ activeOnly = true) := by
  rw [← forall_clausesOf_iff configurationItem activeOnly]
  by_cases hnil : clausesOf configurationItem activeOnly = []
  · rw [hnil]
    constructor
    · intro h
      exact absurd h (Text.fields_ne_nil '^' _)
    · rintro ⟨-, hwith⟩
      exact absurd hnil ((clausesOf_ne_nil_iff _ _).mpr hwith)
  · have hwith := (clausesOf_ne_nil_iff _ _).mp hnil
    rw [queryOf_of_ne_nil hnil]
    unfold clauses
    rw [Text.fields_intercalate_iff]
    constructor
    · rintro ⟨-, hfree⟩
      exact ⟨hfree, hwith⟩
    · rintro ⟨hfree, -⟩
      exact ⟨hnil, hfree⟩

/-! ## The two operations -/

section operations

variable [Interpreter] (self : LiveServiceNow) (answer : Request → HttpOutcome)

/-- **A lookup keeps its shape** iff the name does not contain the separator. -/
theorem find_keepsShape_iff (name : String) :
    KeepsShape (self.findConfigurationItem (recording answer) name) ["name=" ++ name] ↔
      '^' ∉ name.toList := by
  have hsent : after (self.findConfigurationItem (recording answer) name) [] =
      [self.findRequest name] := after_findConfigurationItem self (recording answer) name []
  have hquery : clauses (queryOfRequest (self.findRequest name)) = ["name=" ++ name] ↔
      ∀ clause ∈ ["name=" ++ name], '^' ∉ clause.toList := by
    show Text.fields '^' ("name=" ++ name) = ["name=" ++ name] ↔ _
    have hjoined := @Text.fields_intercalate_iff '^' ["name=" ++ name]
    rw [String.intercalate_singleton] at hjoined
    rw [hjoined]
    exact and_iff_right (List.cons_ne_nil _ _)
  rw [keepsShape_iff_of_after hsent, hquery, List.forall_mem_singleton]
  exact not_mem_append_iff name (by decide)

/-- **A search keeps its shape** iff the item does not contain the separator, and there is an item
or only active incidents are asked for. -/
theorem search_keepsShape_iff (configurationItem : String) (activeOnly : Bool) (limit : ℤ) :
    KeepsShape (self.searchIncidents (recording answer) (some configurationItem) activeOnly limit)
        (intendedClauses configurationItem activeOnly) ↔
      '^' ∉ configurationItem.toList ∧ (configurationItem ≠ "" ∨ activeOnly = true) := by
  have hsent : after (self.searchIncidents (recording answer) (some configurationItem) activeOnly
      limit) [] = [self.searchRequest (some configurationItem) activeOnly limit] :=
    after_searchIncidents self (recording answer) _ _ _ []
  rw [keepsShape_iff_of_after hsent]
  exact clauses_queryOf_iff (some configurationItem) activeOnly

/-- **When tool arguments cannot change the shape of a query.** -/
theorem keepsShape_iff : (∀ name,
      KeepsShape (self.findConfigurationItem (recording answer) name) ["name=" ++ name] ↔
        '^' ∉ name.toList) ∧
    ∀ configurationItem activeOnly limit,
      KeepsShape (self.searchIncidents (recording answer) (some configurationItem) activeOnly limit)
          (intendedClauses configurationItem activeOnly) ↔
        '^' ∉ configurationItem.toList ∧ (configurationItem ≠ "" ∨ activeOnly = true) :=
  ⟨find_keepsShape_iff self answer, search_keepsShape_iff self answer⟩

end operations

/-- **The failing input**: an item with a separator in it brings a clause of its own. -/
theorem not_keepsShape_of_injectedClause :
    ¬KeepsShape (@searchIncidents plainInterpreter devClient _
        (recording fun _ => .httpError "ConnectError") (some "CI-WMS-01^ORactive=false") true 10)
      (intendedClauses "CI-WMS-01^ORactive=false" true) := by
  intro h
  have hshape := (@search_keepsShape_iff plainInterpreter devClient _ _ true 10).mp h
  exact absurd hshape.1 (by decide)

end LiveServiceNow

end GovernedMcp
