import Mathlib.Data.Rat.Defs
import GovernedMcp.Lib.Stateful
import GovernedMcp.Lib.Text
import GovernedMcp.Model.Value

/-!
# The ServiceNow connector

`governance/servicenow.py`: two backends behind one interface. `ServiceNow σ` is the interface, for
a backend whose state is `σ`; an operation is a computation on that state that may raise.

* `MockServiceNow`: the in-process store. It is its own state, and each operation is given the time
  at which it runs.
* `LiveServiceNow`: the Table API client. The network is a parameter, a function `Transport σ` that
  answers a request in some state of the instance.
* Each operation has an equation for what it ends in and one for the state it leaves behind
  (`Stateful.outcome`, `Stateful.after`).
-/

namespace GovernedMcp

open Lib Stateful

/-- How a date is put into text. The standard library fixes it, and no modelled function looks into
the result; a time is in seconds. -/
class Calendar where
  strftime : (format : String) → ℚ → String

/-- A calendar for runs whose dates are never looked at. -/
@[reducible] def plainCalendar : Calendar where
  strftime _ _ := ""

/-- The exceptions a tool can end in. -/
inductive ToolError where
  /-- `ServiceNowError`: the instance rejected a call, or could not be reached. -/
  | serviceNow (message : String)
  | valueError (message : String)
  /-- A body that is not JSON; the exception is a `ValueError` too. -/
  | jsonDecodeError
  | attributeError
  | typeError
  | keyError
  deriving DecidableEq

/-- Source: `servicenow.py`, `Incident`. -/
structure Incident where
  number : String
  sysId : String
  shortDescription : String
  state : String
  urgency : String
  configurationItem : String
  openedAt : String
  deriving DecidableEq

/-- Source: `servicenow.py`, `ConfigurationItem`. -/
structure ConfigurationItem where
  name : String
  sysId : String
  ciClass : String
  operationalStatus : String
  deriving DecidableEq

/-- What the tools depend on; both backends satisfy it. Source: `servicenow.py`, `ServiceNow`. -/
structure ServiceNow (σ : Type) where
  findConfigurationItem : (name : String) → EStateM ToolError σ (Option ConfigurationItem)
  searchIncidents : (configurationItem : Option String) → (activeOnly : Bool) → (limit : ℤ) →
    EStateM ToolError σ (List Incident)
  createIncident : (shortDescription configurationItem urgency description : String) →
    EStateM ToolError σ Incident

/-! ## Records -/

section records

variable [Interpreter]

/-- `str(record.get(name, ""))`. -/
def textOf (name : String) (record : List (String × Json)) : String :=
  (Value.getOr name (.str "") record).toStr

/-- A reference field comes as a text, or as a mapping with a display value. -/
def referenceOf (ci : Json) : String :=
  let ci := match ci.asMapping with
    | some entries => (Value.get "display_value" entries).orElse (Value.get "value" entries)
    | none => ci
  (ci.orElse (.str "")).toStr

/-- Source: `servicenow.py`, `Incident.from_record`. -/
def Incident.fromRecord (record : List (String × Json)) : Incident where
  number := textOf "number" record
  sysId := textOf "sys_id" record
  shortDescription := textOf "short_description" record
  state := textOf "state" record
  urgency := textOf "urgency" record
  configurationItem := referenceOf (Value.get "cmdb_ci" record)
  openedAt := textOf "opened_at" record

/-- The item that a record of the CMDB is projected to. -/
def ConfigurationItem.fromRecord (record : List (String × Json)) : ConfigurationItem where
  name := textOf "name" record
  sysId := textOf "sys_id" record
  ciClass := textOf "sys_class_name" record
  operationalStatus := textOf "operational_status" record

end records

/-! ## The live backend -/

def ENV_INSTANCE : String := "SERVICENOW_INSTANCE"

def ENV_USER : String := "SERVICENOW_USER"

def ENV_PASSWORD : String := "SERVICENOW_PASSWORD"

/-- Source: `servicenow.py`, `LiveServiceNow`. -/
structure LiveServiceNow where
  instanceName : String
  user : String
  password : String
  timeoutSeconds : ℚ := 15
  deriving DecidableEq

/-- What is sent to the instance. -/
structure Request where
  method : String
  url : String
  timeoutSeconds : ℚ
  auth : String × String
  headers : List (String × String)
  params : List (String × String)
  json : Option Json
  deriving DecidableEq

/-- What comes of sending it: an `httpx2.HTTPError` of some class, or a response, whose body may be
something else than JSON. -/
inductive HttpOutcome where
  | httpError (name : String)
  | response (statusCode : ℕ) (body : Option Json)
  deriving DecidableEq

/-- The network, and the instance behind it. -/
abbrev Transport (σ : Type) := Request → σ → HttpOutcome × σ

namespace LiveServiceNow

/-- `s.removesuffix("/")`. -/
def removeSlash (s : String) : String :=
  match s.toList.reverse with
  | '/' :: rest => String.ofList rest.reverse
  | _ => s

/-- Source: `servicenow.py`, `LiveServiceNow.from_environment`. -/
def fromEnvironment (environ : String → Option String) : Except ToolError LiveServiceNow :=
  let missing := [ENV_INSTANCE, ENV_USER, ENV_PASSWORD].filter fun k => (environ k).getD "" = ""
  if missing ≠ [] then
    let names := ", ".intercalate missing
    .error (.serviceNow (s!"ServiceNow credentials missing: {names}. " ++
      "Set them, or run with the default mock backend."))
  else
    .ok
      { instanceName := removeSlash (Text.strip ((environ ENV_INSTANCE).getD ""))
        user := (environ ENV_USER).getD ""
        password := (environ ENV_PASSWORD).getD "" }

/-- Source: `servicenow.py`, `LiveServiceNow.base_url`. -/
def baseUrl (self : LiveServiceNow) : String :=
  if "http".toList.isPrefixOf self.instanceName.toList then s!"{self.instanceName}/api/now/table"
  else s!"https://{self.instanceName}.service-now.com/api/now/table"

/-- The request that `_request` sends. -/
def requestOf (self : LiveServiceNow) (method table : String) (params : List (String × String))
    (json : Option Json) : Request where
  method
  url := s!"{self.baseUrl}/{table}"
  timeoutSeconds := self.timeoutSeconds
  auth := (self.user, self.password)
  headers := [("Accept", "application/json"), ("Content-Type", "application/json")]
  params
  json

/-- What `_request` makes of the outcome. -/
def resultOf (table : String) : HttpOutcome → Except ToolError Json
  | .httpError name => .error (.serviceNow s!"ServiceNow request failed: {name}")
  | .response statusCode body =>
    if statusCode = 401 then .error (.serviceNow "ServiceNow rejected the credentials (401)")
    else if 400 ≤ statusCode then
      .error (.serviceNow s!"ServiceNow returned {statusCode} for {table}")
    else
      match body with
      | none => .error .jsonDecodeError
      | some (.dict entries) => .ok (Value.getOr "result" (.list []) entries)
      | some _ => .error .attributeError

/-- Source: `servicenow.py`, `LiveServiceNow._request`. -/
def request (self : LiveServiceNow) {σ : Type} (transport : Transport σ) (method table : String)
    (params : List (String × String)) (json : Option Json) : EStateM ToolError σ Json := do
  let response ← ask (transport (self.requestOf method table params json))
  ofExcept (resultOf table response)

/-- `record.get`: only a mapping has it. -/
def membersOf : Json → Except ToolError (List (String × Json))
  | .dict entries => .ok entries
  | _ => .error .attributeError

/-- `records[0]` of something truthy. -/
def firstOf : Json → Except ToolError Json
  | .list (record :: _) => .ok record
  | .str s => .ok (.str (String.ofList (s.toList.take 1)))
  | .dict _ => .error .keyError
  | _ => .error .typeError

/-- `for r in records`. -/
def itemsOf : Json → Except ToolError (List Json)
  | .list records => .ok records
  | .str s => .ok (s.toList.map fun c => .str (String.singleton c))
  | .dict entries => .ok (entries.map fun e => .str e.1)
  | _ => .error .typeError

variable [Interpreter]

/-- What `find_configuration_item` makes of the result. -/
def itemOf (records : Json) : Except ToolError (Option ConfigurationItem) :=
  if records.truthy = false then .ok none
  else do
    let record ← firstOf records
    let members ← membersOf record
    return some (ConfigurationItem.fromRecord members)

/-- What `search_incidents` makes of the result. -/
def incidentsOf (records : Json) : Except ToolError (List Incident) := do
  let items ← itemsOf records
  items.mapM fun r => (membersOf r).map Incident.fromRecord

/-- What `create_incident` makes of the result. -/
def createdOf (record : Json) : Incident :=
  match record with
  | .dict members => Incident.fromRecord members
  | _ => Incident.fromRecord []

/-- A list of records is read one by one. -/
theorem incidentsOf_map_dict (records : List (List (String × Json))) :
    incidentsOf (.list (records.map Value.dict)) = .ok (records.map Incident.fromRecord) := by
  show (records.map Value.dict).mapM (fun r => (membersOf r).map Incident.fromRecord) = _
  induction records with
  | nil => rfl
  | cons record records ih =>
    rw [List.map_cons, List.mapM_cons, ih]
    rfl

section operations

variable (self : LiveServiceNow) {σ : Type} (transport : Transport σ)

/-- Source: `servicenow.py`, `LiveServiceNow.find_configuration_item`. -/
def findConfigurationItem (name : String) : EStateM ToolError σ (Option ConfigurationItem) := do
  let records ← self.request transport "GET" "cmdb_ci"
    [("sysparm_query", s!"name={name}"), ("sysparm_limit", "1")] none
  ofExcept (itemOf records)

/-- The clauses of a search. -/
def clausesOf (configurationItem : Option String) (activeOnly : Bool) : List String :=
  let ci := configurationItem.getD ""
  (if ci = "" then [] else [s!"cmdb_ci.name={ci}"]) ++
    (if activeOnly then ["active=true"] else [])

/-- `"^".join(clauses) or "active=true"`. -/
def queryOf (configurationItem : Option String) (activeOnly : Bool) : String :=
  let joined := "^".intercalate (clausesOf configurationItem activeOnly)
  if joined = "" then "active=true" else joined

/-- Source: `servicenow.py`, `LiveServiceNow.search_incidents`. -/
def searchIncidents (configurationItem : Option String) (activeOnly : Bool) (limit : ℤ) :
    EStateM ToolError σ (List Incident) := do
  let records ← self.request transport "GET" "incident"
    [("sysparm_query", queryOf configurationItem activeOnly), ("sysparm_limit", toString limit),
      ("sysparm_display_value", "true")] none
  ofExcept (incidentsOf records)

/-- Source: `servicenow.py`, `LiveServiceNow.create_incident`. -/
def createIncident (shortDescription configurationItem urgency description : String) :
    EStateM ToolError σ Incident := do
  let record ← self.request transport "POST" "incident" []
    (some (.dict
      [("short_description", .str shortDescription),
        ("description", .str description),
        ("cmdb_ci", .str configurationItem),
        ("urgency", .str urgency),
        ("category", .str "inquiry")]))
  return createdOf record

/-- The live backend, on a network. -/
def backend : ServiceNow σ where
  findConfigurationItem := self.findConfigurationItem transport
  searchIncidents := self.searchIncidents transport
  createIncident := self.createIncident transport

/-! ### One request, and what is made of its outcome -/

/-- The request of `find_configuration_item`. -/
def findRequest (name : String) : Request :=
  self.requestOf "GET" "cmdb_ci" [("sysparm_query", s!"name={name}"), ("sysparm_limit", "1")] none

/-- The request of `search_incidents`. -/
def searchRequest (configurationItem : Option String) (activeOnly : Bool) (limit : ℤ) : Request :=
  self.requestOf "GET" "incident"
    [("sysparm_query", queryOf configurationItem activeOnly), ("sysparm_limit", toString limit),
      ("sysparm_display_value", "true")] none

/-- The request of `create_incident`. -/
def createRequest (shortDescription configurationItem urgency description : String) : Request :=
  self.requestOf "POST" "incident" []
    (some (.dict
      [("short_description", .str shortDescription),
        ("description", .str description),
        ("cmdb_ci", .str configurationItem),
        ("urgency", .str urgency),
        ("category", .str "inquiry")]))

omit [Interpreter] in
/-- A request ends in what the response comes to. -/
theorem outcome_request (method table : String) (params : List (String × String))
    (json : Option Json) (s : σ) : outcome (self.request transport method table params json) s =
      resultOf table (transport (self.requestOf method table params json) s).1 := by
  unfold request
  rw [outcome_bind, outcome_ask]
  exact outcome_ofExcept _ _

omit [Interpreter] in
/-- And leaves the instances where the network has left them. -/
theorem after_request (method table : String) (params : List (String × String))
    (json : Option Json) (s : σ) : after (self.request transport method table params json) s =
      (transport (self.requestOf method table params json) s).2 := by
  unfold request
  rw [after_bind_ofExcept, after_ask]

/-- A lookup reads an item off the response. -/
theorem outcome_findConfigurationItem (name : String) (s : σ) :
    outcome (self.findConfigurationItem transport name) s =
      resultOf "cmdb_ci" (transport (self.findRequest name) s).1 >>= itemOf := by
  unfold findConfigurationItem
  rw [outcome_bind, outcome_request]
  simp only [outcome_ofExcept]
  rfl

/-- It sends one request. -/
theorem after_findConfigurationItem (name : String) (s : σ) :
    after (self.findConfigurationItem transport name) s =
      (transport (self.findRequest name) s).2 := by
  unfold findConfigurationItem
  rw [after_bind_ofExcept, after_request]
  rfl

/-- A search reads incidents off the response. -/
theorem outcome_searchIncidents (configurationItem : Option String) (activeOnly : Bool) (limit : ℤ)
    (s : σ) : outcome (self.searchIncidents transport configurationItem activeOnly limit) s =
      resultOf "incident"
        (transport (self.searchRequest configurationItem activeOnly limit) s).1 >>=
        incidentsOf := by
  unfold searchIncidents
  rw [outcome_bind, outcome_request]
  simp only [outcome_ofExcept]
  rfl

/-- It sends one request. -/
theorem after_searchIncidents (configurationItem : Option String) (activeOnly : Bool) (limit : ℤ)
    (s : σ) : after (self.searchIncidents transport configurationItem activeOnly limit) s =
      (transport (self.searchRequest configurationItem activeOnly limit) s).2 := by
  unfold searchIncidents
  rw [after_bind_ofExcept, after_request]
  rfl

/-- Creating reads the incident off the response. -/
theorem outcome_createIncident (shortDescription configurationItem urgency description : String)
    (s : σ) :
    outcome (self.createIncident transport shortDescription configurationItem urgency description)
        s =
      (resultOf "incident" (transport (self.createRequest shortDescription configurationItem urgency
        description) s).1).map createdOf := by
  unfold createIncident
  rw [outcome_bind, outcome_request]
  simp only [outcome_pure]
  unfold createRequest
  cases resultOf "incident" (transport _ s).1 <;> rfl

/-- It sends one request. -/
theorem after_createIncident (shortDescription configurationItem urgency description : String)
    (s : σ) :
    after (self.createIncident transport shortDescription configurationItem urgency description) s =
      (transport (self.createRequest shortDescription configurationItem urgency
        description) s).2 := by
  show after (self.request transport "POST" "incident" [] _ >>=
    fun record => ofExcept (.ok (createdOf record))) s = _
  rw [after_bind_ofExcept, after_request]
  rfl

end operations

omit [Interpreter]

/-- A client of a development instance. -/
def devClient : LiveServiceNow where
  instanceName := "dev1"
  user := "admin"
  password := "secret"

end LiveServiceNow

/-! ## The mock backend -/

/-- Source: `servicenow.py`, `MockServiceNow`. -/
structure MockServiceNow where
  incidents : List Incident
  configurationItems : Dict String ConfigurationItem
  counter : ℕ

namespace MockServiceNow

/-- The items of a store that is given none. -/
def defaultItems : Dict String ConfigurationItem :=
  ⟨[("CI-WMS-01", ⟨"CI-WMS-01", "a1b2c3d4", "cmdb_ci_appl", "1"⟩),
    ("CI-TMS-02", ⟨"CI-TMS-02", "e5f6a7b8", "cmdb_ci_appl", "1"⟩)], by simp⟩

/-- The incident of a store that is given none. -/
def seedIncident : Incident where
  number := "INC0010001"
  sysId := "11111111"
  shortDescription := "WMS batch job latency above threshold"
  state := "2"
  urgency := "2"
  configurationItem := "CI-WMS-01"
  openedAt := "2026-07-30 08:14:02"

/-- Source: `servicenow.py`, `MockServiceNow.__init__` and `__post_init__`. -/
def new (incidents : List Incident := []) (items : Dict String ConfigurationItem := Dict.empty) :
    MockServiceNow where
  incidents := if incidents = [] then [seedIncident] else incidents
  configurationItems := if items.entries = [] then defaultItems else items
  counter := 0

/-- `xs[:limit]`; a negative limit counts from the end. -/
def sliceTo {α : Type} (xs : List α) (limit : ℤ) : List α :=
  if 0 ≤ limit then xs.take limit.toNat else xs.take (xs.length - limit.natAbs)

/-- `f"{n:0{width}d}"`. -/
def zeroPadded (width n : ℕ) : String := String.ofList ((toString n).toList.leftpad width '0')

/-- An incident whose state is neither resolved nor closed. -/
def isOpen (incident : Incident) : Bool := incident.state ∉ ["6", "7"]

/-- What a search selects, without the limit. -/
def matching (self : MockServiceNow) (configurationItem : Option String) (activeOnly : Bool) :
    List Incident :=
  self.incidents.filter fun incident =>
    (configurationItem.elim true fun ci => incident.configurationItem = ci) &&
      (!activeOnly || isOpen incident)

/-- Source: `servicenow.py`, `MockServiceNow.find_configuration_item`. -/
def findConfigurationItem (name : String) :
    EStateM ToolError MockServiceNow (Option ConfigurationItem) := do
  let self ← get
  return self.configurationItems.get name

/-- Source: `servicenow.py`, `MockServiceNow.search_incidents`. -/
def searchIncidents (configurationItem : Option String) (activeOnly : Bool) (limit : ℤ) :
    EStateM ToolError MockServiceNow (List Incident) := do
  let self ← get
  return sliceTo (self.matching configurationItem activeOnly) limit

variable [Interpreter] [Calendar]

/-- The incident that the next call opens. -/
def nextIncident (self : MockServiceNow) (now : ℚ)
    (shortDescription configurationItem urgency : String) : Incident where
  number := s!"INC00200{zeroPadded 2 (self.counter + 1)}"
  sysId := s!"mock{zeroPadded 8 (self.counter + 1)}"
  shortDescription
  state := "1"
  urgency
  configurationItem
  openedAt := Calendar.strftime "%Y-%m-%d %H:%M:%S" now

/-- The description is not kept. Source: `servicenow.py`, `MockServiceNow.create_incident`. -/
def createIncident (now : ℚ) (shortDescription configurationItem urgency _description : String) :
    EStateM ToolError MockServiceNow Incident := do
  let self ← get
  match self.configurationItems.get configurationItem with
  | none =>
    let shown := Interpreter.repr (.str configurationItem : Json)
    throw (.serviceNow s!"no configuration item named {shown}")
  | some _ =>
    let incident := self.nextIncident now shortDescription configurationItem urgency
    set { self with counter := self.counter + 1, incidents := self.incidents ++ [incident] }
    return incident

/-! ### The equations of the store -/

omit [Interpreter] [Calendar] in
/-- The mock looks the item up. -/
@[simp] theorem outcome_findConfigurationItem (name : String) (self : MockServiceNow) :
    outcome (findConfigurationItem name) self = .ok (self.configurationItems.get name) := rfl

omit [Interpreter] [Calendar] in
/-- And stays as it is. -/
@[simp] theorem after_findConfigurationItem (name : String) (self : MockServiceNow) :
    after (findConfigurationItem name) self = self := rfl

omit [Interpreter] [Calendar] in
/-- The mock selects incidents, and cuts them off at the limit. -/
@[simp] theorem outcome_searchIncidents (configurationItem : Option String) (activeOnly : Bool)
    (limit : ℤ) (self : MockServiceNow) :
    outcome (searchIncidents configurationItem activeOnly limit) self =
      .ok (sliceTo (self.matching configurationItem activeOnly) limit) := rfl

omit [Interpreter] [Calendar] in
/-- And stays as it is. -/
@[simp] theorem after_searchIncidents (configurationItem : Option String) (activeOnly : Bool)
    (limit : ℤ) (self : MockServiceNow) :
    after (searchIncidents configurationItem activeOnly limit) self = self := rfl

section create

variable {self : MockServiceNow} {configurationItem : String} {item : ConfigurationItem} (now : ℚ)
  (shortDescription urgency description : String)

/-- An incident of an unknown item is refused. -/
theorem outcome_createIncident_of_none
    (h : self.configurationItems.get configurationItem = none) :
    outcome (createIncident now shortDescription configurationItem urgency description) self =
      .error (.serviceNow (s!"no configuration item named " ++
        s!"{Interpreter.repr (.str configurationItem : Json)}")) := by
  unfold createIncident
  rw [outcome_bind_of_ok (outcome_get self), after_get]
  simp only [h]
  rfl

/-- Nothing happens then. -/
theorem after_createIncident_of_none (h : self.configurationItems.get configurationItem = none) :
    after (createIncident now shortDescription configurationItem urgency description) self =
      self := by
  unfold createIncident
  rw [after_bind_of_ok (outcome_get self), after_get]
  simp only [h]
  rfl

/-- An incident of a known item is opened. -/
theorem outcome_createIncident_of_some
    (h : self.configurationItems.get configurationItem = some item) :
    outcome (createIncident now shortDescription configurationItem urgency description) self =
      .ok (self.nextIncident now shortDescription configurationItem urgency) := by
  unfold createIncident
  rw [outcome_bind_of_ok (outcome_get self), after_get]
  simp only [h]
  rfl

/-- It is put at the end. -/
theorem after_createIncident_of_some
    (h : self.configurationItems.get configurationItem = some item) :
    after (createIncident now shortDescription configurationItem urgency description) self =
      { self with
        counter := self.counter + 1
        incidents := self.incidents ++
          [self.nextIncident now shortDescription configurationItem urgency] } := by
  unfold createIncident
  rw [after_bind_of_ok (outcome_get self), after_get]
  simp only [h]
  rfl

end create

/-- The mock backend, at some time. -/
def backend (now : ℚ) : ServiceNow MockServiceNow where
  findConfigurationItem := findConfigurationItem
  searchIncidents := searchIncidents
  createIncident := createIncident now

end MockServiceNow

/-! ## Choosing a backend -/

/-- A backend object. -/
inductive Backend where
  | mock (store : MockServiceNow)
  | live (client : LiveServiceNow)

/-- The two choices of `build`. -/
inductive BackendChoice where
  | mock
  | live
  deriving DecidableEq

/-- Source: `servicenow.py`, `build`. -/
def Backend.build (environ : String → Option String) : BackendChoice → Except ToolError Backend
  | .live => (LiveServiceNow.fromEnvironment environ).map .live
  | .mock => .ok (.mock MockServiceNow.new)

end GovernedMcp
