import Mathlib.Data.List.Forall2
import GovernedMcp.Lib.SortedSet
import GovernedMcp.Enforcement.Plan

/-!
# Argument values stay out of the audit trail

Names of arguments are recorded, values are not. Two runs of tool calls are compared that differ in
nothing but values: whoever reads the trail cannot tell them apart.

* `SameButValues`: two requests whose params have the same members, but for the values in
  `arguments`.
* `toolPlan_congr`: their plans have the same records, and verdicts of the same kind. Only the
  question put to the human shows the values.
* **`auditTrail_independent`**: the records of two such runs are the same, and each call ends the
  same way.
-/

namespace GovernedMcp

open Lib PolicyEnforcementMiddleware

/-! ## How a call can end -/

/-- The three ways through the guard of tool calls. -/
inductive Branch where
  | callNext
  | inputRequired
  | denied
  deriving DecidableEq

/-- The way that a call of the middleware took, as it shows from outside. -/
def branchOf {ε : Type} (handling : Handling ε Response) : Option Branch :=
  if forwardedOf handling.events ≠ [] then some .callNext
  else
    match handling.value with
    | .ok (.inputRequired _) => some .inputRequired
    | .error (.mcpError e) => if e.code = AUTHORIZATION_DENIED then some .denied else none
    | _ => none

/-- The way that a verdict takes. -/
def Verdict.branch : Verdict → Option Branch
  | .forward => some .callNext
  | .pause _ => some .inputRequired
  | .refuse e => if e.code = AUTHORIZATION_DENIED then some .denied else none

/-- Going on is calling the handler. -/
@[simp] theorem Verdict.branch_forward : Verdict.forward.branch = some .callNext := rfl

/-- A pause is a request for input. -/
@[simp] theorem Verdict.branch_pause (asked : InputRequiredResult) :
    (Verdict.pause asked).branch = some .inputRequired := rfl

/-- A refusal with the code of a denial is one. -/
theorem Verdict.branch_refuse {e : MCPError} (h : e.code = AUTHORIZATION_DENIED) :
    (Verdict.refuse e).branch = some .denied := if_pos h

/-- What is seen of a plan is its verdict. -/
theorem branchOf_run {ε : Type} (plan : Plan) (handler : Ctx → Except ε HandlerResult) (ctx : Ctx) :
    branchOf (plan.run handler ctx) = plan.verdict.branch := by
  unfold branchOf
  rw [Plan.forwardedOf_run, Plan.value_run]
  rcases hverdict : plan.verdict with _ | asked | e
  · simp [Verdict.branch]
  · simp [Verdict.branch]
  · simp [Verdict.branch]

/-! ## Requests that differ in values only -/

/-- The same value, or two mappings with the same names. -/
def SameNames (arguments arguments' : Json) : Prop :=
  arguments = arguments' ∨ ∃ entries entries', arguments = .dict entries ∧
    arguments' = .dict entries' ∧ (entries.map Prod.fst).Perm (entries'.map Prod.fst)

/-- Two requests that are the same but for the values in `arguments`. -/
structure SameButValues (ctx ctx' : Ctx) : Prop where
  method : ctx.method = ctx'.method
  protocolVersion : ctx.protocolVersion = ctx'.protocolVersion
  members : ∀ name, name ≠ "arguments" →
    Dict.lookup name (paramsOf ctx) = Dict.lookup name (paramsOf ctx')
  arguments : SameNames (argumentsOf ctx) (argumentsOf ctx')

/-- **A record shows the names** of the arguments and nothing else of them. -/
theorem record_congr {arguments arguments' : Json} (h : SameNames arguments arguments')
    (principal method : String) (decision : Decision) (protocolVersion outcome : Option String) :
    Audit.record principal method decision arguments.asMapping protocolVersion outcome =
      Audit.record principal method decision arguments'.asMapping protocolVersion outcome := by
  rcases h with rfl | ⟨entries, entries', rfl, rfl, hnames⟩
  · rfl
  · unfold Audit.record Value.asMapping
    simp only [Option.map_some, insertionSort_eq_of_perm hnames]

section plans

variable [Interpreter] {self : PolicyEnforcementMiddleware} {ambient ambient' : Ambient}
  {ctx ctx' : Ctx}

omit [Interpreter] in
/-- All members but the arguments are the same. -/
theorem SameButValues.get_eq (h : SameButValues ctx ctx') {name : String}
    (hname : name ≠ "arguments") :
    Value.get name (paramsOf ctx) = Value.get name (paramsOf ctx') := by
  unfold Value.get
  rw [h.members name hname]

/-- So is the tool. -/
theorem SameButValues.toolOf_eq (h : SameButValues ctx ctx') : toolOf ctx = toolOf ctx' := by
  unfold toolOf Value.getOr
  rw [h.members "name" (by decide)]

omit [Interpreter] in
/-- The gate sees the same state and the same answers. -/
theorem SameButValues.gateOf_eq (h : SameButValues ctx ctx') (tool : String) :
    gateOf (paramsOf ctx) tool = gateOf (paramsOf ctx') tool := by
  have hanswers : answersOf (paramsOf ctx) = answersOf (paramsOf ctx') := by
    unfold answersOf
    rw [h.get_eq (by decide), h.get_eq (by decide)]
  have hstate : stateOf (paramsOf ctx) = stateOf (paramsOf ctx') := by
    unfold stateOf
    rw [h.get_eq (by decide), h.get_eq (by decide)]
  unfold gateOf
  rw [hanswers, hstate]

/-- **What is settled for two such requests**, by the same caller: the same records, and the same
kind of verdict. -/
theorem toolPlan_congr (h : SameButValues ctx ctx')
    (htoken : ambient.accessToken = ambient'.accessToken) :
    (self.toolPlan ambient ctx).records = (self.toolPlan ambient' ctx').records ∧
      (self.toolPlan ambient ctx).verdict.branch =
        (self.toolPlan ambient' ctx').verdict.branch := by
  have hprincipal : principal ambient = principal ambient' := by
    unfold principal
    rw [htoken]
  have hdecision : self.toolDecision ambient ctx = self.toolDecision ambient' ctx' := by
    unfold toolDecision roles
    rw [htoken, h.toolOf_eq]
  have hrecord : self.toolRecord ambient ctx = self.toolRecord ambient' ctx' := by
    unfold toolRecord
    rw [hprincipal, hdecision, h.protocolVersion]
    exact record_congr h.arguments _ _ _ _ _
  unfold toolPlan gatePlan
  rw [hdecision, hrecord, hprincipal, h.toolOf_eq, h.gateOf_eq]
  split_ifs
  · exact ⟨rfl, rfl⟩
  · -- the gate settles the same way; only its question may differ
    rcases gateOf (paramsOf ctx') (toolOf ctx') with _ | reason | _
    · simp only [Verdict.branch_pause, and_self]
    · exact ⟨rfl, rfl⟩
    · exact ⟨rfl, rfl⟩
  · exact ⟨rfl, rfl⟩

end plans

/-! ## Runs -/

/-- A call of a tool, with the surroundings it arrives in and the handler behind the middleware. -/
structure ToolRequest (ε : Type) where
  ambient : Ambient
  handler : Ctx → Except ε HandlerResult
  ctx : Ctx
  method : ctx.method = some "tools/call"

section runs

variable [Interpreter] {ε : Type} (self : PolicyEnforcementMiddleware)

namespace ToolRequest

/-- What the middleware does with the call. -/
def handle (call : ToolRequest ε) : Handling ε Response :=
  self.call call.ambient call.handler call.ctx

/-- The records of the call. -/
def records (call : ToolRequest ε) : List Audit.Record := recordsOf (call.handle self).events

/-- How the call ends. -/
def branch (call : ToolRequest ε) : Option Branch := branchOf (call.handle self)

/-- Two calls by one caller that differ in argument values, and in what the caller cannot choose:
the nonce that is drawn and the handler that is there. -/
structure Alike (call call' : ToolRequest ε) : Prop where
  accessToken : call.ambient.accessToken = call'.ambient.accessToken
  request : SameButValues call.ctx call'.ctx

variable {self}

/-- The records of a call are those of its plan. -/
theorem records_eq_plan (call : ToolRequest ε) :
    call.records self = (self.toolPlan call.ambient call.ctx).records := by
  unfold records handle
  rw [call_of_toolsCall call.method, Plan.recordsOf_run]

/-- And it takes the branch of its plan. -/
theorem branch_eq_plan (call : ToolRequest ε) :
    call.branch self = (self.toolPlan call.ambient call.ctx).verdict.branch := by
  unfold branch handle
  rw [call_of_toolsCall call.method, branchOf_run]

/-- Every call takes one of the three ways. -/
theorem exists_branch (call : ToolRequest ε) : ∃ b, call.branch self = some b := by
  rw [branch_eq_plan]
  unfold toolPlan gatePlan
  split_ifs
  · exact ⟨.denied, Verdict.branch_refuse rfl⟩
  · rcases gateOf (paramsOf call.ctx) (toolOf call.ctx) with _ | reason | _
    · exact ⟨.inputRequired, Verdict.branch_pause _⟩
    · exact ⟨.denied, Verdict.branch_refuse rfl⟩
    · exact ⟨.callNext, Verdict.branch_forward⟩
  · exact ⟨.callNext, Verdict.branch_forward⟩

/-- Calls that are alike leave the same records. -/
theorem Alike.records_eq {call call' : ToolRequest ε} (h : Alike call call') :
    call.records self = call'.records self := by
  rw [records_eq_plan, records_eq_plan]
  exact (toolPlan_congr h.request h.accessToken).1

/-- And they take the same branch. -/
theorem Alike.branch_eq {call call' : ToolRequest ε} (h : Alike call call') :
    call.branch self = call'.branch self := by
  rw [branch_eq_plan, branch_eq_plan]
  exact (toolPlan_congr h.request h.accessToken).2

end ToolRequest

/-- The audit stream of a run. -/
def trailOf (calls : List (ToolRequest ε)) : List Audit.Record :=
  recordsOf (calls.flatMap fun call => (call.handle self).events)

/-- How the calls of a run end, in order. -/
def branchesOf (calls : List (ToolRequest ε)) : List (Option Branch) :=
  calls.map (ToolRequest.branch self)

/-- The trail of a run begins with the records of its first call. -/
theorem trailOf_cons (call : ToolRequest ε) (calls : List (ToolRequest ε)) :
    trailOf self (call :: calls) = call.records self ++ trailOf self calls := by
  simp [trailOf, recordsOf, ToolRequest.records]

/-- **Argument values never reach the audit trail**, and decide nothing: two runs of calls that
differ in them leave the same records, and each call ends the same way. Source: `audit.py`,
`record`, and `middleware.py`, `_guard_tool_call` and `_check_approval`. -/
theorem auditTrail_independent (self : PolicyEnforcementMiddleware)
    {calls calls' : List (ToolRequest ε)} (h : List.Forall₂ ToolRequest.Alike calls calls') :
    trailOf self calls = trailOf self calls' ∧ branchesOf self calls = branchesOf self calls' ∧
      ∀ branch ∈ branchesOf self calls, branch ≠ none := by
  refine ⟨?_, ?_, ?_⟩
  · induction h with
    | nil => rfl
    | cons halike _ ih => rw [trailOf_cons, trailOf_cons, halike.records_eq, ih]
  · induction h with
    | nil => rfl
    | cons halike _ ih =>
      unfold branchesOf at ih ⊢
      rw [List.map_cons, List.map_cons, halike.branch_eq, ih]
  · intro branch hmem
    obtain ⟨call, -, rfl⟩ := List.mem_map.mp hmem
    obtain ⟨b, hb⟩ : ∃ b, call.branch self = some b := call.exists_branch
    rw [hb]
    exact Option.some_ne_none b

end runs

/-! ## Two calls -/

/-- An operator asks for an incident of some urgency. -/
def incidentOfUrgency (urgency : String) : ToolRequest Unit where
  ambient := ⟨some (Verifier.tokenOf "olga" "tlo.operator"), "n1"⟩
  handler _ := .ok (.value .none)
  ctx := ⟨some "tools/call", .dict [("name", .str "raise_shipment_incident"),
    ("arguments", .dict [("shipment_id", .str "SHP-1004"), ("urgency", .str urgency)])], none⟩
  method := rfl

/-- Calls with different urgencies differ in a value only. -/
theorem sameButValues_incidentOfUrgency (urgency urgency' : String) :
    SameButValues (incidentOfUrgency urgency).ctx (incidentOfUrgency urgency').ctx where
  method := rfl
  protocolVersion := rfl
  members := by
    intro name hname
    simp [paramsOf, incidentOfUrgency, Value.asMapping, Dict.lookup, hname.symm]
  arguments := by
    right
    refine ⟨[("shipment_id", .str "SHP-1004"), ("urgency", .str urgency)],
      [("shipment_id", .str "SHP-1004"), ("urgency", .str urgency')], ?_, ?_, List.Perm.refl _⟩
    · simp [argumentsOf, paramsOf, incidentOfUrgency, Value.asMapping, Value.get_cons]
    · simp [argumentsOf, paramsOf, incidentOfUrgency, Value.asMapping, Value.get_cons]

/-- Whatever the urgency, the trail is the same. -/
theorem auditTrail_independent_urgency :
    @trailOf plainInterpreter Unit (enforcing Policy.incidentPolicy) [incidentOfUrgency "1"] =
      @trailOf plainInterpreter Unit (enforcing Policy.incidentPolicy) [incidentOfUrgency "3"] :=
  (@auditTrail_independent plainInterpreter Unit (enforcing Policy.incidentPolicy)
    [incidentOfUrgency "1"] [incidentOfUrgency "3"]
    (.cons ⟨rfl, sameButValues_incidentOfUrgency "1" "3"⟩ .nil)).1

end GovernedMcp
