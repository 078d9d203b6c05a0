import GovernedMcp.Lib.Traced
import GovernedMcp.Model.Approval
import GovernedMcp.Model.Audit
import GovernedMcp.Model.Verifier

/-!
# Policy enforcement as server middleware

`governance/middleware.py`: every inbound request passes `call` before it is dispatched. Two methods
are guarded, `tools/list` is filtered, and everything else goes through untouched.

* One call of the middleware is a `Traced` computation. Its events are the audit records it wrote
  and the invocations of `call_next`, in order; it ends in a response or in an exception.
* `call_next` is a parameter, the function `handler`. An exception of the handler is passed on
  (`Raised.handler`) and is told apart from one the middleware raises itself (`Raised.mcpError`).
* What a request reads from its surroundings, the token of the caller and the nonce that a pending
  state draws, is an argument of type `Ambient`.
-/

namespace GovernedMcp

open Lib

/-- "You may not do this", apart from "that did not work". Source: `middleware.py`,
`AUTHORIZATION_DENIED`. -/
def AUTHORIZATION_DENIED : ℤ := -32003

/-- The request as the middleware receives it. An attribute it does not carry reads as `None`. -/
structure Ctx where
  method : Option String
  params : Json
  protocolVersion : Option String
  deriving DecidableEq

/-- What one request reads from its surroundings. -/
structure Ambient where
  /-- `get_access_token()`. -/
  accessToken : Option AccessToken
  /-- What `secrets.token_urlsafe(9)` draws for this request. -/
  nonce : String

/-- A JSON-RPC error. -/
structure MCPError where
  code : ℤ
  message : String
  data : Json
  deriving DecidableEq

/-- An exception that leaves the middleware: its own, or one the handler raised. -/
inductive Raised (ε : Type) where
  | mcpError (e : MCPError)
  | handler (e : ε)
  deriving DecidableEq

/-- A question to put to a human. -/
structure ElicitRequest where
  message : String
  requestedSchema : Json
  deriving DecidableEq

/-- The answer to a call that has to wait for input. -/
structure InputRequiredResult where
  inputRequests : List (String × ElicitRequest)
  requestState : String
  deriving DecidableEq

/-- A tool of a listing: its name, and its other members. -/
structure Tool where
  name : String
  rest : List (String × Json)

/-- A listing in its model form: the tools, and its other members. -/
structure ListToolsResult where
  tools : List Tool
  rest : List (String × Json)

/-- What a handler returns. -/
inductive HandlerResult where
  | listTools (r : ListToolsResult)
  | value (v : Json)

/-- What the middleware answers: what the handler returned, or a question. -/
inductive Response where
  | result (r : HandlerResult)
  | inputRequired (r : InputRequiredResult)

/-- What can be observed of the middleware at work. -/
inductive Event where
  | record (r : Audit.Record)
  | next (ctx : Ctx)
  deriving DecidableEq

/-- One call of the middleware. -/
abbrev Handling (ε α : Type) := Traced Event (Raised ε) α

/-- Source: `middleware.py`, `PolicyEnforcementMiddleware`. -/
structure PolicyEnforcementMiddleware where
  policy : Policy
  /-- `false` is shadow mode: audit without blocking. -/
  enforce : Bool := true

namespace PolicyEnforcementMiddleware

open Traced

variable [Interpreter] {ε : Type}

/-! ## Helpers -/

/-- Source: `middleware.py`, `_params`. -/
def paramsOf (ctx : Ctx) : List (String × Json) := ctx.params.asMapping.getD []

/-- Source: `middleware.py`, `_tool_name`. -/
def toolName (tool : Json) : String :=
  match tool.asMapping with
  | some entries => (Value.getOr "name" (.str "") entries).toStr
  | none => (tool.attrOr "name" (.str "")).toStr

/-- `str(params.get("name", ""))`. -/
def toolOf (ctx : Ctx) : String := (Value.getOr "name" (.str "") (paramsOf ctx)).toStr

/-- `params.get("arguments")`. -/
def argumentsOf (ctx : Ctx) : Json := Value.get "arguments" (paramsOf ctx)

/-- `str(params.get("uri", ""))`. -/
def uriOf (ctx : Ctx) : String := (Value.getOr "uri" (.str "") (paramsOf ctx)).toStr

/-- `params.get("inputResponses") or params.get("input_responses")`. -/
def answersOf (params : List (String × Json)) : Json :=
  (Value.get "inputResponses" params).orElse (Value.get "input_responses" params)

/-- `params.get("requestState") or params.get("request_state")`. -/
def stateOf (params : List (String × Json)) : Json :=
  (Value.get "requestState" params).orElse (Value.get "request_state" params)

/-- Source: `middleware.py`, `_roles`. -/
def roles (ambient : Ambient) : List String := Verifier.rolesFromToken ambient.accessToken

/-- Source: `middleware.py`, `_principal`. -/
def principal (ambient : Ambient) : String := Verifier.describePrincipal ambient.accessToken

/-- `await call_next(ctx)`. -/
def callNext (handler : Ctx → Except ε HandlerResult) (ctx : Ctx) : Handling ε HandlerResult where
  events := [.next ctx]
  value := match handler ctx with
    | .ok r => .ok r
    | .error e => .error (.handler e)

/-- The guards hand the result of `call_next` on as it is. -/
def forward (handler : Ctx → Except ε HandlerResult) (ctx : Ctx) : Handling ε Response := do
  let result ← callNext handler ctx
  return .result result

/-- The error of a denied request. -/
def accessDenied (decision : Decision) : MCPError where
  code := AUTHORIZATION_DENIED
  message := s!"Access denied for {Interpreter.repr (.str decision.target : Json)}: " ++
    s!"{decision.reason}."
  data := .dict
    [("target", .str decision.target),
      ("required_roles", .list (decision.requiredRoles.map Value.str)),
      ("classification", decision.classification.elim .none Value.str)]

/-- Source: `middleware.py`, `_raise_if_denied`. -/
def raiseIfDenied (self : PolicyEnforcementMiddleware) (decision : Decision) : Handling ε Unit :=
  if decision.allowed || !self.enforce then pure () else raise (.mcpError (accessDenied decision))

/-! ## The approval gate -/

/-- The record of what became of an approval. -/
def approvalRecord (self : PolicyEnforcementMiddleware) (tool principal outcome reason : String) :
    Audit.Record :=
  Audit.record principal "approval"
    { allowed := outcome == "allow"
      reason
      target := tool
      classification := (self.policy.tools.get tool).map Rule.classification }
    none none (some outcome)

/-- Source: `middleware.py`, `_audit_approval`. -/
def auditApproval (self : PolicyEnforcementMiddleware) (tool principal outcome reason : String) :
    Handling ε Unit :=
  emit (.record (self.approvalRecord tool principal outcome reason))

/-- `sorted(arguments.items())`; the keys of a mapping are distinct, so the values are never
compared. -/
def sortedItems (arguments : List (String × Json)) : List (String × Json) :=
  arguments.insertionSort fun a b => a.1 ≤ b.1

/-- `", ".join(f"{k}={v}" ...) or "no arguments"`. -/
def detailOf (arguments : List (String × Json)) : String :=
  let joined := ", ".intercalate ((sortedItems arguments).map fun e => s!"{e.1}={e.2.toStr}")
  if joined = "" then "no arguments" else joined

/-- The prompt of the tool's rule, or the standard one. -/
def promptOf (self : PolicyEnforcementMiddleware) (tool : String) : String :=
  let declared := match self.policy.tools.get tool with
    | some rule => rule.approvalPrompt
    | none => ""
  if declared = "" then s!"Approve running {tool}?" else declared

/-- The text put to the human. -/
def messageOf (self : PolicyEnforcementMiddleware) (tool : String)
    (arguments : List (String × Json)) : String :=
  s!"{self.promptOf tool}\n\n{tool}({detailOf arguments})"

/-- The form the human fills in. -/
def requestedSchema (tool : String) : Json :=
  .dict
    [("type", .str "object"),
      ("properties", .dict
        [("approve", .dict
          [("type", .str "boolean"),
            ("title", .str "Approve"),
            ("description", .str s!"Allow {tool} to run with these arguments.")])]),
      ("required", .list [.str "approve"])]

/-- The question, with a fresh pending state. -/
def question (self : PolicyEnforcementMiddleware) (ambient : Ambient) (tool : String)
    (arguments : List (String × Json)) : InputRequiredResult where
  inputRequests :=
    [(Approval.APPROVAL_KEY,
      { message := self.messageOf tool arguments, requestedSchema := requestedSchema tool })]
  requestState := Approval.newPendingState tool ambient.nonce

/-- Source: `middleware.py`, `_ask_for_approval`. -/
def askForApproval (self : PolicyEnforcementMiddleware) (ambient : Ambient) (tool : String)
    (arguments : List (String × Json)) : Handling ε InputRequiredResult := do
  self.auditApproval tool (principal ambient) "pending" "awaiting human approval"
  return self.question ambient tool arguments

/-- The error of a call that was not approved. -/
def notApproved (tool : String) (reason : Approval.ApprovalError) : MCPError where
  code := AUTHORIZATION_DENIED
  message := s!"{Interpreter.repr (.str tool : Json)} was not approved: {reason.message}."
  data := .dict [("target", .str tool)]

/-- The question that pauses the call, or `none` to proceed.
Source: `middleware.py`, `_check_approval`. -/
def checkApproval (self : PolicyEnforcementMiddleware) (ambient : Ambient)
    (params : List (String × Json)) (tool : String) (arguments : Json) :
    Handling ε (Option InputRequiredResult) :=
  let answers := answersOf params
  let state := stateOf params
  if answers.truthy = false then do
    let asked ← self.askForApproval ambient tool (arguments.asMapping.getD [])
    return some asked
  else
    match Approval.check state answers tool with
    | .error reason => do
      self.auditApproval tool (principal ambient) "deny" reason.message
      raise (.mcpError (notApproved tool reason))
    | .ok () => do
      self.auditApproval tool (principal ambient) "allow" "approved by human"
      return none

/-! ## The interception points -/

/-- Source: `middleware.py`, `_guard_tool_call`. -/
def guardToolCall (self : PolicyEnforcementMiddleware) (ambient : Ambient)
    (handler : Ctx → Except ε HandlerResult) (ctx : Ctx) : Handling ε Response := do
  let tool := toolOf ctx
  let arguments := argumentsOf ctx
  let decision := self.policy.decideTool tool (roles ambient)
  emit (.record (Audit.record (principal ambient) "tools/call" decision arguments.asMapping
    ctx.protocolVersion none))
  self.raiseIfDenied decision
  if decision.requiresApproval && self.enforce then
    let gate ← self.checkApproval ambient (paramsOf ctx) tool arguments
    match gate with
    | some asked => return .inputRequired asked
    | none => forward handler ctx
  else
    forward handler ctx

/-- Source: `middleware.py`, `_guard_resource_read`. -/
def guardResourceRead (self : PolicyEnforcementMiddleware) (ambient : Ambient)
    (handler : Ctx → Except ε HandlerResult) (ctx : Ctx) : Handling ε Response := do
  let decision := self.policy.decideResource (uriOf ctx) (roles ambient)
  emit (.record (Audit.record (principal ambient) "resources/read" decision none
    ctx.protocolVersion none))
  self.raiseIfDenied decision
  forward handler ctx

/-- The tools of a listing that are visible. -/
def keptTools (visible : SortedSet String) (result : HandlerResult) : HandlerResult :=
  match result with
  | .listTools listing =>
    let kept := listing.tools.filter fun t => decide (t.name ∈ visible)
    if kept.length = listing.tools.length then result
    else .listTools { listing with tools := kept }
  | .value v =>
    match v.asMapping with
    | none => result
    | some entries =>
      match Value.get "tools" entries with
      | .list tools =>
        let kept := tools.filter fun t => decide (toolName t ∈ visible)
        if kept.length = tools.length then result
        else .value (.dict (Dict.setEntries "tools" (.list kept) entries))
      | _ => result

/-- Source: `middleware.py`, `_filter_tool_list`. -/
def filterToolList (self : PolicyEnforcementMiddleware) (ambient : Ambient)
    (handler : Ctx → Except ε HandlerResult) (ctx : Ctx) : Handling ε Response := do
  let result ← callNext handler ctx
  if !self.enforce then return .result result
  else return .result (keptTools (self.policy.visibleTools (roles ambient)) result)

/-- Source: `middleware.py`, `PolicyEnforcementMiddleware.__call__`. -/
def call (self : PolicyEnforcementMiddleware) (ambient : Ambient)
    (handler : Ctx → Except ε HandlerResult) (ctx : Ctx) : Handling ε Response :=
  if ctx.method = some "tools/call" then self.guardToolCall ambient handler ctx
  else if ctx.method = some "resources/read" then self.guardResourceRead ambient handler ctx
  else if ctx.method = some "tools/list" then self.filterToolList ambient handler ctx
  else forward handler ctx

end PolicyEnforcementMiddleware

end GovernedMcp
