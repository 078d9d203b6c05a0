import GovernedMcp.Lib.Machine
import GovernedMcp.Model.Shipments
import GovernedMcp.Enforcement.Plan

/-!
# A server at work

What `create_server` puts together, request after request: the middleware, behind it the SDK's
dispatch to the six tools and the resource, and behind these the ServiceNow backend with its state.

* `Invocation` is a call of a tool, once the SDK has validated the arguments; `workOf` reads it off
  a request.
* `Deployment`: the parts of a server. `Deployment.handle` is what it does with a request in some
  state of the backend, and `Deployment.effect` the state it leaves.
* A request is taken as the SDK's outer layers, which authenticate the caller and open the state of
  a retry, pass it on.

The SDK's validation is the class `Signatures`; how it puts the outcome of a tool into a response,
and what it answers by itself, are fields of the deployment.
-/

namespace GovernedMcp

open Lib Stateful

namespace Server

/-- A call of a tool. -/
inductive Invocation where
  | getShipmentStatus (shipmentId : String)
  | listDelayedShipments (thresholdHours : ℤ)
  | serviceNow (call : Call)
  deriving DecidableEq

/-- The SDK's validation of the arguments, for each signature there is; `none` where it refuses
them. -/
class Signatures where
  /-- `(shipment_id: str)` -/
  shipmentId : Json → Option String
  /-- `(threshold_hours: int = 24)` -/
  thresholdHours : Json → Option ℤ
  /-- `(configuration_item: str = "", limit: int = 10)` -/
  search : Json → Option (String × ℤ)
  /-- `(name: str)` -/
  itemName : Json → Option String
  /-- `(shipment_id: str, urgency: str = "3")` -/
  raise : Json → Option (String × String)
  /-- The parameter of the template `shipment://{shipment_id}`. -/
  shipmentUri : String → Option String

/-- The tools that `create_server` registers, each under the name of its function. -/
def invocationOf [Signatures] (tool : String) (arguments : Json) : Option Invocation :=
  if tool = "get_shipment_status" then
    (Signatures.shipmentId arguments).map .getShipmentStatus
  else if tool = "list_delayed_shipments" then
    (Signatures.thresholdHours arguments).map .listDelayedShipments
  else if tool = "search_incidents" then
    (Signatures.search arguments).map fun a => .serviceNow (.searchIncidents a.1 a.2)
  else if tool = "get_configuration_item" then
    (Signatures.itemName arguments).map fun name => .serviceNow (.getConfigurationItem name)
  else if tool = "assess_shipment_delay" then
    (Signatures.shipmentId arguments).map fun id => .serviceNow (.assessShipmentDelay id)
  else if tool = "raise_shipment_incident" then
    (Signatures.raise arguments).map fun a => .serviceNow (.raiseShipmentIncident a.1 a.2)
  else none

/-- What a tool returns. -/
inductive Output where
  | status (status : ShipmentStatus)
  | delayed (shipments : List DelayedShipment)
  | result (result : ToolResult)

/-- The exceptions of a tool. -/
inductive ToolFailure where
  | tool (e : ToolError)
  | overflow (e : OverflowError)
  deriving DecidableEq

section perform

variable [Calendar] {σ : Type} (sn : ServiceNow σ) (shipments : Dict String Shipment) (now : ℚ)

/-- What a call of a tool ends in. -/
def Invocation.outcome (s : σ) : Invocation → Except ToolFailure Output
  | .getShipmentStatus shipmentId =>
    ((Server.getShipmentStatus shipments shipmentId).map .status).mapError .tool
  | .listDelayedShipments thresholdHours =>
    ((Server.listDelayedShipments shipments now thresholdHours).map .delayed).mapError .overflow
  | .serviceNow call =>
    ((Stateful.outcome (call.run sn shipments now) s).map .result).mapError .tool

/-- The state it leaves the backend in. -/
def Invocation.after (s : σ) : Invocation → σ
  | .serviceNow call => Stateful.after (call.run sn shipments now) s
  | _ => s

end perform

end Server

/-- A request, as it reaches the middleware. -/
structure Arrival where
  ctx : Ctx
  ambient : Ambient
  now : ℚ

/-- A server, over backends with state `σ`. -/
structure Deployment (σ ε : Type) where
  /-- None where authentication is off, or there is no policy. -/
  middleware : Option PolicyEnforcementMiddleware
  shipments : Dict String Shipment
  /-- The backend, at some time. -/
  backend : ℚ → ServiceNow σ
  /-- The SDK's response to a call of a tool. -/
  reply : Ctx → Except Server.ToolFailure Server.Output → Except ε HandlerResult
  /-- The SDK's response to a read of the resource. -/
  contents : Ctx → String → Except ε HandlerResult
  /-- What the SDK answers by itself: listings, unknown tools, arguments that do not validate. -/
  elsewhere : Ctx → Except ε HandlerResult

namespace Deployment

variable [Interpreter] [Calendar] [Server.Signatures] {σ ε : Type}

/-- The call of a tool that a request makes. The SDK accepts nothing but a text as the name. -/
def workOf (ctx : Ctx) : Option Server.Invocation :=
  if ctx.method = some "tools/call" then
    match Value.get "name" (PolicyEnforcementMiddleware.paramsOf ctx) with
    | .str tool => Server.invocationOf tool (PolicyEnforcementMiddleware.argumentsOf ctx)
    | _ => none
  else none

/-- The shipment whose resource a request reads. -/
def resourceOf (ctx : Ctx) : Option String :=
  if ctx.method = some "resources/read" then
    Server.Signatures.shipmentUri (PolicyEnforcementMiddleware.uriOf ctx)
  else none

variable (self : Deployment σ ε)

/-- What is behind the middleware, in some state of the backend. -/
def handler (now : ℚ) (s : σ) (ctx : Ctx) : Except ε HandlerResult :=
  match workOf ctx with
  | some call => self.reply ctx (call.outcome (self.backend now) self.shipments now s)
  | none =>
    match resourceOf ctx with
    | some shipmentId => self.contents ctx (Server.shipmentDetail self.shipments shipmentId)
    | none => self.elsewhere ctx

/-- The state that a request leaves behind which has got through the middleware. -/
def effect (now : ℚ) (s : σ) (ctx : Ctx) : σ :=
  match workOf ctx with
  | some call => call.after (self.backend now) self.shipments now s
  | none => s

/-- What the server does with a request. -/
def handle (s : σ) (a : Arrival) : Handling ε Response :=
  match self.middleware with
  | some middleware => middleware.call a.ambient (self.handler a.now s) a.ctx
  | none => PolicyEnforcementMiddleware.forward (self.handler a.now s) a.ctx

/-- The server as a machine. The backend is used by whatever reaches `call_next`. -/
def machine : Machine σ Arrival (Handling ε Response) where
  answer s a := self.handle s a
  next s a := (forwardedOf (self.handle s a).events).foldl (self.effect a.now) s

/-- The same server behind a middleware, or without one. -/
def governedBy (middleware : PolicyEnforcementMiddleware) : Deployment σ ε :=
  { self with middleware := some middleware }

def ungoverned : Deployment σ ε := { self with middleware := none }

end Deployment

end GovernedMcp
