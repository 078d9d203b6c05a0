import GovernedMcp.Lib.Machine
import GovernedMcp.Model.Middleware
import GovernedMcp.Model.RequestState
import GovernedMcp.Model.Server

/-!
# Servers in one process

`server.py` at the level of the module: the ServiceNow backend in use is one variable of the module,
which `create_server` rebinds and every tool reads.

* `createServer` goes through the steps of `create_server` in their order, any of which may raise.
* A `Process` holds every backend object built so far, the address of the one in use, and the
  servers that were returned.
* `Process.step`: a call of `create_server`, an access to the module attribute `mcp`, or a call of a
  ServiceNow tool through one of the servers. A call that the server's middleware refuses reaches no
  tool and is not one of these.

The file system, the environment and the checks of the SDK's constructors are parameters.
-/

namespace GovernedMcp

open Lib Stateful

/-! ## What `create_server` is called with -/

/-- Source: `server.py`, `AuthMode`. -/
inductive AuthMode where
  | off
  | dev
  | entra
  deriving DecidableEq

def DEFAULT_AUDIENCE : String := "api://governed-mcp-server"

def DEFAULT_RESOURCE_URL : String := "http://127.0.0.1:8000/mcp"

/-- The coarse gate at the transport layer. Source: `server.py`, `REQUIRED_SCOPES`. -/
def REQUIRED_SCOPES : List String := ["mcp.invoke"]

/-- Source: `devidp.py`, `DEV_ISSUER`. -/
def DEV_ISSUER : String :=
  "https://login.microsoftonline.local/00000000-0000-0000-0000-000000000000/v2.0"

/-- Source: `devidp.py`, `DevIdentityProvider`. -/
structure DevIdentityProvider where
  issuer : String := DEV_ISSUER
  audience : String
  /-- What `jwks()` publishes. -/
  jwks : Json

/-- The parameters of `create_server`. -/
structure ServerOptions where
  authMode : AuthMode := .off
  policyPath : Option String := some "policy.yaml"
  devIdp : Option DevIdentityProvider := none
  resourceUrl : String := DEFAULT_RESOURCE_URL
  audience : String := DEFAULT_AUDIENCE
  enforce : Bool := true
  servicenowBackend : BackendChoice := .mock

/-- What reading a policy file comes to. -/
inductive PolicyFile where
  | notFound
  | notYaml (message : String)
  | unreadable (message : String)
  | document (raw : Yaml)

/-- What a call of `create_server` finds around it. -/
structure Surroundings where
  environ : String → Option String
  files : String → PolicyFile
  /-- The key set of an identity provider that is generated for the call. -/
  generatedJwks : Json

/-! ## What it builds -/

/-- Where signing keys come from. -/
inductive KeySource where
  | staticJwks (jwks : Json)
  | jwksEndpoint (uri : String)

/-- What the verifier is constructed with. -/
structure VerifierArguments where
  issuer : String
  audience : String
  keySource : KeySource

/-- The SDK's `AuthSettings`. -/
structure AuthSettings where
  issuerUrl : String
  resourceServerUrl : String
  requiredScopes : List String

/-- The constructors of the SDK validate what they are given: the text of what they raise. -/
class Sdk where
  refusesSettings : AuthSettings → Option String
  refusesServer : Option (VerifierArguments × AuthSettings) →
    RequestState.RequestStateSecurity → Option String

/-- The exceptions of `create_server`. -/
inductive StartupError where
  | systemExit (message : String)
  | validationError (message : String)
  | requestStateKey (e : RequestState.RequestStateKeyError)
  | serviceNow (e : ToolError)
  | policy (e : PolicyError)
  | osError (message : String)
  deriving DecidableEq

/-- The address of a backend object. -/
abbrev BackendRef := ℕ

/-- What `create_server` returns. -/
structure McpServer where
  auth : Option (VerifierArguments × AuthSettings)
  requestState : RequestState.RequestStateSecurity
  middleware : Option PolicyEnforcementMiddleware
  /-- The backend that the call has built. No tool looks at it. -/
  built : BackendRef

/-! ## The steps of `create_server` -/

/-- Raises what a constructor raises. -/
def raiseValidation : Option String → Except StartupError Unit
  | some message => .error (.validationError message)
  | none => .ok ()

/-- Source: `verifier.py`, `entra_issuer`. -/
def entraIssuer (tenantId : String) : String :=
  s!"https://login.microsoftonline.com/{tenantId}/v2.0"

/-- Source: `verifier.py`, `entra_jwks_uri`. -/
def entraJwksUri (tenantId : String) : String :=
  s!"https://login.microsoftonline.com/{tenantId}/discovery/v2.0/keys"

/-- The verifier and the settings of the mode. -/
def authenticationOf [Sdk] (around : Surroundings) (options : ServerOptions) :
    Except StartupError (Option (VerifierArguments × AuthSettings)) :=
  match options.authMode with
  | .off => .ok none
  | .dev => do
    let idp := options.devIdp.getD { audience := options.audience, jwks := around.generatedJwks }
    let settings : AuthSettings := ⟨idp.issuer, options.resourceUrl, REQUIRED_SCOPES⟩
    raiseValidation (Sdk.refusesSettings settings)
    return some (⟨idp.issuer, idp.audience, .staticJwks idp.jwks⟩, settings)
  | .entra =>
    let tenantId := (around.environ "MCP_ENTRA_TENANT_ID").getD ""
    if tenantId = "" then
      .error (.systemExit "auth mode 'entra' requires MCP_ENTRA_TENANT_ID to be set")
    else do
      let audience := (around.environ "MCP_RESOURCE_AUDIENCE").getD options.audience
      let resourceUrl := (around.environ "MCP_RESOURCE_URL").getD options.resourceUrl
      let settings : AuthSettings := ⟨entraIssuer tenantId, resourceUrl, REQUIRED_SCOPES⟩
      raiseValidation (Sdk.refusesSettings settings)
      return some (⟨entraIssuer tenantId, audience, .jwksEndpoint (entraJwksUri tenantId)⟩,
        settings)

/-- `request_state.build()`. -/
def requestStateOf (around : Surroundings) :
    Except StartupError RequestState.RequestStateSecurity :=
  (RequestState.build (around.environ RequestState.ENV_KEYS) none 600).value.mapError
    .requestStateKey

/-- `servicenow.build(servicenow_backend)`. -/
def backendOf (around : Surroundings) (options : ServerOptions) : Except StartupError Backend :=
  (Backend.build around.environ options.servicenowBackend).mapError .serviceNow

/-- The path is the text of the `Path`. Source: `policy.py`, `Policy.load`. -/
def Policy.load [Interpreter] (files : String → PolicyFile) (path : String) :
    Except StartupError Policy :=
  match files path with
  | .notFound => .error (.policy ⟨s!"policy file not found: {path}"⟩)
  | .notYaml message => .error (.policy ⟨s!"policy file is not valid YAML: {path}: {message}"⟩)
  | .unreadable message => .error (.osError message)
  | .document raw => (Policy.fromMapping raw path).mapError .policy

/-- The middleware, of a server that authenticates and has a policy. -/
def middlewareOf [Interpreter] (around : Surroundings) (options : ServerOptions) :
    Except StartupError (Option PolicyEnforcementMiddleware) :=
  match options.authMode, options.policyPath with
  | .off, _ => .ok none
  | _, none => .ok none
  | _, some path => do
    let policy ← Policy.load around.files path
    return some { policy, enforce := options.enforce }

/-! ## The process -/

/-- A process that has imported `server`; `σ` is the state of the instances behind the network. -/
structure Process (σ : Type) where
  /-- Every backend object built so far, by its address. -/
  backends : List Backend
  /-- `SERVICENOW`. -/
  inUse : BackendRef
  inUse_lt : inUse < backends.length
  /-- The servers returned so far, first to last. -/
  servers : List McpServer
  /-- `mcp`, once it has been looked up: a place among the servers. -/
  mcp : Option ℕ
  instances : σ

namespace Process

variable {σ : Type}

/-- After the import: a mock is in use, and no server has been built. -/
def imported (instances : σ) : Process σ where
  backends := [.mock MockServiceNow.new]
  inUse := 0
  inUse_lt := by decide
  servers := []
  mcp := none
  instances

/-- The backend in use. -/
def current (self : Process σ) : Backend := self.backends.get ⟨self.inUse, self.inUse_lt⟩

/-- `SERVICENOW = backend`, for a backend object that has just been built. -/
def rebind (self : Process σ) (backend : Backend) : Process σ :=
  { self with
    backends := self.backends ++ [backend]
    inUse := self.backends.length
    inUse_lt := by simp }

/-- Source: `server.py`, `create_server`. -/
def createServer [Interpreter] [Sdk] (around : Surroundings) (options : ServerOptions) :
    EStateM StartupError (Process σ) McpServer := do
  let auth ← ofExcept (authenticationOf around options)
  let requestState ← ofExcept (requestStateOf around)
  ofExcept (raiseValidation (Sdk.refusesServer auth requestState))
  let backend ← ofExcept (backendOf around options)
  let self ← get
  set (self.rebind backend)
  let middleware ← ofExcept (middlewareOf around options)
  return { auth, requestState, middleware, built := self.backends.length }

end Process

/-! ## One step -/

/-- A tool runs on a backend: what it ends in, the backend object afterwards, and the instances. -/
def Backend.serve [Interpreter] [Calendar] {σ : Type} (transport : Transport σ)
    (shipments : Dict String Shipment) (now : ℚ) (call : Server.Call) :
    Backend → σ → Except ToolError Server.ToolResult × Backend × σ
  | .mock store, instances =>
    let tool := call.run (MockServiceNow.backend now) shipments now
    (outcome tool store, .mock (after tool store), instances)
  | .live client, instances =>
    let tool := call.run (client.backend transport) shipments now
    (outcome tool instances, .live client, after tool instances)

/-- What can happen in the process. -/
inductive Op where
  | createServer (around : Surroundings) (options : ServerOptions)
  /-- A look at the module attribute `mcp`. -/
  | mcp (around : Surroundings)
  /-- A tool is called through one of the servers. -/
  | call (server : ℕ) (now : ℚ) (call : Server.Call)

/-- What comes of it. -/
inductive Answer where
  | server (place : ℕ)
  | raised (e : StartupError)
  | result (result : Except ToolError Server.ToolResult)
  | noServer

namespace Process

variable {σ : Type}

/-- The tool runs on the backend in use. -/
def callTool [Interpreter] [Calendar] (transport : Transport σ) (shipments : Dict String Shipment)
    (self : Process σ) (now : ℚ) (call : Server.Call) :
    Except ToolError Server.ToolResult × Process σ :=
  let served := self.current.serve transport shipments now call self.instances
  (served.1,
    { self with
      backends := self.backends.set self.inUse served.2.1
      inUse_lt := by simpa using self.inUse_lt
      instances := served.2.2 })

/-- A call of `create_server`, whose caller keeps the server. -/
def build [Interpreter] [Sdk] (self : Process σ) (around : Surroundings) (options : ServerOptions) :
    Answer × Process σ :=
  let later := after (createServer around options) self
  match outcome (createServer around options) self with
  | .ok server =>
    (.server later.servers.length, { later with servers := later.servers ++ [server] })
  | .error e => (.raised e, later)

/-- Source: `server.py`, `__getattr__`. -/
def lookupMcp [Interpreter] [Sdk] (self : Process σ) (around : Surroundings) : Answer × Process σ :=
  match self.mcp with
  | some place => (.server place, self)
  | none =>
    match self.build around {} with
    | (.server place, later) => (.server place, { later with mcp := some place })
    | (answer, later) => (answer, later)

variable [Interpreter] [Calendar] [Sdk]

/-- One thing happens. -/
def step (transport : Transport σ) (shipments : Dict String Shipment) (self : Process σ) :
    Op → Answer × Process σ
  | .createServer around options => self.build around options
  | .mcp around => self.lookupMcp around
  | .call server now call =>
    match self.servers[server]? with
    | none => (.noServer, self)
    | some _ =>
      let called := self.callTool transport shipments now call
      (.result called.1, called.2)

/-- The process as a machine. -/
def machine (transport : Transport σ) (shipments : Dict String Shipment) :
    Machine (Process σ) Op Answer where
  answer self op := (self.step transport shipments op).1
  next self op := (self.step transport shipments op).2

end Process

end GovernedMcp
