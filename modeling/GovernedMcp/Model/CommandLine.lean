import GovernedMcp.Model.DevIdp

/-!
# The command line

`server.py`, run as a program: it prints a key or a token, or builds a server and hands it to
`uvicorn`. Where that raises, an operator's mistake is told on one line.

The parsed arguments are the fields of `Arguments`. What the program starts from is a process that
has imported the module.
-/

namespace GovernedMcp

open Lib Stateful

/-- The arguments, parsed. -/
structure Arguments where
  host : String := "127.0.0.1"
  port : ℤ := 8000
  auth : AuthMode := .off
  shadow : Bool := false
  servicenow : BackendChoice := .mock
  printToken : Option (List String) := none
  printStateKey : Bool := false

/-- How the program ends, or that it does not. -/
inductive Exit (σ : Type) where
  /-- It prints a text, and exits with status 0. -/
  | printed (text : String)
  /-- `SystemExit(message)`. -/
  | message (message : String)
  /-- Any other exception. -/
  | traceback (message : String)
  /-- It serves, with this server in the process. -/
  | serves (server : McpServer) (process : Process σ) (host : String) (port : ℤ)

namespace DevIdp

variable {κ π : Type} [Cryptography κ π] [PyJwt κ π]

/-- What `create_server` looks at of a provider. -/
def Provider.published (self : Provider κ) : DevIdentityProvider where
  issuer := self.issuer
  audience := self.audience
  jwks := .dict [("keys", .list (self.jwks.keys.map .dict))]

end DevIdp

namespace Arguments

open DevIdp

variable {κ π : Type} [Cryptography κ π] [PyJwt κ π]

/-- The keyword arguments that `create_server` is called with. -/
def options (self : Arguments) (idp : Option (Provider κ)) : ServerOptions where
  authMode := self.auth
  devIdp := idp.map Provider.published
  resourceUrl := s!"http://{self.host}:{self.port}/mcp"
  enforce := !self.shadow
  servicenowBackend := self.servicenow

end Arguments

/-- What an exception of `create_server` makes of the program. -/
def exitOf {σ : Type} : StartupError → Exit σ
  | .serviceNow (.serviceNow message) => .message s!"startup failed: {message}"
  | .policy e => .message s!"startup failed: {e.message}"
  | .requestStateKey e => .message s!"startup failed: {e.message}"
  | .systemExit message => .message message
  | .validationError message => .traceback message
  | .osError message => .traceback message
  -- `build` raises none of the others
  | .serviceNow _ => .traceback ""

/-- What a run of the program finds around it: next to what `create_server` finds, the key file of
the identity provider, random bytes, and the time. -/
structure Invoked (κ : Type) where
  around : Surroundings
  /-- What is at `DEV_KEY_PATH`. -/
  keyPath : DevIdp.KeyPath κ
  urandom : ℕ → RequestState.Key
  uuid5 : String → String
  now : ℚ

section program

variable {κ π σ : Type} [Cryptography κ π] [PyJwt κ π] [Interpreter] [Sdk]

/-- `DevIdentityProvider(audience=DEFAULT_AUDIENCE, key_path=DEV_KEY_PATH)`. -/
def Invoked.provider (self : Invoked κ) : Except String (DevIdp.Provider κ) :=
  (DevIdp.loadOrGenerate DevIdp.DEV_KEY_PATH self.keyPath).map DevIdp.commandLineProvider

/-- The provider, with `--auth dev`. -/
def Invoked.idp (self : Invoked κ) (args : Arguments) :
    Except String (Option (DevIdp.Provider κ)) :=
  match args.auth with
  | .dev => self.provider.map some
  | _ => .ok none

/-- `app = create_server(...)`, and what follows. -/
def launch (process : Process σ) (around : Surroundings) (options : ServerOptions) (host : String)
    (port : ℤ) : Exit σ :=
  let later := after (Process.createServer around options) process
  match outcome (Process.createServer around options) process with
  | .ok server => .serves server later host port
  | .error e => exitOf e

/-- The program. Source: `server.py`, `__main__`. -/
def program (self : Invoked κ) (process : Process σ) (args : Arguments) : Exit σ :=
  if args.printStateKey then .printed (RequestState.generateKey self.urandom)
  else
    match self.idp args with
    | .error message => .traceback message
    | .ok idp =>
      match args.printToken, idp with
      | some _, none => .message "--print-token requires --auth dev"
      | some roles, some idp =>
        match idp.issue self.uuid5 self.now { roles := some roles } with
        | .ok token => .printed token
        | .error message => .traceback message
      | none, idp => launch process self.around (args.options idp) args.host args.port

end program

/-! ## Who is verified -/

/-- The key set that was published: the members of `keys`. -/
def StaticJwks.ofJson : Json → StaticJwks
  | .dict entries =>
    match Value.get "keys" entries with
    | .list keys => ⟨keys.filterMap Value.asMapping⟩
    | _ => ⟨[]⟩
  | _ => ⟨[]⟩

namespace McpServer

/-- The verifier of a server that has its keys in memory, at some time. -/
def verifier (κ : Type) {π : Type} [Interpreter] [PyJwt κ π] (self : McpServer) (now : ℚ) :
    Option (Verifier.EntraTokenVerifier π) :=
  match self.auth with
  | some (⟨issuer, audience, .staticJwks jwks⟩, _) =>
    some
      { issuer
        audience
        keyFor := (StaticJwks.ofJson jwks).keyFor κ
        decode := PyJwt.decode κ now
        allowed := fun _ h => h }
  | _ => none

/-- A token is verified, to what is known of its bearer, and has the scopes that the server asks
for. What else the SDK may look at is not said here. -/
def VerifiesWithScopes (κ : Type) {π : Type} [Interpreter] [PyJwt κ π] (self : McpServer) (now : ℚ)
    (token : String) (t : AccessToken) : Prop :=
  ∃ verifier, self.verifier κ now = some verifier ∧
    (Verifier.verifyToken verifier token).value = .ok (some t) ∧
    ∀ arguments settings, self.auth = some (arguments, settings) →
      ∀ scope ∈ settings.requiredScopes, scope ∈ t.scopes

end McpServer

end GovernedMcp
