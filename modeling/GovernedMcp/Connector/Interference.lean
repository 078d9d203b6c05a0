import GovernedMcp.Connector.Assessment
import GovernedMcp.Model.Process

/-!
# Servers that share a backend

Two servers of one process: whose backend does a tool call reach?

* `prepare` is `create_server` up to its backend. `RaisesLate`: the call raises after that, when the
  variable of the module is bound already.
* `Effect` says once what a step does to the process (`effect_step`); the invariants follow from it.
* `ServedBy ref`: a tool call reads and writes the backend at `ref`, and leaves every other one, the
  servers and the variable as they were.
* **`servedByLatest`**: a tool call through any server is served by the backend in use. Unless a
  call raised late and none has returned since, that is the backend of the server returned last, so
  it is the server's own exactly when it is the last one. A call that raises, but not late, changes
  nothing.
* `not_doNotInterfere_of_twoServers`: with two servers, the first one's calls land on the second
  one's backend.
-/

namespace GovernedMcp

open Lib Stateful

namespace Process

variable {σ : Type}

/-! ## Building a server -/

section building

variable [Interpreter] [Sdk]

/-- What `create_server` has when it binds the backend. -/
structure Prepared where
  auth : Option (VerifierArguments × AuthSettings)
  requestState : RequestState.RequestStateSecurity
  backend : Backend

omit [Interpreter] in
/-- `create_server` up to its backend. -/
def prepare (around : Surroundings) (options : ServerOptions) : Except StartupError Prepared := do
  let auth ← authenticationOf around options
  let requestState ← requestStateOf around
  raiseValidation (Sdk.refusesServer auth requestState)
  let backend ← backendOf around options
  return { auth, requestState, backend }

/-- Binding the backend, and what comes after. -/
def finish (around : Surroundings) (options : ServerOptions) (prepared : Prepared) :
    EStateM StartupError (Process σ) McpServer := do
  let self ← get
  set (self.rebind prepared.backend)
  let middleware ← ofExcept (middlewareOf around options)
  return {
    auth := prepared.auth
    requestState := prepared.requestState
    middleware
    built := self.backends.length }

/-- `create_server`, up to the backend and from there on. -/
theorem createServer_eq (around : Surroundings) (options : ServerOptions) :
    (createServer around options : EStateM StartupError (Process σ) McpServer) =
      ofExcept (prepare around options) >>= finish around options := by
  unfold createServer prepare finish
  simp only [ofExcept_bind, bind_assoc]
  rfl

variable {around : Surroundings} {options : ServerOptions} {prepared : Prepared}

/-- The server of a call that goes through. -/
def serverOf (self : Process σ) (prepared : Prepared)
    (middleware : Option PolicyEnforcementMiddleware) : McpServer where
  auth := prepared.auth
  requestState := prepared.requestState
  middleware
  built := self.backends.length

/-- A call that fails before the backend is bound changes nothing. -/
theorem build_of_prepare_error {e : StartupError} (self : Process σ)
    (h : prepare around options = .error e) :
    self.build around options = (.raised e, self) := by
  unfold build
  rw [createServer_eq, h]
  rfl

/-- A call that fails with the policy has bound its backend already. -/
theorem build_of_middleware_error {e : StartupError} (self : Process σ)
    (h : prepare around options = .ok prepared)
    (hmiddleware : middlewareOf around options = .error e) :
    self.build around options = (.raised e, self.rebind prepared.backend) := by
  unfold build
  rw [createServer_eq, h]
  unfold finish
  rw [hmiddleware]
  rfl

/-- A call that succeeds binds its backend and keeps its server. -/
theorem build_of_ok {middleware : Option PolicyEnforcementMiddleware} (self : Process σ)
    (h : prepare around options = .ok prepared)
    (hmiddleware : middlewareOf around options = .ok middleware) :
    self.build around options = (.server self.servers.length,
      { self.rebind prepared.backend with
        servers := self.servers ++ [self.serverOf prepared middleware] }) := by
  unfold build
  rw [createServer_eq, h]
  unfold finish
  rw [hmiddleware]
  rfl

end building

/-! ## The servers and the variable -/

/-- The addresses that the servers have built are in use, and later servers have later ones. -/
structure Addressed (process : Process σ) : Prop where
  built_lt : ∀ server ∈ process.servers, server.built < process.backends.length
  increasing : process.servers.Pairwise fun server server' => server.built < server'.built

/-- The backend in use is that of the server returned last. -/
def UsesLatest (self : Process σ) : Prop :=
  ∀ latest, self.servers.getLast? = some latest → self.inUse = latest.built

/-- After the import there is no server whose address could be out of order. -/
theorem addressed_imported (instances : σ) : Addressed (imported instances) :=
  ⟨by simp [imported], by simp [imported]⟩

/-- Nor one whose backend could be out of use. -/
theorem usesLatest_imported (instances : σ) : UsesLatest (imported instances) := by
  intro latest h
  cases h

/-- Binding a backend adds it to those built. -/
@[simp] theorem length_backends_rebind (self : Process σ) (backend : Backend) :
    (self.rebind backend).backends.length = self.backends.length + 1 := by
  simp [rebind]

/-- The servers have different backends: the one returned last has the last address. -/
theorem Addressed.built_eq_iff {self : Process σ} (h : Addressed self) {k : ℕ}
    {server latest : McpServer} (hserver : self.servers[k]? = some server)
    (hlatest : self.servers.getLast? = some latest) :
    server.built = latest.built ↔ k + 1 = self.servers.length := by
  rw [List.getLast?_eq_getElem?] at hlatest
  obtain ⟨hk, rfl⟩ := List.getElem?_eq_some_iff.mp hserver
  obtain ⟨hlast, rfl⟩ := List.getElem?_eq_some_iff.mp hlatest
  constructor
  · intro heq
    by_contra hne
    have hlt : k < self.servers.length - 1 := by omega
    exact absurd heq (Nat.ne_of_lt (List.pairwise_iff_getElem.mp h.increasing _ _ hk hlast hlt))
  · intro heq
    have hindex : k = self.servers.length - 1 := by omega
    simp only [hindex]

/-! ## A tool call -/

section call

variable [Interpreter] [Calendar] {transport : Transport σ} {shipments : Dict String Shipment}
  {self : Process σ}

/-- A call of a tool that was served by the backend at an address, and by no other: `self` is the
process before it and `later` the one after it. -/
structure ServedBy (transport : Transport σ) (shipments : Dict String Shipment)
    (before : Process σ) (ref : BackendRef) (now : ℚ) (call : Server.Call)
    (result : Except ToolError Server.ToolResult) (later : Process σ) : Prop where
  /-- What it ends in depends on this backend, and what this backend turns into. -/
  served : ∃ backend backend', before.backends[ref]? = some backend ∧
    backend.serve transport shipments now call before.instances =
      (result, backend', later.instances) ∧ later.backends = before.backends.set ref backend'
  inUse : later.inUse = before.inUse
  servers : later.servers = before.servers
  mcp : later.mcp = before.mcp

/-- **A tool call** is served by the backend in use. -/
theorem servedBy_callTool (now : ℚ) (call : Server.Call) :
    ServedBy transport shipments self self.inUse now call
      (self.callTool transport shipments now call).1
      (self.callTool transport shipments now call).2 where
  served := by
    refine ⟨self.current, _, ?_, rfl, rfl⟩
    exact List.getElem?_eq_getElem self.inUse_lt
  inUse := rfl
  servers := rfl
  mcp := rfl

/-- Every other backend is left as it was. -/
theorem ServedBy.getElem?_backends {ref ref' : BackendRef} {now : ℚ} {call : Server.Call}
    {result : Except ToolError Server.ToolResult} {later : Process σ}
    (h : ServedBy transport shipments self ref now call result later) (hne : ref' ≠ ref) :
    later.backends[ref']? = self.backends[ref']? := by
  obtain ⟨backend, backend', -, -, hbackends⟩ := h.served
  rw [hbackends, List.getElem?_set_ne hne.symm]

/-- A tool adds none. -/
theorem length_backends_callTool (now : ℚ) (call : Server.Call) :
    (self.callTool transport shipments now call).2.backends.length = self.backends.length :=
  List.length_set

end call

/-! ## What a step can do -/

section steps

variable [Interpreter] [Calendar] [Sdk]

/-- The call raises although it has built a backend. -/
def RaisesLate : Op → Prop
  | .createServer around options =>
    (∃ prepared, prepare around options = .ok prepared) ∧
      ∃ e, middlewareOf around options = .error e
  | _ => False

/-- What a step does, next to its answer. -/
inductive Effect (transport : Transport σ) (shipments : Dict String Shipment) (self : Process σ) :
    Op → Answer → Process σ → Prop
  /-- The call raises before it has built a backend, or there was nothing to do. -/
  | unchanged {op : Op} {answer : Answer} (early : ¬RaisesLate op) :
    Effect transport shipments self op answer self
  /-- The policy does not load. -/
  | late {op : Op} {e : StartupError} (backend : Backend) (late : RaisesLate op) :
    Effect transport shipments self op (.raised e) (self.rebind backend)
  | returned {op : Op} (backend : Backend) (server : McpServer) (mcp : Option ℕ)
    (early : ¬RaisesLate op) (built : server.built = self.backends.length) :
    Effect transport shipments self op (.server self.servers.length)
      { self.rebind backend with servers := self.servers ++ [server], mcp := mcp }
  | called {k : ℕ} {now : ℚ} {call : Server.Call} {server : McpServer}
    (server_eq : self.servers[k]? = some server) :
    Effect transport shipments self (.call k now call)
      (.result (self.callTool transport shipments now call).1)
      (self.callTool transport shipments now call).2

variable {transport : Transport σ} {shipments : Dict String Shipment} {self : Process σ}

omit [Calendar] [Sdk] in
/-- Without a token to check there is no policy to load. -/
theorem middlewareOf_of_off {around : Surroundings} :
    middlewareOf around {} = .ok none := rfl

/-- The effect of a call of `create_server`. -/
theorem effect_createServer (around : Surroundings) (options : ServerOptions) :
    Effect transport shipments self (.createServer around options)
      (self.build around options).1 (self.build around options).2 := by
  cases hprepare : prepare around options with
  | error e =>
    rw [build_of_prepare_error self hprepare]
    apply Effect.unchanged
    rintro ⟨⟨prepared, hprepared⟩, -⟩
    rw [hprepare] at hprepared
    cases hprepared
  | ok prepared =>
    cases hmiddleware : middlewareOf around options with
    | error e =>
      rw [build_of_middleware_error self hprepare hmiddleware]
      exact Effect.late _ ⟨⟨prepared, hprepare⟩, e, hmiddleware⟩
    | ok middleware =>
      rw [build_of_ok self hprepare hmiddleware]
      refine Effect.returned _ _ _ ?_ rfl
      rintro ⟨-, e, he⟩
      rw [hmiddleware] at he
      cases he

/-- The effect of a look at `mcp`. -/
theorem effect_lookupMcp (around : Surroundings) : Effect transport shipments self (.mcp around)
    (self.lookupMcp around).1 (self.lookupMcp around).2 := by
  unfold lookupMcp
  cases self.mcp with
  | some place => exact Effect.unchanged id
  | none =>
    cases hprepare : prepare around {} with
    | error e =>
      simp only [build_of_prepare_error self hprepare]
      exact Effect.unchanged id
    | ok prepared =>
      simp only [build_of_ok self hprepare middlewareOf_of_off]
      exact Effect.returned _ _ _ id rfl

section calls

variable {k : ℕ} {server : McpServer} (now : ℚ) (call : Server.Call)

/-- A call through a server that is not there reaches no tool. -/
theorem step_call_of_none (h : self.servers[k]? = none) :
    self.step transport shipments (.call k now call) = (.noServer, self) := by
  simp only [step, h]

/-- A call through a server runs the tool in the process. -/
theorem step_call_of_some (h : self.servers[k]? = some server) :
    self.step transport shipments (.call k now call) =
      (.result (self.callTool transport shipments now call).1,
        (self.callTool transport shipments now call).2) := by
  simp only [step, h]

end calls

/-- **What a step does.** -/
theorem effect_step (op : Op) : Effect transport shipments self op
    (self.step transport shipments op).1 (self.step transport shipments op).2 := by
  cases op with
  | createServer around options => exact effect_createServer around options
  | mcp around => exact effect_lookupMcp around
  | call k now call =>
    cases hserver : self.servers[k]? with
    | none =>
      rw [step_call_of_none now call hserver]
      exact Effect.unchanged id
    | some server =>
      rw [step_call_of_some now call hserver]
      exact Effect.called hserver

/-- Whatever happens, the addresses stay in order. -/
theorem addressed_of_effect {op : Op} {answer : Answer} {later : Process σ}
    (h : Effect transport shipments self op answer later) (hself : Addressed self) :
    Addressed later := by
  cases h with
  | unchanged early => exact hself
  | late backend late =>
    refine ⟨?_, hself.increasing⟩
    intro server hserver
    rw [length_backends_rebind]
    exact Nat.lt_succ_of_lt (hself.built_lt server hserver)
  | returned backend server mcp early built =>
    constructor
    · intro server' hserver'
      show server'.built < (self.rebind backend).backends.length
      rw [length_backends_rebind]
      rcases List.mem_append.mp hserver' with hserver' | hserver'
      · exact Nat.lt_succ_of_lt (hself.built_lt server' hserver')
      · rw [List.mem_singleton.mp hserver', built]
        exact Nat.lt_succ_self _
    · show (self.servers ++ [server]).Pairwise _
      rw [List.pairwise_append]
      refine ⟨hself.increasing, List.pairwise_singleton _ _, ?_⟩
      intro server' hserver' latest hlatest
      rw [List.mem_singleton.mp hlatest, built]
      exact hself.built_lt server' hserver'
  | called server_eq =>
    refine ⟨?_, hself.increasing⟩
    intro server hserver
    rw [length_backends_callTool]
    exact hself.built_lt server hserver

omit [Interpreter] [Calendar] [Sdk] in
/-- A call that returns uses the backend that it built. -/
theorem usesLatest_returned {backend : Backend} {server : McpServer} {mcp : Option ℕ}
    (built : server.built = self.backends.length) :
    UsesLatest { self.rebind backend with servers := self.servers ++ [server], mcp := mcp } := by
  intro latest hlatest
  have hlast : server = latest := by simpa using hlatest
  rw [← hlast, built]
  rfl

/-- Only a call that raises late binds the variable past the servers. -/
theorem usesLatest_of_effect {op : Op} {answer : Answer} {later : Process σ}
    (h : Effect transport shipments self op answer later) (hop : ¬RaisesLate op)
    (hself : UsesLatest self) : UsesLatest later := by
  cases h with
  | unchanged early => exact hself
  | late backend late => exact absurd late hop
  | returned backend server mcp early built => exact usesLatest_returned built
  | called server_eq => exact hself

/-- A new server makes up for it. -/
theorem usesLatest_of_new {op : Op} {answer : Answer} {later : Process σ}
    (h : Effect transport shipments self op answer later)
    (hnew : self.servers.length < later.servers.length) : UsesLatest later := by
  cases h with
  | unchanged early => exact absurd hnew (Nat.lt_irrefl _)
  | late backend late => exact absurd hnew (Nat.lt_irrefl _)
  | returned backend server mcp early built => exact usesLatest_returned built
  | called server_eq => exact absurd hnew (Nat.lt_irrefl _)

/-- A call that raises, but not late, changes nothing. -/
theorem eq_of_raised {op : Op} {e : StartupError} {later : Process σ}
    (h : Effect transport shipments self op (.raised e) later) (hop : ¬RaisesLate op) :
    later = self := by
  cases h with
  | unchanged early => rfl
  | late backend late => exact absurd late hop

end steps

end Process

/-! ## Runs after the import -/

/-- A process from its import on: the network, the table of shipments, the instances at the start,
and what happens. -/
structure ProcessRun (σ : Type) where
  transport : Transport σ
  shipments : Dict String Shipment
  instances : σ
  ops : List Op

namespace ProcessRun

open Process

section runs

variable {σ : Type} [Interpreter] [Calendar] [Sdk] (run : ProcessRun σ)

/-- The process before what happens at a place. -/
def processAt (n : ℕ) : Process σ :=
  (machine run.transport run.shipments).stateAt (imported run.instances) run.ops n

/-- What comes of everything that happens. -/
def answers : List Answer :=
  (machine run.transport run.shipments).answers (imported run.instances) run.ops

/-- At this place a server is returned that was not there before. -/
def ReturnsServer (n : ℕ) : Prop :=
  (run.processAt n).servers.length < (run.processAt (n + 1)).servers.length

/-- At this place a call raises although it has built a backend. -/
def RaisesLateAt (n : ℕ) : Prop := ∃ op, run.ops[n]? = some op ∧ RaisesLate op

/-- At this place a tool is called through a server that exists. -/
def CallsTool (n k : ℕ) (server : McpServer) (now : ℚ) (call : Server.Call) : Prop :=
  run.ops[n]? = some (.call k now call) ∧ (run.processAt n).servers[k]? = some server

/-- The call at this place was served by the backend at an address, and by no other. -/
def ServedAt (n : ℕ) (ref : BackendRef) (now : ℚ) (call : Server.Call) : Prop :=
  ∃ result, run.answers[n]? = some (.result result) ∧
    ServedBy run.transport run.shipments (run.processAt n) ref now call result
      (run.processAt (n + 1))

/-- Every server has a backend of its own: its calls are served by the one that was built with it,
and a call of `create_server` that raises leaves the servers where they were. -/
def DoNotInterfere : Prop :=
  (∀ n k server now call, run.CallsTool n k server now call →
    run.ServedAt n server.built now call) ∧
  ∀ n e, run.answers[n]? = some (.raised e) →
    (run.processAt (n + 1)).inUse = (run.processAt n).inUse ∧
      ∀ ref < (run.processAt n).backends.length,
        (run.processAt (n + 1)).backends[ref]? = (run.processAt n).backends[ref]?

variable {run} {n : ℕ}

/-- One step of a run. -/
theorem processAt_succ {op : Op} (h : run.ops[n]? = some op) : run.processAt (n + 1) =
    ((run.processAt n).step run.transport run.shipments op).2 :=
  Machine.stateAt_succ h

/-- After its last operation a run stays where it is. -/
theorem processAt_succ_of_none (h : run.ops[n]? = none) :
    run.processAt (n + 1) = run.processAt n :=
  Machine.stateAt_succ_of_none h

/-- An answer is given by the process at its place. -/
theorem getElem?_answers {op : Op} (h : run.ops[n]? = some op) : run.answers[n]? =
    some ((run.processAt n).step run.transport run.shipments op).1 :=
  Machine.getElem?_answers_of_some h

/-- What happens at a place has its effect there. -/
theorem effect_at {op : Op} (h : run.ops[n]? = some op) : ∃ answer,
    run.answers[n]? = some answer ∧ Effect run.transport run.shipments (run.processAt n) op answer
      (run.processAt (n + 1)) := by
  refine ⟨_, getElem?_answers h, ?_⟩
  rw [processAt_succ h]
  exact effect_step op

/-- Throughout a run the addresses are in order. -/
theorem addressed_processAt : Addressed (run.processAt n) := by
  have hkeeps : (machine run.transport run.shipments).Preserves Addressed := by
    intro self op hself
    exact addressed_of_effect (effect_step op) hself
  exact hkeeps.of_start (addressed_imported run.instances) n

/-- Unless a call has raised late, and none has returned since, the server returned last has its
backend in use. -/
theorem usesLatest_processAt
    (h : ∀ j < n, run.RaisesLateAt j → ∃ l, j < l ∧ l < n ∧ run.ReturnsServer l) :
    UsesLatest (run.processAt n) := by
  apply Machine.holds_of_restored (usesLatest_imported run.instances) ?_ ?_ h
  · intro n hlate hself
    rcases hn : run.ops[n]? with _ | op
    · rwa [Machine.stateAt_succ_of_none hn]
    · obtain ⟨answer, -, heffect⟩ := effect_at hn
      apply usesLatest_of_effect heffect ?_ hself
      intro hop
      exact hlate ⟨op, hn, hop⟩
  · intro n hreturns
    rcases hn : run.ops[n]? with _ | op
    · unfold ReturnsServer at hreturns
      rw [processAt_succ_of_none hn] at hreturns
      exact absurd hreturns (Nat.lt_irrefl _)
    · obtain ⟨answer, -, heffect⟩ := effect_at hn
      exact usesLatest_of_new heffect hreturns

/-- A tool call in a run is served by the backend in use. -/
theorem CallsTool.servedAt {k : ℕ} {server : McpServer} {now : ℚ} {call : Server.Call}
    (h : run.CallsTool n k server now call) : run.ServedAt n (run.processAt n).inUse now call := by
  obtain ⟨hinput, hserver⟩ := h
  have hanswer := getElem?_answers hinput
  have hnext := processAt_succ hinput
  rw [step_call_of_some now call hserver] at hanswer hnext
  refine ⟨_, hanswer, ?_⟩
  rw [hnext]
  exact servedBy_callTool now call

/-- **Whose backend a tool call reaches**, and what a call that raises leaves behind. -/
theorem servedByLatest (run : ProcessRun σ) :
    (∀ n k server now call, run.CallsTool n k server now call →
      run.ServedAt n (run.processAt n).inUse now call ∧
      ((∀ j < n, run.RaisesLateAt j → ∃ l, j < l ∧ l < n ∧ run.ReturnsServer l) →
        (∃ latest, (run.processAt n).servers.getLast? = some latest ∧
          (run.processAt n).inUse = latest.built) ∧
        (server.built = (run.processAt n).inUse ↔ k + 1 = (run.processAt n).servers.length))) ∧
    ∀ n e, run.answers[n]? = some (.raised e) → ¬run.RaisesLateAt n →
      run.processAt (n + 1) = run.processAt n := by
  constructor
  · intro n k server now call hcall
    refine ⟨hcall.servedAt, ?_⟩
    intro hlate
    obtain ⟨-, hserver⟩ := hcall
    have hne : (run.processAt n).servers ≠ [] := by
      intro hnil
      rw [hnil] at hserver
      cases hserver
    have hlatest := List.getLast?_eq_some_getLast hne
    have huses := usesLatest_processAt hlate _ hlatest
    refine ⟨⟨_, hlatest, huses⟩, ?_⟩
    rw [huses]
    exact addressed_processAt.built_eq_iff hserver hlatest
  · intro n e hanswer hlate
    rcases hn : run.ops[n]? with _ | op
    · exact processAt_succ_of_none hn
    · obtain ⟨answer, hanswer', heffect⟩ := effect_at hn
      rw [hanswer, Option.some_inj] at hanswer'
      subst hanswer'
      apply eq_of_raised heffect
      intro hop
      exact hlate ⟨op, hn, hop⟩

end runs

/-! ## Two servers -/

section instances

/-- Constructors that refuse nothing. -/
@[reducible] def plainSdk : Sdk where
  refusesSettings _ := none
  refusesServer _ _ := none

/-- No variable is set, and there is no file. -/
def emptySurroundings : Surroundings where
  environ _ := none
  files _ := .notFound
  generatedJwks := .none

/-- A process without a network, in which this happens. -/
def offline (ops : List Op) : ProcessRun Unit where
  transport _ s := (.httpError "ConnectError", s)
  shipments := MockServiceNow.delayedTable
  instances := ()
  ops

/-- Two servers with a mock each, and an incident raised through the first. -/
def twoServers : ProcessRun Unit := offline
  [.createServer emptySurroundings {}, .createServer emptySurroundings {},
    .call 0 0 (.raiseShipmentIncident "SHP-1004" "2")]

/-- A server, and a call for another one whose policy is missing. -/
def missingPolicy : ProcessRun Unit := offline
  [.createServer emptySurroundings {}, .createServer emptySurroundings { authMode := .dev }]

/-- The call is served by the backend of the server that was returned last. -/
theorem servedByLatest_twoServers :
    @ServedAt Unit plainInterpreter plainCalendar plainSdk twoServers 2 2 0
      (.raiseShipmentIncident "SHP-1004" "2") :=
  ((@servedByLatest Unit plainInterpreter plainCalendar plainSdk twoServers).1 2 0 _ 0 _
    ⟨rfl, rfl⟩).1

/-- How many incidents a mock has. -/
def incidentCount : Backend → ℕ
  | .mock store => store.incidents.length
  | .live _ => 0

/-- **The first server's call lands on the second one's backend**, and a call that raises late takes
the backend of the first server away. -/
theorem not_doNotInterfere_of_twoServers :
    ¬@DoNotInterfere Unit plainInterpreter plainCalendar plainSdk twoServers ∧
      ¬@DoNotInterfere Unit plainInterpreter plainCalendar plainSdk missingPolicy := by
  constructor
  · rintro ⟨hserved, -⟩
    obtain ⟨result, -, hservedBy⟩ := hserved 2 0 _ 0 (.raiseShipmentIncident "SHP-1004" "2")
      ⟨rfl, rfl⟩
    -- the second backend would have kept the one incident it has at the start
    have hsecond := @ServedBy.getElem?_backends Unit plainInterpreter plainCalendar
      twoServers.transport twoServers.shipments _ 1 2 0 _ result _ hservedBy (by decide)
    have hcount : some 2 = some 1 := congrArg (Option.map incidentCount) hsecond
    cases hcount
  · rintro ⟨-, hraised⟩
    have hinUse : 2 = 1 := (hraised 1 _ rfl).1
    cases hinUse

end instances

end ProcessRun

end GovernedMcp
