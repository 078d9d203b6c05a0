import GovernedMcp.Enforcement.Accountability
import GovernedMcp.Startup.EndToEnd

/-!
# A server in its process

A tool has no backend of its own: for each operation it looks up the variable of the module. Here a
server is put back into the process that built it, and compared with a deployment, which has a
backend.

* `Process.backend`: the variable as a backend, whose state is the process. `callTool_eq`: a tool
  that works on it is a tool that is called in the process.
* `agree_mock`, `agree_live`: where the variable holds a backend, it does what that backend does.
* `LetThrough`: the requests that the arguments and the policy file let through.
* **`served`**: what a program that serves does with requests, and to which backend.
-/

namespace GovernedMcp

open Lib Stateful

/-! ## The variable as a backend -/

namespace Process

variable {σ : Type}

/-- The backend in use is left in another state, and so are the instances. -/
def keep (self : Process σ) (backend : Backend) (instances : σ) : Process σ :=
  { self with
    backends := self.backends.set self.inUse backend
    inUse_lt := by simpa using self.inUse_lt
    instances }

/-- The backend that was kept is in use. -/
@[simp] theorem current_keep (self : Process σ) (backend : Backend) (instances : σ) :
    (self.keep backend instances).current = backend := by
  simp [keep, current]

/-- And the instances are those that were kept. -/
@[simp] theorem instances_keep (self : Process σ) (backend : Backend) (instances : σ) :
    (self.keep backend instances).instances = instances := rfl

/-- The last one counts. -/
@[simp] theorem keep_keep (self : Process σ) (backend backend' : Backend)
    (instances instances' : σ) :
    (self.keep backend instances).keep backend' instances' = self.keep backend' instances' := by
  simp [keep]

/-- Nothing is changed by leaving things as they are. -/
theorem keep_current (self : Process σ) : self.keep self.current self.instances = self := by
  unfold keep current
  simp

variable [Interpreter] [Calendar] (transport : Transport σ) (now : ℚ)

/-- `SERVICENOW.operation(...)`: an operation of whatever backend is in use. -/
def onCurrent {α : Type} (operation : (τ : Type) → ServiceNow τ → EStateM ToolError τ α) :
    EStateM ToolError (Process σ) α := fun self =>
  match self.current with
  | .mock store =>
    match (operation _ (MockServiceNow.backend now)).run store with
    | .ok a store => .ok a (self.keep (.mock store) self.instances)
    | .error e store => .error e (self.keep (.mock store) self.instances)
  | .live client =>
    match (operation _ (client.backend transport)).run self.instances with
    | .ok a instances => .ok a (self.keep (.live client) instances)
    | .error e instances => .error e (self.keep (.live client) instances)

/-- The variable, as the tools use it. Source: `server.py`, `SERVICENOW`. -/
def backend : ServiceNow (Process σ) where
  findConfigurationItem name := onCurrent transport now fun _ sn => sn.findConfigurationItem name
  searchIncidents configurationItem activeOnly limit :=
    onCurrent transport now fun _ sn => sn.searchIncidents configurationItem activeOnly limit
  createIncident shortDescription configurationItem urgency description :=
    onCurrent transport now fun _ sn =>
      sn.createIncident shortDescription configurationItem urgency description

section operation

variable {transport now} {self : Process σ} {α : Type}
  {operation : (τ : Type) → ServiceNow τ → EStateM ToolError τ α}

/-- With a mock in use an operation is one of the mock. -/
theorem onCurrent_mock {store : MockServiceNow} (h : self.current = .mock store) :
    outcome (onCurrent transport now operation) self =
        outcome (operation _ (MockServiceNow.backend now)) store ∧
      after (onCurrent transport now operation) self =
        self.keep (.mock (after (operation _ (MockServiceNow.backend now)) store))
          self.instances := by
  unfold outcome after EStateM.run onCurrent
  rw [h]
  simp only [EStateM.run]
  cases operation _ (MockServiceNow.backend now) store <;> exact ⟨rfl, rfl⟩

/-- With a client in use an operation is one of the client. -/
theorem onCurrent_live {client : LiveServiceNow} (h : self.current = .live client) :
    outcome (onCurrent transport now operation) self =
        outcome (operation _ (client.backend transport)) self.instances ∧
      after (onCurrent transport now operation) self =
        self.keep (.live client)
          (after (operation _ (client.backend transport)) self.instances) := by
  unfold outcome after EStateM.run onCurrent
  rw [h]
  simp only [EStateM.run]
  cases operation _ (client.backend transport) self.instances <;> exact ⟨rfl, rfl⟩

end operation

/-! ### A mock in use -/

variable {transport}

/-- The process with this store in use, and otherwise as at the start. -/
def HoldsStore (start self : Process σ) (store : MockServiceNow) : Prop :=
  self = start.keep (.mock store) start.instances

/-- Over a store, an operation of the variable agrees with the mock's. -/
theorem agree_onCurrent_mock {α : Type} {S : α → α → Prop} (hS : ∀ a, S a a) (start : Process σ)
    (operation : (τ : Type) → ServiceNow τ → EStateM ToolError τ α) :
    Stateful.Agree (HoldsStore start) S (onCurrent transport now operation)
      (operation _ (MockServiceNow.backend now)) := by
  constructor
  · rintro self store rfl
    rw [(onCurrent_mock (current_keep _ _ _)).1]
    exact .refl hS _
  · rintro self store rfl
    rw [(onCurrent_mock (current_keep _ _ _)).2, keep_keep]
    rfl

/-- **The variable is the mock** while it holds a store. -/
theorem agree_mock (start : Process σ) : (backend transport now).Agree .everything
    (HoldsStore start) Eq Eq (MockServiceNow.backend now) where
  find name _ :=
    agree_onCurrent_mock now (fun _ => rfl) start fun _ sn => sn.findConfigurationItem name
  search configurationItem limit _ :=
    agree_onCurrent_mock now (fun _ => List.forall₂_same.mpr fun _ _ => rfl) start fun _ sn =>
      sn.searchIncidents configurationItem true limit
  create shortDescription configurationItem urgency description _ :=
    agree_onCurrent_mock now (fun _ => rfl) start fun _ sn =>
      sn.createIncident shortDescription configurationItem urgency description

/-! ### A client in use -/

/-- The process with this client in use and the instances in this state, and otherwise as at the
start. -/
def HoldsClient (start : Process σ) (client : LiveServiceNow) (self : Process σ) (instances : σ) :
    Prop :=
  self = start.keep (.live client) instances

/-- Over a client, it agrees with the client's. -/
theorem agree_onCurrent_live {α : Type} {S : α → α → Prop} (hS : ∀ a, S a a) (start : Process σ)
    (client : LiveServiceNow) (operation : (τ : Type) → ServiceNow τ → EStateM ToolError τ α) :
    Stateful.Agree (HoldsClient start client) S (onCurrent transport now operation)
      (operation _ (client.backend transport)) := by
  constructor
  · rintro self instances rfl
    rw [(onCurrent_live (current_keep _ _ _)).1, instances_keep]
    exact .refl hS _
  · rintro self instances rfl
    rw [(onCurrent_live (current_keep _ _ _)).2, keep_keep, instances_keep]
    rfl

/-- **The variable is the client** while it holds one. -/
theorem agree_live (start : Process σ) (client : LiveServiceNow) : (backend transport now).Agree
    .everything (HoldsClient start client) Eq Eq (client.backend transport) where
  find name _ :=
    agree_onCurrent_live now (fun _ => rfl) start client fun _ sn => sn.findConfigurationItem name
  search configurationItem limit _ :=
    agree_onCurrent_live now (fun _ => List.forall₂_same.mpr fun _ _ => rfl) start client
      fun _ sn => sn.searchIncidents configurationItem true limit
  create shortDescription configurationItem urgency description _ :=
    agree_onCurrent_live now (fun _ => rfl) start client fun _ sn =>
      sn.createIncident shortDescription configurationItem urgency description

omit [Interpreter] [Calendar] in
/-- At the start the store is the one in use. -/
theorem holdsStore_self {self : Process σ} {store : MockServiceNow}
    (h : self.current = .mock store) : HoldsStore self self store := by
  unfold HoldsStore
  rw [← h, keep_current]

omit [Interpreter] [Calendar] in
/-- At the start the client is the one in use. -/
theorem holdsClient_self {self : Process σ} {client : LiveServiceNow}
    (h : self.current = .live client) : HoldsClient self client self self.instances := by
  unfold HoldsClient
  rw [← h, keep_current]

/-- **A tool over the variable** is the tool called in the process. -/
theorem callTool_eq (self : Process σ) (shipments : Dict String Shipment) (call : Server.Call) :
    self.callTool transport shipments now call =
      (outcome (call.run (backend transport now) shipments now) self,
        after (call.run (backend transport now) shipments now) self) := by
  have hwithin := call.within_everything shipments
  have hserved : self.callTool transport shipments now call =
      ((self.current.serve transport shipments now call self.instances).1,
        self.keep (self.current.serve transport shipments now call self.instances).2.1
          (self.current.serve transport shipments now call self.instances).2.2) := rfl
  rw [hserved]
  cases hcurrent : self.current with
  | mock store =>
    have hagree : Stateful.Agree (HoldsStore self) (Server.ToolResult.Alike Eq Eq)
        (call.run (backend transport now) shipments now)
        (call.run (MockServiceNow.backend now) shipments now) :=
      Server.run_agree (agree_mock now self) now hwithin
    have hR := holdsStore_self hcurrent
    have hresult := (hagree.outcome self store hR).mono fun _ _ => Server.ToolResult.Alike.eq
    exact Prod.ext (alike_eq_iff.mp hresult).symm (hagree.after self store hR).symm
  | live client =>
    have hagree : Stateful.Agree (HoldsClient self client) (Server.ToolResult.Alike Eq Eq)
        (call.run (backend transport now) shipments now)
        (call.run (client.backend transport) shipments now) :=
      Server.run_agree (agree_live now self client) now hwithin
    have hR := holdsClient_self hcurrent
    have hresult := (hagree.outcome self _ hR).mono fun _ _ => Server.ToolResult.Alike.eq
    exact Prod.ext (alike_eq_iff.mp hresult).symm (hagree.after self _ hR).symm

end Process

/-! ## What is let through -/

section served

variable [Interpreter] [Sdk]

/-- The requests that the arguments and the policy file let through. -/
def LetThrough (around : Surroundings) (args : Arguments) (a : Arrival) : Prop :=
  args.auth = .off ∨ args.shadow = true ∨ ∃ raw policy,
    around.files "policy.yaml" = .document raw ∧ Policy.fromMapping raw "policy.yaml" = .ok policy ∧
      Deployment.Authorised policy a

variable {κ π σ : Type} [Cryptography κ π] [PyJwt κ π] {self : Invoked κ} {args : Arguments}
  {process later : Process σ} {mcp : McpServer} {host : String} {port : ℤ}

/-- A program that serves has launched a server. -/
theorem launch_of_serves (h : program self process args = .serves mcp later host port) :
    ∃ idp, launch process self.around (args.options (idp : Option (DevIdp.Provider κ))) args.host
      args.port = .serves mcp later host port := by
  unfold program at h
  split_ifs at h
  cases hidp : self.idp args with
  | error message =>
    rw [hidp] at h
    cases h
  | ok idp =>
    rw [hidp] at h
    cases htoken : args.printToken with
    | none =>
      rw [htoken] at h
      exact ⟨idp, h⟩
    | some roles =>
      rw [htoken] at h
      cases idp with
      | none => cases h
      | some idp =>
        simp only at h
        split at h <;> cases h

/-- It has the posture that it was asked for. -/
theorem posture_of_serves (h : program self process args = .serves mcp later host port) :
    ∃ idp, Posture self.around (args.options (idp : Option (DevIdp.Provider κ))) mcp later := by
  obtain ⟨idp, hlaunch⟩ := launch_of_serves h
  obtain ⟨houtcome, rfl, -, -⟩ := createServer_of_serves hlaunch
  exact ⟨idp, posture_of_createServer houtcome⟩

variable [Calendar] [Server.Signatures] {ρ ε : Type}

omit [Calendar] [Server.Signatures] in
/-- The middleware of the server lets through what the arguments and the file say. -/
theorem awaits_behind_iff {idp : Option (DevIdp.Provider κ)}
    (h : Posture self.around (args.options idp) mcp later) (D : Deployment ρ ε) (a : Arrival) :
    (D.behind mcp).awaits a = true ↔ LetThrough self.around args a := by
  unfold Deployment.awaits Deployment.behind LetThrough
  dsimp only
  by_cases hauth : args.auth = .off
  · rw [h.ungoverned hauth]
    simp [hauth]
  · obtain ⟨raw, policy, hfile, hparse, -, hmiddleware⟩ := h.governed hauth _ rfl
    rw [hmiddleware, or_iff_right hauth]
    show Deployment.passes { policy, enforce := !args.shadow } a = true ↔ _
    cases args.shadow with
    | true => exact iff_of_true (Deployment.passes_shadowing policy a) (.inl rfl)
    | false =>
      rw [or_iff_right Bool.false_ne_true]
      refine Deployment.passes_enforcing_iff.trans ⟨fun ha => ⟨raw, policy, hfile, hparse, ha⟩, ?_⟩
      rintro ⟨raw', policy', hfile', hparse', ha⟩
      cases hfile.symm.trans hfile'
      cases hparse.symm.trans hparse'
      exact ha

omit [Calendar] [Server.Signatures] in
/-- The backend that the server works on. -/
theorem current_of_posture {options : ServerOptions} {around : Surroundings}
    (h : Posture around options mcp later) :
    (options.servicenowBackend = .mock → later.current = .mock MockServiceNow.new) ∧
      (options.servicenowBackend = .live → ∃ client,
        LiveServiceNow.fromEnvironment around.environ = .ok client ∧
          later.current = .live client) := by
  have hbackend := h.backend
  unfold backendOf at hbackend
  constructor
  · intro hchoice
    rw [hchoice] at hbackend
    exact (Except.ok.inj hbackend).symm
  · intro hchoice
    rw [hchoice] at hbackend
    unfold Backend.build at hbackend
    cases hclient : LiveServiceNow.fromEnvironment around.environ with
    | error e =>
      rw [hclient] at hbackend
      cases hbackend
    | ok client =>
      rw [hclient] at hbackend
      exact ⟨client, rfl, (Except.ok.inj hbackend).symm⟩

/-- **What a program that serves does.** The server has a tool call through exactly where the
arguments and the policy file say so. Its tools look their backend up in the process, and yet it
answers any requests as a server over a fresh mock store does, or as one over the client that is
configured in the environment, according to the arguments. And in the process it leaves that
backend, and the instances behind it, in the state that the calls that were let through would have
led to on their own. Nothing else in the process changes. Source: `server.py`, `__main__`,
`create_server` and `SERVICENOW`; `servicenow.py`, `build`; `middleware.py`. -/
theorem served (hserves : program self process args = .serves mcp later host port)
    (D : Deployment ρ ε) (transport : Transport σ) (arrivals : List Arrival) :
    let server := D.behind mcp
    let inProcess := server.withBackend (Process.backend transport)
    (∀ a, server.awaits a = true ↔ LetThrough self.around args a) ∧
      (args.servicenow = .mock →
        inProcess.machine.answers later arrivals =
            server.onMock.machine.answers MockServiceNow.new arrivals ∧
          inProcess.machine.final later arrivals =
            later.keep (.mock (D.onMock.ungoverned.machine.final MockServiceNow.new
              (arrivals.filter server.awaits))) later.instances) ∧
      (args.servicenow = .live → ∃ client,
        LiveServiceNow.fromEnvironment self.around.environ = .ok client ∧
          inProcess.machine.answers later arrivals =
            (server.live client transport).machine.answers later.instances arrivals ∧
          inProcess.machine.final later arrivals =
            later.keep (.live client) ((D.live client transport).ungoverned.machine.final
              later.instances (arrivals.filter server.awaits))) := by
  intro server inProcess
  obtain ⟨idp, hposture⟩ := posture_of_serves hserves
  obtain ⟨hmock, hlive⟩ := current_of_posture hposture
  refine ⟨awaits_behind_iff hposture D, fun hchoice => ?_, fun hchoice => ?_⟩
  · have hagree : ∀ now, (Process.backend transport now).Agree .everything
        (Process.HoldsStore later) Eq Eq (MockServiceNow.backend now) :=
      fun now => Process.agree_mock now later
    obtain ⟨hanswers, hfinal⟩ := server.answers_withBackend hagree
      (Process.holdsStore_self (hmock hchoice)) arrivals
    refine ⟨hanswers, hfinal.trans ?_⟩
    rw [Deployment.final_filter]
    rfl
  · obtain ⟨client, hclient, hcurrent⟩ := hlive hchoice
    have hagree : ∀ now, (Process.backend transport now).Agree .everything
        (Process.HoldsClient later client) Eq Eq (client.backend transport) :=
      fun now => Process.agree_live now later client
    obtain ⟨hanswers, hfinal⟩ := server.answers_withBackend hagree
      (Process.holdsClient_self hcurrent) arrivals
    refine ⟨client, hclient, hanswers, hfinal.trans ?_⟩
    rw [Deployment.final_filter]
    rfl

end served

section anonymous

/-- With a policy file that lets operators raise incidents, a process is as it was after any calls
by callers who have not been authenticated. -/
theorem served_anonymous : ∃ mcp later,
    @program PlainKey PlainKey Unit plainCryptography DevIdp.printingLibrary plainInterpreter
        ProcessRun.plainSdk (sharingKey 0) (Process.imported ()) { auth := .dev } =
      .serves mcp later "127.0.0.1" 8000 ∧
    ∀ arrivals : List Arrival,
      (∀ a ∈ arrivals, a.ctx.method = some "tools/call" ∧ a.ambient.accessToken = none) →
      (@Deployment.machine plainInterpreter plainCalendar Deployment.plainSignatures _ _
        ((Deployment.openDeployment.behind mcp).withBackend
          (@Process.backend Unit plainInterpreter plainCalendar Deployment.quotingNetwork))).final
        later arrivals = later := by
  obtain ⟨mcp, later, hserves⟩ : ∃ mcp later,
      @program PlainKey PlainKey Unit plainCryptography DevIdp.printingLibrary plainInterpreter
        ProcessRun.plainSdk (sharingKey 0) (Process.imported ()) { auth := .dev } =
      .serves mcp later "127.0.0.1" 8000 := ⟨_, _, rfl⟩
  refine ⟨mcp, later, hserves, fun arrivals hanonymous => ?_⟩
  obtain ⟨hthrough, hmock, -⟩ := @served plainInterpreter ProcessRun.plainSdk PlainKey PlainKey Unit
    plainCryptography DevIdp.printingLibrary (sharingKey 0) { auth := .dev } (Process.imported ())
    later mcp _ _ plainCalendar Deployment.plainSignatures _ _ hserves Deployment.openDeployment
    Deployment.quotingNetwork arrivals
  obtain ⟨-, hfinal⟩ := hmock rfl
  have hnone : arrivals.filter (@Deployment.awaits plainInterpreter _ _
      (Deployment.openDeployment.behind mcp)) = [] := by
    rw [List.filter_eq_nil_iff]
    intro a ha hawaits
    obtain ⟨hcall, htoken⟩ := hanonymous a ha
    rcases (hthrough a).mp hawaits with hoff | hshadow | ⟨raw, policy, -, -, hauthorised⟩
    · cases hoff
    · cases hshadow
    · obtain ⟨rule, -, ⟨r, hr, -⟩, -⟩ :=
        @Deployment.Authorised.call plainInterpreter _ _ hauthorised hcall
      have hnoRoles : @PolicyEnforcementMiddleware.roles plainInterpreter a.ambient = [] :=
        congrArg (@Verifier.rolesFromToken plainInterpreter) htoken
      rw [hnoRoles] at hr
      cases hr
  rw [hfinal, hnone]
  have hcurrent : later.current = .mock MockServiceNow.new := by
    cases hserves
    rfl
  show later.keep (.mock MockServiceNow.new) later.instances = later
  rw [← hcurrent, Process.keep_current]

end anonymous

end GovernedMcp
