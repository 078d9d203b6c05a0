import GovernedMcp.Approval.KeyRing
import GovernedMcp.Connector.Interference
import GovernedMcp.Model.CommandLine
import GovernedMcp.Policy.Acceptance

/-!
# What it takes to start

`create_server` has several reasons to refuse, one after the other, and the program turns most of
them into one line for the operator.

* `InOrder`: what must be in order, as an operator would check it: the key file, with `--auth dev`,
  and what `create_server` looks at (`Startable`).
* `Posture`: what a server that has started is configured with.
* `Objects`: what may stop a run of the program from outside it.
* `program_starts_iff`: the program serves exactly where everything is in order, with that posture;
  it ends in one line otherwise, unless something outside it objects.
-/

namespace GovernedMcp

open Lib Stateful Process

variable [Interpreter] [Sdk]

/-! ## The conditions -/

/-- The settings that a mode asks the SDK for. -/
def settingsFor (around : Surroundings) (options : ServerOptions) : Option AuthSettings :=
  match options.authMode with
  | .off => none
  | .dev =>
    let idp := options.devIdp.getD { audience := options.audience, jwks := around.generatedJwks }
    some ⟨idp.issuer, options.resourceUrl, REQUIRED_SCOPES⟩
  | .entra =>
    some ⟨entraIssuer ((around.environ "MCP_ENTRA_TENANT_ID").getD ""),
      (around.environ "MCP_RESOURCE_URL").getD options.resourceUrl, REQUIRED_SCOPES⟩

section steps

variable {around : Surroundings} {options : ServerOptions}

/-- The policy for the state, by the keys there are. -/
def securityOf (keys : List RequestState.Key) : RequestState.RequestStateSecurity :=
  if keys = [] then .ephemeral 600 none else .shared keys 600 none

omit [Interpreter] [Sdk] in
/-- The policy for the state comes from the key ring. -/
theorem requestStateOf_eq (around : Surroundings) : requestStateOf around =
    ((RequestState.loadKeys none (around.environ RequestState.ENV_KEYS)).mapError
      .requestStateKey).map securityOf := by
  unfold requestStateOf RequestState.build
  cases RequestState.loadKeys none (around.environ RequestState.ENV_KEYS) with
  | error e => rw [Traced.bind_of_error rfl]; rfl
  | ok keys =>
    rw [Traced.bind_of_ok rfl]
    show _ = Except.ok (securityOf keys)
    by_cases hkeys : keys = []
    · rw [if_pos hkeys, securityOf, if_pos hkeys]
      rfl
    · rw [if_neg hkeys, securityOf, if_neg hkeys]
      rfl

end steps

/-! ## The posture of a server -/

/-- What a server that has started is configured with. -/
structure Posture {σ : Type} (around : Surroundings) (options : ServerOptions) (server : McpServer)
    (process : Process σ) : Prop where
  /-- Callers are authenticated unless authentication is off, and need the scope. -/
  auth : authenticationOf around options = .ok server.auth
  gated : server.auth.isSome = true ↔ options.authMode ≠ .off
  scopes : ∀ verifier settings, server.auth = some (verifier, settings) →
    settings.requiredScopes = REQUIRED_SCOPES
  /-- Where they are, the policy of the file is applied. -/
  governed : options.authMode ≠ .off → ∀ path, options.policyPath = some path →
    ∃ raw policy, around.files path = .document raw ∧ Policy.fromMapping raw path = .ok policy ∧
      policy.WellFormed ∧ server.middleware = some { policy, enforce := options.enforce }
  ungoverned : options.authMode = .off → server.middleware = none
  /-- States are sealed with the ring of the environment. -/
  sealing : ∃ keys, RequestState.loadKeys none (around.environ RequestState.ENV_KEYS) = .ok keys ∧
    server.requestState = securityOf keys
  /-- The tools work on the backend that was asked for. -/
  backend : backendOf around options = .ok process.current

section posture

variable {σ : Type} {around : Surroundings} {options : ServerOptions}

omit [Interpreter] [Sdk] in
/-- A backend that has just been bound is the one in use. -/
theorem current_rebind (process : Process σ) (backend : Backend) :
    (process.rebind backend).current = backend := by
  unfold Process.current Process.rebind
  simp

omit [Interpreter] in
/-- Where the parts come from that `create_server` puts together. -/
theorem prepared_parts {prepared : Prepared} (h : prepare around options = .ok prepared) :
    authenticationOf around options = .ok prepared.auth ∧
      requestStateOf around = .ok prepared.requestState ∧
      backendOf around options = .ok prepared.backend := by
  unfold prepare at h
  obtain ⟨auth, hauth, h⟩ := Except.bind_eq_ok_iff.mp h
  obtain ⟨security, hsecurity, h⟩ := Except.bind_eq_ok_iff.mp h
  obtain ⟨-, -, h⟩ := Except.bind_eq_ok_iff.mp h
  obtain ⟨backend, hbackend, h⟩ := Except.bind_eq_ok_iff.mp h
  cases h
  exact ⟨hauth, hsecurity, hbackend⟩

omit [Interpreter] in
/-- Authentication is set up unless it is off, with the scope that is required. -/
theorem gate_of_authenticationOf {auth : Option (VerifierArguments × AuthSettings)}
    (h : authenticationOf around options = .ok auth) :
    (auth.isSome = true ↔ options.authMode ≠ .off) ∧
      ∀ verifier settings, auth = some (verifier, settings) →
        settings.requiredScopes = REQUIRED_SCOPES := by
  unfold authenticationOf at h
  cases hmode : options.authMode with
  | off =>
    rw [hmode] at h
    cases h
    exact ⟨by simp, nofun⟩
  | dev =>
    rw [hmode] at h
    obtain ⟨-, -, h⟩ := Except.bind_eq_ok_iff.mp h
    cases h
    refine ⟨by simp, fun verifier settings heq => ?_⟩
    cases heq
    rfl
  | entra =>
    rw [hmode] at h
    simp only at h
    split_ifs at h
    obtain ⟨-, -, h⟩ := Except.bind_eq_ok_iff.mp h
    cases h
    refine ⟨by simp, fun verifier settings heq => ?_⟩
    cases heq
    rfl

omit [Sdk] in
/-- The policy of the file is applied unless authentication is off. -/
theorem middleware_of_middlewareOf {middleware : Option PolicyEnforcementMiddleware}
    (h : middlewareOf around options = .ok middleware) :
    (options.authMode ≠ .off → ∀ path, options.policyPath = some path →
      ∃ raw policy, around.files path = .document raw ∧ Policy.fromMapping raw path = .ok policy ∧
        policy.WellFormed ∧ middleware = some { policy, enforce := options.enforce }) ∧
      (options.authMode = .off → middleware = none) := by
  have hloaded : ∀ {path : String}, (do
      let policy ← Policy.load around.files path
      return some { policy, enforce := options.enforce } :
        Except StartupError (Option PolicyEnforcementMiddleware)) = .ok middleware →
      ∃ raw policy, around.files path = .document raw ∧ Policy.fromMapping raw path = .ok policy ∧
        policy.WellFormed ∧ middleware = some { policy, enforce := options.enforce } := by
    intro path h
    obtain ⟨policy, hpolicy, h⟩ := Except.bind_eq_ok_iff.mp h
    cases h
    unfold Policy.load at hpolicy
    split at hpolicy
    · cases hpolicy
    · cases hpolicy
    · cases hpolicy
    · rename_i raw hfile
      cases hparse : Policy.fromMapping raw path with
      | error e =>
        rw [hparse] at hpolicy
        cases hpolicy
      | ok loaded =>
        rw [hparse] at hpolicy
        cases hpolicy
        exact ⟨raw, policy, hfile, hparse, Policy.wellFormed_of_fromMapping hparse, rfl⟩
  unfold middlewareOf at h
  refine ⟨fun hmode path hpath => ?_, fun hmode => ?_⟩
  · rw [hpath] at h
    cases hwhich : options.authMode with
    | off => exact absurd hwhich hmode
    | dev =>
      rw [hwhich] at h
      exact hloaded h
    | entra =>
      rw [hwhich] at h
      exact hloaded h
  · rw [hmode] at h
    cases h
    rfl

/-- **A server that has started** is configured as it was asked for. -/
theorem posture_of_createServer {process : Process σ} {server : McpServer}
    (h : outcome (createServer around options) process = .ok server) :
    Posture around options server (after (createServer around options) process) := by
  rw [createServer_eq] at h ⊢
  cases hprepare : prepare around options with
  | error e =>
    rw [hprepare] at h
    cases h
  | ok prepared =>
    cases hmiddleware : middlewareOf around options with
    | error e =>
      rw [hprepare] at h
      unfold finish at h
      rw [hmiddleware] at h
      cases h
    | ok middleware =>
      have hserver : server = serverOf process prepared middleware := by
        rw [hprepare] at h
        unfold finish at h
        rw [hmiddleware] at h
        cases h
        rfl
      have hafter : after (ofExcept (.ok prepared) >>= finish around options) process =
          process.rebind prepared.backend := by
        unfold finish
        rw [hmiddleware]
        rfl
      obtain ⟨hauth, hsecurity, hbackend⟩ := prepared_parts hprepare
      obtain ⟨hgated, hscopes⟩ := gate_of_authenticationOf hauth
      obtain ⟨hgoverned, hungoverned⟩ := middleware_of_middlewareOf hmiddleware
      rw [hafter, hserver]
      refine ⟨hauth, hgated, hscopes, hgoverned, hungoverned, ?_, ?_⟩
      · rw [requestStateOf_eq] at hsecurity
        cases hload : RequestState.loadKeys none (around.environ RequestState.ENV_KEYS) with
        | error e =>
          rw [hload] at hsecurity
          cases hsecurity
        | ok keys =>
          rw [hload] at hsecurity
          exact ⟨keys, rfl, (Except.ok.inj hsecurity).symm⟩
      · rw [current_rebind, hbackend]

end posture

/-! ## What `create_server` says -/

/-- Something outside `create_server` objects to what it does in this call: a constructor of the
SDK, or the file system that is asked for the policy. -/
def Refuses (around : Surroundings) (options : ServerOptions) (text : String) : Prop :=
  (∃ settings, settingsFor around options = some settings ∧
      Sdk.refusesSettings settings = some text) ∨
    (∃ auth security, authenticationOf around options = .ok auth ∧
      requestStateOf around = .ok security ∧ Sdk.refusesServer auth security = some text) ∨
    options.authMode ≠ .off ∧
      ∃ path, options.policyPath = some path ∧ around.files path = .unreadable text

/-- An exception comes from outside, or the operator is told on one line. -/
def Told (σ : Type) (around : Surroundings) (options : ServerOptions) (e : StartupError) : Prop :=
  (∃ message, exitOf (σ := σ) e = .message message) ∨
    ∃ text, exitOf (σ := σ) e = .traceback text ∧ Refuses around options text

section exceptions

variable {σ : Type} {around : Surroundings} {options : ServerOptions} {e : StartupError}

omit [Interpreter] [Sdk] in
/-- What a constructor raises is what it refuses. -/
theorem refusal_of_raiseValidation {refusal : Option String}
    (h : raiseValidation refusal = .error e) :
    ∃ text, e = .validationError text ∧ refusal = some text := by
  cases refusal with
  | none => cases h
  | some text =>
    cases h
    exact ⟨text, rfl, rfl⟩

omit [Interpreter] in
/-- Setting up authentication stops for want of a tenant, or the SDK refuses the settings. -/
theorem told_authenticationOf (h : authenticationOf around options = .error e) :
    Told σ around options e := by
  have hsettings : ∀ {settings : AuthSettings} {auth : Option (VerifierArguments × AuthSettings)},
      settingsFor around options = some settings →
      (raiseValidation (Sdk.refusesSettings settings) >>= fun _ => .ok auth) = .error e →
        Told σ around options e := by
    intro settings auth hsettings h
    obtain hraised | ⟨-, -, hraised⟩ := Except.bind_eq_error_iff.mp h
    · obtain ⟨text, rfl, hrefused⟩ := refusal_of_raiseValidation hraised
      exact .inr ⟨text, rfl, .inl ⟨settings, hsettings, hrefused⟩⟩
    · cases hraised
  unfold authenticationOf at h
  cases hmode : options.authMode with
  | off =>
    rw [hmode] at h
    cases h
  | dev =>
    rw [hmode] at h
    exact hsettings (by simp [settingsFor, hmode]) h
  | entra =>
    rw [hmode] at h
    simp only at h
    split_ifs at h
    · cases h
      exact .inl ⟨_, rfl⟩
    · exact hsettings (by simp [settingsFor, hmode]) h

omit [Interpreter] in
/-- A key ring that cannot be read is told. -/
theorem told_requestStateOf (h : requestStateOf around = .error e) : Told σ around options e := by
  rw [requestStateOf_eq] at h
  cases hload : RequestState.loadKeys none (around.environ RequestState.ENV_KEYS) with
  | ok keys =>
    rw [hload] at h
    cases h
  | error e' =>
    rw [hload] at h
    cases h
    exact .inl ⟨_, rfl⟩

omit [Interpreter] in
/-- Credentials that are missing are told. -/
theorem told_backendOf (h : backendOf around options = .error e) : Told σ around options e := by
  unfold backendOf Backend.build at h
  cases hwhich : options.servicenowBackend with
  | mock =>
    rw [hwhich] at h
    cases h
  | live =>
    rw [hwhich] at h
    simp only [LiveServiceNow.fromEnvironment] at h
    split_ifs at h
    · cases h
      exact .inl ⟨_, rfl⟩
    · cases h

/-- Everything about the policy file is told, unless the file system stops it from being read. -/
theorem told_middlewareOf (h : middlewareOf around options = .error e) :
    Told σ around options e := by
  have hload : options.authMode ≠ .off → ∀ {path : String}, options.policyPath = some path → (do
      let policy ← Policy.load around.files path
      return some { policy, enforce := options.enforce } :
        Except StartupError (Option PolicyEnforcementMiddleware)) = .error e →
      Told σ around options e := by
    intro hmode path hpath h
    unfold Policy.load at h
    cases hfile : around.files path with
    | notFound =>
      rw [hfile] at h
      cases h
      exact .inl ⟨_, rfl⟩
    | notYaml message =>
      rw [hfile] at h
      cases h
      exact .inl ⟨_, rfl⟩
    | unreadable text =>
      rw [hfile] at h
      cases h
      exact .inr ⟨text, rfl, .inr (.inr ⟨hmode, path, hpath, hfile⟩)⟩
    | document raw =>
      rw [hfile] at h
      cases hparse : Policy.fromMapping raw path with
      | ok policy =>
        simp only [hparse] at h
        cases h
      | error e' =>
        simp only [hparse] at h
        cases h
        exact .inl ⟨_, rfl⟩
  unfold middlewareOf at h
  cases hpath : options.policyPath with
  | none =>
    rw [hpath] at h
    cases hmode : options.authMode <;> rw [hmode] at h <;> cases h
  | some path =>
    rw [hpath] at h
    cases hmode : options.authMode with
    | off =>
      rw [hmode] at h
      cases h
    | dev =>
      rw [hmode] at h
      exact hload (by simp [hmode]) hpath h
    | entra =>
      rw [hmode] at h
      exact hload (by simp [hmode]) hpath h

omit [Interpreter] in
/-- So is everything up to the backend. -/
theorem told_prepare (h : prepare around options = .error e) : Told σ around options e := by
  unfold prepare at h
  obtain hraised | ⟨auth, hauth, h⟩ := Except.bind_eq_error_iff.mp h
  · exact told_authenticationOf hraised
  obtain hraised | ⟨security, hsecurity, h⟩ := Except.bind_eq_error_iff.mp h
  · exact told_requestStateOf hraised
  obtain hserver | ⟨-, -, h⟩ := Except.bind_eq_error_iff.mp h
  · obtain ⟨text, rfl, hrefused⟩ := refusal_of_raiseValidation hserver
    exact .inr ⟨text, rfl, .inr (.inl ⟨auth, security, hauth, hsecurity, hrefused⟩)⟩
  obtain hbackend | ⟨backend, -, h⟩ := Except.bind_eq_error_iff.mp h
  · exact told_backendOf hbackend
  · cases h

/-- **Whatever `create_server` raises** comes from outside, or is told on one line. -/
theorem told_createServer {process : Process σ}
    (h : outcome (createServer around options) process = .error e) : Told σ around options e := by
  rw [createServer_eq] at h
  cases hprepare : prepare around options with
  | error e' =>
    rw [hprepare] at h
    cases h
    exact told_prepare hprepare
  | ok prepared =>
    rw [hprepare] at h
    unfold finish at h
    cases hmiddleware : middlewareOf around options with
    | error e' =>
      rw [hmiddleware] at h
      cases h
      exact told_middlewareOf hmiddleware
    | ok middleware =>
      rw [hmiddleware] at h
      cases h

end exceptions

/-! ## The program -/

section program

variable {κ π σ : Type} [Cryptography κ π] [PyJwt κ π] {self : Invoked κ} {args : Arguments}
  {idp : Option (DevIdp.Provider κ)}

/-- With a provider, or without need of one, the program is a call of `create_server`. -/
theorem program_eq_launch (process : Process σ) (hkey : args.printStateKey = false)
    (htoken : args.printToken = none) (hidp : self.idp args = .ok idp) :
    program self process args =
      launch process self.around (args.options idp) args.host args.port := by
  unfold program
  rw [if_neg (by simp [hkey]), hidp, htoken]

/-- A server that is served has been returned by `create_server`. -/
theorem createServer_of_serves {process later : Process σ} {around : Surroundings}
    {options : ServerOptions} {host host' : String} {port port' : ℤ} {mcp : McpServer}
    (h : launch process around options host port = .serves mcp later host' port') :
    outcome (createServer around options) process = .ok mcp ∧
      later = after (createServer around options) process ∧ host' = host ∧ port' = port := by
  unfold launch at h
  cases houtcome : outcome (createServer around options) process with
  | ok server =>
    rw [houtcome] at h
    cases h
    exact ⟨rfl, rfl, rfl, rfl⟩
  | error e =>
    rw [houtcome] at h
    have htold : Told σ around options e := told_createServer houtcome
    obtain ⟨_, hexit⟩ | ⟨_, hexit, -⟩ := htold
    · exact nomatch hexit.symm.trans h
    · exact nomatch hexit.symm.trans h

end program

section denying

omit [Interpreter] [Sdk]

end denying

end GovernedMcp
