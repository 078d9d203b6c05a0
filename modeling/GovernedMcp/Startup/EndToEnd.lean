import GovernedMcp.Connector.Confinement
import GovernedMcp.Enforcement.Mediation
import GovernedMcp.Identity.KeyFile
import GovernedMcp.Startup.Program

/-!
# From a printed token to a tool

One process prints a token for some roles, another one serves. Here everything between the two comes
together: the key file, the verification of the token, the policy file and the middleware.

* `auth_of_dev`: what a server that was started with `--auth dev` verifies tokens by.
* `Deployment.behind` is a deployment with the middleware of such a server.
* **`printedToken_opens`**: which tools a printed token opens.
-/

namespace GovernedMcp

open Lib Stateful Process DevIdp PolicyEnforcementMiddleware

variable [Interpreter]

/-! ## The server's verifier -/

section verifier

variable {κ π : Type} [Cryptography κ π] [PyJwt κ π] {around : Surroundings}

omit [Interpreter] in
/-- A server with `--auth dev` trusts the provider it was given. -/
theorem auth_of_dev [Sdk] {args : Arguments} {idp : Provider κ}
    {auth : Option (VerifierArguments × AuthSettings)} (hdev : args.auth = .dev)
    (h : authenticationOf around (args.options (some idp)) = .ok auth) :
    ∃ settings, auth = some (⟨idp.issuer, idp.audience, .staticJwks idp.published.jwks⟩, settings) ∧
      settings.requiredScopes = REQUIRED_SCOPES := by
  unfold authenticationOf at h
  have hmode : (args.options (some idp)).authMode = .dev := hdev
  rw [hmode] at h
  obtain ⟨-, -, h⟩ := Except.bind_eq_ok_iff.mp h
  cases h
  exact ⟨_, rfl, rfl⟩

omit [Interpreter] in
/-- What a provider publishes is read back. -/
theorem ofJson_published (idp : Provider κ) : StaticJwks.ofJson idp.published.jwks = idp.jwks := by
  show StaticJwks.mk ((idp.jwks.keys.map Value.dict).filterMap Value.asMapping) = idp.jwks
  rw [List.filterMap_map]
  exact congrArg StaticJwks.mk (List.filterMap_some)

/-- So its tokens are verified as the provider would verify them itself. -/
theorem verifier_of_dev {server : McpServer} {idp : Provider κ} {settings : AuthSettings}
    (h : server.auth = some (⟨idp.issuer, idp.audience, .staticJwks idp.published.jwks⟩, settings))
    (now : ℚ) : server.verifier κ now = some (idp.verifier now) := by
  unfold McpServer.verifier
  rw [h]
  simp only [ofJson_published]
  rfl

end verifier

/-! ## What reaches the tools -/

namespace Deployment

variable [Calendar] [Server.Signatures] {σ ε : Type}

/-- The parts of a server with the middleware that it was built with. -/
def behind (self : Deployment σ ε) (server : McpServer) : Deployment σ ε :=
  { self with middleware := server.middleware }

end Deployment

/-- The policy opens the tool of a call to some roles, and the call has the approval that is asked
for. -/
def OpenTo (policy : Policy) (roles : List String) (ctx : Ctx) : Prop :=
  ∃ rule, policy.tools.get (toolOf ctx) = some rule ∧ (∃ r ∈ roles, r ∈ rule.allowRoles) ∧
    (rule.requiresApproval = true → CarriesApproval (paramsOf ctx))

/-- A call of a tool gets through a server that shadows, and otherwise where the policy opens the
tool to its caller. -/
theorem passes_call_iff {policy : Policy} {enforce : Bool} {a : Arrival}
    (hcall : a.ctx.method = some "tools/call") :
    Deployment.passes { policy, enforce } a = true ↔
      enforce = false ∨ OpenTo policy (roles a.ambient) a.ctx := by
  cases enforce with
  | true =>
    have hauthorised : Deployment.passes (enforcing policy) a = true ↔
        Deployment.Authorised policy a := Deployment.passes_enforcing_iff
    rw [or_iff_right (by simp)]
    refine hauthorised.trans ⟨fun h => h.call hcall, fun h => ⟨fun _ => h, fun hread => ?_⟩⟩
    exact absurd (hcall.symm.trans hread) (by simp)
  | false => exact iff_of_true (Deployment.passes_shadowing policy a) (Or.inl rfl)

/-! ## The whole way -/

section way

variable {κ π ρ : Type} [Cryptography κ π] [PyJwt κ π] [Sdk]

/-- What a program that prints a token has done. -/
theorem issue_of_printed {self : Invoked κ} {process : Process ρ} {args : Arguments}
    {idp : Provider κ} {roles : List String} {token : String}
    (hkey : args.printStateKey = false) (hroles : args.printToken = some roles)
    (hidp : self.idp args = .ok (some idp))
    (h : program self process args = .printed token) :
    idp.issue self.uuid5 self.now { roles := some roles } = .ok token := by
  unfold program at h
  rw [if_neg (by simp [hkey]), hidp] at h
  simp only [hroles] at h
  cases hissue : idp.issue self.uuid5 self.now { roles := some roles } with
  | error message =>
    rw [hissue] at h
    cases h
  | ok token' =>
    rw [hissue] at h
    cases h
    rfl

omit [Sdk] in
/-- What a server that trusts one key makes of a token that was printed with another. -/
theorem verifiesWithScopes_iff (hjwt : PyJwt.Documented κ) {mcp : McpServer} {key key' : κ}
    {settings : AuthSettings} (hauth : mcp.auth = some (⟨(commandLineProvider key').issuer,
      (commandLineProvider key').audience,
      .staticJwks (commandLineProvider key').published.jwks⟩, settings))
    (hscopes : settings.requiredScopes = REQUIRED_SCOPES) {uuid5 : String → String}
    {roles : List String} {issued : ℚ} {token : String}
    (htoken : (commandLineProvider key).issue uuid5 issued { roles := some roles } = .ok token)
    (now : ℚ) :
    ((∃ t, mcp.VerifiesWithScopes κ now token t) ↔
        Cryptography.publicKey key = Cryptography.publicKey key' ∧
          now - 60 < (⌊issued⌋ + 3600 : ℤ) ∧ (⌊issued⌋ : ℚ) ≤ now + 60) ∧
      ∀ t, mcp.VerifiesWithScopes κ now token t → Verifier.rolesFromToken (some t) = roles := by
  have hverifier := verifier_of_dev hauth now
  have hgood : ∀ t, mcp.VerifiesWithScopes κ now token t → Good (commandLineProvider key)
      (commandLineProvider key') issued now { roles := some roles } ∧
        Verifier.rolesFromToken (some t) = roles := by
    rintro t ⟨verifier, hwhich, hverified, -⟩
    cases hverifier.symm.trans hwhich
    by_cases hgood : Good (commandLineProvider key) (commandLineProvider key') issued now
        { roles := some roles }
    · obtain ⟨t', ht', hcarries⟩ := verifyToken_of_good hjwt htoken hgood
      cases ht'.symm.trans hverified
      exact ⟨hgood, hcarries.roles⟩
    · rw [verifyToken_of_not_good hjwt htoken hgood] at hverified
      cases hverified
  constructor
  · rw [← good_printed_iff roles]
    refine ⟨fun ⟨t, ht⟩ => (hgood t ht).1, fun h => ?_⟩
    obtain ⟨t, ht, hcarries⟩ := verifyToken_of_good hjwt htoken h
    refine ⟨t, _, hverifier, ht, fun arguments settings' heq => ?_⟩
    cases hauth.symm.trans heq
    rw [hscopes]
    exact requiredScopes_of_carries hcarries
  · exact fun t ht => (hgood t ht).2

/-- **What a printed token opens.** One process prints a token for some roles, and another serves,
with `--auth dev`, each with the key it has found. Then the policy file is in order, and the token
is verified with the required scopes exactly when the two have the same key and it is within its
lifetime, up to the leeway. Whatever the server does behind its middleware, and whatever state that
is in, a call of a tool by the bearer reaches it exactly when the server shadows, or the policy file
grants the tool to one of the roles and the call has the approval that the file asks for. Source:
`server.py`, `__main__` and `create_server`; `devidp.py`; `verifier.py`; `policy.py`;
`middleware.py`. -/
theorem printedToken_opens [Calendar] [Server.Signatures] (hjwt : PyJwt.Documented κ)
    {printer server : Invoked κ} {first second : Process ρ} {printing serving : Arguments}
    {key key' : κ} {roles : List String} {token : String} {mcp : McpServer} {later : Process ρ}
    {host : String} {port : ℤ}
    (hprinter : printer.idp printing = .ok (some (commandLineProvider key)))
    (hprinting : printing.printStateKey = false) (hroles : printing.printToken = some roles)
    (hprinted : program printer first printing = .printed token)
    (hserver : server.idp serving = .ok (some (commandLineProvider key')))
    (hdev : serving.auth = .dev) (hserving : serving.printStateKey = false)
    (hnone : serving.printToken = none)
    (hserved : program server second serving = .serves mcp later host port) :
    ∃ raw policy, server.around.files "policy.yaml" = .document raw ∧
      Policy.fromMapping raw "policy.yaml" = .ok policy ∧ ∀ now,
      ((∃ t, mcp.VerifiesWithScopes κ now token t) ↔
        Cryptography.publicKey key = Cryptography.publicKey key' ∧
          now - 60 < (⌊printer.now⌋ + 3600 : ℤ) ∧ (⌊printer.now⌋ : ℚ) ≤ now + 60) ∧
      ∀ t, mcp.VerifiesWithScopes κ now token t →
        ∀ {σ ε : Type} (D : Deployment σ ε) (s : σ) (a : Arrival),
          a.ambient.accessToken = some t → a.ctx.method = some "tools/call" →
          (serving.shadow = true ∨ OpenTo policy roles a.ctx →
            forwardedOf ((D.behind mcp).handle s a).events = [a.ctx]) ∧
          (¬(serving.shadow = true ∨ OpenTo policy roles a.ctx) →
            forwardedOf ((D.behind mcp).handle s a).events = []) := by
  have htoken := issue_of_printed hprinting hroles hprinter hprinted
  have hstarted := hserved
  rw [program_eq_launch second hserving hnone hserver] at hstarted
  obtain ⟨hlaunched, -, -, -⟩ := createServer_of_serves hstarted
  have hposture := posture_of_createServer hlaunched
  obtain ⟨settings, hauth, hscopes⟩ := auth_of_dev hdev hposture.auth
  have hmode : (serving.options (some (commandLineProvider key'))).authMode ≠ .off := by
    show serving.auth ≠ .off
    rw [hdev]
    exact nofun
  obtain ⟨raw, policy, hfile, hparse, -, hmiddleware⟩ := hposture.governed hmode _ rfl
  refine ⟨raw, policy, hfile, hparse, fun now => ?_⟩
  obtain ⟨hverifies, hknown⟩ := verifiesWithScopes_iff hjwt hauth hscopes htoken now
  refine ⟨hverifies, fun t ht σ ε D s a hbearer hcall => ?_⟩
  have hroles' : roles = PolicyEnforcementMiddleware.roles a.ambient := by
    rw [PolicyEnforcementMiddleware.roles, hbearer, hknown t ht]
  have hbehind : D.behind mcp = D.governedBy { policy, enforce := !serving.shadow } := by
    unfold Deployment.behind Deployment.governedBy
    rw [hmiddleware]
    rfl
  have hpasses : Deployment.passes { policy, enforce := !serving.shadow } a = true ↔
      serving.shadow = true ∨ OpenTo policy roles a.ctx := by
    rw [passes_call_iff hcall, Bool.not_eq_false', hroles']
  rw [hbehind, Deployment.forwardedOf_handle, ← hpasses]
  exact ⟨fun h => if_pos h, fun h => if_neg h⟩

end way

/-! ## A reader's token -/

section reader

omit [Interpreter]

/-- A policy file that lets operators raise incidents. -/
def operatorDocument : Yaml := .dict
  [(.str "version", .int 1), (.str "roles", .dict [(.str "tlo.operator", .none)]),
    (.str "tools", .dict [(.str "raise_shipment_incident",
      .dict [(.str "allow_roles", .list [.str "tlo.operator"])])])]

/-- Both processes find the key that the first one has written. -/
def sharingKey (now : ℚ) : Invoked PlainKey where
  around := { ProcessRun.emptySurroundings with files := fun _ => .document operatorDocument }
  keyPath := .file (List.replicate 8 0)
  urandom _ := []
  uuid5 := id
  now

/-- A reader's token is verified, and raises no incident. -/
theorem printedToken_opens_reader : ∃ mcp later t,
    @program PlainKey PlainKey Unit plainCryptography printingLibrary plainInterpreter
        ProcessRun.plainSdk (sharingKey 0) (Process.imported ()) { auth := .dev } =
      .serves mcp later "127.0.0.1" 8000 ∧
    @McpServer.VerifiesWithScopes PlainKey PlainKey plainInterpreter printingLibrary mcp 2800 "" t ∧
    ∀ a : Arrival, a.ambient.accessToken = some t → a.ctx.method = some "tools/call" →
      @toolOf plainInterpreter a.ctx = "raise_shipment_incident" →
      forwardedOf (@Deployment.handle plainInterpreter plainCalendar
        Deployment.plainSignatures _ _
        (Deployment.openDeployment.behind mcp) () a).events = [] := by
  have hprinted : @program PlainKey PlainKey Unit plainCryptography printingLibrary plainInterpreter
      ProcessRun.plainSdk (sharingKey 1000) (Process.imported ())
      { auth := .dev, printToken := some ["tlo.reader"] } = .printed "" := rfl
  obtain ⟨mcp, later, hserved⟩ : ∃ mcp later,
      @program PlainKey PlainKey Unit plainCryptography printingLibrary plainInterpreter
        ProcessRun.plainSdk (sharingKey 0) (Process.imported ()) { auth := .dev } =
      .serves mcp later "127.0.0.1" 8000 := ⟨_, _, rfl⟩
  obtain ⟨raw, policy, hfile, hparse, hopens⟩ := @printedToken_opens plainInterpreter PlainKey
    PlainKey Unit plainCryptography printingLibrary ProcessRun.plainSdk plainCalendar
    Deployment.plainSignatures (documented_plainPyJwt _) (sharingKey 1000) (sharingKey 0)
    (Process.imported ()) (Process.imported ())
    { auth := .dev, printToken := some ["tlo.reader"] } { auth := .dev } ⟨7⟩ ⟨7⟩ ["tlo.reader"] ""
    mcp later _ _ rfl rfl rfl hprinted rfl rfl rfl rfl hserved
  cases hfile
  cases hparse
  obtain ⟨hverifies, hreaches⟩ := hopens 2800
  obtain ⟨t, ht⟩ := hverifies.mpr ⟨rfl, by norm_num [sharingKey], by norm_num [sharingKey]⟩
  refine ⟨mcp, later, t, hserved, ht, fun a hbearer hcall htool => ?_⟩
  refine (hreaches t ht _ () a hbearer hcall).2 ?_
  rintro (hshadow | ⟨rule, hrule, ⟨r, hr, hallowed⟩, -⟩)
  · cases hshadow
  · rw [htool] at hrule
    cases hrule
    cases List.mem_singleton.mp hr
    exact absurd hallowed (by decide)

end reader

end GovernedMcp
