import GovernedMcp.Enforcement.Verification
import GovernedMcp.Model.DevIdp

/-!
# Issued tokens

A token of one development provider is taken to a server that trusts another one, possibly the same.
Whether it is good there can be read off what it was asked for with, the two providers and the two
times. Every key is an RSA key, a foreign one that a token is signed with included.

* `Good`: what makes it good. `Carries`: what a server then knows of its bearer.
* `verifyToken_issued`: good tokens are verified to what they were issued for, all others are
  rejected, and none makes verification raise.
-/

namespace GovernedMcp.DevIdp

open Lib Verifier

/-! ## What is in a token -/

section claims

variable {κ : Type} (self : Provider κ) (uuid5 : String → String) (now : ℤ)
  (claiming : Claiming κ)

/-- A claim is in the token unless it is left out. -/
theorem get_claims (name : String) :
    Value.get name (self.claims uuid5 now claiming) =
      if name ∈ claiming.omitted then .none
      else Value.get name (self.allClaims uuid5 now claiming) := by
  unfold Value.get Provider.claims
  rw [Dict.lookup_filter (fun k => decide (k ∉ claiming.omitted))]
  by_cases h : name ∈ claiming.omitted
  · simp [h]
  · simp [h]

/-- The claims of a token survive being encoded. -/
theorem wellformed_claims : Wellformed (self.claims uuid5 now claiming) where
  distinct := by
    have hall : ((self.allClaims uuid5 now claiming).map Prod.fst).Nodup := by
      show List.Nodup ["iss", "aud", "sub", "oid", "tid", "azp", "preferred_username", "iat", "nbf",
        "exp", "roles", "scp"]
      decide
    exact hall.sublist (List.filter_sublist.map _)
  value c hc := by
    have hmem := List.mem_of_mem_filter hc
    simp only [Provider.allClaims, List.mem_cons, List.not_mem_nil, or_false] at hmem
    rcases hmem with rfl | rfl | rfl | rfl | rfl | rfl | rfl | rfl | rfl | rfl | rfl | rfl
    case inr.inr.inr.inr.inr.inr.inr.inr.inr.inr.inl => exact .inr (.inr ⟨_, rfl⟩)
    all_goals first
      | exact .inl ⟨_, rfl⟩
      | exact .inr (.inl ⟨_, rfl⟩)
  text name hname := by
    rw [get_claims]
    split_ifs
    · exact .inl rfl
    · simp only [List.mem_cons, List.not_mem_nil, or_false] at hname
      rcases hname with rfl | rfl | rfl <;> exact .inr ⟨_, rfl⟩
  time name hname := by
    rw [get_claims]
    split_ifs
    · exact .inl rfl
    · simp only [List.mem_cons, List.not_mem_nil, or_false] at hname
      rcases hname with rfl | rfl | rfl <;> exact .inr ⟨_, rfl⟩

/-- The roles a token is issued with. -/
def Claiming.rolesIssued (claiming : Claiming κ) : List String :=
  if "roles" ∈ claiming.omitted then [] else claiming.roles.getD []

/-- And its scopes. -/
def Claiming.scopesIssued (claiming : Claiming κ) : List String :=
  if "scp" ∈ claiming.omitted then [] else Text.words claiming.scopes

end claims

/-! ## When a token is good -/

section issued

variable {κ π : Type} [Cryptography κ π] [PyJwt κ π] [Interpreter]

/-- What makes a token of `idp` good, later, for a server that trusts `srv`. -/
structure Good (idp srv : Provider κ) (issued now : ℚ) (claiming : Claiming κ) : Prop where
  keyId : idp.keyId = srv.keyId
  key : Cryptography.publicKey (claiming.key.getD idp.privateKey) =
    Cryptography.publicKey srv.privateKey
  algorithm : claiming.algorithm ∈ ALLOWED_ALGORITHMS
  complete : ∀ name ∈ ["exp", "iat", "iss", "aud", "sub"], name ∉ claiming.omitted
  issuer : orOwn claiming.issuer idp.issuer = srv.issuer
  audience : orOwn claiming.audience idp.audience = srv.audience
  /-- The server's clock may be off by a minute, in either direction. -/
  unexpired : now - 60 < (⌊issued⌋ + claiming.expiresIn : ℤ)
  begun : (⌊issued⌋ : ℚ) ≤ now + 60

/-- What a server knows of the bearer of a good token. -/
structure Carries (srv : Provider κ) (issued : ℚ) (claiming : Claiming κ) (t : AccessToken) :
    Prop where
  roles : rolesFromToken (some t) = claiming.rolesIssued
  /-- A token without scopes has its roles for them. -/
  scopes : t.scopes =
    if claiming.scopesIssued = [] then claiming.rolesIssued else claiming.scopesIssued
  expiresAt : t.expiresAt = some (⌊issued⌋ + claiming.expiresIn)
  resource : t.resource = srv.audience
  subject : t.subject = if claiming.subject = "" then none else some claiming.subject
  principal : "preferred_username" ∉ claiming.omitted → claiming.subject ≠ "" →
    describePrincipal (some t) = claiming.subject

/-- The key of a token is found where its key id is known. -/
theorem keyFor_issued (hjwt : PyJwt.Documented κ) {idp : Provider κ} (srv : Provider κ)
    {token : String}
    (h : PyJwt.getUnverifiedHeader κ token = .ok ⟨some idp.keyId⟩) :
    (srv.jwks.keyFor κ token = .ok (Cryptography.publicKey srv.privateKey) ∧
        idp.keyId = srv.keyId) ∨
      (∃ message, srv.jwks.keyFor κ token = .error message) ∧ idp.keyId ≠ srv.keyId := by
  have hkid : Value.get "kid" (Dict.setEntries "alg" (.str "RS256")
      (Dict.setEntries "use" (.str "sig") (Dict.setEntries "kid" (.str srv.keyId)
        (PyJwt.toJwk κ (Cryptography.publicKey srv.privateKey))))) = .str srv.keyId := by
    simp [Value.get, Dict.lookup_setEntries]
  have hfind : srv.jwks.keys.find? (fun key => (Value.get "kid" key).eqStr idp.keyId) =
      if srv.keyId = idp.keyId then srv.jwks.keys.head? else none := by
    rw [Provider.jwks, List.find?_singleton, hkid]
    simp [Value.eqStr]
  unfold StaticJwks.keyFor
  rw [h]
  simp only [bind, Except.bind, hfind]
  by_cases hsame : srv.keyId = idp.keyId
  · left
    rw [if_pos hsame]
    exact ⟨hjwt.keyOfJwk _ _, hsame.symm⟩
  · right
    rw [if_neg hsame]
    exact ⟨⟨_, rfl⟩, Ne.symm hsame⟩

/-- What is checked of the claims of a token comes down to what it was asked for with. -/
theorem checked_claims_iff (idp srv : Provider κ) (uuid5 : String → String) (issued now : ℚ)
    (claiming : Claiming κ) :
    Checked now ((srv.verifier now).decoding (Cryptography.publicKey srv.privateKey))
        (idp.claims uuid5 ⌊issued⌋ claiming) ↔
      (∀ name ∈ ["exp", "iat", "iss", "aud", "sub"], name ∉ claiming.omitted) ∧
        orOwn claiming.issuer idp.issuer = srv.issuer ∧
        orOwn claiming.audience idp.audience = srv.audience ∧
        now - 60 < (⌊issued⌋ + claiming.expiresIn : ℤ) ∧ (⌊issued⌋ : ℚ) ≤ now + 60 := by
  have hget : (∀ name ∈ ["exp", "iat", "iss", "aud", "sub"], name ∉ claiming.omitted) →
      ∀ name ∈ ["exp", "iat", "iss", "aud", "sub"],
        Value.get name (idp.claims uuid5 ⌊issued⌋ claiming) =
          Value.get name (idp.allClaims uuid5 ⌊issued⌋ claiming) := by
    intro hcomplete name hname
    rw [get_claims, if_neg (hcomplete name hname)]
  constructor
  · intro h
    have hcomplete : ∀ name ∈ ["exp", "iat", "iss", "aud", "sub"], name ∉ claiming.omitted := by
      intro name hname homitted
      apply h.required name hname
      rw [get_claims, if_pos homitted]
    have hiss : Value.str _ = Value.str srv.issuer :=
      (hget hcomplete "iss" (by simp)).symm.trans h.iss
    have haud : Value.str _ = Value.str srv.audience :=
      (hget hcomplete "aud" (by simp)).symm.trans h.aud
    refine ⟨hcomplete, by simpa using hiss, by simpa using haud, ?_, ?_⟩
    · exact h.exp _ (hget hcomplete "exp" (by simp))
    · exact h.iat _ (hget hcomplete "iat" (by simp))
  · rintro ⟨hcomplete, hissuer, haudience, hexp, hiat⟩
    replace hget := hget hcomplete
    constructor
    · intro name hname
      rw [hget name hname]
      have hmem := hname
      simp only [Verifier.EntraTokenVerifier.decoding, List.mem_cons, List.not_mem_nil,
        or_false] at hmem
      rcases hmem with rfl | rfl | rfl | rfl | rfl <;> exact nofun
    · rw [hget "iss" (by simp)]
      exact congrArg Value.str hissuer
    · rw [hget "aud" (by simp)]
      exact congrArg Value.str haudience
    · intro n hn
      have hexpiry : Value.int _ = Value.int _ := (hget "exp" (by simp)).symm.trans hn
      simp only [Value.scalar.injEq, Scalar.int.injEq] at hexpiry
      rw [← hexpiry]
      exact hexp
    · intro n hn
      rw [get_claims] at hn
      by_cases homitted : "nbf" ∈ claiming.omitted
      · rw [if_pos homitted] at hn
        cases hn
      rw [if_neg homitted] at hn
      have hbegun : Value.int _ = Value.int _ := hn
      simp only [Value.scalar.injEq, Scalar.int.injEq] at hbegun
      rw [← hbegun]
      exact hiat
    · intro n hn
      have hbegun : Value.int _ = Value.int _ := (hget "iat" (by simp)).symm.trans hn
      simp only [Value.scalar.injEq, Scalar.int.injEq] at hbegun
      rw [← hbegun]
      exact hiat

omit [Interpreter] in
/-- Texts are read back. -/
theorem stringsOf_map_str (ss : List String) : stringsOf (ss.map Value.str) = some ss := by
  induction ss with
  | nil => rfl
  | cons s ss ih => simp [stringsOf, ih]

/-- **A good token is projected** to what it was issued for. -/
theorem exists_toAccessToken_claims (idp srv : Provider κ) (uuid5 : String → String) (issued : ℚ)
    (claiming : Claiming κ) (token : String)
    (hcomplete : ∀ name ∈ ["exp", "iat", "iss", "aud", "sub"], name ∉ claiming.omitted) :
    ∃ t, toAccessToken srv.audience token (idp.claims uuid5 ⌊issued⌋ claiming) = .ok t ∧
      Carries srv issued claiming t := by
  have hscopes : scopesOf (Value.get "scp" (idp.claims uuid5 ⌊issued⌋ claiming)) =
      .ok (claiming.scopesIssued.map Value.str) := by
    rw [get_claims, Claiming.scopesIssued]
    split_ifs <;> rfl
  have hroles : stringList (Value.get "roles" (idp.claims uuid5 ⌊issued⌋ claiming)) =
      claiming.rolesIssued := by
    rw [get_claims, Claiming.rolesIssued]
    split_ifs
    · rfl
    · show List.map Value.toStr (List.map Value.str _) = _
      rw [List.map_map]
      exact List.map_id _
  have hsub : Value.get "sub" (idp.claims uuid5 ⌊issued⌋ claiming) = .str claiming.subject := by
    rw [get_claims, if_neg (hcomplete "sub" (by simp))]
    rfl
  have hexpiry : expiryOf (idp.claims uuid5 ⌊issued⌋ claiming) =
      .ok (some (⌊issued⌋ + claiming.expiresIn)) := by
    have hexp : Value.get "exp" (idp.claims uuid5 ⌊issued⌋ claiming) =
        .int (⌊issued⌋ + claiming.expiresIn) := by
      rw [get_claims, if_neg (hcomplete "exp" (by simp))]
      rfl
    rw [expiryOf, Value.lookup_of_get hexp (by simp)]
    rfl
  obtain ⟨scopes, hstrings, hscopesIs⟩ : ∃ scopes : List String,
      stringsOf (scopesOrRoles (claiming.scopesIssued.map Value.str) claiming.rolesIssued) =
        some scopes ∧ scopes =
          if claiming.scopesIssued = [] then claiming.rolesIssued else claiming.scopesIssued := by
    refine ⟨_, ?_, rfl⟩
    rw [scopesOrRoles]
    simp only [List.map_eq_nil_iff]
    split_ifs <;> exact stringsOf_map_str _
  obtain ⟨t, ht, hscopesOf, hexpiresAt, hresource⟩ : ∃ t,
      toAccessToken srv.audience token (idp.claims uuid5 ⌊issued⌋ claiming) = .ok t ∧
        t.scopes = scopes ∧ t.expiresAt = some (⌊issued⌋ + claiming.expiresIn) ∧
        t.resource = srv.audience := by
    unfold scopesOrRoles at hstrings
    unfold toAccessToken
    rw [hscopes, hexpiry, hroles]
    simp only [bind, Except.bind, hstrings]
    exact ⟨_, rfl, rfl, rfl, rfl⟩
  obtain ⟨-, hsubject, hclaims⟩ := fields_of_toAccessToken ht
  refine ⟨t, ht, ?_⟩
  constructor
  · rw [rolesFromToken_of_toAccessToken ht, hroles]
  · rw [hscopesOf, hscopesIs]
  · exact hexpiresAt
  · exact hresource
  · rw [hsubject, hsub]
    by_cases hempty : claiming.subject = ""
    · simp [hempty]
    · simp [hempty]
  · intro hnamed hsubject'
    have husername : Value.get "preferred_username" t.claims = .str claiming.subject := by
      rw [hclaims]
      simp [Value.get_cons, get_claims, hnamed, Provider.allClaims]
    rw [describePrincipal, husername, Value.orElse_of_truthy (by simpa using hsubject')]
    rfl

/-- The library decodes an issued token, under the key of a server, where all but its key id is
good. -/
theorem decode_issued (hjwt : PyJwt.Documented κ) {idp srv : Provider κ}
    {uuid5 : String → String} {issued : ℚ} {claiming : Claiming κ} {token : String}
    (htoken : idp.issue uuid5 issued claiming = .ok token) (hkeyId : idp.keyId = srv.keyId)
    (now : ℚ) (claims' : List (String × Json)) :
    PyJwt.decode κ now token
        ((srv.verifier now).decoding (Cryptography.publicKey srv.privateKey)) = .ok claims' ↔
      claims' = idp.claims uuid5 ⌊issued⌋ claiming ∧ Good idp srv issued now claiming := by
  have hstrict : ((srv.verifier now).decoding
      (Cryptography.publicKey srv.privateKey)).options.Strict :=
    ⟨rfl, rfl, rfl, rfl, rfl, rfl⟩
  unfold Provider.issue at htoken
  by_cases hunsigned : claiming.algorithm = "none"
  · simp only [if_pos hunsigned] at htoken
    refine ⟨fun h => absurd h (hjwt.decode_unsigned htoken hstrict claims'), ?_⟩
    rintro ⟨-, hgood⟩
    have halgorithm := hgood.algorithm
    rw [hunsigned] at halgorithm
    exact absurd halgorithm (by decide)
  · simp only [if_neg hunsigned] at htoken
    rw [hjwt.decode_signed (wellformed_claims idp uuid5 ⌊issued⌋ claiming) htoken hstrict,
      checked_claims_iff]
    refine and_congr_right fun _ => ⟨?_, ?_⟩
    · rintro ⟨halgorithm, hkey, hcomplete, hissuer, haudience, hunexpired, hbegun⟩
      exact ⟨hkeyId, hkey, halgorithm, hcomplete, hissuer, haudience, hunexpired, hbegun⟩
    · intro h
      exact ⟨h.algorithm, h.key, h.complete, h.issuer, h.audience, h.unexpired, h.begun⟩

section verification

variable (hjwt : PyJwt.Documented κ) {idp srv : Provider κ} {uuid5 : String → String} {issued : ℚ}
  {claiming : Claiming κ} {token : String} (htoken : idp.issue uuid5 issued claiming = .ok token)

include hjwt htoken

omit [Interpreter] in
/-- The header names the key of the provider. -/
theorem header_issued : PyJwt.getUnverifiedHeader κ token = .ok ⟨some idp.keyId⟩ := by
  unfold Provider.issue at htoken
  by_cases hunsigned : claiming.algorithm = "none"
  · simp only [if_pos hunsigned] at htoken
    exact hjwt.header htoken
  · simp only [if_neg hunsigned] at htoken
    exact hjwt.header htoken

/-- A good token is verified to what it was issued for. -/
theorem verifyToken_of_good {now : ℚ} (hgood : Good idp srv issued now claiming) :
    ∃ t, (verifyToken (srv.verifier now) token).value = .ok (some t) ∧
      Carries srv issued claiming t := by
  rcases keyFor_issued hjwt srv (header_issued hjwt htoken) with ⟨hkey, hkeyId⟩ | ⟨-, hkeyId⟩
  · have hkey' : (srv.verifier now).keyFor token = .ok _ := hkey
    obtain ⟨t, ht, hcarries⟩ :=
      exists_toAccessToken_claims idp srv uuid5 issued claiming token hgood.complete
    refine ⟨t, ?_, hcarries⟩
    rw [value_verifyToken_of_accepted hkey'
      ((decode_issued hjwt htoken hkeyId now _).mpr ⟨rfl, hgood⟩)]
    show (toAccessToken srv.audience token _).map some = _
    rw [ht]
    rfl
  · exact absurd hgood.keyId hkeyId

/-- Any other is rejected. -/
theorem verifyToken_of_not_good {now : ℚ} (hbad : ¬Good idp srv issued now claiming) :
    (verifyToken (srv.verifier now) token).value = .ok none := by
  rcases keyFor_issued hjwt srv (header_issued hjwt htoken) with
    ⟨hkey, hkeyId⟩ | ⟨⟨message, hkey⟩, -⟩
  · have hkey' : (srv.verifier now).keyFor token = .ok _ := hkey
    cases hclaims : PyJwt.decode κ now token
        ((srv.verifier now).decoding (Cryptography.publicKey srv.privateKey)) with
    | error e => exact value_verifyToken_of_rejected hkey' hclaims
    | ok claims' => exact absurd ((decode_issued hjwt htoken hkeyId now claims').mp hclaims).2 hbad
  · have hkey' : (srv.verifier now).keyFor token = .error message := hkey
    unfold verifyToken
    simp [hkey']

end verification

/-- **Issued tokens.** A token that one development provider has issued, with its own or a foreign
RSA key, is verified by a server that trusts another one exactly where it is good: key and key id
are shared, issuer and audience are the server's, the algorithm is allowed, no required claim is
left out, and it is within its lifetime, up to the leeway. Then the server knows the roles, the
scopes and the name it was issued for. Any other is rejected; none raises. Source: `devidp.py`,
`issue` and `jwks`; `verifier.py`, `StaticJwks.key_for` and `verify_token`. -/
theorem verifyToken_issued (hjwt : PyJwt.Documented κ) {idp srv : Provider κ}
    {uuid5 : String → String} {issued : ℚ} {claiming : Claiming κ} {token : String}
    (htoken : idp.issue uuid5 issued claiming = .ok token) (now : ℚ) :
    (Good idp srv issued now claiming → ∃ t,
        (verifyToken (srv.verifier now) token).value = .ok (some t) ∧
          Carries srv issued claiming t) ∧
      (¬Good idp srv issued now claiming →
        (verifyToken (srv.verifier now) token).value = .ok none) :=
  ⟨verifyToken_of_good hjwt htoken, verifyToken_of_not_good hjwt htoken⟩

end issued

/-! ## One token -/

/-- A provider with some key. -/
def exampleProvider : Provider PlainKey :=
  @Provider.ofKey PlainKey PlainKey plainCryptography ⟨7⟩ DEV_ISSUER DEV_AUDIENCE ""

/-- What a reader asks for. -/
def exampleClaiming : Claiming PlainKey := { subject := "rita", roles := some ["tlo.reader"] }

/-- A library that can encode the reader's token. -/
@[reducible] def exampleLibrary : PyJwt PlainKey PlainKey :=
  plainPyJwt [⟨exampleProvider.claims id 1000 exampleClaiming, some ⟨7⟩, some "RS256",
    [("kid", exampleProvider.keyId)]⟩]

/-- Half an hour later the token is good. -/
theorem verifyToken_issued_reader : ∃ t : AccessToken,
    (@verifyToken plainInterpreter PlainKey
        (@Provider.verifier PlainKey PlainKey plainCryptography exampleLibrary plainInterpreter
          exampleProvider 2800) "").value = .ok (some t) ∧
      @Carries PlainKey plainInterpreter exampleProvider 1000 exampleClaiming t := by
  have hgood : @Good PlainKey PlainKey plainCryptography exampleProvider exampleProvider 1000 2800
      exampleClaiming := by
    refine @Good.mk PlainKey PlainKey plainCryptography _ _ _ _ _ rfl rfl (by decide) ?_ rfl rfl
      ?_ ?_
    · exact fun _ _ => List.not_mem_nil
    · norm_num [exampleClaiming]
    · norm_num
  exact (@verifyToken_issued PlainKey PlainKey plainCryptography exampleLibrary plainInterpreter
    (documented_plainPyJwt _) exampleProvider exampleProvider id 1000 exampleClaiming "" rfl
    2800).1 hgood

end GovernedMcp.DevIdp
