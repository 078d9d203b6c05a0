import GovernedMcp.Model.Verifier

/-!
# When verification raises

A token that is rejected should be told so by `None`. Key lookup and decoding are guarded by `try`
blocks, and the projection of the claims comes after them.

* `Decoded`: what is known of claims that the library has accepted.
* `UnusableScopes`: a `scp` claim the projection cannot turn into a list of strings.
* `exists_toAccessToken_iff`: of all claims only `scp` can make the projection raise.
* `verifyToken_returns_iff`: so verification raises exactly on a good token with such a claim.
-/

namespace GovernedMcp.Verifier

open Lib

/-! ## What can be wrong with the scopes -/

/-- Claims that were accepted: the required ones are there, and of the kinds they have to be. -/
structure Decoded (claims : List (String × Json)) [Interpreter] : Prop where
  required : ∀ name ∈ ["exp", "iat", "iss", "aud", "sub"], Value.get name claims ≠ .none
  sub : ∃ s, Value.get "sub" claims = .str s
  exp : ∃ n, pyInt (Value.get "exp" claims) = .ok n

/-- A `scp` claim that is neither a text nor a mapping, is not falsy, and is not a list of texts. -/
def UnusableScopes : Json → Prop
  | .str _ | .dict _ => False
  | .list xs => ∃ x ∈ xs, ∀ s, x ≠ .str s
  | scp => scp.truthy = true

/-- The texts of a list are found iff all its elements are texts. -/
theorem exists_stringsOf_iff {vs : List Json} :
    (∃ ss, stringsOf vs = some ss) ↔ ∀ v ∈ vs, ∃ s, v = .str s := by
  induction vs using stringsOf.induct with
  | case1 => simp [stringsOf]
  | case2 s vs ih =>
    rw [List.forall_mem_cons, ← ih]
    simp [stringsOf]
  | case3 v vs hv =>
    constructor
    · rintro ⟨ss, hss⟩
      rw [stringsOf] at hss
      · cases hss
      · exact hv
    · intro h
      obtain ⟨s, rfl⟩ := h v List.mem_cons_self
      exact absurd rfl (hv s)

/-- Texts are a list of texts. -/
theorem exists_stringsOf_map_str (ss : List String) :
    ∃ ss', stringsOf (ss.map Value.str) = some ss' := by
  rw [exists_stringsOf_iff]
  intro v hv
  obtain ⟨s, -, rfl⟩ := List.mem_map.mp hv
  exact ⟨s, rfl⟩

/-- The scopes of a token: those of `scp`, and the roles where it has none. -/
def scopesOrRoles (scopes : List Json) (roles : List String) : List Json :=
  if scopes = [] then roles.map Value.str else scopes

/-- The scopes, or the roles in their place, are texts where the scopes are. -/
theorem exists_stringsOf_scopesOrRoles_iff {scopes : List Json} {roles : List String} :
    (∃ ss, stringsOf (scopesOrRoles scopes roles) = some ss) ↔ ∀ v ∈ scopes, ∃ s, v = .str s := by
  unfold scopesOrRoles
  split_ifs with h
  · simp [h, exists_stringsOf_map_str]
  · exact exists_stringsOf_iff

/-- **Scopes are found** iff `scp` is usable. -/
theorem exists_scopesOf_iff (scp : Json) (roles : List String) :
    (∃ scopes, scopesOf scp = .ok scopes ∧
        ∃ ss, stringsOf (scopesOrRoles scopes roles) = some ss) ↔ ¬UnusableScopes scp := by
  simp only [exists_stringsOf_scopesOrRoles_iff]
  rcases scp with (_ | b | n | x | s | ⟨text, truth⟩) | xs | entries | ⟨cls, attrs⟩
  case scalar.str =>
    simp [scopesOf, UnusableScopes]
  case list =>
    rcases xs with _ | ⟨x, xs⟩
    · simp [scopesOf, UnusableScopes, Value.orElse, Value.truthy, pyList]
    · simp [scopesOf, UnusableScopes, Value.orElse, Value.truthy, pyList]
  case dict =>
    rcases entries with _ | ⟨e, entries⟩
    · simp [scopesOf, UnusableScopes, Value.orElse, Value.truthy, pyList]
    · -- the names of its members
      simp only [scopesOf, UnusableScopes, Value.orElse, Value.truthy, List.isEmpty_cons,
        Bool.not_false, if_true, pyList, Except.ok.injEq, exists_eq_left', not_false_eq_true,
        iff_true]
      intro v hv
      obtain ⟨entry, -, rfl⟩ := List.mem_map.mp hv
      exact ⟨entry.1, rfl⟩
  all_goals
    simp only [scopesOf, UnusableScopes, Value.orElse]
    split_ifs with h
    · simp [pyList, h]
    · simp [pyList, h]

/-! ## The projection -/

section projection

variable [Interpreter]

/-- Decoded claims have an expiry that can be read. -/
theorem exists_expiryOf {claims : List (String × Json)} (h : Decoded claims) :
    ∃ expiresAt, expiryOf claims = .ok expiresAt := by
  obtain ⟨n, hn⟩ := h.exp
  have hlookup := Value.lookup_of_get rfl (h.required "exp" (by simp))
  refine ⟨some n, ?_⟩
  simp [expiryOf, hlookup, hn, Except.map]

/-- **Of all claims only `scp`** can make the projection raise. -/
theorem exists_toAccessToken_iff {claims : List (String × Json)} (h : Decoded claims)
    (audience token : String) : (∃ t, toAccessToken audience token claims = .ok t) ↔
      ¬UnusableScopes (Value.get "scp" claims) := by
  rw [← exists_scopesOf_iff _ (stringList (Value.get "roles" claims))]
  unfold toAccessToken
  constructor
  · rintro ⟨t, ht⟩
    obtain ⟨scopes, hscopes, ht⟩ := Except.bind_eq_ok_iff.mp ht
    obtain ⟨expiresAt, -, ht⟩ := Except.bind_eq_ok_iff.mp ht
    refine ⟨scopes, hscopes, ?_⟩
    split at ht
    · cases ht
    · rename_i ss hss
      exact ⟨ss, hss⟩
  · rintro ⟨scopes, hscopes, ss, hss⟩
    obtain ⟨expiresAt, hexpiry⟩ := exists_expiryOf h
    unfold scopesOrRoles at hss
    rw [hscopes, hexpiry]
    simp only [bind, Except.bind, hss]
    exact ⟨_, rfl⟩

/-! ## Verification -/

variable {κ : Type}

/-- A rejected token is answered with `None`, whatever the library rejects it for. -/
theorem value_verifyToken_of_rejected {self : EntraTokenVerifier κ} {token : String} {key : κ}
    {e : InvalidTokenError} (hkey : self.keyFor token = .ok key)
    (hdecode : self.decode token (self.decoding key) = .error e) :
    (verifyToken self token).value = .ok none := by
  unfold verifyToken
  rw [hkey]
  cases e <;> simp [hdecode]

/-- An accepted one is answered with what its claims are projected to. -/
theorem value_verifyToken_of_accepted {self : EntraTokenVerifier κ} {token : String} {key : κ}
    {claims : List (String × Json)} (hkey : self.keyFor token = .ok key)
    (hdecode : self.decode token (self.decoding key) = .ok claims) :
    (verifyToken self token).value = (toAccessToken self.audience token claims).map some := by
  unfold verifyToken
  simp only [hkey, hdecode]
  cases toAccessToken self.audience token claims <;> rfl

/-- **When verification raises**: on a token whose key is found and that the library accepts, with
unusable scopes, and never else. -/
theorem verifyToken_returns_iff (self : EntraTokenVerifier κ)
    (hdecode : ∀ token decoding claims, self.decode token decoding = .ok claims → Decoded claims)
    (token : String) : (∃ answer, (verifyToken self token).value = .ok answer) ↔
      ∀ key claims, self.keyFor token = .ok key →
        self.decode token (self.decoding key) = .ok claims →
          ¬UnusableScopes (Value.get "scp" claims) := by
  constructor
  · rintro ⟨answer, hanswer⟩ key claims hkey hclaims
    rw [value_verifyToken_of_accepted hkey hclaims] at hanswer
    rw [← exists_toAccessToken_iff (hdecode _ _ _ hclaims) self.audience token]
    cases ht : toAccessToken self.audience token claims with
    | error e =>
      rw [ht] at hanswer
      cases hanswer
    | ok t => exact ⟨t, rfl⟩
  · intro h
    cases hkey : self.keyFor token with
    | error exc =>
      refine ⟨none, ?_⟩
      unfold verifyToken
      simp [hkey]
    | ok key =>
      cases hclaims : self.decode token (self.decoding key) with
      | error e => exact ⟨none, value_verifyToken_of_rejected hkey hclaims⟩
      | ok claims =>
        obtain ⟨t, ht⟩ := (exists_toAccessToken_iff (hdecode _ _ _ hclaims) self.audience token).mpr
          (h key claims hkey hclaims)
        refine ⟨some t, ?_⟩
        rw [value_verifyToken_of_accepted hkey hclaims, ht]
        rfl

end projection

/-! ## A token with a boolean scope -/

/-- The claims of a caller, with some scope. -/
def claimsWith (scp : Json) : List (String × Json) :=
  [("iss", .str "https://login.microsoftonline.com/t/v2.0"),
    ("aud", .str "api://governed-mcp-server"), ("iat", .int 1000), ("exp", .int 4600),
    ("sub", .str "rita"), ("scp", scp), ("roles", .list [.str "tlo.reader"])]

/-- Its claims are decoded claims. -/
theorem decoded_claimsWith (scp : Json) : @Decoded (claimsWith scp) plainInterpreter := by
  refine @Decoded.mk _ plainInterpreter ?_ ⟨"rita", rfl⟩ ⟨4600, rfl⟩
  intro name hname
  simp only [List.mem_cons, List.not_mem_nil, or_false] at hname
  rcases hname with rfl | rfl | rfl | rfl | rfl <;> simp [claimsWith, Value.get_cons]

/-- A verifier to which every token carries that scope. -/
def verifierOf (scp : Json) : EntraTokenVerifier Unit where
  issuer := "https://login.microsoftonline.com/t/v2.0"
  audience := "api://governed-mcp-server"
  keyFor _ := .ok ()
  decode _ _ := .ok (claimsWith scp)

/-- **The failing input**: a good token whose `scp` is `true` ends in a `TypeError`. -/
theorem verifyToken_raises_of_booleanScope :
    (∀ token decoding claims, (verifierOf (.bool true)).decode token decoding = .ok claims →
      @Decoded claims plainInterpreter) ∧
      ¬∀ token, ∃ answer,
        (@verifyToken plainInterpreter Unit (verifierOf (.bool true)) token).value =
          .ok answer := by
  constructor
  · intro token decoding claims h
    cases h
    exact decoded_claimsWith _
  · intro h
    obtain ⟨answer, hanswer⟩ := h "token"
    cases hanswer

/-- With a text in its place the token is verified. -/
theorem verifyToken_returns_of_textScope : ∃ answer,
    (@verifyToken plainInterpreter Unit (verifierOf (.str "mcp.invoke")) "token").value =
      .ok answer := by
  refine (@verifyToken_returns_iff plainInterpreter Unit (verifierOf (.str "mcp.invoke")) ?_
    "token").mpr ?_
  · intro token decoding claims h
    cases h
    exact decoded_claimsWith _
  · intro key claims _ hclaims
    cases hclaims
    simp [claimsWith, Value.get_cons, UnusableScopes]

end GovernedMcp.Verifier
