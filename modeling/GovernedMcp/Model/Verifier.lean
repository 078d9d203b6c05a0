import Mathlib.Data.Rat.Floor
import GovernedMcp.Lib.Text
import GovernedMcp.Lib.Traced
import GovernedMcp.Model.Value

/-!
# From a bearer token to an access token

`governance/verifier.py`: `verifyToken` checks a token and projects its claims onto an
`AccessToken` (`toAccessToken`); `rolesFromToken` and `describePrincipal` read the result back.

* The check itself, key lookup and `jwt.decode`, belongs to libraries. An `EntraTokenVerifier` holds
  the two as functions.
* The constructor of `AccessToken` belongs to the SDK. What is used of it is that it keeps its
  arguments and refuses `scopes` that is not a list of strings.
-/

namespace GovernedMcp

open Lib

/-- The verified token as the rest of the server sees it. -/
structure AccessToken where
  token : String
  clientId : String
  scopes : List String
  expiresAt : Option ℤ
  resource : String
  subject : Option String
  claims : List (String × Json)

/-- The exceptions the projection of claims can end in. -/
inductive TokenError where
  | typeError
  | valueError
  | overflowError
  | validationError
  deriving DecidableEq

namespace Verifier

/-! ## The library's check -/

/-- Asymmetric only: with an HMAC algorithm a caller could sign with the public key.
Source: `verifier.py`, `ALLOWED_ALGORITHMS`. -/
def ALLOWED_ALGORITHMS : List String := ["RS256", "RS384", "RS512", "ES256", "ES384", "PS256"]

/-- Why `jwt.decode` rejects a token. -/
inductive InvalidTokenError where
  | invalidAudience
  | expiredSignature
  | other (message : String)
  deriving DecidableEq

/-- The `options` of `jwt.decode`. -/
structure DecodeOptions where
  require : List String
  verifySignature : Bool
  verifyExp : Bool
  verifyNbf : Bool
  verifyIat : Bool
  verifyIss : Bool
  verifyAud : Bool

/-- What `jwt.decode` is called with, next to the token. -/
structure Decoding (κ : Type) where
  key : κ
  algorithms : List String
  issuer : String
  audience : String
  leeway : ℤ
  options : DecodeOptions

/-- A line of the module's logger. -/
inductive LogLine where
  | warning (message : String)
  | info (message : String)
  deriving DecidableEq

/-- A verifier, with its key source and the library it decodes with. Source: `verifier.py`,
`EntraTokenVerifier`. -/
structure EntraTokenVerifier (κ : Type) where
  issuer : String
  audience : String
  /-- `key_source.key_for`: a key, or the text of whatever exception it raised. -/
  keyFor : String → Except String κ
  /-- `jwt.decode`. -/
  decode : String → Decoding κ → Except InvalidTokenError (List (String × Json))
  algorithms : List String := ALLOWED_ALGORITHMS
  leewaySeconds : ℤ := 60
  /-- The constructor refuses any other algorithm. -/
  allowed : ∀ a ∈ algorithms, a ∈ ALLOWED_ALGORITHMS := by simp

/-! ## Projecting the claims -/

variable [Interpreter]

/-- `int(v)`. -/
def pyInt : Json → Except TokenError ℤ
  | .bool b => .ok (if b then 1 else 0)
  | .int n => .ok n
  | .float (.finite q) => .ok (if 0 ≤ q then ⌊q⌋ else ⌈q⌉)
  | .float (.inf _) => .error .overflowError
  | .float .nan => .error .valueError
  | .str s =>
    match Interpreter.parseInt s with
    | some n => .ok n
    | none => .error .valueError
  | _ => .error .typeError

/-- `list(v)`: a list is copied, a mapping gives its keys, anything else is not iterable. Strings
do not get here. -/
def pyList : Json → Except TokenError (List Json)
  | .list xs => .ok xs
  | .dict entries => .ok (entries.map fun e => .str e.1)
  | _ => .error .typeError

/-- The texts of a list of strings; `none` when an element is not a string. -/
def stringsOf : List Json → Option (List String)
  | [] => some []
  | .str s :: vs => (stringsOf vs).map (s :: ·)
  | _ :: _ => none

/-- Source: `verifier.py`, `_string_list`. -/
def stringList : Json → List String
  | .none => []
  | .str s => [s]
  | .list xs => xs.map Value.toStr
  | _ => []

/-- `scp.split() if isinstance(scp, str) else list(scp or [])`. -/
def scopesOf : Json → Except TokenError (List Json)
  | .str s => .ok ((Text.words s).map Value.str)
  | scp => pyList (scp.orElse (.list []))

/-- `int(claims["exp"]) if "exp" in claims else None`. -/
def expiryOf (claims : List (String × Json)) : Except TokenError (Option ℤ) :=
  match Dict.lookup "exp" claims with
  | some exp => (pyInt exp).map some
  | none => .ok none

/-- Source: `verifier.py`, `EntraTokenVerifier._to_access_token`. -/
def toAccessToken (audience token : String) (claims : List (String × Json)) :
    Except TokenError AccessToken := do
  let scopes ← scopesOf (Value.get "scp" claims)
  let roles := stringList (Value.get "roles" claims)
  let scopes := if scopes = [] then roles.map Value.str else scopes
  -- `azp` is the modern claim; `appid` is what v1.0 tokens carry
  let clientId := (Value.get "azp" claims).orElse ((Value.get "appid" claims).orElse
    ((Value.get "sub" claims).orElse (.str "unknown")))
  let expiresAt ← expiryOf claims
  match stringsOf scopes with
  | none => .error .validationError
  | some scopes =>
    return {
      token
      clientId := clientId.toStr
      scopes
      expiresAt
      resource := audience
      subject :=
        if (Value.get "sub" claims).truthy then some (Value.get "sub" claims).toStr else none
      claims :=
        [("iss", Value.get "iss" claims), ("roles", .list (roles.map Value.str)),
          ("tid", Value.get "tid" claims), ("oid", Value.get "oid" claims),
          ("preferred_username", Value.get "preferred_username" claims)] }

/-- What a token is decoded with. -/
def EntraTokenVerifier.decoding {κ : Type} (self : EntraTokenVerifier κ) (key : κ) :
    Decoding κ where
  key
  algorithms := self.algorithms
  issuer := self.issuer
  audience := self.audience
  leeway := self.leewaySeconds
  options :=
    { require := ["exp", "iat", "iss", "aud", "sub"]
      verifySignature := true
      verifyExp := true
      verifyNbf := true
      verifyIat := true
      verifyIss := true
      verifyAud := true }

/-- An access token for a valid token, `none` for one that is rejected.
Source: `verifier.py`, `EntraTokenVerifier.verify_token`. -/
def verifyToken {κ : Type} (self : EntraTokenVerifier κ) (token : String) :
    Traced LogLine TokenError (Option AccessToken) :=
  match self.keyFor token with
  | .error exc => do
    Traced.emit (.warning s!"token rejected: no usable signing key ({exc})")
    return none
  | .ok key =>
    match self.decode token (self.decoding key) with
    | .error .invalidAudience => do
      Traced.emit (.warning s!"token rejected: audience is not {self.audience}")
      return none
    | .error .expiredSignature => do
      Traced.emit (.info "token rejected: expired")
      return none
    | .error (.other message) => do
      Traced.emit (.warning s!"token rejected: {message}")
      return none
    -- the projection runs outside both `try` blocks
    | .ok claims =>
      match toAccessToken self.audience token claims with
      | .ok t => return some t
      | .error e => Traced.raise e

/-! ## Reading a token back -/

/-- The app roles a token carries. Source: `verifier.py`, `roles_from_token`. -/
def rolesFromToken : Option AccessToken → List String
  | none => []
  | some t => stringList (Value.get "roles" t.claims)

/-- Who is calling, for the log. Source: `verifier.py`, `describe_principal`. -/
def describePrincipal : Option AccessToken → String
  | none => "anonymous"
  | some t =>
    let subject : Json := match t.subject with
      | some s => .str s
      | none => .none
    ((Value.get "preferred_username" t.claims).orElse
      (subject.orElse (.str t.clientId))).toStr

/-- The token of a caller known by one name, with one role. -/
def tokenOf (name role : String) : AccessToken where
  token := ""
  clientId := name
  scopes := [role]
  expiresAt := none
  resource := "governed-mcp"
  subject := some name
  claims := [("roles", .list [.str role]), ("preferred_username", .str name)]

/-! ## What the projection keeps -/

/-- Whatever becomes of the scopes, this is what a token is projected to. -/
theorem fields_of_toAccessToken {audience token : String} {claims : List (String × Json)}
    {t : AccessToken} (h : toAccessToken audience token claims = .ok t) :
    t.clientId = ((Value.get "azp" claims).orElse ((Value.get "appid" claims).orElse
      ((Value.get "sub" claims).orElse (.str "unknown")))).toStr ∧
    t.subject = (if (Value.get "sub" claims).truthy then some (Value.get "sub" claims).toStr
      else none) ∧
    t.claims =
      [("iss", Value.get "iss" claims),
        ("roles", .list ((stringList (Value.get "roles" claims)).map Value.str)),
        ("tid", Value.get "tid" claims), ("oid", Value.get "oid" claims),
        ("preferred_username", Value.get "preferred_username" claims)] := by
  unfold toAccessToken at h
  obtain ⟨scopes, -, h⟩ := Except.bind_eq_ok_iff.mp h
  obtain ⟨expiresAt, -, h⟩ := Except.bind_eq_ok_iff.mp h
  split at h
  · cases h
  · cases h
    exact ⟨rfl, rfl, rfl⟩

/-- **The roles survive the projection**: reading a token's roles back gives what `_string_list`
made of the `roles` claim. -/
theorem rolesFromToken_of_toAccessToken {audience token : String} {claims : List (String × Json)}
    {t : AccessToken} (h : toAccessToken audience token claims = .ok t) :
    rolesFromToken (some t) = stringList (Value.get "roles" claims) := by
  show stringList (Value.get "roles" t.claims) = _
  rw [(fields_of_toAccessToken h).2.2]
  simp [Value.get_cons, stringList, Function.comp_def]

end Verifier

end GovernedMcp
