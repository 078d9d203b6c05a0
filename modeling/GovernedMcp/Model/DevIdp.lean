import GovernedMcp.Model.Process
import GovernedMcp.Model.Verifier

/-!
# The development identity provider

`governance/devidp.py`: a `Provider` holds a signing key, publishes the public half of it and issues
tokens; `governance/verifier.py`, `StaticJwks`, finds the key of a token in what is published.

Keys and tokens are the business of libraries, which are two classes here. `κ` is the type of RSA
private keys and `π` that of public ones; tokens signed with a key of another kind are left out, on
which `decode` may raise what is no `InvalidTokenError`. What the libraries are documented to do is
stated in `Cryptography.Documented` and `PyJwt.Documented`.
-/

namespace GovernedMcp

open Lib Verifier

/-! ## The libraries -/

/-- `cryptography` and `hashlib`. -/
class Cryptography (κ : Type) (π : outParam Type) where
  publicKey : κ → π
  /-- `public_bytes`, as `SubjectPublicKeyInfo` in DER. -/
  publicBytes : π → List UInt8
  /-- `private_bytes`, as PKCS8 in PEM, not encrypted. -/
  privateBytes : κ → List UInt8
  /-- `load_pem_private_key`; a private key that is not an RSA key is `none`. -/
  loadPemPrivateKey : List UInt8 → Except String (Option κ)
  /-- `sha256(...).hexdigest()`. -/
  sha256 : List UInt8 → String

/-- What is written as PEM is read back, and an empty file is none. -/
structure Cryptography.Documented (κ : Type) {π : Type} [Cryptography κ π] : Prop where
  load_privateBytes : ∀ key : κ,
    loadPemPrivateKey (κ := κ) (privateBytes key) = .ok (some key)
  load_nil : ∃ message, loadPemPrivateKey (κ := κ) [] = .error message

/-- The header of a token that nobody has verified. The library sees to it that `kid` is a text. -/
structure Header where
  kid : Option String

/-- PyJWT. -/
class PyJwt (κ : Type) (π : outParam Type) where
  /-- `RSAAlgorithm.to_jwk`. -/
  toJwk : π → List (String × Json)
  /-- `PyJWK(jwk).key`. -/
  keyOfJwk : List (String × Json) → Except String π
  /-- `encode(claims, key, algorithm, headers)`. -/
  encode : List (String × Json) → Option κ → Option String → List (String × String) →
    Except String String
  getUnverifiedHeader : String → Except String Header
  /-- `decode`, at some time. -/
  decode : ℚ → String → Decoding π → Except InvalidTokenError (List (String × Json))

/-- Every check is on. -/
def Verifier.DecodeOptions.Strict (options : DecodeOptions) : Prop :=
  options.verifySignature = true ∧ options.verifyExp = true ∧ options.verifyNbf = true ∧
    options.verifyIat = true ∧ options.verifyIss = true ∧ options.verifyAud = true

/-- Claims that survive being written as JSON and read back, with the registered ones of the kinds
they have to be. -/
structure Wellformed (claims : List (String × Json)) : Prop where
  distinct : (claims.map Prod.fst).Nodup
  value : ∀ c ∈ claims, (∃ s, c.2 = .str s) ∨ (∃ n, c.2 = .int n) ∨
    ∃ ss : List String, c.2 = .list (ss.map Value.str)
  text : ∀ name ∈ ["iss", "aud", "sub"], Value.get name claims = .none ∨
    ∃ s, Value.get name claims = .str s
  time : ∀ name ∈ ["exp", "nbf", "iat"], Value.get name claims = .none ∨
    ∃ n, Value.get name claims = .int n

/-- What is checked of the claims of a token. -/
structure Checked {π : Type} (now : ℚ) (decoding : Decoding π) (claims : List (String × Json)) :
    Prop where
  required : ∀ name ∈ decoding.options.require, Value.get name claims ≠ .none
  iss : Value.get "iss" claims = .str decoding.issuer
  aud : Value.get "aud" claims = .str decoding.audience
  exp : ∀ n, Value.get "exp" claims = .int n → now - decoding.leeway < n
  nbf : ∀ n, Value.get "nbf" claims = .int n → n ≤ now + decoding.leeway
  iat : ∀ n, Value.get "iat" claims = .int n → n ≤ now + decoding.leeway

/-- A condition on a value, if it is a number. -/
instance decidableOfInt (v : Json) (P : ℤ → Prop) [DecidablePred P] :
    Decidable (∀ n, v = .int n → P n) :=
  match v with
  | .int m => decidable_of_iff (P m) ⟨fun h n hn => by cases hn; exact h, fun h => h m rfl⟩
  | .none | .bool _ | .float _ | .str _ | .scalar (.other _ _) | .list _ | .dict _ | .model _ _ =>
    .isTrue nofun

instance {π : Type} (now : ℚ) (decoding : Decoding π) (claims : List (String × Json)) :
    Decidable (Checked now decoding claims) :=
  decidable_of_iff
    ((∀ name ∈ decoding.options.require, Value.get name claims ≠ .none) ∧
      Value.get "iss" claims = .str decoding.issuer ∧
      Value.get "aud" claims = .str decoding.audience ∧
      (∀ n, Value.get "exp" claims = .int n → now - decoding.leeway < n) ∧
      (∀ n, Value.get "nbf" claims = .int n → (n : ℚ) ≤ now + decoding.leeway) ∧
      ∀ n, Value.get "iat" claims = .int n → (n : ℚ) ≤ now + decoding.leeway)
    ⟨fun ⟨required, iss, aud, exp, nbf, iat⟩ => ⟨required, iss, aud, exp, nbf, iat⟩,
      fun h => ⟨h.required, h.iss, h.aud, h.exp, h.nbf, h.iat⟩⟩

/-- What PyJWT is documented to do, as far as tokens go that it has encoded itself. -/
structure PyJwt.Documented (κ : Type) {π : Type} [Cryptography κ π] [PyJwt κ π] : Prop where
  /-- A public key is read back from its JWK, whatever key id is put in. -/
  keyOfJwk : ∀ (key : π) (kid : String),
    keyOfJwk κ (Dict.setEntries "alg" (.str "RS256") (Dict.setEntries "use" (.str "sig")
      (Dict.setEntries "kid" (.str kid) (toJwk κ key)))) = .ok key
  header : ∀ {claims headers token} {key : Option κ} {algorithm},
    encode claims key algorithm headers = .ok token →
      getUnverifiedHeader κ token = .ok ⟨Dict.lookup "kid" headers⟩
  /-- A signed token is accepted under the key that belongs to it, by an algorithm there is asked
  for, with claims in order. Then its claims are what they were. -/
  decode_signed : ∀ {claims headers token} {key : κ} {algorithm now} {decoding : Decoding π},
    Wellformed claims → encode claims (some key) (some algorithm) headers = .ok token →
      decoding.options.Strict → ∀ claims',
        (decode κ now token decoding = .ok claims' ↔
          claims' = claims ∧ algorithm ∈ decoding.algorithms ∧
            Cryptography.publicKey key = decoding.key ∧ Checked now decoding claims)
  /-- An unsigned one is not. -/
  decode_unsigned : ∀ {claims headers token now} {decoding : Decoding π},
    encode claims (none : Option κ) none headers = .ok token → decoding.options.Strict →
      ∀ claims', decode κ now token decoding ≠ .ok claims'

/-! ## Libraries for concrete runs -/

/-- A key, private or public, that has a number. -/
structure PlainKey where
  number : ℕ
  deriving DecidableEq

/-- Keys are written as so many bytes, and one more. -/
@[reducible] def plainCryptography : Cryptography PlainKey PlainKey where
  publicKey := id
  publicBytes key := List.replicate (key.number + 1) 0
  privateBytes key := List.replicate (key.number + 1) 0
  loadPemPrivateKey
    | [] => .error "Unable to load PEM file."
    | _ :: bytes => .ok (some ⟨bytes.length⟩)
  sha256 bytes := String.ofList (List.replicate bytes.length 'a')

/-- It reads back what it writes. -/
theorem documented_plainCryptography :
    @Cryptography.Documented PlainKey PlainKey plainCryptography := by
  refine @Cryptography.Documented.mk PlainKey PlainKey plainCryptography (fun key => ?_) ⟨_, rfl⟩
  show Except.ok (some (PlainKey.mk (List.replicate key.number (0 : UInt8)).length)) = _
  rw [List.length_replicate]

/-- What a token was encoded from. -/
structure Minted where
  claims : List (String × Json)
  key : Option PlainKey
  algorithm : Option String
  headers : List (String × String)
  deriving DecidableEq

namespace Minted

variable (table : List Minted)

/-- The token of something in the table: a text as long as its place says. -/
def encode (minted : Minted) : Except String String :=
  match table.findIdx? fun m => m = minted with
  | some n => .ok (String.ofList (List.replicate n 'e'))
  | none => .error "could not be encoded"

/-- What a token was encoded from. -/
def ofToken (token : String) : Option Minted := table[token.length]?

/-- A token is decoded to what it was encoded from. -/
theorem ofToken_of_encode {minted : Minted} {token : String} (h : encode table minted = .ok token) :
    ofToken table token = some minted := by
  unfold encode at h
  split at h
  · rename_i n hn
    cases h
    obtain ⟨hlt, hfound, -⟩ := List.findIdx?_eq_some_iff_getElem.mp hn
    rw [ofToken, String.length_ofList, List.length_replicate, List.getElem?_eq_getElem hlt]
    exact congrArg some (of_decide_eq_true hfound)
  · cases h

def header : Option Minted → Except String Header
  | some m => .ok ⟨Dict.lookup "kid" m.headers⟩
  | none => .error "Not enough segments"

def decode (now : ℚ) (decoding : Decoding PlainKey) :
    Option Minted → Except InvalidTokenError (List (String × Json))
  | some ⟨claims, some key, some algorithm, _⟩ =>
    if algorithm ∈ decoding.algorithms ∧ key = decoding.key ∧ Checked now decoding claims then
      .ok claims
    else .error (.other "Signature verification failed")
  | _ => .error (.other "Not enough segments")

end Minted

/-- The number of a key, from the member for it. -/
def numberOf : Json → Except String PlainKey
  | .int n => .ok ⟨n.toNat⟩
  | _ => .error "not an RSA key"

/-- A library that can encode what is in a table. -/
@[reducible] def plainPyJwt (table : List Minted) : PyJwt PlainKey PlainKey where
  toJwk key := [("n", .int key.number)]
  keyOfJwk jwk := numberOf (Value.get "n" jwk)
  encode claims key algorithm headers := Minted.encode table ⟨claims, key, algorithm, headers⟩
  getUnverifiedHeader token := Minted.header (Minted.ofToken table token)
  decode now token decoding := Minted.decode now decoding (Minted.ofToken table token)

/-- It does what PyJWT is documented to do. -/
theorem documented_plainPyJwt (table : List Minted) :
    @PyJwt.Documented PlainKey PlainKey plainCryptography (plainPyJwt table) := by
  refine @PyJwt.Documented.mk PlainKey PlainKey plainCryptography (plainPyJwt table) ?_ ?_ ?_ ?_
  · intro key kid
    rfl
  · intro claims headers token key algorithm h
    show Minted.header (Minted.ofToken table token) = _
    rw [Minted.ofToken_of_encode table h]
    rfl
  · intro claims headers token key algorithm now decoding _ h _ claims'
    show Minted.decode now decoding (Minted.ofToken table token) = _ ↔ _
    rw [Minted.ofToken_of_encode table h, Minted.decode]
    constructor
    · intro hdecode
      split_ifs at hdecode with hgood
      cases hdecode
      exact ⟨rfl, hgood⟩
    · rintro ⟨rfl, hgood⟩
      exact if_pos hgood
  · intro claims headers token now decoding h _ claims' hdecode
    have hunsigned : Minted.decode now decoding (Minted.ofToken table token) = .ok claims' :=
      hdecode
    rw [Minted.ofToken_of_encode table h] at hunsigned
    cases hunsigned

/-! ## Finding the key of a token -/

/-- The key sets of the development path: the members of `keys`. Source: `verifier.py`,
`StaticJwks`. -/
structure StaticJwks where
  keys : List (List (String × Json))

/-- Source: `verifier.py`, `StaticJwks.key_for`. -/
def StaticJwks.keyFor (κ : Type) {π : Type} [Interpreter] [PyJwt κ π] (self : StaticJwks)
    (token : String) : Except String π := do
  let header ← PyJwt.getUnverifiedHeader κ token
  match header.kid with
  | none =>
    match self.keys with
    | key :: _ => PyJwt.keyOfJwk κ key
    | [] => .error "no key with kid None in static JWKS"
  | some kid =>
    match self.keys.find? fun key => (Value.get "kid" key).eqStr kid with
    | some key => PyJwt.keyOfJwk κ key
    | none => .error s!"no key with kid {Interpreter.repr (.str kid : Json)} in static JWKS"

/-! ## The provider -/

namespace DevIdp

def DEV_TENANT_ID : String := "00000000-0000-0000-0000-000000000000"

def DEV_AUDIENCE : String := "api://governed-mcp-server"

def DEV_CLIENT_ID : String := "11111111-1111-1111-1111-111111111111"

/-- The text of the `Path`. Source: `devidp.py`, `DEV_KEY_PATH`. -/
def DEV_KEY_PATH : String := ".devidp-key.pem"

/-- Source: `devidp.py`, `DevIdentityProvider`. -/
structure Provider (κ : Type) where
  issuer : String := DEV_ISSUER
  audience : String := DEV_AUDIENCE
  keyId : String
  privateKey : κ

/-- The arguments of `issue`. -/
structure Claiming (κ : Type) where
  subject : String := "user@example.com"
  roles : Option (List String) := none
  scopes : String := "mcp.invoke"
  audience : Option String := none
  issuer : Option String := none
  expiresIn : ℤ := 3600
  algorithm : String := "RS256"
  /-- A foreign key, an RSA one. -/
  key : Option κ := none
  /-- `omit`. -/
  omitted : List String := []

section provider

variable {κ π : Type} [Cryptography κ π] [PyJwt κ π]

/-- The key id that is derived from a key. -/
def keyIdOf (key : κ) : String :=
  String.ofList ((Cryptography.sha256 κ (Cryptography.publicBytes κ
    (Cryptography.publicKey key))).toList.take 32)

/-- A provider, once it has its key. Source: `devidp.py`, `__post_init__`. -/
def Provider.ofKey (key : κ) (issuer audience : String) (keyId : String := "") : Provider κ where
  issuer
  audience
  keyId := if keyId = "" then keyIdOf key else keyId
  privateKey := key

/-- The provider of a process that was started with `--auth dev`. -/
def commandLineProvider (key : κ) : Provider κ := .ofKey key DEV_ISSUER DEFAULT_AUDIENCE

/-- Source: `devidp.py`, `jwks`. -/
def Provider.jwks (self : Provider κ) : StaticJwks where
  keys :=
    [Dict.setEntries "alg" (.str "RS256") (Dict.setEntries "use" (.str "sig")
      (Dict.setEntries "kid" (.str self.keyId)
        (PyJwt.toJwk κ (Cryptography.publicKey self.privateKey))))]

/-- A text that is not given, or is empty, is the one the provider has. -/
def orOwn (given : Option String) (own : String) : String :=
  if given.getD "" = "" then own else given.getD ""

/-- The claims of a token, before any is left out. `uuid5` is `uuid.uuid5(NAMESPACE_URL, _).hex`. -/
def Provider.allClaims (self : Provider κ) (uuid5 : String → String) (now : ℤ)
    (claiming : Claiming κ) : List (String × Json) :=
  [("iss", .str (orOwn claiming.issuer self.issuer)),
    ("aud", .str (orOwn claiming.audience self.audience)),
    ("sub", .str claiming.subject),
    ("oid", .str (uuid5 claiming.subject)),
    ("tid", .str DEV_TENANT_ID),
    ("azp", .str DEV_CLIENT_ID),
    ("preferred_username", .str claiming.subject),
    ("iat", .int now),
    ("nbf", .int now),
    ("exp", .int (now + claiming.expiresIn)),
    ("roles", .list ((claiming.roles.getD []).map Value.str)),
    ("scp", .str claiming.scopes)]

def Provider.claims (self : Provider κ) (uuid5 : String → String) (now : ℤ)
    (claiming : Claiming κ) : List (String × Json) :=
  (self.allClaims uuid5 now claiming).filter fun c => c.1 ∉ claiming.omitted

/-- Mint a token. Source: `devidp.py`, `issue`. -/
def Provider.issue (self : Provider κ) (uuid5 : String → String) (now : ℚ)
    (claiming : Claiming κ) : Except String String :=
  let claims := self.claims uuid5 ⌊now⌋ claiming
  let headers := [("kid", self.keyId)]
  if claiming.algorithm = "none" then PyJwt.encode claims (none : Option κ) none headers
  else
    PyJwt.encode claims (some (claiming.key.getD self.privateKey)) (some claiming.algorithm) headers

/-- The verifier that `create_server` sets up for the tokens of a provider, at some time. -/
def Provider.verifier [Interpreter] (self : Provider κ) (now : ℚ) : EntraTokenVerifier π where
  issuer := self.issuer
  audience := self.audience
  keyFor := self.jwks.keyFor κ
  decode := PyJwt.decode κ now
  allowed := fun _ h => h

end provider

/-! ## The key file -/

/-- What a process comes upon at `key_path`. -/
inductive KeyPath (κ : Type) where
  /-- No file. It generates this key and writes it. -/
  | absent (key : κ)
  /-- No file, and none can be written. -/
  | unwritable (message : String)
  | file (bytes : List UInt8)
  | unreadable (message : String)

/-- The key of the file, or a new one. Source: `devidp.py`, `_load_or_generate`. -/
def loadOrGenerate {κ π : Type} [Cryptography κ π] (path : String) : KeyPath κ → Except String κ
  | .absent key => .ok key
  | .unwritable message => .error message
  | .file bytes =>
    match Cryptography.loadPemPrivateKey bytes with
    | .error message => .error message
    | .ok none => .error s!"{path} does not contain an RSA private key"
    | .ok (some key) => .ok key
  | .unreadable message => .error message

/-- How far a process has got in `_load_or_generate`. -/
inductive Phase (κ : Type) where
  | idle
  /-- There was a key file. -/
  | found
  /-- There was none. -/
  | missing
  /-- A key has been generated, and the file is open for writing. -/
  | writing (key : κ)
  /-- The process has its key; `own` if it is the one it has generated. -/
  | ready (key : κ) (own : Bool)
  | failed (message : String)

/-- The file at `key_path`, and the processes that go by it. -/
structure KeyFile (κ : Type) where
  file : Option (List UInt8)
  phase : ℕ → Phase κ

/-- One thing that a process does. -/
inductive KeyFileOp (κ : Type) where
  /-- `key_path.exists()` -/
  | look (process : ℕ)
  /-- `load_pem_private_key(key_path.read_bytes())` -/
  | load (process : ℕ)
  /-- `generate_private_key()`; then `write_bytes` opens the file, which empties it. -/
  | generate (process : ℕ) (key : κ)
  /-- And writes it. -/
  | write (process : ℕ)

namespace KeyFile

variable {κ π : Type} [Cryptography κ π]

/-- A process gets further. -/
def become (self : KeyFile κ) (process : ℕ) (phase : Phase κ) : KeyFile κ :=
  { self with phase := Function.update self.phase process phase }

/-- What comes of loading the file. -/
def loaded (path : String) : Option (List UInt8) → Phase κ
  | none => .failed s!"[Errno 2] No such file or directory: '{path}'"
  | some bytes =>
    match Cryptography.loadPemPrivateKey bytes with
    | .error message => .failed message
    | .ok none => .failed s!"{path} does not contain an RSA private key"
    | .ok (some key) => .ready key false

/-- The steps of the processes, in whatever order. Source: `devidp.py`, `_load_or_generate`. -/
def step (path : String) (self : KeyFile κ) : KeyFileOp κ → KeyFile κ
  | .look process =>
    match self.phase process with
    | .idle => self.become process (if self.file.isSome then .found else .missing)
    | _ => self
  | .load process =>
    match self.phase process with
    | .found => self.become process (loaded path self.file)
    | _ => self
  | .generate process key =>
    match self.phase process with
    | .missing => { self.become process (.writing key) with file := some [] }
    | _ => self
  | .write process =>
    match self.phase process with
    | .writing key =>
      { self.become process (.ready key true) with file := some (Cryptography.privateBytes key) }
    | _ => self

/-- The processes as a machine. -/
def machine (path : String) : Machine (KeyFile κ) (KeyFileOp κ) Unit where
  answer _ _ := ()
  next := step path

/-- No process has started, and there is no file. -/
def fresh : KeyFile κ := ⟨none, fun _ => .idle⟩

end KeyFile

end DevIdp

end GovernedMcp
