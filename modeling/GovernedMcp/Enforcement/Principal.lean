import GovernedMcp.Enforcement.Verification

/-!
# The name in the trail and the caller behind it

The audit trail names a caller by one text. An approval is bound to three things: the application,
the issuer and the subject of the token. Name and triple are read off the same claims, along
different chains of fallbacks.

* `Profile`: what the two chains read off the claims of a token. `describePrincipal_of_profile` and
  `principalOf_of_profile` give the name and the triple in terms of it.
* `Mistaken`: the ways in which one of two tokens is taken for the other's caller, or not.
* **`identifies_iff`**: a name identifies one caller exactly where none of these happens, and where
  nobody is called `anonymous`.
-/

namespace GovernedMcp.Verifier

open Lib

/-! ## What is read off the claims -/

/-- What names a caller, and what tells callers apart. -/
structure Profile where
  username : Option String
  subject : Option String
  client : String
  deriving DecidableEq

namespace Profile

variable (p q : Profile)

/-- What stands in for a preferred username that is not there. -/
def standIn : String := p.subject.getD p.client

/-- What the caller is called. -/
def name : String := p.username.getD p.standIn

/-- The same subject, by the same application. -/
def SameCaller : Prop := p.subject = q.subject ∧ p.client = q.client

/-- The token of `p` is mistaken: for one of `q`, or for one of somebody else than `q`. -/
inductive Mistaken : Prop
  /-- Two callers have one preferred username. -/
  | shared {x : String} (hp : p.username = some x) (hq : q.username = some x)
      (hcaller : ¬SameCaller p q)
  /-- The preferred username of one is what stands in for that of another. -/
  | borrowed (hp : p.username = some q.standIn) (hq : q.username = none)
      (hcaller : ¬SameCaller p q)
  /-- One subject comes by two applications, without a preferred username. -/
  | twoApplications {s : String} (hp : p.username = none) (hq : q.username = none)
      (hsubject : p.subject = some s) (hsame : q.subject = some s) (hclient : p.client ≠ q.client)
  /-- An application without a subject is called like another's subject. -/
  | applicationAsSubject (hp : p.username = none) (hq : q.username = none)
      (hsubject : p.subject = none) (hother : q.subject = some p.client)
  /-- One caller has two preferred usernames. -/
  | renamed {x y : String} (hp : p.username = some x) (hq : q.username = some y) (hxy : x ≠ y)
      (hcaller : SameCaller p q)
  /-- One caller has a preferred username in one token only. -/
  | sometimesNamed {x : String} (hp : p.username = some x) (hq : q.username = none)
      (hx : x ≠ q.standIn) (hcaller : SameCaller p q)

/-- The caller is called `anonymous`. -/
def Anonymous : Prop :=
  p.username = some "anonymous" ∨ p.username = none ∧
    (p.subject = some "anonymous" ∨ p.subject = none ∧ p.client = "anonymous")

variable {p} {q}

/-- Being the same caller is symmetric. -/
theorem SameCaller.symm (h : SameCaller p q) : SameCaller q p := ⟨h.1.symm, h.2.symm⟩

/-- One caller has one stand-in. -/
theorem SameCaller.standIn_eq (h : SameCaller p q) : p.standIn = q.standIn := by
  unfold standIn
  rw [h.1, h.2]

/-- A user name is the name. -/
theorem name_of_some {x : String} (h : p.username = some x) : p.name = x := by
  simp [name, h]

/-- Without one there is a stand-in. -/
theorem name_of_none (h : p.username = none) : p.name = p.standIn := by
  simp [name, h]

/-- A mistaken token is called what the other's is, by another caller, or something else, by the
same. -/
theorem Mistaken.not_identified (h : Mistaken p q) : ¬(p.name = q.name ↔ SameCaller p q) := by
  intro hiff
  cases h with
  | shared hp hq hcaller => exact hcaller (hiff.mp (by rw [name_of_some hp, name_of_some hq]))
  | borrowed hp hq hcaller => exact hcaller (hiff.mp (by rw [name_of_some hp, name_of_none hq]))
  | twoApplications hp hq hsubject hsame hclient =>
    have hname : p.name = q.name := by
      simp [name_of_none hp, name_of_none hq, standIn, hsubject, hsame]
    exact hclient (hiff.mp hname).2
  | applicationAsSubject hp hq hsubject hother =>
    have hname : p.name = q.name := by
      simp [name_of_none hp, name_of_none hq, standIn, hsubject, hother]
    have hsame := (hiff.mp hname).1
    rw [hsubject, hother] at hsame
    cases hsame
  | renamed hp hq hxy hcaller =>
    have hname := hiff.mpr hcaller
    rw [name_of_some hp, name_of_some hq] at hname
    exact hxy hname
  | sometimesNamed hp hq hx hcaller =>
    have hname := hiff.mpr hcaller
    rw [name_of_some hp, name_of_none hq] at hname
    exact hx hname

/-- **One caller with two names** is mistaken, one way or the other. -/
theorem mistaken_of_sameCaller (hcaller : SameCaller p q) (hname : p.name ≠ q.name) :
    Mistaken p q ∨ Mistaken q p := by
  rcases hp : p.username with _ | x
  · rcases hq : q.username with _ | y
    · rw [name_of_none hp, name_of_none hq] at hname
      exact absurd hcaller.standIn_eq hname
    · rw [name_of_none hp, name_of_some hq] at hname
      exact Or.inr (.sometimesNamed hq hp hname.symm hcaller.symm)
  · rcases hq : q.username with _ | y
    · rw [name_of_some hp, name_of_none hq] at hname
      exact Or.inl (.sometimesNamed hp hq hname hcaller)
    · rw [name_of_some hp, name_of_some hq] at hname
      exact Or.inl (.renamed hp hq hname hcaller)

/-- **Two callers with one name** are mistaken, one way or the other. -/
theorem mistaken_of_name_eq (hcaller : ¬SameCaller p q) (hname : p.name = q.name) :
    Mistaken p q ∨ Mistaken q p := by
  have hcaller' : ¬SameCaller q p := fun h => hcaller h.symm
  rcases hp : p.username with _ | x
  · rcases hq : q.username with _ | y
    · -- both are named by what stands in
      rw [name_of_none hp, name_of_none hq] at hname
      unfold standIn at hname
      rcases hsubject : p.subject with _ | s
      · rcases hother : q.subject with _ | s'
        · rw [hsubject, hother] at hname
          exact absurd ⟨hsubject.trans hother.symm, hname⟩ hcaller
        · rw [hsubject, hother, Option.getD_none, Option.getD_some] at hname
          exact Or.inl (.applicationAsSubject hp hq hsubject (hname ▸ hother))
      · rcases hother : q.subject with _ | s'
        · rw [hsubject, hother, Option.getD_none, Option.getD_some] at hname
          exact Or.inr (.applicationAsSubject hq hp hother (hname ▸ hsubject))
        · rw [hsubject, hother, Option.getD_some, Option.getD_some] at hname
          subst hname
          have hclient : p.client ≠ q.client := by
            intro heq
            exact hcaller ⟨hsubject.trans hother.symm, heq⟩
          exact Or.inl (.twoApplications hp hq hsubject hother hclient)
    · rw [name_of_none hp, name_of_some hq] at hname
      exact Or.inr (.borrowed (hname ▸ hq) hp hcaller')
  · rcases hq : q.username with _ | y
    · rw [name_of_some hp, name_of_none hq] at hname
      exact Or.inl (.borrowed (hname ▸ hp) hq hcaller)
    · rw [name_of_some hp, name_of_some hq] at hname
      subst hname
      exact Or.inl (.shared hp hq hcaller)

/-- **When a name identifies a caller**: when neither token is mistaken for another's. -/
theorem name_eq_iff_sameCaller_iff :
    (p.name = q.name ↔ SameCaller p q) ↔ ¬Mistaken p q ∧ ¬Mistaken q p := by
  constructor
  · intro hiff
    refine ⟨fun h => h.not_identified hiff, fun h => h.not_identified ?_⟩
    rw [eq_comm, hiff]
    exact ⟨SameCaller.symm, SameCaller.symm⟩
  · rintro ⟨hpq, hqp⟩
    constructor
    · intro hname
      by_contra hcaller
      exact (mistaken_of_name_eq hcaller hname).elim hpq hqp
    · intro hcaller
      by_contra hname
      exact (mistaken_of_sameCaller hcaller hname).elim hpq hqp

/-- **Who is called `anonymous`**: whose user name that is, or whose stand-in. -/
theorem name_eq_anonymous_iff : p.name = "anonymous" ↔ Anonymous p := by
  unfold name Anonymous standIn
  rcases p.username with _ | x
  · rcases p.subject with _ | s
    · simp
    · simp
  · simp

end Profile

/-! ## What a token is projected to -/

section projection

variable [Interpreter]

/-- The text of a claim that is there and truthy. -/
def given (name : String) (claims : List (String × Json)) : Option String :=
  if (Value.get name claims).truthy then some (Value.get name claims).toStr else none

/-- What is read off the claims of a token. -/
def profileOf (claims : List (String × Json)) : Profile where
  username := given "preferred_username" claims
  subject := given "sub" claims
  client := (given "azp" claims).getD ((given "appid" claims).getD ((given "sub" claims).getD
    "unknown"))

/-- The triple that the boundary binds a state to. -/
def principalOf (t : AccessToken) : String × Json × Option String :=
  (t.clientId, Value.get "iss" t.claims, t.subject)

/-- A claim, or else another value. -/
theorem toStr_orElse (name : String) (claims : List (String × Json)) (v : Json) :
    ((Value.get name claims).orElse v).toStr = (given name claims).getD v.toStr := by
  unfold given Value.orElse
  split_ifs
  · rfl
  · rfl

variable {audience token : String} {claims : List (String × Json)} {t : AccessToken}

/-- **The triple** is the profile's application and subject, and the issuer. -/
theorem principalOf_of_profile (h : toAccessToken audience token claims = .ok t) : principalOf t =
    ((profileOf claims).client, Value.get "iss" claims, (profileOf claims).subject) := by
  obtain ⟨hclient, hsubject, hclaims⟩ := fields_of_toAccessToken h
  unfold principalOf
  rw [hclient, hsubject, hclaims, toStr_orElse, toStr_orElse, toStr_orElse, Value.get_cons,
    if_pos rfl]
  rfl

/-- Without a preferred username the subject names a caller, or else the application. -/
theorem describePrincipal_eq (h : t.subject ≠ some "") : describePrincipal (some t) =
    ((Value.get "preferred_username" t.claims).orElse
      (.str (t.subject.getD t.clientId))).toStr := by
  simp only [describePrincipal]
  rcases hsubject : t.subject with _ | s
  · rfl
  · have htruthy : (Value.str s : Json).truthy = true := by
      rw [Value.truthy_str, bne_iff_ne]
      rintro rfl
      exact h hsubject
    simp only [Value.orElse_of_truthy htruthy, Option.getD_some]

/-- **The name** is the profile's. -/
theorem describePrincipal_of_profile (hdecoded : Decoded claims)
    (h : toAccessToken audience token claims = .ok t) :
    describePrincipal (some t) = (profileOf claims).name := by
  obtain ⟨-, hsubject, hclaims⟩ := fields_of_toAccessToken h
  obtain ⟨s, hsub⟩ := hdecoded.sub
  have hne : t.subject ≠ some "" := by
    rw [hsubject, hsub, Value.truthy_str, Value.toStr_str]
    intro heq
    split_ifs at heq with hs
    rw [Option.some_inj] at heq
    simp [heq] at hs
  have husername : Value.get "preferred_username" t.claims =
      Value.get "preferred_username" claims := by
    rw [hclaims]
    simp [Value.get_cons]
  have htriple := principalOf_of_profile h
  unfold principalOf at htriple
  rw [Prod.mk.injEq, Prod.mk.injEq] at htriple
  rw [describePrincipal_eq hne, husername, toStr_orElse, Value.toStr_str, htriple.1, htriple.2.2]
  rfl

/-! ## Verified tokens -/

variable {κ : Type}

/-- The library accepts a token with these claims, and they are projected to an access token. -/
structure Verifies (verifier : EntraTokenVerifier κ) (token : String)
    (claims : List (String × Json)) (t : AccessToken) : Prop where
  accepted : ∃ key, verifier.keyFor token = .ok key ∧
    verifier.decode token (verifier.decoding key) = .ok claims
  returned : (verifyToken verifier token).value = .ok (some t)

/-- What is verified has been projected. -/
theorem Verifies.toAccessToken {verifier : EntraTokenVerifier κ}
    (h : Verifies verifier token claims t) :
    toAccessToken verifier.audience token claims = .ok t := by
  obtain ⟨key, hkey, hdecode⟩ := h.accepted
  have hreturned := h.returned
  rw [value_verifyToken_of_accepted hkey hdecode] at hreturned
  cases ht : Verifier.toAccessToken verifier.audience token claims with
  | error e =>
    rw [ht] at hreturned
    cases hreturned
  | ok t' =>
    rw [ht] at hreturned
    cases hreturned
    rfl

/-- Two tokens have one name iff they have one triple, and neither caller is called `anonymous`. -/
structure Identifies (t t' : AccessToken) : Prop where
  name_iff : describePrincipal (some t) = describePrincipal (some t') ↔
    principalOf t = principalOf t'
  not_anonymous : describePrincipal (some t) ≠ "anonymous"
  not_anonymous' : describePrincipal (some t') ≠ "anonymous"

/-- **When a name identifies one caller**: for two tokens of one issuer, where neither is mistaken
for the other's caller or for another's, and neither is called `anonymous`. Source: `verifier.py`,
`_to_access_token` and `describe_principal`. -/
theorem identifies_iff {verifier : EntraTokenVerifier κ}
    (hdecode : ∀ token decoding claims, verifier.decode token decoding = .ok claims →
      Decoded claims ∧ Value.get "iss" claims = .str decoding.issuer)
    {token token' : String} {claims claims' : List (String × Json)} {t t' : AccessToken}
    (h : Verifies verifier token claims t) (h' : Verifies verifier token' claims' t') :
    Identifies t t' ↔
      (¬(profileOf claims).Mistaken (profileOf claims') ∧
        ¬(profileOf claims').Mistaken (profileOf claims)) ∧
      ¬(profileOf claims).Anonymous ∧ ¬(profileOf claims').Anonymous := by
  obtain ⟨key, -, haccepted⟩ := h.accepted
  obtain ⟨key', -, haccepted'⟩ := h'.accepted
  obtain ⟨hdecoded, hissuer⟩ := hdecode _ _ _ haccepted
  obtain ⟨hdecoded', hissuer'⟩ := hdecode _ _ _ haccepted'
  have hname := describePrincipal_of_profile hdecoded h.toAccessToken
  have hname' := describePrincipal_of_profile hdecoded' h'.toAccessToken
  have htriple : principalOf t = principalOf t' ↔
      (profileOf claims).SameCaller (profileOf claims') := by
    rw [principalOf_of_profile h.toAccessToken, principalOf_of_profile h'.toAccessToken, hissuer,
      hissuer', Prod.mk.injEq, Prod.mk.injEq]
    -- both were decoded with the verifier's issuer
    exact ⟨fun heq => ⟨heq.2.2, heq.1⟩, fun hsame => ⟨hsame.2, rfl, hsame.1⟩⟩
  rw [← Profile.name_eq_iff_sameCaller_iff, ← Profile.name_eq_anonymous_iff,
    ← Profile.name_eq_anonymous_iff]
  constructor
  · rintro ⟨hiff, hnot, hnot'⟩
    rw [hname] at hiff hnot
    rw [hname'] at hiff hnot'
    exact ⟨hiff.trans htriple, hnot, hnot'⟩
  · rintro ⟨hiff, hnot, hnot'⟩
    rw [← hname, ← hname', ← htriple] at hiff
    rw [← hname] at hnot
    rw [← hname'] at hnot'
    exact ⟨hiff, hnot, hnot'⟩

end projection

/-! ## One user, two applications -/

section instances

/-- The claims of a user who comes by an application. -/
def claimsBy (azp sub : String) : List (String × Json) :=
  [("iss", .str "https://login.microsoftonline.com/t/v2.0"),
    ("aud", .str "api://governed-mcp-server"), ("iat", .int 1000), ("exp", .int 4600),
    ("sub", .str sub), ("azp", .str azp), ("preferred_username", .str sub),
    ("roles", .list [.str "tlo.operator"])]

/-- A verifier to which a token is the name of an application, by which rita comes; `sven` is a
token of somebody else. -/
def applicationVerifier : EntraTokenVerifier Unit :=
  { verifierOf .none with
    decode := fun token decoding =>
      if decoding.issuer = "https://login.microsoftonline.com/t/v2.0" then
        if token = "sven" then .ok (claimsBy "desktop" "sven") else .ok (claimsBy token "rita")
      else .error (.other "invalid issuer") }

/-- Its claims are decoded claims. -/
theorem decoded_claimsBy (azp sub : String) : @Decoded (claimsBy azp sub) plainInterpreter := by
  refine @Decoded.mk _ plainInterpreter ?_ ⟨sub, rfl⟩ ⟨4600, rfl⟩
  intro name hname
  simp only [List.mem_cons, List.not_mem_nil, or_false] at hname
  rcases hname with rfl | rfl | rfl | rfl | rfl <;> simp [claimsBy, Value.get_cons]

/-- Whatever the verifier decodes is decoded claims of its issuer. -/
theorem decode_applicationVerifier (token : String) (decoding : Decoding Unit)
    (claims : List (String × Json))
    (h : applicationVerifier.decode token decoding = .ok claims) :
    @Decoded claims plainInterpreter ∧ Value.get "iss" claims = .str decoding.issuer := by
  unfold applicationVerifier at h
  simp only at h
  split_ifs at h with hissuer hsven
  · cases h
    rw [hissuer]
    exact ⟨decoded_claimsBy _ _, rfl⟩
  · cases h
    rw [hissuer]
    exact ⟨decoded_claimsBy _ _, rfl⟩

/-- Two users by one application are told apart. -/
theorem identifies_ritaAndSven : ∃ t t', @Identifies plainInterpreter t t' := by
  let _ := plainInterpreter
  have hrita : ∃ t, Verifies applicationVerifier "desktop" (claimsBy "desktop" "rita") t :=
    ⟨_, ⟨(), rfl, rfl⟩, rfl⟩
  have hsven : ∃ t, Verifies applicationVerifier "sven" (claimsBy "desktop" "sven") t :=
    ⟨_, ⟨(), rfl, rfl⟩, rfl⟩
  obtain ⟨t, ht⟩ := hrita
  obtain ⟨t', ht'⟩ := hsven
  refine ⟨t, t', (identifies_iff decode_applicationVerifier ht ht').mpr ?_⟩
  rw [← Profile.name_eq_iff_sameCaller_iff, ← Profile.name_eq_anonymous_iff,
    ← Profile.name_eq_anonymous_iff]
  refine ⟨⟨?_, ?_⟩, by decide, by decide⟩
  · intro hname
    exact absurd hname (by decide)
  · intro hcaller
    exact absurd hcaller.1 (by decide)

/-- **The failing input**: rita by two applications is one name and two callers. -/
theorem not_identifies_of_twoApplications :
    (∀ token decoding claims, applicationVerifier.decode token decoding = .ok claims →
      @Decoded claims plainInterpreter ∧ Value.get "iss" claims = .str decoding.issuer) ∧
    ¬∀ token token' claims claims' t t',
      @Verifies plainInterpreter Unit applicationVerifier token claims t →
        @Verifies plainInterpreter Unit applicationVerifier token' claims' t' →
          @Identifies plainInterpreter t t' := by
  let _ := plainInterpreter
  refine ⟨decode_applicationVerifier, ?_⟩
  intro h
  have hidentifies := h "desktop" "mobile" (claimsBy "desktop" "rita") (claimsBy "mobile" "rita")
    _ _ ⟨⟨(), rfl, rfl⟩, rfl⟩ ⟨⟨(), rfl, rfl⟩, rfl⟩
  have htriple := hidentifies.name_iff.mp rfl
  exact absurd (congrArg Prod.fst htriple) (by decide)

end instances

end GovernedMcp.Verifier
