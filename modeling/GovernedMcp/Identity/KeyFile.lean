import GovernedMcp.Identity.Tokens

/-!
# One key for all processes

The development provider keeps its key in a file, so that a server and a separate `--print-token`
agree on it. Looking for the file, generating a key and writing it are steps of their own, and the
steps of several processes may come in any order.

* `Moves`: what a step can do. `Sourced` is the invariant: a key, in the file or in a process, is
  one that some process has generated and holds.
* `printedToken_accepted`: a token that one process prints is good for another one iff they have the
  same key; where they have not, two processes have found the file missing.
-/

namespace GovernedMcp.DevIdp

open Lib Verifier

namespace KeyFile

variable {κ π : Type} [Cryptography κ π]

/-! ## The steps -/

/-- What a step can do: one process gets further, and it had no key yet. -/
inductive Moves (s : KeyFile κ) : KeyFile κ → Prop where
  | stay : Moves s s
  | wait {process : ℕ} {phase : Phase κ} (hbefore : ∀ key own, s.phase process ≠ .ready key own)
      (hafter : ∀ key own, phase ≠ .ready key own) : Moves s (s.become process phase)
  | load {process : ℕ} {bytes : List UInt8} {key : κ}
      (hbefore : ∀ key own, s.phase process ≠ .ready key own) (hfile : s.file = some bytes)
      (hload : Cryptography.loadPemPrivateKey bytes = .ok (some key)) :
      Moves s (s.become process (.ready key false))
  | generate {process : ℕ} {key : κ} (hbefore : ∀ key own, s.phase process ≠ .ready key own) :
      Moves s { s.become process (.writing key) with file := some [] }
  | write {process : ℕ} {key : κ} (hbefore : ∀ key own, s.phase process ≠ .ready key own) :
      Moves s { s.become process (.ready key true) with
        file := some (Cryptography.privateBytes key) }

/-- What comes of loading: a key that was in the file, or no key. -/
theorem loaded_cases (path : String) (file : Option (List UInt8)) :
    (∃ bytes, ∃ key : κ, file = some bytes ∧ loaded path file = .ready key false ∧
      Cryptography.loadPemPrivateKey bytes = .ok (some key)) ∨
      ∃ message, loaded (κ := κ) path file = .failed message := by
  cases file with
  | none => exact .inr ⟨_, rfl⟩
  | some bytes =>
    cases hload : Cryptography.loadPemPrivateKey (κ := κ) bytes with
    | error message => exact .inr ⟨message, by simp [loaded, hload]⟩
    | ok key =>
      cases key with
      | none =>
        exact .inr ⟨s!"{path} does not contain an RSA private key", by simp [loaded, hload]⟩
      | some key => exact .inl ⟨bytes, key, rfl, by simp [loaded, hload], hload⟩

/-- Every step is one of these. -/
theorem moves_step (path : String) (s : KeyFile κ) (op : KeyFileOp κ) :
    Moves s (step path s op) := by
  cases op with
  | look process =>
    cases hphase : s.phase process with
    | idle =>
      have hstep : step path s (.look process) =
          s.become process (if s.file.isSome then .found else .missing) := by simp [step, hphase]
      rw [hstep]
      refine .wait (fun key own => by simp [hphase]) fun key own => ?_
      split_ifs <;> exact nofun
    | found | missing | writing | ready | failed => simp [step, hphase, Moves.stay]
  | load process =>
    cases hphase : s.phase process with
    | found =>
      have hstep : step path s (.load process) = s.become process (loaded path s.file) := by
        simp [step, hphase]
      have hbefore : ∀ key own, s.phase process ≠ .ready key own := fun key own => by simp [hphase]
      rw [hstep]
      rcases loaded_cases (κ := κ) path s.file with
        ⟨bytes, key, hfile, hloaded, hload⟩ | ⟨message, hloaded⟩
      · rw [hloaded]
        exact .load hbefore hfile hload
      · rw [hloaded]
        exact .wait hbefore fun key own => nofun
    | idle | missing | writing | ready | failed => simp [step, hphase, Moves.stay]
  | generate process key =>
    cases hphase : s.phase process with
    | missing =>
      have hstep : step path s (.generate process key) =
          { s.become process (.writing key) with file := some [] } := by simp [step, hphase]
      rw [hstep]
      exact .generate fun key own => by simp [hphase]
    | idle | found | writing | ready | failed => simp [step, hphase, Moves.stay]
  | write process =>
    cases hphase : s.phase process with
    | writing key =>
      have hstep : step path s (.write process) = { s.become process (.ready key true) with
          file := some (Cryptography.privateBytes key) } := by simp [step, hphase]
      rw [hstep]
      exact .write fun key own => by simp [hphase]
    | idle | found | missing | ready | failed => simp [step, hphase, Moves.stay]

/-- A process that has a key file to itself ends with the key that there is in it. -/
theorem ready_of_file_iff (path : String) {s : KeyFile κ} {process : ℕ} {bytes : List UInt8}
    (hidle : s.phase process = .idle) (hfile : s.file = some bytes) (key : κ) :
    ((machine path).final s [.look process, .load process]).phase process = .ready key false ↔
      loadOrGenerate path (.file bytes) = .ok key := by
  have hlook : step path s (.look process) = s.become process .found := by
    simp [step, hidle, hfile]
  have hload : step path (s.become process .found) (.load process) =
      (s.become process .found).become process (loaded path s.file) := by
    simp [step, become]
  show (step path (step path s (.look process)) (.load process)).phase process = _ ↔ _
  rw [hlook, hload, hfile]
  cases hbytes : Cryptography.loadPemPrivateKey (κ := κ) bytes with
  | error message => simp [become, loaded, loadOrGenerate, hbytes]
  | ok found => cases found <;> simp [become, loaded, loadOrGenerate, hbytes]

/-- Where there is none, it ends with the key that it has generated. -/
theorem ready_of_absent (path : String) {s : KeyFile κ} {process : ℕ}
    (hidle : s.phase process = .idle) (hfile : s.file = none) (key : κ) :
    ((machine path).final s [.look process, .generate process key, .write process]).phase process =
        .ready key true ∧ loadOrGenerate path (.absent key) = .ok key := by
  refine ⟨?_, rfl⟩
  have hlook : step path s (.look process) = s.become process .missing := by
    simp [step, hidle, hfile]
  show (step path (step path (step path s (.look process)) (.generate process key))
    (.write process)).phase process = _
  rw [hlook]
  simp [step, become]

/-! ## Where keys come from -/

/-- A process holds the key that it has generated. -/
def Generated (s : KeyFile κ) (key : κ) : Prop := ∃ process, s.phase process = .ready key true

/-- Whatever key there is was generated by a process that holds it. -/
structure Sourced (s : KeyFile κ) : Prop where
  file : ∀ bytes, s.file = some bytes →
    bytes = [] ∨ ∃ key, bytes = Cryptography.privateBytes key ∧ s.Generated key
  ready : ∀ process key own, s.phase process = .ready key own → s.Generated key

omit [Cryptography κ π] in
/-- Only the process itself gets further. -/
theorem phase_become (s : KeyFile κ) (process : ℕ) (phase : Phase κ) (other : ℕ) :
    (s.become process phase).phase other = if other = process then phase else s.phase other := by
  simp [become, Function.update_apply]

omit [Cryptography κ π] in
/-- A process that gets further takes no key from another one. -/
theorem generated_become {s : KeyFile κ} {process : ℕ} {key : κ} (h : s.Generated key)
    (hbefore : ∀ key own, s.phase process ≠ .ready key own) (phase : Phase κ) :
    (s.become process phase).Generated key := by
  obtain ⟨other, hother⟩ := h
  have hne : other ≠ process := by
    rintro rfl
    exact hbefore key true hother
  exact ⟨other, by rw [phase_become, if_neg hne, hother]⟩

/-- A step keeps what is known of keys. -/
theorem Sourced.moves (hcrypto : Cryptography.Documented κ) {s s' : KeyFile κ} (h : s.Sourced)
    (hmoves : Moves s s') : s'.Sourced := by
  cases hmoves with
  | stay => exact h
  | @wait process phase hbefore hafter =>
    constructor
    · intro bytes hbytes
      refine (h.file bytes hbytes).imp_right ?_
      rintro ⟨key, hkey, hgenerated⟩
      exact ⟨key, hkey, generated_become hgenerated hbefore phase⟩
    · intro other key own hother
      rw [phase_become] at hother
      split_ifs at hother
      · exact absurd hother (hafter key own)
      · exact generated_become (h.ready other key own hother) hbefore phase
  | @load process bytes key hbefore hfile hload =>
    -- what is in the file was written by the process that has generated it
    obtain ⟨key', rfl, hgenerated⟩ := (h.file bytes hfile).resolve_left (by
      rintro rfl
      obtain ⟨message, hempty⟩ := hcrypto.load_nil
      rw [hempty] at hload
      cases hload)
    rw [hcrypto.load_privateBytes] at hload
    cases hload
    have hkept := fun {key''} (hkey : s.Generated key'') =>
      generated_become hkey hbefore (.ready key false)
    constructor
    · intro bytes hbytes
      refine (h.file bytes hbytes).imp_right ?_
      rintro ⟨key, hkey, hgenerated'⟩
      exact ⟨key, hkey, hkept hgenerated'⟩
    · intro other key own hother
      rw [phase_become] at hother
      split_ifs at hother
      · cases hother
        exact hkept hgenerated
      · exact hkept (h.ready other key own hother)
  | @generate process key hbefore =>
    constructor
    · intro bytes hbytes
      cases hbytes
      exact .inl rfl
    · intro other key' own hother
      have hother' : (s.become process (.writing key)).phase other = .ready key' own := hother
      rw [phase_become] at hother'
      split_ifs at hother'
      exact generated_become (h.ready other key' own hother') hbefore (.writing key)
  | @write process key hbefore =>
    have hown : (s.become process (.ready key true)).Generated key :=
      ⟨process, by rw [phase_become, if_pos rfl]⟩
    constructor
    · intro bytes hbytes
      cases hbytes
      exact .inr ⟨key, rfl, hown⟩
    · intro other key' own hother
      have hother' : (s.become process (.ready key true)).phase other = .ready key' own := hother
      rw [phase_become] at hother'
      split_ifs at hother'
      · cases hother'
        exact hown
      · exact generated_become (h.ready other key' own hother') hbefore (.ready key true)

/-- Before anything happens there is no key. -/
theorem sourced_fresh : (fresh : KeyFile κ).Sourced where
  file _ h := nomatch h
  ready _ _ _ h := nomatch h

/-- **In any order of steps**, whatever key there is was generated by a process that holds it. -/
theorem sourced_final (hcrypto : Cryptography.Documented κ) (path : String)
    (ops : List (KeyFileOp κ)) : ((machine path).final fresh ops : KeyFile κ).Sourced := by
  have hkeeps : (machine (κ := κ) path).Preserves Sourced := fun s op h =>
    h.moves hcrypto (moves_step path s op)
  exact hkeeps.final sourced_fresh ops

end KeyFile

/-! ## Tokens from another process -/

section tokens

variable {κ π : Type} [Cryptography κ π] [PyJwt κ π] [Interpreter]

omit [PyJwt κ π] [Interpreter] in
/-- What makes a printed token good in another process. -/
theorem good_printed_iff {key key' : κ} {issued now : ℚ} (roles : List String) :
    Good (commandLineProvider key) (commandLineProvider key') issued now
        { roles := some roles } ↔
      Cryptography.publicKey key = Cryptography.publicKey key' ∧
        now - 60 < (⌊issued⌋ + 3600 : ℤ) ∧ (⌊issued⌋ : ℚ) ≤ now + 60 := by
  constructor
  · intro h
    exact ⟨h.key, h.unexpired, h.begun⟩
  · rintro ⟨hkey, hunexpired, hbegun⟩
    have hkeyId : keyIdOf key = keyIdOf key' := by rw [keyIdOf, hkey, keyIdOf]
    exact ⟨hkeyId, hkey, by simp [ALLOWED_ALGORITHMS], fun _ _ => List.not_mem_nil, rfl, rfl,
      hunexpired, hbegun⟩

/-- It has the scopes that the server asks for. -/
theorem requiredScopes_of_carries {srv : Provider κ} {issued : ℚ} {roles : List String}
    {t : AccessToken} (h : Carries srv issued { roles := some roles } t) :
    ∀ scope ∈ REQUIRED_SCOPES, scope ∈ t.scopes := by
  have hissued : ({ roles := some roles } : Claiming κ).scopesIssued = REQUIRED_SCOPES := by
    rw [Claiming.scopesIssued, if_neg List.not_mem_nil]
    show Text.words "mcp.invoke" = _
    decide
  rw [h.scopes, hissued, if_neg (by decide)]
  exact fun _ => id

/-- **Processes share their tokens.** Whatever order processes start in that keep their key in one
file, a token that one of them prints for some roles is verified by another one, to these roles and
with the scopes that the server asks for, exactly when their keys are the same and it is within its
lifetime, up to the leeway. And where their keys are not the same, each has the key of a process
that found the file missing, and these are two. Source: `devidp.py`, `_load_or_generate`;
`server.py`, `--print-token`.
-/
theorem printedToken_accepted (hcrypto : Cryptography.Documented κ) (hjwt : PyJwt.Documented κ)
    {path : String} {ops : List (KeyFileOp κ)} {printer server : ℕ} {key key' : κ}
    {own own' : Bool}
    (hprinter : ((KeyFile.machine path).final KeyFile.fresh ops).phase printer = .ready key own)
    (hserver : ((KeyFile.machine path).final KeyFile.fresh ops).phase server = .ready key' own')
    {uuid5 : String → String} {roles : List String} {issued : ℚ} {token : String}
    (htoken : (commandLineProvider key).issue uuid5 issued { roles := some roles } = .ok token)
    (now : ℚ) :
    ((∃ t, (verifyToken ((commandLineProvider key').verifier now) token).value = .ok (some t) ∧
        rolesFromToken (some t) = roles ∧ ∀ scope ∈ REQUIRED_SCOPES, scope ∈ t.scopes) ↔
      Cryptography.publicKey key = Cryptography.publicKey key' ∧
        now - 60 < (⌊issued⌋ + 3600 : ℤ) ∧ (⌊issued⌋ : ℚ) ≤ now + 60) ∧
    (key ≠ key' → ∃ first second, first ≠ second ∧
      ((KeyFile.machine path).final KeyFile.fresh ops).phase first = .ready key true ∧
      ((KeyFile.machine path).final KeyFile.fresh ops).phase second = .ready key' true) := by
  constructor
  · rw [← good_printed_iff roles]
    constructor
    · rintro ⟨t, ht, -⟩
      by_contra hbad
      rw [verifyToken_of_not_good hjwt htoken hbad] at ht
      cases ht
    · intro h
      obtain ⟨t, ht, hcarries⟩ := verifyToken_of_good hjwt htoken h
      exact ⟨t, ht, hcarries.roles, requiredScopes_of_carries hcarries⟩
  · intro hne
    have hsourced := KeyFile.sourced_final hcrypto path ops
    obtain ⟨first, hfirst⟩ := hsourced.ready printer key own hprinter
    obtain ⟨second, hsecond⟩ := hsourced.ready server key' own' hserver
    refine ⟨first, second, ?_, hfirst, hsecond⟩
    rintro rfl
    rw [hfirst] at hsecond
    cases hsecond
    exact hne rfl

end tokens

/-- Two processes start, one after the other. -/
def exampleStart : List (KeyFileOp PlainKey) :=
  [.look 0, .generate 0 ⟨7⟩, .write 0, .look 1, .load 1]

/-- The provider of both. -/
def sharedProvider : Provider PlainKey :=
  @commandLineProvider PlainKey PlainKey plainCryptography ⟨7⟩

/-- A library that can encode what the first one prints. -/
@[reducible] def printingLibrary : PyJwt PlainKey PlainKey :=
  plainPyJwt [⟨sharedProvider.claims id 1000 { roles := some ["tlo.reader"] }, some ⟨7⟩,
    some "RS256", [("kid", sharedProvider.keyId)]⟩]

/-- The second verifies what the first has printed. -/
theorem printedToken_accepted_second : ∃ t : AccessToken,
    (@verifyToken plainInterpreter PlainKey
        (@Provider.verifier PlainKey PlainKey plainCryptography printingLibrary plainInterpreter
          sharedProvider 2800) "").value = .ok (some t) ∧
      @rolesFromToken plainInterpreter (some t) = ["tlo.reader"] ∧
      ∀ scope ∈ REQUIRED_SCOPES, scope ∈ t.scopes := by
  have haccepted := (@printedToken_accepted PlainKey PlainKey plainCryptography printingLibrary
    plainInterpreter documented_plainCryptography (documented_plainPyJwt _) ".devidp-key.pem"
    exampleStart 0 1 ⟨7⟩ ⟨7⟩ true false rfl rfl id ["tlo.reader"] 1000 "" rfl 2800).1
  exact haccepted.mpr ⟨rfl, by norm_num, by norm_num⟩

end GovernedMcp.DevIdp
