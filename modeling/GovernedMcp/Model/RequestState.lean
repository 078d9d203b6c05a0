import Mathlib.Data.Rat.Defs
import GovernedMcp.Lib.Base64
import GovernedMcp.Lib.Traced

/-!
# Signing keys for the request state

`governance/request_state.py`: the key ring is read from the environment, and with it the policy is
built under which the state of a pending approval is sealed.

The policy itself belongs to the SDK. `RequestStateSecurity` is what the constructors are called
with, and nothing more. Durations are in seconds.
-/

namespace GovernedMcp.RequestState

open Lib

def ENV_KEYS : String := "MCP_REQUEST_STATE_KEYS"

def MINIMUM_KEY_BYTES : ℕ := 32

/-- The configured signing keys are unusable. -/
structure RequestStateKeyError where
  message : String
  deriving DecidableEq

/-- The bytes of a key. -/
abbrev Key := List UInt8

/-- The SDK's policy, by the arguments it is constructed with. -/
inductive RequestStateSecurity where
  /-- `RequestStateSecurity(keys=, ttl=, audience=)`. -/
  | shared (keys : List Key) (ttl : ℚ) (audience : Option String)
  /-- `RequestStateSecurity.ephemeral(ttl=, audience=)`: a key of the process's own. -/
  | ephemeral (ttl : ℚ) (audience : Option String)
  deriving DecidableEq

/-- A line of the module's logger. -/
inductive LogLine where
  | warning (message : String)
  | info (message : String)
  deriving DecidableEq

/-- A fresh key, as it is put into the environment; `urandom` is `os.urandom`.
Source: `request_state.py`, `generate_key`. -/
def generateKey (urandom : ℕ → Key) : String := Base64.encode (urandom MINIMUM_KEY_BYTES)

/-- The entries of the ring, from number `index` on. -/
def loadEntries : ℕ → List String → Except RequestStateKeyError (List Key)
  | _, [] => .ok []
  | index, chunk :: chunks =>
    if Text.strip chunk = "" then loadEntries (index + 1) chunks
    else
      match Base64.decode (Text.strip chunk) with
      | none => .error ⟨s!"{ENV_KEYS} entry {index} is not valid base64. Generate one with " ++
          "`python server.py --print-state-key`."⟩
      | some key =>
        if key.length < MINIMUM_KEY_BYTES then
          .error ⟨s!"{ENV_KEYS} entry {index} is {key.length} bytes; at least " ++
            s!"{MINIMUM_KEY_BYTES} are required."⟩
        else do
          let keys ← loadEntries (index + 1) chunks
          return key :: keys

/-- Parse the ring; `environ` is what the environment holds under `ENV_KEYS`.
Source: `request_state.py`, `load_keys`. -/
def loadKeys (raw environ : Option String) : Except RequestStateKeyError (List Key) :=
  let raw := raw.getD (environ.getD "")
  if Text.strip raw = "" then .ok []
  else loadEntries 0 (Text.fields ',' raw)

/-- The policy of a server. Source: `request_state.py`, `build`. -/
def build (environ : Option String) (audience : Option String) (ttl : ℚ) :
    Traced LogLine RequestStateKeyError RequestStateSecurity := do
  let keys ← ⟨[], loadKeys none environ⟩
  if keys = [] then
    Traced.emit (.warning (s!"{ENV_KEYS} is not set: sealing request state with a process-local " ++
      "key. Approvals will not survive a restart and will fail across replicas. " ++
      "Single-process use only."))
    return .ephemeral ttl audience
  else
    Traced.emit (.info
      s!"request state sealed with a shared key ring ({keys.length} key(s))")
    return .shared keys ttl audience

/-! ## One entry of the ring -/

section entry

variable {index : ℕ} {entry : String} {entries : List String} {key : Key}

/-- A blank entry is skipped, and counted. -/
theorem loadEntries_of_blank (h : Text.strip entry = "") :
    loadEntries index (entry :: entries) = loadEntries (index + 1) entries := by
  rw [loadEntries, if_pos h]

/-- A key is taken. -/
theorem loadEntries_of_key (h : Text.strip entry ≠ "")
    (hdecode : Base64.decode (Text.strip entry) = some key)
    (hlong : MINIMUM_KEY_BYTES ≤ key.length) :
    loadEntries index (entry :: entries) = (loadEntries (index + 1) entries).map (key :: ·) := by
  rw [loadEntries, if_neg h, hdecode]
  simp only [if_neg (Nat.not_lt.mpr hlong)]
  cases loadEntries (index + 1) entries <;> rfl

end entry

/-- A blank text is a single blank entry, so testing for it first makes no difference. -/
theorem loadKeys_eq_loadEntries (raw environ : Option String) :
    loadKeys raw environ = loadEntries 0 (Text.fields ',' (raw.getD (environ.getD ""))) := by
  simp only [loadKeys]
  by_cases hraw : Text.strip (raw.getD (environ.getD "")) = ""
  · have hcomma : ',' ∉ (raw.getD (environ.getD "")).toList :=
      (Text.strip_eq_empty_iff.mp hraw).not_mem (by decide)
    rw [if_pos hraw, Text.fields_of_not_mem hcomma, loadEntries_of_blank hraw]
    rfl
  · rw [if_neg hraw]

/-! ## What a ring of usable keys is loaded as -/

/-- An entry of the environment variable that is a usable key. -/
structure Entry where
  text : String
  key : Key
  decodes : Base64.decode text = some key
  long : MINIMUM_KEY_BYTES ≤ key.length

/-- The value of the environment variable. -/
def ringText (ring : List Entry) : String := ",".intercalate (ring.map Entry.text)

/-- The text of an entry has no white space around it. -/
theorem Entry.strip_text (e : Entry) : Text.strip e.text = e.text :=
  Text.strip_eq_self (Base64.isWhitespace_of_decode e.decodes)

/-- And it is not empty. -/
theorem Entry.text_ne_empty (e : Entry) : e.text ≠ "" := by
  intro h
  have hkey : some ([] : Key) = some e.key := by
    rw [← e.decodes, h]
    rfl
  have hlong := e.long
  rw [← Option.some.inj hkey] at hlong
  exact absurd hlong (by decide)

/-- The pieces of the variable are the entries. -/
theorem fields_ringText (e : Entry) (ring : List Entry) :
    Text.fields ',' (ringText (e :: ring)) = (e :: ring).map Entry.text := by
  have hcomma : ∀ text ∈ (e :: ring).map Entry.text, ',' ∉ text.toList := by
    intro text htext
    obtain ⟨entry, -, rfl⟩ := List.mem_map.mp htext
    exact Base64.comma_not_mem_of_decode entry.decodes
  exact Text.fields_intercalate (List.cons_ne_nil _ _) hcomma

/-- Entries are loaded to their keys. -/
theorem loadEntries_map_text (ring : List Entry) (index : ℕ) :
    loadEntries index (ring.map Entry.text) = .ok (ring.map Entry.key) := by
  induction ring generalizing index with
  | nil => rfl
  | cons e ring ih =>
    have hblank : Text.strip e.text ≠ "" := by
      rw [e.strip_text]
      exact e.text_ne_empty
    have hdecode : Base64.decode (Text.strip e.text) = some e.key := by
      rw [e.strip_text, e.decodes]
    rw [List.map_cons, loadEntries_of_key hblank hdecode e.long, ih]
    rfl

/-- **A ring of usable keys is loaded** with its keys in order. -/
theorem loadKeys_ringText (ring : List Entry) :
    loadKeys none (some (ringText ring)) = .ok (ring.map Entry.key) := by
  cases ring with
  | nil => rfl
  | cons e ring =>
    rw [loadKeys_eq_loadEntries, Option.getD_none, Option.getD_some, fields_ringText,
      loadEntries_map_text]

/-- A server configured with a ring seals and unseals under it. -/
theorem value_build_ringText (e : Entry) (ring : List Entry) (audience : Option String) (ttl : ℚ) :
    (build (some (ringText (e :: ring))) audience ttl).value =
      .ok (.shared ((e :: ring).map Entry.key) ttl audience) := by
  unfold build
  rw [loadKeys_ringText, Traced.bind_of_ok rfl]
  rfl

end GovernedMcp.RequestState
