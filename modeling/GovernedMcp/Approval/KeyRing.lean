import GovernedMcp.Model.RequestState

/-!
# Reading the key ring

The ring is a text with an entry for each key, between commas. White space around an entry does not
count, and neither do entries that are blank.

* `RingOf keys entries`: the entries give these keys, in their order.
* `Unusable`: an entry that is not blank, and is not base64 or too short for a key.
* `loadEntries_eq_ok_iff`, `loadEntries_raises_iff`: what the loop returns, and when it raises.
* **`loadKeys_exact`**: the keys of a ring are read in their order, and reading raises exactly on an
  unusable entry.
-/

namespace GovernedMcp.RequestState

open Lib Text

/-- The entries of a ring with these keys: each key encoded, with white space around it, and blank
entries anywhere. -/
inductive RingOf : List Key → List String → Prop
  | nil : RingOf [] []
  | blank {keys : List Key} {entries : List String} {entry : String} (hentry : IsBlank entry)
      (hring : RingOf keys entries) : RingOf keys (entry :: entries)
  | key {keys : List Key} {entries : List String} {before after : String} (key : Key)
      (hbefore : IsBlank before) (hafter : IsBlank after) (hring : RingOf keys entries) :
      RingOf (key :: keys) ((before ++ Base64.encode key ++ after) :: entries)

/-- An entry that is not blank, and from which no key can be read. -/
def Unusable (entry : String) : Prop :=
  strip entry ≠ "" ∧ (Base64.decode (strip entry) = none ∨
    ∃ key, Base64.decode (strip entry) = some key ∧ key.length < MINIMUM_KEY_BYTES)

/-- What the entries that are not blank are decoded to, in their order. -/
def decoded (entries : List String) : List (Option Key) :=
  ((entries.map strip).filter fun text => text ≠ "").map Base64.decode

/-! ## One entry -/

section entry

variable {index : ℕ} {entry : String} {entries : List String} {key : Key}

/-- An unusable entry makes loading raise. -/
theorem loadEntries_of_unusable (h : Unusable entry) :
    ∃ e, loadEntries index (entry :: entries) = .error e := by
  obtain ⟨hblank, hdecode | ⟨key, hdecode, hshort⟩⟩ := h
  · rw [loadEntries, if_neg hblank, hdecode]
    exact ⟨_, rfl⟩
  · rw [loadEntries, if_neg hblank, hdecode]
    simp only [if_pos hshort]
    exact ⟨_, rfl⟩

/-- A blank entry is skipped. -/
theorem decoded_of_blank (h : strip entry = "") : decoded (entry :: entries) = decoded entries := by
  simp [decoded, h]

/-- Any other is decoded. -/
theorem decoded_of_not_blank (h : strip entry ≠ "") :
    decoded (entry :: entries) = Base64.decode (strip entry) :: decoded entries := by
  simp [decoded, h]

/-- **The three kinds of an entry.** -/
theorem entry_cases (entry : String) : strip entry = "" ∨ Unusable entry ∨
    strip entry ≠ "" ∧ ∃ key, Base64.decode (strip entry) = some key ∧
      MINIMUM_KEY_BYTES ≤ key.length := by
  by_cases hblank : strip entry = ""
  · exact Or.inl hblank
  · right
    rcases hdecode : Base64.decode (strip entry) with _ | key
    · exact Or.inl ⟨hblank, Or.inl hdecode⟩
    · rcases Nat.lt_or_ge key.length MINIMUM_KEY_BYTES with hshort | hlong
      · exact Or.inl ⟨hblank, Or.inr ⟨key, hdecode, hshort⟩⟩
      · exact Or.inr ⟨hblank, key, rfl, hlong⟩

/-- A blank entry is no reason to raise. -/
theorem not_unusable_of_blank (h : strip entry = "") : ¬Unusable entry :=
  fun hunusable => hunusable.1 h

/-- Nor is a key that is long enough. -/
theorem not_unusable_of_key (hdecode : Base64.decode (strip entry) = some key)
    (hlong : MINIMUM_KEY_BYTES ≤ key.length) : ¬Unusable entry := by
  rintro ⟨-, hnone | ⟨key', hsome, hshort⟩⟩
  · rw [hdecode] at hnone
    cases hnone
  · rw [hdecode] at hsome
    cases hsome
    exact absurd hlong (Nat.not_le.mpr hshort)

end entry

/-! ## The loop -/

/-- The loop raises iff it comes to an unusable entry. -/
theorem loadEntries_raises_iff {entries : List String} {index : ℕ} :
    (∃ e, loadEntries index entries = .error e) ↔ ∃ entry ∈ entries, Unusable entry := by
  induction entries generalizing index with
  | nil => simp [loadEntries]
  | cons entry entries ih =>
    simp only [List.mem_cons, exists_eq_or_imp]
    rcases entry_cases entry with hblank | hunusable | ⟨hblank, key, hdecode, hlong⟩
    · rw [loadEntries_of_blank hblank, ih]
      simp [not_unusable_of_blank hblank]
    · simp [hunusable, loadEntries_of_unusable hunusable]
    · have hrest : (∃ e, (loadEntries (index + 1) entries).map (key :: ·) = .error e) ↔
          ∃ e, loadEntries (index + 1) entries = .error e := by
        cases loadEntries (index + 1) entries <;> simp [Except.map]
      rw [loadEntries_of_key hblank hdecode hlong, hrest, ih]
      simp [not_unusable_of_key hdecode hlong]

/-- **What the loop returns**: the keys that the entries are decoded to, each of them long
enough. -/
theorem loadEntries_eq_ok_iff {entries : List String} {index : ℕ} {keys : List Key} :
    loadEntries index entries = .ok keys ↔
      (∀ entry ∈ entries, ¬Unusable entry) ∧ decoded entries = keys.map some := by
  induction entries generalizing index keys with
  | nil =>
    cases keys with
    | nil => simp [loadEntries, decoded]
    | cons key keys => simp [loadEntries, decoded]
  | cons entry entries ih =>
    rw [List.forall_mem_cons]
    rcases entry_cases entry with hblank | hunusable | ⟨hblank, key, hdecode, hlong⟩
    · rw [loadEntries_of_blank hblank, decoded_of_blank hblank, ih]
      simp [not_unusable_of_blank hblank]
    · obtain ⟨e, he⟩ := @loadEntries_of_unusable index entry entries hunusable
      rw [he]
      simp [hunusable]
    · rw [loadEntries_of_key hblank hdecode hlong, decoded_of_not_blank hblank, hdecode]
      have husable := not_unusable_of_key hdecode hlong
      cases keys with
      | nil =>
        cases loadEntries (index + 1) entries <;> simp [Except.map]
      | cons key' keys =>
        have hrest : (loadEntries (index + 1) entries).map (key :: ·) = .ok (key' :: keys) ↔
            key = key' ∧ loadEntries (index + 1) entries = .ok keys := by
          cases loadEntries (index + 1) entries <;> simp [Except.map]
        rw [hrest, ih]
        simp [husable, and_left_comm]

/-! ## The ring -/

/-- The encoding of a key has no white space, and no comma, in it. -/
theorem strip_encoded {before after : String} (hbefore : IsBlank before) (hafter : IsBlank after)
    (key : Key) : strip (before ++ Base64.encode key ++ after) = Base64.encode key :=
  strip_padded hbefore hafter (Base64.isWhitespace_of_decode (Base64.decode_encode key))

/-- No entry of a ring has a comma in it. -/
theorem comma_not_mem_of_ringOf {keys : List Key} {entries : List String}
    (h : RingOf keys entries) : ∀ entry ∈ entries, ',' ∉ entry.toList := by
  induction h with
  | nil => simp
  | blank hentry _ ih =>
    rw [List.forall_mem_cons]
    exact ⟨hentry.not_mem (by decide), ih⟩
  | key key hbefore hafter _ ih =>
    rw [List.forall_mem_cons]
    refine ⟨?_, ih⟩
    rw [String.toList_append, String.toList_append, List.mem_append, List.mem_append, not_or,
      not_or]
    exact ⟨⟨hbefore.not_mem (by decide),
      Base64.comma_not_mem_of_decode (Base64.decode_encode key)⟩, hafter.not_mem (by decide)⟩

/-- The encoding of a long key is not empty. -/
theorem encode_ne_empty {key : Key} (hlong : MINIMUM_KEY_BYTES ≤ key.length) :
    Base64.encode key ≠ "" := by
  intro h
  have hdecode := Base64.decode_encode key
  rw [h] at hdecode
  cases hdecode
  exact absurd hlong (by decide)

/-- The entries of a ring are loaded as its keys. -/
theorem loadEntries_of_ringOf {keys : List Key} {entries : List String} (h : RingOf keys entries)
    (hlong : ∀ key ∈ keys, MINIMUM_KEY_BYTES ≤ key.length) (index : ℕ) :
    loadEntries index entries = .ok keys := by
  induction h generalizing index with
  | nil => rfl
  | blank hentry _ ih =>
    rw [loadEntries_of_blank (strip_eq_empty_iff.mpr hentry)]
    exact ih hlong (index + 1)
  | @key keys entries before after key hbefore hafter _ ih =>
    rw [List.forall_mem_cons] at hlong
    have hstrip := strip_encoded hbefore hafter key
    have hdecode : Base64.decode (strip (before ++ Base64.encode key ++ after)) = some key := by
      rw [hstrip, Base64.decode_encode]
    have hblank : strip (before ++ Base64.encode key ++ after) ≠ "" := by
      rw [hstrip]
      exact encode_ne_empty hlong.1
    rw [loadEntries_of_key hblank hdecode hlong.1, ih hlong.2]
    rfl

/-- Joining the entries of a ring gives a text that is read back. -/
theorem loadKeys_of_ringOf {keys : List Key} {entries : List String} (h : RingOf keys entries)
    (hlong : ∀ key ∈ keys, MINIMUM_KEY_BYTES ≤ key.length) (environ : Option String) :
    loadKeys (some (",".intercalate entries)) environ = .ok keys := by
  rw [loadKeys_eq_loadEntries, Option.getD_some]
  by_cases hentries : entries = []
  · -- no entry at all is the empty text, which is one blank entry
    subst hentries
    cases h
    rfl
  · have hfields : fields ',' (",".intercalate entries) = entries :=
      fields_intercalate hentries (comma_not_mem_of_ringOf h)
    rw [hfields]
    exact loadEntries_of_ringOf h hlong 0

/-- A key that was generated is read back. -/
theorem loadKeys_generateKey {urandom : ℕ → Key}
    (h : (urandom MINIMUM_KEY_BYTES).length = MINIMUM_KEY_BYTES) (environ : Option String) :
    loadKeys (some (generateKey urandom)) environ = .ok [urandom MINIMUM_KEY_BYTES] := by
  have hring : RingOf [urandom MINIMUM_KEY_BYTES] ["" ++ generateKey urandom ++ ""] :=
    .key _ (by simp [IsBlank]) (by simp [IsBlank]) .nil
  have hload := loadKeys_of_ringOf hring (by simp [h]) environ
  rwa [String.intercalate_singleton, String.append_empty, String.empty_append] at hload

/-- **Reading the ring is exact**, and keeps its order. Source: `request_state.py`,
`load_keys`. -/
theorem loadKeys_exact (environ : Option String) :
    (∀ keys entries, (∀ key ∈ keys, MINIMUM_KEY_BYTES ≤ key.length) → RingOf keys entries →
      loadKeys (some (",".intercalate entries)) environ = .ok keys) ∧
    ∀ raw,
      ((∃ e, loadKeys (some raw) environ = .error e) ↔ ∃ entry ∈ fields ',' raw, Unusable entry) ∧
      ∀ keys, loadKeys (some raw) environ = .ok keys ↔
        (∀ entry ∈ fields ',' raw, ¬Unusable entry) ∧
          decoded (fields ',' raw) = keys.map some := by
  constructor
  · intro keys entries hlong hring
    exact loadKeys_of_ringOf hring hlong environ
  · intro raw
    rw [loadKeys_eq_loadEntries, Option.getD_some]
    exact ⟨loadEntries_raises_iff, fun keys => loadEntries_eq_ok_iff⟩

/-! ## Two keys, spread out -/

/-- The two keys of a rotation. -/
def oldAndNew : List Key := [List.replicate 32 1, List.replicate 32 2]

/-- Two keys with white space around them, and blank entries. -/
theorem loadKeys_exact_oldAndNew :
    loadKeys (some (",".intercalate [" ", " " ++ Base64.encode (List.replicate 32 1) ++ "\n", "",
      "" ++ Base64.encode (List.replicate 32 2) ++ "\t", ""])) none = .ok oldAndNew := by
  have hblank : IsBlank "" := by simp [IsBlank]
  apply (loadKeys_exact none).1
  · intro key hkey
    simp only [oldAndNew, List.mem_cons, List.not_mem_nil, or_false] at hkey
    rcases hkey with rfl | rfl <;> decide
  · apply RingOf.blank (by simp [IsBlank, isWhitespace])
    apply RingOf.key _ (by simp [IsBlank, isWhitespace]) (by simp [IsBlank, isWhitespace])
    apply RingOf.blank hblank
    apply RingOf.key _ hblank (by simp [IsBlank, isWhitespace])
    exact RingOf.blank hblank RingOf.nil

end GovernedMcp.RequestState
