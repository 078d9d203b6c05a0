import GovernedMcp.Policy.Document

/-!
# Which documents are refused

`Document` says what an accepted document means. Here is the other side, one case for each thing
that can be wrong with a document, and what can be relied on when nothing was.

* `BadEntry`, `Malformed`: what is wrong with an entry, and with a document.
* `entryOk_iff_not_badEntry`: an entry is in order unless it is bad.
* `Policy.WellFormed`: every rule names declared roles, a known classification, and its own key.
* `acceptsExactly`: the parser refuses exactly the malformed documents, and returns well-formed
  policies only.
-/

namespace GovernedMcp.Policy

open Lib

variable [Interpreter]

/-! ## What can be wrong -/

/-- An entry of `tools` or `resources` that is refused, next to these entries under `roles`. -/
inductive BadEntry (roles : List (Scalar × Yaml)) (entry : Scalar × Yaml) : Prop
  /-- Its body is not a mapping. -/
  | body (h : entry.2.asMapping = none)
  /-- Its classification does not read as a known one. -/
  | classification (body : List (Scalar × Yaml)) (v : Yaml) (hbody : entry.2 = .dict body)
      (hlookup : Dict.lookup (.str "classification") body = some v)
      (h : v.toStr ∉ CLASSIFICATIONS)
  /-- There is something under `allow_roles`, and it is not a list. -/
  | allowRoles (body : List (Scalar × Yaml)) (hbody : entry.2 = .dict body)
      (htruthy : (member "allow_roles" body).truthy = true)
      (h : ∀ items, member "allow_roles" body ≠ .list items)
  /-- An item under `allow_roles` reads as no declared role. -/
  | undeclared (body : List (Scalar × Yaml)) (items : List Yaml) (r : Yaml)
      (hbody : entry.2 = .dict body) (hitems : member "allow_roles" body = .list items)
      (hr : r ∈ items) (h : ∀ role ∈ roles, keyStr role.1 ≠ r.toStr)

/-- A value that is neither null nor a mapping. -/
def NotASection (v : Yaml) : Prop := v ≠ .none ∧ v.asMapping = none

/-- The entries under `roles`. -/
def roleEntries (doc : List (Scalar × Yaml)) : List (Scalar × Yaml) :=
  (member "roles" doc).asMapping.getD []

/-- A document that is refused. -/
inductive Malformed : Yaml → Prop
  | notAMapping {raw : Yaml} (h : raw.asMapping = none) : Malformed raw
  | version {doc : List (Scalar × Yaml)} (h : (member "version" doc).eqInt 1 = false) :
      Malformed (.dict doc)
  | default {doc : List (Scalar × Yaml)} (v : Yaml)
      (hlookup : Dict.lookup (.str "default") doc = some v) (h : v.eqStr "deny" = false) :
      Malformed (.dict doc)
  | roles {doc : List (Scalar × Yaml)} (h : NotASection (member "roles" doc)) :
      Malformed (.dict doc)
  | rules {doc : List (Scalar × Yaml)} (sectionName : String)
      (hname : sectionName = "tools" ∨ sectionName = "resources")
      (h : NotASection (member sectionName doc)) : Malformed (.dict doc)
  | entry {doc : List (Scalar × Yaml)} (sectionName : String)
      (hname : sectionName = "tools" ∨ sectionName = "resources")
      (entries : List (Scalar × Yaml)) (hentries : member sectionName doc = .dict entries)
      (e : Scalar × Yaml) (he : e ∈ entries) (h : BadEntry (roleEntries doc) e) :
      Malformed (.dict doc)

/-! ## Entries -/

omit [Interpreter] in
/-- A mapping has its entries. -/
theorem asMapping_eq_some_iff {v : Yaml} {entries : List (Scalar × Yaml)} :
    v.asMapping = some entries ↔ v = .dict entries := by
  cases v <;> simp [Value.asMapping]

/-- A role is declared when a key under `roles` reads as it. -/
theorem mem_declaredRolesOf {roles : List (Scalar × Yaml)} {r : String} :
    r ∈ declaredRolesOf roles ↔ ∃ role ∈ roles, keyStr role.1 = r := by
  simp [declaredRolesOf]

/-- Only a classification that is there can be an unknown one. -/
theorem classificationOf_mem_iff {entry : Scalar × Yaml} {body : List (Scalar × Yaml)}
    (hbody : entry.2 = .dict body) : classificationOf entry ∈ CLASSIFICATIONS ↔
      ∀ v, Dict.lookup (.str "classification") body = some v → v.toStr ∈ CLASSIFICATIONS := by
  have hof : bodyOf entry = body := by simp [bodyOf, hbody, Value.asMapping]
  unfold classificationOf memberOr Value.getOr
  rw [hof]
  rcases h : Dict.lookup (.str "classification") body with _ | v
  · simp [h, CLASSIFICATIONS]
  · simp [h]

omit [Interpreter] in
/-- What is under `allow_roles`, or the empty list for something falsy. -/
theorem allowRolesOf_eq {entry : Scalar × Yaml} {body : List (Scalar × Yaml)}
    (hbody : entry.2 = .dict body) :
    allowRolesOf entry = (member "allow_roles" body).orElse (.list []) := by
  simp [allowRolesOf, bodyOf, hbody, Value.asMapping]

omit [Interpreter] in
/-- So a list is what is found, unless something else was there. -/
theorem exists_allowRolesOf_iff {entry : Scalar × Yaml} {body : List (Scalar × Yaml)}
    (hbody : entry.2 = .dict body) : (∃ items, allowRolesOf entry = .list items) ↔
      ((member "allow_roles" body).truthy = true →
        ∃ items, member "allow_roles" body = .list items) := by
  rw [allowRolesOf_eq hbody]
  unfold Value.orElse
  split_ifs with h
  · simp [h]
  · simp [h]

/-- The texts that are checked are those of the items of the list. -/
theorem forall_allowedRoles_iff {entry : Scalar × Yaml} {body : List (Scalar × Yaml)}
    (hbody : entry.2 = .dict body) (P : String → Prop) : (∀ r ∈ allowedRoles entry, P r) ↔
      ∀ items, member "allow_roles" body = .list items → ∀ r ∈ items, P r.toStr := by
  unfold allowedRoles
  rw [allowRolesOf_eq hbody]
  rcases hmember : member "allow_roles" body with a | items | es | ⟨c, attrs⟩
  case list =>
    rcases items with _ | ⟨item, items⟩
    · simp [Value.orElse, Value.truthy]
    · simp [Value.orElse, Value.truthy]
  all_goals
    unfold Value.orElse
    split_ifs <;> simp

/-- **An entry is in order unless it is bad.** -/
theorem entryOk_iff_not_badEntry {roles : List (Scalar × Yaml)} {entry : Scalar × Yaml} :
    EntryOk (declaredRolesOf roles) entry ↔ ¬BadEntry roles entry := by
  constructor
  · rintro hok (h | ⟨body, v, hbody, hlookup, h⟩ | ⟨body, hbody, htruthy, h⟩ |
      ⟨body, items, r, hbody, hitems, hr, h⟩)
    · simpa [h] using hok.mapping
    · exact h ((classificationOf_mem_iff hbody).mp hok.classification v hlookup)
    · obtain ⟨items, hitems⟩ := (exists_allowRolesOf_iff hbody).mp hok.allowList htruthy
      exact h items hitems
    · have hdeclared := (forall_allowedRoles_iff hbody _).mp hok.declared items hitems r hr
      obtain ⟨role, hrole, heq⟩ := mem_declaredRolesOf.mp hdeclared
      exact h role hrole heq
  · intro h
    rcases hmapping : entry.2.asMapping with _ | body
    · exact absurd (BadEntry.body hmapping) h
    · have hbody := asMapping_eq_some_iff.mp hmapping
      refine ⟨by simp [hmapping], ?_, ?_, ?_⟩
      · rw [classificationOf_mem_iff hbody]
        intro v hlookup
        by_contra hclass
        exact h (.classification body v hbody hlookup hclass)
      · rw [exists_allowRolesOf_iff hbody]
        intro htruthy
        by_contra hlist
        apply h
        apply BadEntry.allowRoles body hbody htruthy
        intro items hitems
        exact hlist ⟨items, hitems⟩
      · rw [forall_allowedRoles_iff hbody]
        intro items hitems r hr
        rw [mem_declaredRolesOf]
        by_contra hdeclared
        apply h
        apply BadEntry.undeclared body items r hbody hitems hr
        intro role hrole heq
        exact hdeclared ⟨role, hrole, heq⟩

/-! ## Documents -/

omit [Interpreter] in
/-- A value is a section, with entries or without, unless it is none. -/
theorem sectionEntries_eq_none_iff {v : Yaml} : sectionEntries v = none ↔ NotASection v := by
  unfold sectionEntries NotASection
  split
  · simp
  · simp [Value.asMapping]
  · rename_i hnone hdict
    have hmapping : v.asMapping = none := by
      cases h : v.asMapping with
      | none => rfl
      | some entries => exact absurd (asMapping_eq_some_iff.mp h) (hdict entries)
    simpa [hmapping] using hnone

omit [Interpreter] in
/-- The entries of a section that is a mapping are its entries. -/
theorem mem_of_sectionEntries {v : Yaml} {entries : List (Scalar × Yaml)} {e : Scalar × Yaml}
    (h : sectionEntries v = some entries) (he : e ∈ entries) : v = .dict entries := by
  unfold sectionEntries at h
  split at h
  · cases h
    cases he
  · cases h
    rfl
  · cases h

omit [Interpreter] in
/-- Without a mapping under `roles` there are no declared roles. -/
theorem roleEntries_eq {doc : List (Scalar × Yaml)} {entries : List (Scalar × Yaml)}
    (h : sectionEntries (member "roles" doc) = some entries) : roleEntries doc = entries := by
  unfold roleEntries
  unfold sectionEntries at h
  split at h
  · rename_i hnone
    cases h
    rw [hnone]
    rfl
  · rename_i hdict
    cases h
    rw [hdict]
    rfl
  · cases h

omit [Interpreter] in
/-- Only a `default` that is there can be a wrong one. -/
theorem default_eqStr_iff {doc : List (Scalar × Yaml)} :
    (memberOr "default" (.str "deny") doc).eqStr "deny" = true ↔
      ∀ v, Dict.lookup (.str "default") doc = some v → v.eqStr "deny" = true := by
  unfold memberOr Value.getOr
  rcases h : Dict.lookup (.str "default") doc with _ | v
  · simp [h, Value.eqStr]
  · simp [h]

/-- An accepted document is not malformed. -/
theorem not_malformed_of_describes {doc : List (Scalar × Yaml)} {sections : Sections}
    (h : Describes doc sections) (hok : SectionsOk sections) : ¬Malformed (.dict doc) := by
  have hroles := roleEntries_eq h.roles
  intro hbad
  cases hbad with
  | notAMapping h => cases h
  | version hversion => exact absurd h.version (by simp [hversion])
  | default v hlookup hv => exact absurd (default_eqStr_iff.mp h.default v hlookup) (by simp [hv])
  | roles hsection => exact absurd (sectionEntries_eq_none_iff.mpr hsection) (by simp [h.roles])
  | rules sectionName hname hsection =>
    have hnone := sectionEntries_eq_none_iff.mpr hsection
    rcases hname with rfl | rfl
    · exact absurd hnone (by simp [h.tools])
    · exact absurd hnone (by simp [h.resources])
  | entry sectionName hname entries hentries e he hbadEntry =>
    rw [hroles] at hbadEntry
    have hsome : sectionEntries (member sectionName doc) = some entries := by
      rw [hentries]
      rfl
    rcases hname with rfl | rfl
    · rw [h.tools] at hsome
      cases hsome
      exact entryOk_iff_not_badEntry.mp (hok.tools e he) hbadEntry
    · rw [h.resources] at hsome
      cases hsome
      exact entryOk_iff_not_badEntry.mp (hok.resources e he) hbadEntry

/-- A section of a document that is not malformed has entries, all of them in order. -/
theorem exists_sectionEntries {doc : List (Scalar × Yaml)} (h : ¬Malformed (.dict doc))
    {sectionName : String} (hname : sectionName = "tools" ∨ sectionName = "resources") :
    ∃ entries, sectionEntries (member sectionName doc) = some entries ∧
      ∀ e ∈ entries, ¬BadEntry (roleEntries doc) e := by
  rcases hentries : sectionEntries (member sectionName doc) with _ | entries
  · exact absurd (.rules sectionName hname (sectionEntries_eq_none_iff.mp hentries)) h
  · refine ⟨entries, rfl, ?_⟩
    intro e he hbad
    apply h
    exact .entry sectionName hname entries (mem_of_sectionEntries hentries he) e he hbad

/-- A document that is not malformed describes sections whose entries are in order. -/
theorem exists_describes {doc : List (Scalar × Yaml)} (h : ¬Malformed (.dict doc)) :
    ∃ sections, Describes doc sections ∧ SectionsOk sections := by
  have hversion : (member "version" doc).eqInt 1 = true := by
    by_contra hversion
    exact h (.version (by simpa using hversion))
  have hdefault : (memberOr "default" (.str "deny") doc).eqStr "deny" = true := by
    rw [default_eqStr_iff]
    intro v hlookup
    by_contra hv
    exact h (.default v hlookup (by simpa using hv))
  rcases hroles : sectionEntries (member "roles" doc) with _ | roles
  · exact absurd (.roles (sectionEntries_eq_none_iff.mp hroles)) h
  · obtain ⟨tools, htools, htoolsOk⟩ := exists_sectionEntries h (Or.inl rfl)
    obtain ⟨resources, hresources, hresourcesOk⟩ := exists_sectionEntries h (Or.inr rfl)
    rw [roleEntries_eq hroles] at htoolsOk hresourcesOk
    refine ⟨⟨roles, tools, resources⟩, ⟨hversion, hdefault, hroles, htools, hresources⟩, ?_, ?_⟩
    · intro e he
      exact entryOk_iff_not_badEntry.mpr (htoolsOk e he)
    · intro e he
      exact entryOk_iff_not_badEntry.mpr (hresourcesOk e he)

/-- **The parser raises** exactly on malformed documents. -/
theorem fromMapping_eq_error_iff {raw : Yaml} {source : String} :
    (∃ e, fromMapping raw source = .error e) ↔ Malformed raw := by
  constructor
  · rintro ⟨e, he⟩
    rcases hmapping : raw.asMapping with _ | doc
    · exact .notAMapping hmapping
    · cases asMapping_eq_some_iff.mp hmapping
      by_contra hno
      obtain ⟨sections, hdescribes, hok⟩ := exists_describes hno
      rw [fromMapping_eq_ok_iff.mpr ⟨doc, sections, rfl, hdescribes, hok, rfl⟩] at he
      cases he
  · intro hbad
    rcases h : fromMapping raw source with e | policy
    · exact ⟨e, rfl⟩
    · obtain ⟨doc, sections, rfl, hdescribes, hok, -⟩ := fromMapping_eq_ok_iff.mp h
      exact absurd hbad (not_malformed_of_describes hdescribes hok)

/-! ## What an accepted policy is like -/

/-- A rule that can be relied on, under this key of its section. -/
structure RuleOk (declared : SortedSet String) (key : String) (rule : Rule) : Prop where
  allowRoles : ∀ r ∈ rule.allowRoles, r ∈ declared
  classification : rule.classification ∈ CLASSIFICATIONS
  pattern : rule.pattern = key

/-- Every rule of the policy can be relied on. -/
structure WellFormed (policy : Policy) : Prop where
  tools : ∀ key rule, policy.tools.get key = some rule → RuleOk policy.declaredRoles key rule
  resources : ∀ key rule, policy.resources.get key = some rule →
    RuleOk policy.declaredRoles key rule

/-- The rule of an entry that is in order. -/
theorem ruleOk_of_entryOk {declared : SortedSet String} {entry : Scalar × Yaml}
    (h : EntryOk declared entry) : RuleOk declared (keyStr entry.1) (ruleOf entry) := by
  refine ⟨?_, h.classification, rfl⟩
  intro r hr
  apply h.declared r
  simpa [ruleOf] using hr

/-- The rules of a section whose entries are in order. -/
theorem ruleOk_of_get_rulesOf {declared : SortedSet String} {entries : List (Scalar × Yaml)}
    (h : ∀ e ∈ entries, EntryOk declared e) {key : String} {rule : Rule}
    (hget : (rulesOf entries).get key = some rule) : RuleOk declared key rule := by
  rw [get_rulesOf, Option.map_eq_some_iff] at hget
  obtain ⟨e, he, rfl⟩ := hget
  obtain ⟨hmem, rfl⟩ := lastEntry_eq_some he
  exact ruleOk_of_entryOk (h e hmem)

/-- An accepted policy is well formed. -/
theorem wellFormed_of_fromMapping {raw : Yaml} {source : String} {policy : Policy}
    (h : fromMapping raw source = .ok policy) : policy.WellFormed := by
  obtain ⟨doc, sections, -, -, hok, rfl⟩ := fromMapping_eq_ok_iff.mp h
  constructor
  · intro key rule hget
    exact ruleOk_of_get_rulesOf hok.tools hget
  · intro key rule hget
    exact ruleOk_of_get_rulesOf hok.resources hget

/-- The parser accepts the well-formed documents and no others. -/
structure AcceptsExactly (raw : Yaml) (source : String) : Prop where
  /-- It ends in a policy or in a `PolicyError`. -/
  total : (∃ policy, fromMapping raw source = .ok policy) ∨
    ∃ e : PolicyError, fromMapping raw source = .error e
  raises : (∃ e, fromMapping raw source = .error e) ↔ Malformed raw
  wellFormed : ∀ policy, fromMapping raw source = .ok policy → policy.WellFormed

/-- **Exactly the well-formed documents are accepted.** -/
theorem acceptsExactly (raw : Yaml) (source : String) : AcceptsExactly raw source := by
  refine ⟨?_, fromMapping_eq_error_iff, fun policy h => wellFormed_of_fromMapping h⟩
  cases h : fromMapping raw source with
  | error e => exact Or.inr ⟨e, rfl⟩
  | ok policy => exact Or.inl ⟨policy, rfl⟩

end GovernedMcp.Policy
