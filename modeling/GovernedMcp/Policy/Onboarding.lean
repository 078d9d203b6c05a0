import GovernedMcp.Policy.Order
import GovernedMcp.Policy.Specificity

/-!
# Adding a domain

A domain is added to a document by entries for its tools and resources, and for the roles that they
list. The entries that were there before stay as they are. Source: `docs/onboarding-a-domain.md`,
step 3.

* `Domain`, `Adds`: the names that belong to a domain, and a document to which it is added.
* `fromMapping_added_iff`: the document is accepted exactly when the added entries are in order.
* `Extends`: the policy before is the one afterwards without the rules of the domain.
* `Extends.resourceRule_eq`, `Extends.resourceRule_of_separate`: which rule a resource had before.
-/

namespace GovernedMcp.Policy

open Lib Lib.Glob

/-- The names of the tools and the patterns of the resources of a domain. -/
structure Domain where
  tools : String → Bool
  patterns : String → Bool

variable [Interpreter]

/-! ## The documents -/

/-- The entries of other names. -/
def without (added : String → Bool) (entries : List (Scalar × Yaml)) : List (Scalar × Yaml) :=
  entries.filter fun e => !added (keyStr e.1)

/-- The sections before are those afterwards without the entries of the domain, and declare no other
roles. -/
structure Adds (domain : Domain) (before after : Sections) : Prop where
  roles : ∀ r ∈ declaredRolesOf before.roles, r ∈ declaredRolesOf after.roles
  tools : before.tools = without domain.tools after.tools
  resources : before.resources = without domain.patterns after.resources

/-- The entries of the domain are in order. -/
structure AddedOk (domain : Domain) (sections : Sections) : Prop where
  tools : ∀ e ∈ sections.tools, domain.tools (keyStr e.1) = true →
    EntryOk (declaredRolesOf sections.roles) e
  resources : ∀ e ∈ sections.resources, domain.patterns (keyStr e.1) = true →
    EntryOk (declaredRolesOf sections.roles) e

/-- An entry stays in order where more roles are declared. -/
theorem EntryOk.mono {declared declared' : SortedSet String} {entry : Scalar × Yaml}
    (h : EntryOk declared entry) (hroles : ∀ r ∈ declared, r ∈ declared') :
    EntryOk declared' entry where
  mapping := h.mapping
  classification := h.classification
  allowList := h.allowList
  declared r hr := hroles r (h.declared r hr)

/-- Entries are in order where those before were, and the added ones are. -/
theorem entryOk_of_without {declared declared' : SortedSet String} {added : String → Bool}
    {entries : List (Scalar × Yaml)} (hroles : ∀ r ∈ declared, r ∈ declared')
    (h : ∀ e ∈ without added entries, EntryOk declared e)
    (hadded : ∀ e ∈ entries, added (keyStr e.1) = true → EntryOk declared' e) :
    ∀ e ∈ entries, EntryOk declared' e := by
  intro e he
  cases hname : added (keyStr e.1) with
  | true => exact hadded e he hname
  | false => exact (h e (List.mem_filter.mpr ⟨he, by simp [hname]⟩)).mono hroles

section documents

variable {domain : Domain} {before after : Sections}

/-- Every entry is in order where the added ones are. -/
theorem sectionsOk_iff_addedOk (h : SectionsOk before) (hadds : Adds domain before after) :
    SectionsOk after ↔ AddedOk domain after := by
  constructor
  · exact fun hok => ⟨fun e he _ => hok.tools e he, fun e he _ => hok.resources e he⟩
  · intro hadded
    exact ⟨entryOk_of_without hadds.roles (hadds.tools ▸ h.tools) hadded.tools,
      entryOk_of_without hadds.roles (hadds.resources ▸ h.resources) hadded.resources⟩

/-- **The document with the domain is accepted** exactly when the added entries are in order. -/
theorem fromMapping_added_iff {doc doc' : List (Scalar × Yaml)} {source : String} {policy : Policy}
    (h : fromMapping (.dict doc) source = .ok policy) (hdoc : Describes doc before)
    (hdoc' : Describes doc' after) (hadds : Adds domain before after) :
    (∃ policy', fromMapping (.dict doc') source = .ok policy') ↔ AddedOk domain after := by
  obtain ⟨_, sections, heq, hdescribes, hok, -⟩ := fromMapping_eq_ok_iff.mp h
  cases heq
  cases hdescribes.unique hdoc
  rw [← sectionsOk_iff_addedOk hok hadds]
  constructor
  · rintro ⟨policy', hpolicy'⟩
    obtain ⟨_, sections', heq', hdescribes', hok', -⟩ := fromMapping_eq_ok_iff.mp hpolicy'
    cases heq'
    cases hdescribes'.unique hdoc'
    exact hok'
  · exact fun hok' => ⟨_, fromMapping_eq_ok_iff.mpr ⟨doc', after, rfl, hdoc', hok', rfl⟩⟩

end documents

/-! ## The policies -/

/-- The policy before has the rules of the policy afterwards that do not belong to the domain. -/
structure Extends (domain : Domain) (policy policy' : Policy) : Prop where
  tools : policy.tools.entries = policy'.tools.entries.filter fun e => !domain.tools e.1
  resources : policy.resources.entries =
    policy'.resources.entries.filter fun e => !domain.patterns e.1
  /-- A rule carries the pattern that it stands under. -/
  pattern : ∀ p rule, policy'.resources.get p = some rule → rule.pattern = p

/-- The rules of the other entries. -/
theorem rulesOf_without (added : String → Bool) (entries : List (Scalar × Yaml)) :
    (rulesOf (without added entries)).entries =
      (rulesOf entries).entries.filter fun e => !added e.1 := by
  unfold rulesOf
  rw [← Dict.entries_ofEntries_filter (fun name => !added name), List.filter_map]
  rfl

/-- The policy of a document extends the one of the document without the domain. -/
theorem extends_of_adds {doc doc' : List (Scalar × Yaml)} {source : String}
    {policy policy' : Policy} {domain : Domain} {before after : Sections}
    (h : fromMapping (.dict doc) source = .ok policy) (hdoc : Describes doc before)
    (h' : fromMapping (.dict doc') source = .ok policy') (hdoc' : Describes doc' after)
    (hadds : Adds domain before after) : Extends domain policy policy' := by
  obtain ⟨_, sections, heq, hdescribes, -, rfl⟩ := fromMapping_eq_ok_iff.mp h
  obtain ⟨_, sections', heq', hdescribes', -, rfl⟩ := fromMapping_eq_ok_iff.mp h'
  cases heq
  cases heq'
  cases hdescribes.unique hdoc
  cases hdescribes'.unique hdoc'
  refine ⟨?_, ?_, fun p rule => pattern_of_get_resources h'⟩
  · show (rulesOf before.tools).entries = _
    rw [hadds.tools]
    exact rulesOf_without domain.tools after.tools
  · show (rulesOf before.resources).entries = _
    rw [hadds.resources]
    exact rulesOf_without domain.patterns after.resources

/-- No URI is matched by a pattern of the domain and by another one. -/
def Separate (domain : Domain) (policy : Policy) : Prop :=
  ∀ p ∈ policy.resources.keys, ∀ q ∈ policy.resources.keys, domain.patterns p = true →
    domain.patterns q = false → Disjoint (language p) (language q)

namespace Extends

variable {domain : Domain} {policy policy' : Policy}

omit [Interpreter]

/-- The rule of a tool before. -/
theorem get_tools (h : Extends domain policy policy') (tool : String) :
    policy.tools.get tool = if domain.tools tool then none else policy'.tools.get tool := by
  unfold Dict.get
  rw [h.tools, Dict.lookup_filter (fun name => !domain.tools name)]
  cases domain.tools tool <;> rfl

/-- A rule that was not added was there before. -/
theorem get_resources (h : Extends domain policy policy') {p : String}
    (hp : domain.patterns p = false) : policy.resources.get p = policy'.resources.get p := by
  unfold Dict.get
  rw [h.resources, Dict.lookup_filter (fun name => !domain.patterns name), hp]
  rfl

/-- The patterns before are those that were not added, in order. -/
theorem keys_resources (h : Extends domain policy policy') :
    policy.resources.keys = policy'.resources.keys.filter fun p => !domain.patterns p := by
  unfold Dict.keys
  rw [h.resources, List.filter_map]
  rfl

/-- **A resource that is not decided by the domain** has the rule it had before. -/
theorem resourceRule_eq (h : Extends domain policy policy') {uri : String}
    (huri : ∀ rule, policy'.resourceRule uri = some rule → domain.patterns rule.pattern = false) :
    policy.resourceRule uri = policy'.resourceRule uri := by
  have hkeep : ∀ p, selectLongest String.length (fnmatchcase uri) policy'.resources.keys = some p →
      domain.patterns p = false := by
    intro p hselect
    obtain ⟨rule, hget⟩ : ∃ rule, policy'.resources.get p = some rule := by
      rw [← Option.ne_none_iff_exists', Ne, Dict.get_eq_none_iff, not_not]
      exact (mem_of_selectLongest _ _ hselect).1
    have hrule := huri rule (resourceRule_eq_some_iff.mpr ⟨p, hselect, hget⟩)
    rwa [h.pattern p rule hget] at hrule
  unfold resourceRule
  rw [h.keys_resources, selectLongest_filter _ _ fun p hp => by simp [hkeep p hp]]
  cases hselect : selectLongest String.length (fnmatchcase uri) policy'.resources.keys with
  | none => rfl
  | some p => exact h.get_resources (hkeep p hselect)

/-- **A resource that is decided by the domain** had no rule before, if it is separate. -/
theorem resourceRule_of_separate (h : Extends domain policy policy')
    (hseparate : Separate domain policy') {uri : String} {rule : Rule}
    (hrule : policy'.resourceRule uri = some rule) (hnew : domain.patterns rule.pattern = true) :
    policy.resourceRule uri = none := by
  obtain ⟨p, hselect, hget⟩ := resourceRule_eq_some_iff.mp hrule
  rw [h.pattern p rule hget] at hnew
  obtain ⟨hp, hmatch⟩ := mem_of_selectLongest _ _ hselect
  have hnone : selectLongest String.length (fnmatchcase uri) policy.resources.keys = none := by
    rw [selectLongest_eq_none_iff, h.keys_resources]
    intro q hq
    obtain ⟨hmem, hold⟩ := List.mem_filter.mp hq
    rw [Bool.eq_false_iff]
    intro hmatch'
    have hdisjoint := hseparate p hp q hmem hnew (by simpa using hold)
    exact Set.disjoint_left.mp hdisjoint (mem_language.mpr hmatch) (mem_language.mpr hmatch')
  unfold resourceRule
  rw [hnone]

end Extends

end GovernedMcp.Policy
