import GovernedMcp.Policy.Document

/-!
# The order of the entries of a document

A policy document is read as a mapping, so the order of its entries should not matter
(`OrderIndependent`). For tools it does not. For resources the longest matching pattern is taken,
and among matching patterns of one length the first one in the file; the order is immaterial exactly
when such ties are between rules that say the same (`TiesAgree`).

* `decisions_eq_of_perm`: what a reordering leaves unchanged.
* `exists_reordered_front`: any entry of the `resources` section can be moved to its front.
* `orderIndependent_iff`: the two together.
-/

namespace GovernedMcp.Policy

open Lib

/-! ## What a decision is about -/

/-- What a rule says about who may do what. -/
structure Terms where
  allowRoles : SortedSet String
  classification : String
  requiresApproval : Bool
  deriving DecidableEq

/-- The terms of a rule. -/
def termsOf (rule : Rule) : Terms := ⟨rule.allowRoles, rule.classification, rule.requiresApproval⟩

/-- Two decisions that say the same. -/
structure SameDecision (d d' : Decision) : Prop where
  allowed : d.allowed = d'.allowed
  classification : d.classification = d'.classification
  requiredRoles : d.requiredRoles = d'.requiredRoles
  requiresApproval : d.requiresApproval = d'.requiresApproval

/-- Rules that say the same decide the same. -/
theorem sameDecision_matchRule {rule rule' : Rule} (h : termsOf rule = termsOf rule')
    (target : String) (granted : List String) :
    SameDecision (matchRule rule target granted) (matchRule rule' target granted) := by
  simp only [termsOf, Terms.mk.injEq] at h
  obtain ⟨hallow, hclass, happroval⟩ := h
  exact ⟨by simp [matchRule, hallow], by simp [matchRule, hclass], by simp [matchRule, hallow],
    by simp [matchRule, happroval]⟩

/-- Rules whose decisions say the same have the same terms. -/
theorem termsOf_eq_of_sameDecision {rule rule' : Rule} {target : String} {granted : List String}
    (h : SameDecision (matchRule rule target granted) (matchRule rule' target granted)) :
    termsOf rule = termsOf rule' := by
  have hallow : rule.allowRoles = rule'.allowRoles := SortedSet.ext h.requiredRoles
  have hclass : rule.classification = rule'.classification := Option.some.inj h.classification
  have happroval : rule.requiresApproval = rule'.requiresApproval := h.requiresApproval
  simp [termsOf, hallow, hclass, happroval]

/-- The decision on a resource says what the terms of its rule say. -/
theorem sameDecision_decideResource {policy policy' : Policy} {uri : String}
    (h : (policy.resourceRule uri).map termsOf = (policy'.resourceRule uri).map termsOf)
    (roles : List String) :
    SameDecision (policy.decideResource uri roles) (policy'.decideResource uri roles) := by
  rcases hr : policy.resourceRule uri with _ | rule
  · have hr' : policy'.resourceRule uri = none := by simpa [hr] using h.symm
    simp only [decideResource, hr, hr']
    exact ⟨rfl, rfl, rfl, rfl⟩
  · rcases hr' : policy'.resourceRule uri with _ | rule'
    · simp [hr, hr'] at h
    · rw [decideResource_of_some hr, decideResource_of_some hr']
      exact sameDecision_matchRule (by simpa [hr, hr'] using h) uri _

/-- Deciding the same is symmetric. -/
theorem SameDecision.symm {d d' : Decision} (h : SameDecision d d') : SameDecision d' d :=
  ⟨h.allowed.symm, h.classification.symm, h.requiredRoles.symm, h.requiresApproval.symm⟩

/-- And transitive. -/
theorem SameDecision.trans {d d' d'' : Decision} (h : SameDecision d d')
    (h' : SameDecision d' d'') : SameDecision d d'' :=
  ⟨h.allowed.trans h'.allowed, h.classification.trans h'.classification,
    h.requiredRoles.trans h'.requiredRoles, h.requiresApproval.trans h'.requiresApproval⟩

/-- The terms of the rule of a resource are those of the selected pattern. -/
theorem map_termsOf_resourceRule (policy : Policy) (uri : String) :
    (policy.resourceRule uri).map termsOf =
      ((selectLongest String.length (fnmatchcase uri) policy.resources.keys).map
        fun p => (policy.resources.get p).map termsOf).join := by
  unfold resourceRule
  rcases selectLongest String.length (fnmatchcase uri) policy.resources.keys with _ | p
  · rfl
  · rfl

/-- The patterns of a policy that match a URI and are as long as any that does. -/
def IsLongestMatch (policy : Policy) (uri pattern : String) : Prop :=
  IsLongest String.length (fnmatchcase uri) policy.resources.keys pattern

/-- Wherever several longest patterns match, their rules say the same. -/
def TiesAgree (policy : Policy) : Prop :=
  ∀ uri a b, policy.IsLongestMatch uri a → policy.IsLongestMatch uri b →
    (policy.resources.get a).map termsOf = (policy.resources.get b).map termsOf

/-! ## Reordered documents -/

/-- The keys of a section are distinct strings. -/
structure DistinctStringKeys (entries : List (Scalar × Yaml)) : Prop where
  strings : ∀ k ∈ entries.map Prod.fst, ∃ name, k = .str name
  nodup : (entries.map Prod.fst).Nodup

/-- The sections of a document have distinct string keys. -/
structure StringKeyed (sections : Sections) : Prop where
  roles : DistinctStringKeys sections.roles
  tools : DistinctStringKeys sections.tools
  resources : DistinctStringKeys sections.resources

/-- Two lists of sections that differ by the order of their entries at most. -/
structure Sections.Perm (s s' : Sections) : Prop where
  roles : s.roles.Perm s'.roles
  tools : s.tools.Perm s'.tools
  resources : s.resources.Perm s'.resources

/-- Two documents that differ by the order of the entries of their sections at most. -/
def Reordered (doc doc' : List (Scalar × Yaml)) : Prop :=
  (∃ s s', Describes doc s ∧ Describes doc' s' ∧ s.Perm s') ∧
    ∀ name, name ∉ [Scalar.str "roles", .str "tools", .str "resources"] →
      Dict.lookup name doc = Dict.lookup name doc'

/-- The sections of a document are determined by it. -/
theorem Describes.unique {doc : List (Scalar × Yaml)} {s s' : Sections} (h : Describes doc s)
    (h' : Describes doc s') : s = s' := by
  obtain ⟨roles, tools, resources⟩ := s
  obtain ⟨roles', tools', resources'⟩ := s'
  have hroles : roles = roles' := Option.some.inj (h.roles.symm.trans h'.roles)
  have htools : tools = tools' := Option.some.inj (h.tools.symm.trans h'.tools)
  have hresources : resources = resources' :=
    Option.some.inj (h.resources.symm.trans h'.resources)
  rw [hroles, htools, hresources]

/-- Reordering keeps keys distinct strings. -/
theorem DistinctStringKeys.perm {entries entries' : List (Scalar × Yaml)}
    (h : DistinctStringKeys entries) (hperm : entries.Perm entries') :
    DistinctStringKeys entries' := by
  have hkeys := hperm.map Prod.fst
  constructor
  · intro k hk
    apply h.strings
    exact hkeys.mem_iff.mpr hk
  · exact hkeys.nodup_iff.mp h.nodup

/-! ## Documents with resources only -/

/-- The sections of the document have distinct string keys. -/
theorem stringKeyed_resourcesSections {resources : List (Scalar × Yaml)}
    (h : DistinctStringKeys resources) : StringKeyed (resourcesSections resources) where
  roles := ⟨by simp [resourcesSections], by simp [resourcesSections]⟩
  tools := ⟨by simp [resourcesSections], by simp [resourcesSections]⟩
  resources := h

/-- Reordering the entries under `resources`. -/
theorem reordered_resourcesDocument {resources resources' : List (Scalar × Yaml)}
    (h : resources.Perm resources') :
    Reordered (resourcesDocument resources) (resourcesDocument resources') := by
  refine ⟨⟨_, _, describes_resourcesDocument _, describes_resourcesDocument _, .rfl, .rfl, h⟩, ?_⟩
  intro name hname
  simp only [List.mem_cons, List.not_mem_nil, or_false, not_or] at hname
  simp [resourcesDocument, Dict.lookup, Ne.symm hname.2.2]

variable [Interpreter]

/-- Distinct strings have distinct texts. -/
theorem DistinctStringKeys.nodup_keyStr {entries : List (Scalar × Yaml)}
    (h : DistinctStringKeys entries) : (entries.map fun e => keyStr e.1).Nodup := by
  have htexts : ((entries.map Prod.fst).map keyStr).Nodup := by
    apply h.nodup.map_on
    intro k hk l hl hkl
    obtain ⟨name, rfl⟩ := h.strings k hk
    obtain ⟨name', rfl⟩ := h.strings l hl
    simpa [keyStr] using hkl
  simpa [Function.comp_def] using htexts

/-- With distinct keys, every entry describes a rule of its own. -/
theorem entries_rulesOf {entries : List (Scalar × Yaml)} (h : DistinctStringKeys entries) :
    (rulesOf entries).entries = entries.map fun e => (keyStr e.1, ruleOf e) :=
  Dict.entries_ofEntries_of_nodup _ (by simpa [Function.comp_def] using h.nodup_keyStr)

/-- Reordering a section with distinct keys changes the order of its rules only. -/
theorem entries_rulesOf_perm {entries entries' : List (Scalar × Yaml)}
    (h : DistinctStringKeys entries) (hperm : entries.Perm entries') :
    (rulesOf entries).entries.Perm (rulesOf entries').entries := by
  rw [entries_rulesOf h, entries_rulesOf (h.perm hperm)]
  exact hperm.map _

/-- Reordering the roles section declares the same roles. -/
theorem declaredRolesOf_perm {entries entries' : List (Scalar × Yaml)}
    (hperm : entries.Perm entries') : declaredRolesOf entries = declaredRolesOf entries' :=
  SortedSet.ofList_congr fun _ => (hperm.map _).mem_iff

/-- A reordered document is in order when the document is. -/
theorem SectionsOk.perm {s s' : Sections} (h : SectionsOk s) (hperm : s.Perm s') :
    SectionsOk s' := by
  constructor
  · intro e he
    rw [← declaredRolesOf_perm hperm.roles]
    apply h.tools
    exact hperm.tools.mem_iff.mpr he
  · intro e he
    rw [← declaredRolesOf_perm hperm.roles]
    apply h.resources
    exact hperm.resources.mem_iff.mpr he

/-! ## What a reordering leaves unchanged -/

section reordering

variable {s s' : Sections} {source : String}

/-- Decisions on tools do not depend on the order. -/
theorem decideTool_eq_of_perm (hkeys : StringKeyed s) (hperm : s.Perm s') (tool : String)
    (roles : List String) :
    (policyOf source s).decideTool tool roles = (policyOf source s').decideTool tool roles := by
  have hget : (policyOf source s).tools.get tool = (policyOf source s').tools.get tool :=
    Dict.get_eq_of_perm (entries_rulesOf_perm hkeys.tools hperm.tools) tool
  unfold decideTool
  rw [hget]

/-- Where ties agree, the rule of a resource has the same terms in every order. -/
theorem resourceRule_terms_eq_of_perm (hkeys : StringKeyed s) (hperm : s.Perm s')
    (hties : TiesAgree (policyOf source s)) (uri : String) :
    ((policyOf source s).resourceRule uri).map termsOf =
      ((policyOf source s').resourceRule uri).map termsOf := by
  have hentries := entries_rulesOf_perm hkeys.resources hperm.resources
  have hget : ∀ pattern, (policyOf source s').resources.get pattern =
      (policyOf source s).resources.get pattern :=
    fun pattern => (Dict.get_eq_of_perm hentries pattern).symm
  have hselect := map_select_eq_of_perm String.length (fnmatchcase uri)
    (hentries.map Prod.fst) (fun p => ((policyOf source s).resources.get p).map termsOf)
    (hties uri)
  rw [map_termsOf_resourceRule, map_termsOf_resourceRule]
  simp only [hget]
  exact congrArg Option.join hselect

/-- **Reordering** a document in which ties agree leaves every decision as it is. -/
theorem decisions_eq_of_perm (hkeys : StringKeyed s) (hperm : s.Perm s')
    (hties : TiesAgree (policyOf source s)) (target : String) (roles : List String) :
    SameDecision ((policyOf source s).decideTool target roles)
        ((policyOf source s').decideTool target roles) ∧
      SameDecision ((policyOf source s).decideResource target roles)
        ((policyOf source s').decideResource target roles) := by
  rw [decideTool_eq_of_perm hkeys hperm]
  exact ⟨⟨rfl, rfl, rfl, rfl⟩,
    sameDecision_decideResource (resourceRule_terms_eq_of_perm hkeys hperm hties target) roles⟩

end reordering

/-! ## Moving an entry to the front -/

section front

variable {doc : List (Scalar × Yaml)} {s : Sections} {source : String}

/-- The sections with one entry of `resources` moved to the front. -/
def Sections.front (s : Sections) (e : Scalar × Yaml) : Sections :=
  { s with resources := e :: s.resources.erase e }

omit [Interpreter] in
/-- Moving an entry to the front reorders the sections. -/
theorem Sections.perm_front {e : Scalar × Yaml} (he : e ∈ s.resources) : s.Perm (s.front e) :=
  ⟨.rfl, .rfl, List.perm_cons_erase he⟩

omit [Interpreter] in
/-- Any entry of the `resources` section can be moved to its front. -/
theorem exists_reordered_front (h : Describes doc s) {e : Scalar × Yaml} (he : e ∈ s.resources) :
    ∃ doc', Describes doc' (s.front e) ∧ Reordered doc doc' := by
  have hlookup : ∀ name, name ≠ Scalar.str "resources" →
      Dict.lookup name (Dict.setEntries (.str "resources") (.dict (s.front e).resources) doc) =
        Dict.lookup name doc := by
    intro name hname
    rw [Dict.lookup_setEntries, if_neg hname.symm]
  have hfront : Describes (Dict.setEntries (.str "resources") (.dict (s.front e).resources) doc)
      (s.front e) := by
    constructor
    · rw [member, Value.get, hlookup _ (by simp)]
      exact h.version
    · rw [memberOr, Value.getOr, hlookup _ (by simp)]
      exact h.default
    · rw [member, Value.get, hlookup _ (by simp)]
      exact h.roles
    · rw [member, Value.get, hlookup _ (by simp)]
      exact h.tools
    · rw [member, Value.get, Dict.lookup_setEntries, if_pos rfl]
      rfl
  refine ⟨_, hfront, ⟨s, s.front e, h, hfront, Sections.perm_front he⟩, fun name hname => ?_⟩
  symm
  apply hlookup
  rintro rfl
  simp at hname

/-- Moved to the front, a longest matching pattern decides. -/
theorem resourceRule_front (hkeys : StringKeyed s) {e : Scalar × Yaml} (he : e ∈ s.resources)
    {uri : String} (hlongest : (policyOf source s).IsLongestMatch uri (keyStr e.1)) :
    (policyOf source (s.front e)).resourceRule uri = some (ruleOf e) := by
  have hperm := Sections.perm_front he
  have hentries : (policyOf source (s.front e)).resources.entries =
      (keyStr e.1, ruleOf e) :: (s.resources.erase e).map fun e => (keyStr e.1, ruleOf e) :=
    entries_rulesOf (hkeys.resources.perm hperm.resources)
  have hkeys' : (policyOf source (s.front e)).resources.keys =
      keyStr e.1 :: (s.resources.erase e).map fun e => keyStr e.1 := by
    rw [Dict.keys, hentries]
    simp [Function.comp_def]
  have hlongest' := IsLongest.perm _ _
    ((entries_rulesOf_perm hkeys.resources hperm.resources).map Prod.fst) hlongest
  rw [resourceRule_eq_some_iff]
  refine ⟨keyStr e.1, ?_, ?_⟩
  · rw [hkeys']
    apply selectLongest_of_front
    rw [← hkeys']
    exact hlongest'
  · rw [Dict.get_eq_some_iff, hentries]
    exact List.mem_cons_self

/-- In a document whose order does not matter, every longest matching pattern decides. -/
theorem sameDecision_of_orderIndependent (hdescribes : Describes doc s) (hok : SectionsOk s)
    (hkeys : StringKeyed s)
    (h : ∀ doc' policy', Reordered doc doc' → fromMapping (.dict doc') source = .ok policy' →
      ∀ uri roles, SameDecision ((policyOf source s).decideResource uri roles)
        (policy'.decideResource uri roles))
    {uri pattern : String} (hlongest : (policyOf source s).IsLongestMatch uri pattern) :
    ∃ rule, (policyOf source s).resources.get pattern = some rule ∧
      SameDecision ((policyOf source s).decideResource uri []) (matchRule rule uri []) := by
  have hmem : pattern ∈ s.resources.map fun e => keyStr e.1 := by
    have := hlongest.1
    rw [Dict.keys,
      show (policyOf source s).resources.entries = _ from entries_rulesOf hkeys.resources]
      at this
    simpa [Function.comp_def] using this
  obtain ⟨e, he, rfl⟩ := List.mem_map.mp hmem
  refine ⟨ruleOf e, ?_, ?_⟩
  · rw [Dict.get_eq_some_iff, show (policyOf source s).resources.entries = _ from
      entries_rulesOf hkeys.resources]
    exact List.mem_map.mpr ⟨e, he, rfl⟩
  · obtain ⟨doc', hfront, hreordered⟩ := exists_reordered_front hdescribes he
    have haccepted : fromMapping (.dict doc') source = .ok (policyOf source (s.front e)) :=
      fromMapping_eq_ok_iff.mpr
        ⟨doc', s.front e, rfl, hfront, hok.perm (Sections.perm_front he), rfl⟩
    have := h doc' _ hreordered haccepted uri []
    rw [decideResource_of_some (resourceRule_front hkeys he hlongest)] at this
    exact this

end front

/-! ## When the order matters -/

/-- The meaning of an accepted document does not depend on the order of the entries of its
sections. -/
def OrderIndependent (doc : List (Scalar × Yaml)) (source : String) (policy : Policy) : Prop :=
  ∀ doc' policy', Reordered doc doc' → fromMapping (.dict doc') source = .ok policy' →
    ∀ target roles,
      SameDecision (policy.decideTool target roles) (policy'.decideTool target roles) ∧
        SameDecision (policy.decideResource target roles) (policy'.decideResource target roles)

/-- **When the order of a document is immaterial**: exactly when, wherever several matching patterns
are of the greatest length, their rules agree on roles, classification and approval. -/
theorem orderIndependent_iff {doc : List (Scalar × Yaml)} {source : String} {policy : Policy}
    (haccepted : fromMapping (.dict doc) source = .ok policy) {s : Sections}
    (hsections : Describes doc s) (hkeys : StringKeyed s) :
    OrderIndependent doc source policy ↔ TiesAgree policy := by
  obtain ⟨_, s', hdoc, hdescribes, hok, rfl⟩ := fromMapping_eq_ok_iff.mp haccepted
  cases hdoc
  cases hdescribes.unique hsections
  constructor
  · intro h uri a b ha hb
    have hresource : ∀ doc' policy', Reordered doc doc' →
        fromMapping (.dict doc') source = .ok policy' → ∀ uri roles,
          SameDecision ((policyOf source s).decideResource uri roles)
            (policy'.decideResource uri roles) :=
      fun doc' policy' hr hp uri roles => (h doc' policy' hr hp uri roles).2
    obtain ⟨ruleA, hgetA, hA⟩ :=
      sameDecision_of_orderIndependent hdescribes hok hkeys hresource ha
    obtain ⟨ruleB, hgetB, hB⟩ :=
      sameDecision_of_orderIndependent hdescribes hok hkeys hresource hb
    rw [hgetA, hgetB]
    exact congrArg some (termsOf_eq_of_sameDecision (hA.symm.trans hB))
  · intro hties doc' policy' hreordered haccepted' target roles
    obtain ⟨⟨t, t', ht, ht', hperm⟩, -⟩ := hreordered
    obtain ⟨_, u, hdoc', hu, -, rfl⟩ := fromMapping_eq_ok_iff.mp haccepted'
    cases hdoc'
    cases ht.unique hdescribes
    cases ht'.unique hu
    exact decisions_eq_of_perm hkeys hperm hties target roles

omit [Interpreter] in
/-- Of two patterns that overlap, the longer one decides, wherever it stands. -/
theorem orderIndependent_shipments : ∃ policy,
    @fromMapping plainInterpreter (.dict (resourcesDocument
      [resourceEntry "shipment://*" "tlo.reader",
        resourceEntry "shipment://eu/*" "platform.admin"])) "policy.yaml" = .ok policy ∧
    (∀ p ∈ ["shipment://*", "shipment://eu/*"],
      p ∈ policy.resources.keys ∧ fnmatchcase "shipment://eu/1" p = true) ∧
    @OrderIndependent plainInterpreter (resourcesDocument
      [resourceEntry "shipment://*" "tlo.reader",
        resourceEntry "shipment://eu/*" "platform.admin"]) "policy.yaml" policy := by
  refine ⟨_, rfl, by decide, (@orderIndependent_iff plainInterpreter _ _ _ rfl _
    (describes_resourcesDocument _)
    (stringKeyed_resourcesSections ⟨by simp [resourceEntry], by simp [resourceEntry]⟩)).mpr ?_⟩
  intro uri a b ha hb
  have hkeys : ∀ p ∈ ["shipment://*", "shipment://eu/*"],
      p = "shipment://*" ∨ p = "shipment://eu/*" := fun p hp => by simpa using hp
  have hlength : a.length = b.length :=
    Nat.le_antisymm (hb.2.2 a ha.1 ha.2.1) (ha.2.2 b hb.1 hb.2.1)
  -- the two are not of one length
  rcases hkeys a ha.1 with rfl | rfl <;> rcases hkeys b hb.1 with rfl | rfl
  · rfl
  · exact absurd hlength (by decide)
  · exact absurd hlength (by decide)
  · rfl

omit [Interpreter] in
/-- Two patterns of one length match `shipment://eu/de`. Whichever comes first decides. -/
theorem not_orderIndependent_of_tie : ∃ policy s,
    @fromMapping plainInterpreter (.dict (resourcesDocument
      [resourceEntry "shipment://eu/*" "tlo.reader",
        resourceEntry "shipment://*/de" "platform.admin"])) "policy.yaml" = .ok policy ∧
    Describes (resourcesDocument [resourceEntry "shipment://eu/*" "tlo.reader",
      resourceEntry "shipment://*/de" "platform.admin"]) s ∧ StringKeyed s ∧
    ¬ @OrderIndependent plainInterpreter (resourcesDocument
      [resourceEntry "shipment://eu/*" "tlo.reader",
        resourceEntry "shipment://*/de" "platform.admin"]) "policy.yaml" policy := by
  refine ⟨_, _, rfl, describes_resourcesDocument _,
    stringKeyed_resourcesSections ⟨by simp [resourceEntry], by simp [resourceEntry]⟩, fun h => ?_⟩
  have hsame := (h _ _ (reordered_resourcesDocument (List.Perm.swap _ _ _)) rfl
    "shipment://eu/de" ["tlo.reader"]).2.allowed
  exact absurd hsame (by decide)

end GovernedMcp.Policy
