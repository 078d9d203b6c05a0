import GovernedMcp.Lib.Traced
import GovernedMcp.Model.Policy

/-!
# What a policy document means

`Policy.fromMapping` runs through a document with many early exits. Here the document is described
without them.

* `ruleOf e`: the rule an entry of a section describes, defaults filled in.
* `EntryOk declared e`: what the parser asks of an entry.
* `Sections`: the entries of the three sections; `policyOf` is the policy they describe.
* `fromMapping_eq_ok_iff`: the parser accepts exactly the documents whose head and entries are in
  order, and returns the policy their sections describe.
* `get_tools_policyOf`: the rule of a tool is the one its last entry describes.
-/

namespace GovernedMcp.Policy

open Lib

variable [Interpreter]

/-! ## One entry of a section -/

section entries

/-- The members of an entry's body. -/
def bodyOf (entry : Scalar × Yaml) : List (Scalar × Yaml) := entry.2.asMapping.getD []

/-- The classification of an entry, `internal` when it has none. -/
def classificationOf (entry : Scalar × Yaml) : String :=
  (memberOr "classification" (.str "internal") (bodyOf entry)).toStr

/-- `body.get("allow_roles") or []`. -/
def allowRolesOf (entry : Scalar × Yaml) : Yaml :=
  (member "allow_roles" (bodyOf entry)).orElse (.list [])

/-- The texts of the items under `allow_roles`. -/
def allowedRoles (entry : Scalar × Yaml) : List String :=
  match allowRolesOf entry with
  | .list items => items.map Value.toStr
  | _ => []

/-- Whether an entry asks for approval. -/
def asksApproval (entry : Scalar × Yaml) : Bool :=
  (memberOr "requires_approval" (.bool false) (bodyOf entry)).truthy

/-- The rule an entry describes. -/
def ruleOf (entry : Scalar × Yaml) : Rule where
  pattern := keyStr entry.1
  allowRoles := SortedSet.ofList (allowedRoles entry)
  classification := classificationOf entry
  description := (memberOr "description" (.str "") (bodyOf entry)).toStr
  requiresApproval := asksApproval entry
  approvalPrompt := (memberOr "approval_prompt" (.str "") (bodyOf entry)).toStr

/-- What is asked of an entry: a mapping, a known classification, and a list of declared roles. -/
structure EntryOk (declared : SortedSet String) (entry : Scalar × Yaml) : Prop where
  mapping : entry.2.asMapping.isSome = true
  classification : classificationOf entry ∈ CLASSIFICATIONS
  allowList : ∃ items, allowRolesOf entry = .list items
  declared : ∀ r ∈ allowedRoles entry, r ∈ declared

omit [Interpreter] in
/-- No role of the list is outside the declared ones iff the list of those outside is empty. -/
theorem undeclared_eq_nil_iff {declared : SortedSet String} {roles : List String} :
    (SortedSet.ofList (roles.filter fun r => decide (r ∉ declared))).elems = [] ↔
      ∀ r ∈ roles, r ∈ declared := by
  rw [List.eq_nil_iff_forall_not_mem]
  simp

/-- **One entry** is accepted exactly when it is in order, and gives the rule it describes. -/
theorem parseRule_eq_ok_iff {declared : SortedSet String} {source sectionName : String}
    {entry : Scalar × Yaml} {rule : Rule} :
    parseRule declared source sectionName entry = .ok rule ↔
      EntryOk declared entry ∧ rule = ruleOf entry := by
  obtain ⟨key, value⟩ := entry
  unfold parseRule
  rcases hbody : value.asMapping with _ | body
  · simp only [reduceCtorEq, false_iff, not_and]
    intro hok
    simpa [hbody] using hok.mapping
  · have hbodyOf : bodyOf (key, value) = body := by simp [bodyOf, hbody]
    simp only [← hbodyOf]
    by_cases hclass : (memberOr "classification" (.str "internal") (bodyOf (key, value))).toStr ∈
        CLASSIFICATIONS
    · rw [if_neg (not_not.mpr hclass)]
      rcases hallow : (member "allow_roles" (bodyOf (key, value))).orElse (.list []) with
        a | items | es | ⟨c, attrs⟩
      case list =>
        have hallowed : items.map Value.toStr = allowedRoles (key, value) := by
          simp [allowedRoles, allowRolesOf, hallow]
        simp only [hallowed]
        by_cases hdeclared : ∀ r ∈ allowedRoles (key, value), r ∈ declared
        · rw [if_neg (not_not.mpr (undeclared_eq_nil_iff.mpr hdeclared))]
          simp only [Except.ok.injEq]
          constructor
          · rintro rfl
            exact ⟨⟨by simp [hbody], hclass, ⟨items, hallow⟩, hdeclared⟩, rfl⟩
          · rintro ⟨-, rfl⟩
            rfl
        · rw [if_pos (mt undeclared_eq_nil_iff.mp hdeclared)]
          simp only [reduceCtorEq, false_iff, not_and]
          intro hok
          exact absurd hok.declared hdeclared
      all_goals
        simp only [reduceCtorEq, false_iff, not_and]
        intro hok
        obtain ⟨items, hitems⟩ := hok.allowList
        exact absurd (hallow.symm.trans hitems) (by simp)
    · rw [if_pos hclass]
      simp only [reduceCtorEq, false_iff, not_and]
      intro hok
      exact absurd hok.classification hclass

end entries

/-! ## Sections -/

section sections

/-- The entries of a section: none when it is null, and no section at all when it is neither null
nor a mapping. -/
def sectionEntries : Yaml → Option (List (Scalar × Yaml))
  | .none => some []
  | .dict entries => some entries
  | _ => none

/-- The roles a list of entries declares. -/
def declaredRolesOf (entries : List (Scalar × Yaml)) : SortedSet String :=
  SortedSet.ofList (entries.map fun e => keyStr e.1)

/-- The rules a list of entries describes; of two entries for one name the later one counts. -/
def rulesOf (entries : List (Scalar × Yaml)) : Dict String Rule :=
  Dict.ofEntries (entries.map fun e => (keyStr e.1, ruleOf e))

/-- The last entry of a section whose key reads `name`. -/
def lastEntry (name : String) (entries : List (Scalar × Yaml)) : Option (Scalar × Yaml) :=
  entries.reverse.find? fun e => decide (keyStr e.1 = name)

/-- **When the roles are accepted**, and what they declare. -/
theorem parseRoles_eq_ok_iff {raw : Yaml} {source : String} {declared : SortedSet String} :
    parseRoles raw source = .ok declared ↔
      ∃ entries, sectionEntries raw = some entries ∧ declared = declaredRolesOf entries := by
  unfold parseRoles sectionEntries
  split
  · simp [declaredRolesOf, eq_comm]
    rfl
  · simp [declaredRolesOf, eq_comm]
  · simp

/-- **When a section of rules is accepted**, and which rules it gives. -/
theorem parseRules_eq_ok_iff {raw : Yaml} {declared : SortedSet String}
    {source sectionName : String} {rules : Dict String Rule} :
    parseRules raw declared source sectionName = .ok rules ↔
      ∃ entries, sectionEntries raw = some entries ∧ (∀ e ∈ entries, EntryOk declared e) ∧
        rules = rulesOf entries := by
  unfold parseRules sectionEntries
  split
  · simp [rulesOf, eq_comm]
    rfl
  · rw [Dict.insertAll_eq_ok_iff fun e rule => parseRule_eq_ok_iff]
    simp [rulesOf, Dict.ofEntries]
  · simp

/-- The rule of a name is the one its last entry describes. -/
theorem get_rulesOf (name : String) (entries : List (Scalar × Yaml)) :
    (rulesOf entries).get name = (lastEntry name entries).map ruleOf := by
  rw [rulesOf, Dict.get_ofEntries, Dict.lastOf_map, lastEntry]

/-- The last entry of a name is an entry of that name. -/
theorem lastEntry_eq_some {name : String} {entries : List (Scalar × Yaml)} {e : Scalar × Yaml}
    (h : lastEntry name entries = some e) : e ∈ entries ∧ keyStr e.1 = name :=
  ⟨List.mem_reverse.mp (List.mem_of_find?_eq_some h),
    of_decide_eq_true (List.find?_some h :)⟩

end sections

/-! ## The document -/

section document

/-- The entries of the three sections of a document. -/
structure Sections where
  roles : List (Scalar × Yaml)
  tools : List (Scalar × Yaml)
  resources : List (Scalar × Yaml)

/-- The head of the document is in order, and these are its sections. -/
structure Describes (doc : List (Scalar × Yaml)) (sections : Sections) : Prop where
  version : (member "version" doc).eqInt 1 = true
  default : (memberOr "default" (.str "deny") doc).eqStr "deny" = true
  roles : sectionEntries (member "roles" doc) = some sections.roles
  tools : sectionEntries (member "tools" doc) = some sections.tools
  resources : sectionEntries (member "resources" doc) = some sections.resources

/-- Every entry of the two sections of rules is in order. -/
structure SectionsOk (sections : Sections) : Prop where
  tools : ∀ e ∈ sections.tools, EntryOk (declaredRolesOf sections.roles) e
  resources : ∀ e ∈ sections.resources, EntryOk (declaredRolesOf sections.roles) e

/-- The policy that sections describe. -/
def policyOf (source : String) (sections : Sections) : Policy where
  tools := rulesOf sections.tools
  resources := rulesOf sections.resources
  declaredRoles := declaredRolesOf sections.roles
  source := source

/-- **The parser accepts** exactly the documents whose head and entries are in order, and returns
the policy they describe. -/
theorem fromMapping_eq_ok_iff {raw : Yaml} {source : String} {policy : Policy} :
    fromMapping raw source = .ok policy ↔
      ∃ doc sections, raw = .dict doc ∧ Describes doc sections ∧ SectionsOk sections ∧
        policy = policyOf source sections := by
  unfold fromMapping
  rcases raw with a | xs | doc | ⟨c, attrs⟩
  case dict =>
    simp only [Value.asMapping]
    cases hversion : (member "version" doc).eqInt 1
    · simp only [Bool.not_false, if_true, reduceCtorEq, false_iff]
      rintro ⟨_, sections, hdoc, hdescribes, -⟩
      cases hdoc
      exact absurd hdescribes.version (by simp [hversion])
    · cases hdefault : (memberOr "default" (.str "deny") doc).eqStr "deny"
      · simp only [Bool.not_true, Bool.not_false, if_true, Bool.false_eq_true, if_false,
          reduceCtorEq, false_iff]
        rintro ⟨_, sections, hdoc, hdescribes, -⟩
        cases hdoc
        exact absurd hdescribes.default (by simp [hdefault])
      · simp only [Bool.not_true, Bool.false_eq_true, if_false]
        constructor
        · intro h
          obtain ⟨declared, hroles, h⟩ := Except.bind_eq_ok_iff.mp h
          obtain ⟨tools, htools, h⟩ := Except.bind_eq_ok_iff.mp h
          obtain ⟨resources, hresources, h⟩ := Except.bind_eq_ok_iff.mp h
          cases h
          obtain ⟨roleEntries, hr, rfl⟩ := parseRoles_eq_ok_iff.mp hroles
          obtain ⟨toolEntries, ht, htok, rfl⟩ := parseRules_eq_ok_iff.mp htools
          obtain ⟨resourceEntries, hs, hsok, rfl⟩ := parseRules_eq_ok_iff.mp hresources
          exact ⟨doc, ⟨roleEntries, toolEntries, resourceEntries⟩, rfl,
            ⟨hversion, hdefault, hr, ht, hs⟩, ⟨htok, hsok⟩, rfl⟩
        · rintro ⟨_, sections, hdoc, hdescribes, hok, rfl⟩
          cases hdoc
          apply Except.bind_eq_ok_iff.mpr
          refine ⟨_, parseRoles_eq_ok_iff.mpr ⟨_, hdescribes.roles, rfl⟩, ?_⟩
          apply Except.bind_eq_ok_iff.mpr
          refine ⟨_, parseRules_eq_ok_iff.mpr ⟨_, hdescribes.tools, hok.tools, rfl⟩, ?_⟩
          apply Except.bind_eq_ok_iff.mpr
          refine ⟨_, parseRules_eq_ok_iff.mpr ⟨_, hdescribes.resources, hok.resources, rfl⟩, ?_⟩
          rfl
  all_goals simp [Value.asMapping]

/-- The rule of a tool is the one the last entry of its name describes. -/
theorem get_tools_policyOf (source : String) (sections : Sections) (tool : String) :
    (policyOf source sections).tools.get tool = (lastEntry tool sections.tools).map ruleOf :=
  get_rulesOf tool sections.tools

end document

/-! ## Documents with resources only -/

section resources

/-- A document with these entries under `resources`, and the roles of the shipped policy. -/
def resourcesDocument (resources : List (Scalar × Yaml)) : List (Scalar × Yaml) :=
  [(.str "version", .int 1),
    (.str "roles", .dict [(.str "tlo.reader", .none), (.str "platform.admin", .none)]),
    (.str "resources", .dict resources)]

/-- An entry that lists one role. -/
def resourceEntry (pattern role : String) : Scalar × Yaml :=
  (.str pattern, .dict [(.str "allow_roles", .list [.str role])])

/-- The sections of such a document. -/
def resourcesSections (resources : List (Scalar × Yaml)) : Sections where
  roles := [(.str "tlo.reader", .none), (.str "platform.admin", .none)]
  tools := []
  resources := resources

omit [Interpreter] in
/-- These are the sections of the document. -/
theorem describes_resourcesDocument (resources : List (Scalar × Yaml)) :
    Describes (resourcesDocument resources) (resourcesSections resources) := by
  constructor <;> rfl

end resources

end GovernedMcp.Policy
