import GovernedMcp.Policy.Order

/-!
# Withdrawing a tool

A tool is withdrawn by an edit of the document: its entry is taken out, or lists fewer roles. Such
an edit is accepted wherever the document was, and leaves the rest of the policy as it is. Source:
`docs/runbooks/revoke-access.md`, B.

* `Edit`, `edited`: the two edits of a section.
* `Narrows`: one rule of a policy is edited, and the policy is otherwise the same.
* `exists_narrowed`: the edited document is accepted, with such a policy.
-/

namespace GovernedMcp.Policy

open Lib

variable [Interpreter]

/-! ## The edits -/

/-- How an entry is edited. -/
inductive Edit where
  | remove
  /-- Of the roles it lists, only some stay. -/
  | keepRoles (stays : String → Bool)

/-- The items that are listed under `allow_roles`. -/
def allowItems (entry : Scalar × Yaml) : List Yaml :=
  match allowRolesOf entry with
  | .list items => items
  | _ => []

/-- An entry that lists fewer roles. -/
def narrowEntry (stays : String → Bool) (entry : Scalar × Yaml) : Scalar × Yaml :=
  (entry.1, .dict (Dict.setEntries (.str "allow_roles")
    (.list ((allowItems entry).filter fun item => stays item.toStr)) (bodyOf entry)))

/-- The section with every entry of the tool edited. -/
def edited (tool : String) : Edit → List (Scalar × Yaml) → List (Scalar × Yaml)
  | .remove, entries => entries.filter fun e => decide (keyStr e.1 ≠ tool)
  | .keepRoles stays, entries =>
    entries.map fun e => if keyStr e.1 = tool then narrowEntry stays e else e

/-! ## An edited entry -/

section entry

variable {stays : String → Bool} {entry : Scalar × Yaml}

/-- The body of a narrowed entry lists fewer roles. -/
theorem bodyOf_narrowEntry : bodyOf (narrowEntry stays entry) =
    Dict.setEntries (.str "allow_roles")
      (.list ((allowItems entry).filter fun item => stays item.toStr)) (bodyOf entry) := rfl

/-- The other members of the body stay. -/
theorem memberOr_narrowEntry {name : String} (h : name ≠ "allow_roles") (default : Yaml) :
    memberOr name default (bodyOf (narrowEntry stays entry)) =
      memberOr name default (bodyOf entry) := by
  have hne : (Scalar.str "allow_roles" : Scalar) ≠ .str name := by simpa using h.symm
  rw [bodyOf_narrowEntry, memberOr, memberOr, Value.getOr, Value.getOr, Dict.lookup_setEntries,
    if_neg hne]

/-- These are its roles. -/
theorem allowRolesOf_narrowEntry : allowRolesOf (narrowEntry stays entry) =
    .list ((allowItems entry).filter fun item => stays item.toStr) := by
  rw [allowRolesOf, bodyOf_narrowEntry, member, Value.get, Dict.lookup_setEntries, if_pos rfl,
    Option.getD_some]
  -- a list that is empty is replaced by an empty list
  cases (allowItems entry).filter fun item => stays item.toStr <;> rfl

/-- The roles of an entry are the texts of its items. -/
theorem allowedRoles_eq (entry : Scalar × Yaml) :
    allowedRoles entry = (allowItems entry).map Value.toStr := by
  unfold allowedRoles allowItems
  cases allowRolesOf entry <;> rfl

/-- After narrowing they are those that stay. -/
theorem allowedRoles_narrowEntry :
    allowedRoles (narrowEntry stays entry) = (allowedRoles entry).filter stays := by
  rw [allowedRoles_eq, allowedRoles_eq, allowItems, allowRolesOf_narrowEntry, List.filter_map]
  rfl

/-- The rule of the entry grants to the roles that stay, and is otherwise the same. -/
theorem ruleOf_narrowEntry : ruleOf (narrowEntry stays entry) =
    { ruleOf entry with
      allowRoles := SortedSet.ofList ((allowedRoles entry).filter stays) } := by
  simp only [ruleOf, classificationOf, asksApproval, allowedRoles_narrowEntry,
    memberOr_narrowEntry (by decide : "classification" ≠ "allow_roles"),
    memberOr_narrowEntry (by decide : "description" ≠ "allow_roles"),
    memberOr_narrowEntry (by decide : "requires_approval" ≠ "allow_roles"),
    memberOr_narrowEntry (by decide : "approval_prompt" ≠ "allow_roles")]
  rfl

/-- Narrowing keeps an entry in order. -/
theorem entryOk_narrowEntry {declared : SortedSet String} (h : EntryOk declared entry) :
    EntryOk declared (narrowEntry stays entry) where
  mapping := rfl
  classification := by
    rw [classificationOf, memberOr_narrowEntry (by decide)]
    exact h.classification
  allowList := ⟨_, allowRolesOf_narrowEntry⟩
  declared r hr := by
    rw [allowedRoles_narrowEntry] at hr
    exact h.declared r (List.mem_of_mem_filter hr)

end entry

/-! ## An edited section -/

section edits

variable {tool : String} {edit : Edit} {entries : List (Scalar × Yaml)}

/-- So does the whole edit. -/
theorem entryOk_edited {declared : SortedSet String} (h : ∀ e ∈ entries, EntryOk declared e) :
    ∀ e ∈ edited tool edit entries, EntryOk declared e := by
  intro e he
  cases edit with
  | remove => exact h e (List.mem_of_mem_filter he)
  | keepRoles stays =>
    obtain ⟨e', he', rfl⟩ := List.mem_map.mp he
    split_ifs
    · exact entryOk_narrowEntry (h e' he')
    · exact h e' he'

/-- An entry keeps its key. -/
theorem keyStr_edit (stays : String → Bool) (e : Scalar × Yaml) :
    keyStr (if keyStr e.1 = tool then narrowEntry stays e else e).1 = keyStr e.1 := by
  split_ifs <;> rfl

/-- The last entry of a name, where roles are left out. -/
theorem lastEntry_keepRoles (stays : String → Bool) (name : String) :
    lastEntry name (edited tool (.keepRoles stays) entries) =
      (lastEntry name entries).map fun e =>
        if keyStr e.1 = tool then narrowEntry stays e else e := by
  unfold lastEntry edited
  rw [← List.map_reverse, List.find?_map]
  congr 2
  funext e
  simp only [Function.comp_apply, keyStr_edit]

/-- The last entry of a name that is not edited. -/
theorem lastEntry_edited_of_ne {name : String} (h : name ≠ tool) :
    lastEntry name (edited tool edit entries) = lastEntry name entries := by
  cases edit with
  | remove =>
    unfold lastEntry edited
    rw [← List.filter_reverse, List.find?_filter]
    congr 1
    funext e
    by_cases hname : keyStr e.1 = name
    · simp [hname, h]
    · simp [hname]
  | keepRoles stays =>
    rw [lastEntry_keepRoles]
    cases hlast : lastEntry name entries with
    | none => rfl
    | some e =>
      have hkey : keyStr e.1 = name := (lastEntry_eq_some hlast).2
      rw [Option.map_some, if_neg (hkey ▸ h)]

/-- The last entry of the tool, edited. -/
theorem lastEntry_edited_self : lastEntry tool (edited tool edit entries) =
    match edit with
    | .remove => none
    | .keepRoles stays => (lastEntry tool entries).map (narrowEntry stays) := by
  cases edit with
  | remove =>
    unfold lastEntry edited
    rw [← List.filter_reverse, List.find?_filter, List.find?_eq_none]
    intro e _
    simp
  | keepRoles stays =>
    rw [lastEntry_keepRoles]
    cases hlast : lastEntry tool entries with
    | none => rfl
    | some e =>
      have hkey : keyStr e.1 = tool := (lastEntry_eq_some hlast).2
      rw [Option.map_some, if_pos hkey]
      rfl

end edits

/-! ## The policy of an edited document -/

/-- Whether a role keeps what it was granted. -/
def Edit.stays : Edit → String → Bool
  | .remove => fun _ => false
  | .keepRoles stays => stays

/-- A rule, edited. -/
def Edit.rule : Edit → Rule → Option Rule
  | .remove, _ => none
  | .keepRoles stays, rule =>
    some { rule with allowRoles := SortedSet.ofList (rule.allowRoles.elems.filter stays) }

/-- The rule of one tool is edited, and the policies are otherwise the same. -/
structure Narrows (tool : String) (edit : Edit) (policy policy' : Policy) : Prop where
  others : ∀ name ≠ tool, policy'.tools.get name = policy.tools.get name
  rule : policy'.tools.get tool = (policy.tools.get tool).bind edit.rule
  resources : policy'.resources = policy.resources

section narrows

variable {tool : String} {edit : Edit} {policy policy' : Policy}

omit [Interpreter] in
/-- What is left of a rule differs from it in the roles only. -/
theorem Narrows.exists_rule (h : Narrows tool edit policy policy') {rule' : Rule}
    (hrule' : policy'.tools.get tool = some rule') : ∃ rule, policy.tools.get tool = some rule ∧
      rule' = { rule with allowRoles := rule'.allowRoles } ∧
      ∀ r, r ∈ rule'.allowRoles ↔ r ∈ rule.allowRoles ∧ edit.stays r = true := by
  obtain ⟨rule, hrule, hedit⟩ := Option.bind_eq_some_iff.mp (h.rule.symm.trans hrule')
  refine ⟨rule, hrule, ?_⟩
  cases edit with
  | remove => cases hedit
  | keepRoles stays =>
    cases hedit
    exact ⟨rfl, fun r => by simp [Edit.stays]⟩

omit [Interpreter] in
/-- **Who may still call the tool**: whoever has a role that was granted it and stays. -/
theorem Narrows.decideTool_allowed_iff (h : Narrows tool edit policy policy')
    (granted : List String) : (policy'.decideTool tool granted).allowed = true ↔
      ∃ rule, policy.tools.get tool = some rule ∧
        ∃ r ∈ granted, r ∈ rule.allowRoles ∧ edit.stays r = true := by
  rw [Policy.decideTool_allowed_iff]
  constructor
  · rintro ⟨rule', hrule', r, hr, hlisted⟩
    obtain ⟨rule, hrule, -, hroles⟩ := h.exists_rule hrule'
    exact ⟨rule, hrule, r, hr, (hroles r).mp hlisted⟩
  · rintro ⟨rule, hrule, r, hr, hlisted, hstays⟩
    cases edit with
    | remove => cases hstays
    | keepRoles stays =>
      refine ⟨_, h.rule.trans (by rw [hrule]; rfl), r, hr, ?_⟩
      rw [SortedSet.mem_ofList, List.mem_filter]
      exact ⟨hlisted, hstays⟩

end narrows

/-- The sections with the tool edited. -/
def Sections.edit (sections : Sections) (tool : String) (edit : Edit) : Sections :=
  { sections with tools := edited tool edit sections.tools }

/-- **The edit narrows the policy** of the document. -/
theorem narrows_policyOf (source : String) (sections : Sections) (tool : String) (edit : Edit) :
    Narrows tool edit (policyOf source sections)
      (policyOf source (sections.edit tool edit)) where
  others name h := by
    rw [get_tools_policyOf, get_tools_policyOf, Sections.edit, lastEntry_edited_of_ne h]
  rule := by
    rw [get_tools_policyOf, get_tools_policyOf, Sections.edit, lastEntry_edited_self]
    cases hlast : lastEntry tool sections.tools with
    | none => cases edit <;> rfl
    | some e =>
      cases edit with
      | remove => rfl
      | keepRoles stays =>
        refine congrArg some (ruleOf_narrowEntry.trans ?_)
        refine congrArg (fun allowRoles => { ruleOf e with allowRoles }) ?_
        -- the roles are sorted before they are left out here, and afterwards there
        exact SortedSet.ofList_congr fun r => by simp [ruleOf]
  resources := rfl

/-- **An edited document is accepted**, with a policy in which the rule of the tool is edited. -/
theorem exists_narrowed {doc doc' : List (Scalar × Yaml)} {source : String} {policy : Policy}
    {sections : Sections} {tool : String} {edit : Edit}
    (h : fromMapping (.dict doc) source = .ok policy) (hdoc : Describes doc sections)
    (hdoc' : Describes doc' (sections.edit tool edit)) :
    ∃ policy', fromMapping (.dict doc') source = .ok policy' ∧
      Narrows tool edit policy policy' := by
  obtain ⟨_, sections', heq, hdescribes, hok, rfl⟩ := fromMapping_eq_ok_iff.mp h
  cases heq
  obtain rfl := hdescribes.unique hdoc
  refine ⟨policyOf source (sections'.edit tool edit), ?_,
    narrows_policyOf source sections' tool edit⟩
  exact fromMapping_eq_ok_iff.mpr
    ⟨doc', _, rfl, hdoc', ⟨entryOk_edited hok.tools, hok.resources⟩, rfl⟩

end GovernedMcp.Policy
