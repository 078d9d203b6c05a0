import Mathlib.Data.List.Forall2
import GovernedMcp.Enforcement.Plan

/-!
# Discovery shows what can be called

`visible_tools` and `decide_tool` answer from the same rules, but they are written separately; and a
listing is filtered in two shapes, each with a shortcut of its own.

* `Callable`: a call that names the tool is not refused by the policy. `call_refused_iff` is what
  the name stands for.
* `mem_visibleTools_iff`: the two paths agree, on every policy and every list of roles.
* `keptTools_listTools`, `keptTools_dict`: what is kept of a listing in either shape, shortcut or
  not.
* `exactDiscovery`: the filtered listing, in terms of `Callable` alone.
-/

namespace GovernedMcp

open Lib PolicyEnforcementMiddleware

/-! ## Two decision paths -/

/-- **Visible is allowed**: what discovery lists is what a call is granted. -/
theorem Policy.mem_visibleTools_iff {self : Policy} {roles : List String} {tool : String} :
    tool ∈ self.visibleTools roles ↔ (self.decideTool tool roles).allowed = true := by
  rw [decideTool_allowed_iff]
  unfold visibleTools
  simp only [SortedSet.mem_ofList, List.mem_map, List.mem_filter, SortedSet.meets_iff, Prod.exists,
    exists_and_right, exists_eq_right]
  constructor
  · rintro ⟨rule, hmem, r, hr, hrule⟩
    exact ⟨rule, Dict.get_eq_some_iff.mpr hmem, r, hr, hrule⟩
  · rintro ⟨rule, hget, r, hr, hrule⟩
    exact ⟨rule, Dict.get_eq_some_iff.mp hget, r, hr, hrule⟩

variable [Interpreter]

/-- The caller may call the tool, as far as the policy goes. -/
def Callable (policy : Policy) (ambient : Ambient) (tool : String) : Bool :=
  (policy.decideTool tool (roles ambient)).allowed

/-- A tool is visible to whoever may call it. -/
theorem decide_mem_visibleTools (policy : Policy) (ambient : Ambient) (tool : String) :
    decide (tool ∈ policy.visibleTools (roles ambient)) = Callable policy ambient tool := by
  rw [Bool.eq_iff_iff, decide_eq_true_iff]
  exact Policy.mem_visibleTools_iff

/-- The two errors of a tool call differ in their data. -/
theorem notApproved_ne_accessDenied (tool : String) (reason : Approval.ApprovalError)
    (decision : Decision) : notApproved tool reason ≠ accessDenied decision := by
  intro h
  have hdata := congrArg MCPError.data h
  simp [notApproved, accessDenied] at hdata

/-- **What `Callable` stands for**: a call that names the tool is refused for want of a role exactly
when the tool is not callable. -/
theorem call_refused_iff {ε : Type} (policy : Policy) (ambient : Ambient)
    (handler : Ctx → Except ε HandlerResult) {ctx : Ctx}
    (hmethod : ctx.method = some "tools/call") :
    ((enforcing policy).call ambient handler ctx).value =
        .error (.mcpError (accessDenied (policy.decideTool (toolOf ctx) (roles ambient)))) ↔
      Callable policy ambient (toolOf ctx) = false := by
  rw [call_of_toolsCall hmethod, Plan.value_run_eq_mcpError_iff]
  show _ ↔ ((enforcing policy).toolDecision ambient ctx).allowed = false
  constructor
  · intro h
    unfold toolPlan at h
    split_ifs at h with hdenied hgated
    · exact hdenied.1
    · unfold gatePlan at h
      split at h
      · cases h
      · injection h with h
        exact absurd h (notApproved_ne_accessDenied _ _ _)
      · cases h
  · intro h
    rw [toolPlan, if_pos ⟨h, rfl⟩]
    rfl

/-! ## What is kept of a listing -/

omit [Interpreter] in
/-- A filter that keeps the length keeps everything. -/
theorem ite_filter_length {α β : Type} (p : α → Bool) (l : List α) (f : List α → β) :
    (if (l.filter p).length = l.length then f l else f (l.filter p)) = f (l.filter p) := by
  split_ifs with h
  · rw [List.filter_eq_self.mpr (List.length_filter_eq_length_iff.mp h)]
  · rfl

/-- The model form: the shortcut makes no difference. -/
theorem keptTools_listTools (visible : SortedSet String) (listing : ListToolsResult) :
    keptTools visible (.listTools listing) =
      .listTools
        { listing with tools := listing.tools.filter fun t => decide (t.name ∈ visible) } :=
  ite_filter_length _ listing.tools fun tools => HandlerResult.listTools { listing with tools }

/-- A name by which `_tool_name` finds a tool: the `name` of a mapping or of a model. -/
def IsNamed (tool : Json) (name : String) : Prop :=
  (∃ entries, tool = .dict entries ∧ Value.get "name" entries = .str name) ∨
    ∃ cls attrs, tool = .model cls attrs ∧ Value.get "name" attrs = .str name

/-- The name of a tool is read in both shapes. -/
theorem toolName_of_isNamed {tool : Json} {name : String} (h : IsNamed tool name) :
    toolName tool = name := by
  rcases h with ⟨entries, rfl, hname⟩ | ⟨cls, attrs, rfl, hname⟩
  · simp [toolName, Value.asMapping, Value.getOr, Value.lookup_of_get hname (by simp)]
  · simp [toolName, Value.asMapping, Value.attrOr, Value.lookup_of_get hname (by simp)]

/-- Two mappings with the same members, in the same places, but for one. -/
structure SameBut (k : String) (entries entries' : List (String × Json)) : Prop where
  names : entries'.map Prod.fst = entries.map Prod.fst
  members : ∀ l, l ≠ k → Dict.lookup l entries' = Dict.lookup l entries

omit [Interpreter] in
/-- Setting a member that is there changes that member only. -/
theorem sameBut_setEntries {k : String} {v : Json} {entries : List (String × Json)}
    (hk : k ∈ entries.map Prod.fst) : SameBut k entries (Dict.setEntries k v entries) := by
  constructor
  · rw [Dict.map_fst_setEntries, if_pos hk]
  · intro l hl
    rw [Dict.lookup_setEntries, if_neg hl.symm]

/-- The mapping form: the tools are filtered, and the other members stay. -/
theorem keptTools_dict (visible : SortedSet String) {entries : List (String × Json)}
    {tools : List Json} (h : Value.get "tools" entries = .list tools) :
    ∃ entries', keptTools visible (.value (.dict entries)) = .value (.dict entries') ∧
      Value.get "tools" entries' = .list (tools.filter fun t => decide (toolName t ∈ visible)) ∧
      SameBut "tools" entries entries' := by
  have hlookup := Value.lookup_of_get h (by simp)
  simp only [keptTools, Value.asMapping, h]
  split_ifs with hlength
  · refine ⟨entries, rfl, ?_, rfl, fun _ _ => rfl⟩
    rw [h, List.filter_eq_self.mpr (List.length_filter_eq_length_iff.mp hlength)]
  · refine ⟨_, rfl, ?_, sameBut_setEntries ?_⟩
    · rw [Value.get, Dict.lookup_setEntries, if_pos rfl, Option.getD_some]
    · exact List.mem_map_of_mem (Dict.mem_of_lookup hlookup)

/-! ## The filtered listing -/

section listing

variable {ε : Type}

/-- A listing is answered with what is kept of it. -/
theorem value_filterToolList (policy : Policy) (ambient : Ambient)
    {handler : Ctx → Except ε HandlerResult} {ctx : Ctx} {result : HandlerResult}
    (h : handler ctx = .ok result) :
    ((enforcing policy).filterToolList ambient handler ctx).value =
      .ok (.result (keptTools (policy.visibleTools (roles ambient)) result)) := by
  have hnext : (callNext handler ctx).value = .ok result := by simp [callNext, h]
  unfold filterToolList
  rw [Traced.bind_of_ok hnext]
  rfl

/-- Discovery shows exactly what can be called. -/
structure ExactDiscovery (ε : Type) (policy : Policy) (ambient : Ambient) : Prop where
  /-- A call is refused by the policy exactly when the tool it names is not callable. -/
  calls : ∀ (handler : Ctx → Except ε HandlerResult) (ctx : Ctx), ctx.method = some "tools/call" →
    (((enforcing policy).call ambient handler ctx).value =
        .error (.mcpError (accessDenied (policy.decideTool (toolOf ctx) (roles ambient)))) ↔
      Callable policy ambient (toolOf ctx) = false)
  /-- In the model form the callable tools are kept, and everything else. -/
  model : ∀ (handler : Ctx → Except ε HandlerResult) (ctx : Ctx) (listing : ListToolsResult),
    handler ctx = .ok (.listTools listing) →
      ((enforcing policy).filterToolList ambient handler ctx).value = .ok (.result (.listTools
        { tools := listing.tools.filter fun t => Callable policy ambient t.name
          rest := listing.rest }))
  /-- In the mapping form too. -/
  mapping : ∀ (handler : Ctx → Except ε HandlerResult) (ctx : Ctx)
    (entries : List (String × Json)) (tools : List Json),
      handler ctx = .ok (.value (.dict entries)) → Value.get "tools" entries = .list tools →
        ∃ entries',
          ((enforcing policy).filterToolList ambient handler ctx).value =
            .ok (.result (.value (.dict entries'))) ∧
          Value.get "tools" entries' =
            .list (tools.filter fun t => Callable policy ambient (toolName t)) ∧
          SameBut "tools" entries entries'
  /-- There a tool goes by its string name. -/
  named : ∀ tool name, IsNamed tool name → toolName tool = name
  /-- Tools that correspond, name by name, in the two shapes are kept or dropped together. -/
  shapes : ∀ Same : Tool → Json → Prop, (∀ t tool, Same t tool → IsNamed tool t.name) →
    ∀ tools tools', List.Forall₂ Same tools tools' →
      List.Forall₂ Same (tools.filter fun t => Callable policy ambient t.name)
        (tools'.filter fun t => Callable policy ambient (toolName t))

/-- **Discovery is exact**: for every policy, every caller and every listing, in either shape. -/
theorem exactDiscovery (ε : Type) (policy : Policy) (ambient : Ambient) :
    ExactDiscovery ε policy ambient := by
  constructor
  · intro handler ctx hmethod
    exact call_refused_iff policy ambient handler hmethod
  · intro handler ctx listing h
    rw [value_filterToolList policy ambient h, keptTools_listTools]
    simp only [decide_mem_visibleTools]
  · intro handler ctx entries tools h htools
    obtain ⟨entries', hkept, hget, hsame⟩ :=
      keptTools_dict (policy.visibleTools (roles ambient)) htools
    refine ⟨entries', ?_, ?_, hsame⟩
    · rw [value_filterToolList policy ambient h, hkept]
    · rw [hget]
      simp only [decide_mem_visibleTools]
  · intro tool name h
    exact toolName_of_isNamed h
  · intro Same hSame tools tools' h
    apply List.rel_filter _ h
    intro t tool ht
    show Callable policy ambient t.name = true ↔ Callable policy ambient (toolName tool) = true
    rw [toolName_of_isNamed (hSame t tool ht)]

end listing

end GovernedMcp
