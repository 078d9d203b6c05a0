import Mathlib.Data.String.Basic
import GovernedMcp.Lib.Glob
import GovernedMcp.Lib.Select
import GovernedMcp.Lib.SortedSet
import GovernedMcp.Model.Value

/-!
# The declarative authorization policy

The policy document and the decisions it yields, from `governance/policy.py`. `Policy.fromMapping`
reads a document; `decideTool`, `decideResource` and `visibleTools` answer from what it read.

* A `frozenset` of role names is a `SortedSet String`, so `sorted(...)` of it is its representation.
* The rules of a section are a `Dict`: a key of the document counts by its text, and of two keys
  with one text the later entry is kept.
* The only exception the parser raises is `PolicyError`.
-/

namespace GovernedMcp

open Lib

/-- Ordered least to most sensitive. Source: `policy.py`, `CLASSIFICATIONS`. -/
def CLASSIFICATIONS : List String := ["public", "internal", "confidential", "restricted"]

/-- A policy document is malformed or inconsistent. Source: `policy.py`, `PolicyError`. -/
structure PolicyError where
  message : String
  deriving DecidableEq

/-- The outcome of one authorization check. Source: `policy.py`, `Decision`. -/
structure Decision where
  allowed : Bool
  reason : String
  target : String
  classification : Option String := none
  requiredRoles : List String := []
  grantedRoles : List String := []
  requiresApproval : Bool := false
  approvalPrompt : String := ""
  deriving DecidableEq

/-- What a section of the document says about one tool or one resource pattern.
Source: `policy.py`, `Rule`. -/
structure Rule where
  pattern : String
  allowRoles : SortedSet String
  classification : String
  description : String := ""
  requiresApproval : Bool := false
  approvalPrompt : String := ""
  deriving DecidableEq

/-- A policy. Source: `policy.py`, `Policy`. -/
structure Policy where
  tools : Dict String Rule
  resources : Dict String Rule
  declaredRoles : SortedSet String
  source : String := "<memory>"

namespace Policy

/-! ## Loading -/

section loading

variable [Interpreter]

/-- The text of a mapping key. -/
def keyStr (k : Scalar) : String := (Value.scalar k : Yaml).toStr

/-- A member of a document mapping, `None` when it is absent. -/
def member (name : String) (entries : List (Scalar × Yaml)) : Yaml := Value.get (.str name) entries

/-- A member of a document mapping, `default` when it is absent. -/
def memberOr (name : String) (default : Yaml) (entries : List (Scalar × Yaml)) : Yaml :=
  Value.getOr (.str name) default entries

/-- Source: `policy.py`, `Policy._parse_roles`. -/
def parseRoles (raw : Yaml) (source : String) : Except PolicyError (SortedSet String) :=
  match raw with
  | .none => .ok SortedSet.empty
  | .dict entries => .ok (SortedSet.ofList (entries.map fun e => keyStr e.1))
  | _ => .error ⟨s!"{source}: `roles` must be a mapping of role name to metadata"⟩

/-- The body of the loop over a section: the rule of one entry.
Source: `policy.py`, `Policy._parse_rules`. -/
def parseRule (declared : SortedSet String) (source sectionName : String)
    (entry : Scalar × Yaml) : Except PolicyError Rule :=
  let pattern := keyStr entry.1
  match entry.2.asMapping with
  | none => .error ⟨s!"{source}: `{sectionName}.{pattern}` must be a mapping"⟩
  | some body =>
    let classification := (memberOr "classification" (.str "internal") body).toStr
    if classification ∉ CLASSIFICATIONS then
      let shown := Interpreter.repr (Value.str classification : Yaml)
      let expected := ", ".intercalate CLASSIFICATIONS
      .error ⟨s!"{source}: `{sectionName}.{pattern}` has unknown classification {shown}; " ++
        s!"expected one of {expected}"⟩
    else
      match (member "allow_roles" body).orElse (.list []) with
      | .list items =>
        let allowRoles := items.map Value.toStr
        -- an undeclared role can never appear in an accepted token
        let unknown := (SortedSet.ofList (allowRoles.filter fun r => decide (r ∉ declared))).elems
        if unknown ≠ [] then
          let names := ", ".intercalate unknown
          .error ⟨s!"{source}: `{sectionName}.{pattern}` references undeclared " ++
            s!"role(s): {names}. Add them under `roles:` or fix the spelling."⟩
        else
          .ok
            { pattern
              allowRoles := SortedSet.ofList allowRoles
              classification
              description := (memberOr "description" (.str "") body).toStr
              requiresApproval := (memberOr "requires_approval" (.bool false) body).truthy
              approvalPrompt := (memberOr "approval_prompt" (.str "") body).toStr }
      | _ => .error ⟨s!"{source}: `{sectionName}.{pattern}.allow_roles` must be a list"⟩

/-- Source: `policy.py`, `Policy._parse_rules`. -/
def parseRules (raw : Yaml) (declared : SortedSet String) (source sectionName : String) :
    Except PolicyError (Dict String Rule) :=
  match raw with
  | .none => .ok Dict.empty
  | .dict entries =>
    Dict.insertAll (fun e => keyStr e.1) (parseRule declared source sectionName) Dict.empty entries
  | _ => .error ⟨s!"{source}: `{sectionName}` must be a mapping"⟩

/-- Source: `policy.py`, `Policy.from_mapping`. -/
def fromMapping (raw : Yaml) (source : String := "<memory>") : Except PolicyError Policy :=
  match raw.asMapping with
  | none => .error ⟨s!"{source}: policy must be a mapping"⟩
  | some doc =>
    if !(member "version" doc).eqInt 1 then
      let shown := Interpreter.repr (member "version" doc)
      .error ⟨s!"{source}: unsupported policy version {shown}, expected 1"⟩
    else if !(memberOr "default" (.str "deny") doc).eqStr "deny" then
      .error ⟨s!"{source}: `default` must be `deny`; allow-by-default is not supported"⟩
    else do
      let declared ← parseRoles (member "roles" doc) source
      let tools ← parseRules (member "tools" doc) declared source "tools"
      let resources ← parseRules (member "resources" doc) declared source "resources"
      return { tools, resources, declaredRoles := declared, source }

end loading

/-! ## Decisions -/

/-- Source: `policy.py`, `Policy._match`. -/
def matchRule (rule : Rule) (target : String) (granted : List String) : Decision :=
  let allowed := (SortedSet.ofList granted).meets rule.allowRoles
  { allowed
    reason := if allowed then "granted by role"
      else "caller holds none of the roles this tool requires"
    target
    classification := some rule.classification
    requiredRoles := rule.allowRoles.elems
    grantedRoles := granted
    requiresApproval := rule.requiresApproval
    approvalPrompt := rule.approvalPrompt }

/-- Source: `policy.py`, `Policy.decide_tool`. -/
def decideTool (self : Policy) (tool : String) (roles : List String) : Decision :=
  let granted := (SortedSet.ofList roles).elems
  match self.tools.get tool with
  | none =>
    { allowed := false
      reason := "no policy entry for this tool (default deny)"
      target := tool
      grantedRoles := granted }
  | some rule => matchRule rule tool granted

/-- `fnmatch.fnmatchcase(name, pattern)`. -/
def fnmatchcase (name pattern : String) : Bool := Glob.isMatch name pattern

/-- Longest pattern first, so `shipment://eu/*` wins over `shipment://*`.
Source: `policy.py`, `Policy._resource_rule`. -/
def resourceRule (self : Policy) (uri : String) : Option Rule :=
  match selectLongest String.length (fnmatchcase uri) self.resources.keys with
  | none => none
  | some pattern => self.resources.get pattern

/-- Source: `policy.py`, `Policy.decide_resource`. -/
def decideResource (self : Policy) (uri : String) (roles : List String) : Decision :=
  let granted := (SortedSet.ofList roles).elems
  match self.resourceRule uri with
  | none =>
    { allowed := false
      reason := "no policy entry for this resource (default deny)"
      target := uri
      grantedRoles := granted }
  | some rule => matchRule rule uri granted

/-- Tools the caller may invoke. Source: `policy.py`, `Policy.visible_tools`. -/
def visibleTools (self : Policy) (roles : List String) : SortedSet String :=
  let granted := SortedSet.ofList roles
  SortedSet.ofList ((self.tools.entries.filter fun e => granted.meets e.2.allowRoles).map Prod.fst)

/-! ## What a decision says -/

/-- A decision is about the target that was asked for. -/
@[simp] theorem matchRule_target (rule : Rule) (target : String) (granted : List String) :
    (matchRule rule target granted).target = target := rfl

/-- It asks for approval where the rule does. -/
@[simp] theorem matchRule_requiresApproval (rule : Rule) (target : String)
    (granted : List String) :
    (matchRule rule target granted).requiresApproval = rule.requiresApproval := rfl

/-- A rule allows whoever has one of its roles. -/
theorem matchRule_allowed_iff {rule : Rule} {target : String} {granted : List String} :
    (matchRule rule target granted).allowed = true ↔ ∃ r ∈ granted, r ∈ rule.allowRoles := by
  simp [matchRule]

/-- Without a rule a tool is denied. -/
theorem decideTool_of_none {self : Policy} {tool : String} (h : self.tools.get tool = none)
    (roles : List String) : (self.decideTool tool roles).allowed = false ∧
      (self.decideTool tool roles).requiresApproval = false := by
  simp [decideTool, h]

/-- Otherwise its rule decides. -/
theorem decideTool_of_some {self : Policy} {tool : String} {rule : Rule}
    (h : self.tools.get tool = some rule) (roles : List String) :
    self.decideTool tool roles = matchRule rule tool (SortedSet.ofList roles).elems := by
  simp [decideTool, h]

/-- **Fail closed**: a tool is allowed exactly when it has a rule that grants it to one of the
roles. -/
theorem decideTool_allowed_iff {self : Policy} {tool : String} {roles : List String} :
    (self.decideTool tool roles).allowed = true ↔
      ∃ rule, self.tools.get tool = some rule ∧ ∃ r ∈ roles, r ∈ rule.allowRoles := by
  rcases h : self.tools.get tool with _ | rule
  · simp [(decideTool_of_none h roles).1]
  · rw [decideTool_of_some h, matchRule_allowed_iff]
    simp

/-- The decision is about the tool. -/
@[simp] theorem decideTool_target (self : Policy) (tool : String) (roles : List String) :
    (self.decideTool tool roles).target = tool := by
  rcases h : self.tools.get tool with _ | rule <;> simp [decideTool, h]

/-- Without a rule a resource is denied. -/
theorem decideResource_of_none {self : Policy} {uri : String} (h : self.resourceRule uri = none)
    (roles : List String) : (self.decideResource uri roles).allowed = false ∧
      (self.decideResource uri roles).requiresApproval = false := by
  simp [decideResource, h]

/-- Otherwise its rule decides. -/
theorem decideResource_of_some {self : Policy} {uri : String} {rule : Rule}
    (h : self.resourceRule uri = some rule) (roles : List String) :
    self.decideResource uri roles = matchRule rule uri (SortedSet.ofList roles).elems := by
  simp [decideResource, h]

/-- The decision is about the resource. -/
@[simp] theorem decideResource_target (self : Policy) (uri : String) (roles : List String) :
    (self.decideResource uri roles).target = uri := by
  rcases h : self.resourceRule uri with _ | rule <;> simp [decideResource, h]

/-- A pattern that was selected has a rule. -/
theorem resourceRule_eq_some_iff {self : Policy} {uri : String} {rule : Rule} :
    self.resourceRule uri = some rule ↔
      ∃ pattern, selectLongest String.length (fnmatchcase uri) self.resources.keys = some pattern ∧
        self.resources.get pattern = some rule := by
  unfold resourceRule
  rcases selectLongest String.length (fnmatchcase uri) self.resources.keys with _ | pattern <;> simp

/-! ## A rule of the shipped policy -/

/-- Source: `policy.yaml`, `tools.raise_shipment_incident`. -/
def incidentRule : Rule where
  pattern := "raise_shipment_incident"
  allowRoles := SortedSet.ofList ["tlo.operator", "platform.admin"]
  classification := "confidential"
  requiresApproval := true
  approvalPrompt := "This will open a ServiceNow incident against a production configuration " ++
    "item and notify the on-call rota. Approve?"

/-- The shipped policy, with the one tool that asks for approval. -/
def incidentPolicy : Policy where
  tools := ⟨[("raise_shipment_incident", incidentRule)], by simp⟩
  resources := Dict.empty
  declaredRoles := SortedSet.ofList ["tlo.reader", "tlo.operator", "platform.admin"]
  source := "policy.yaml"

end Policy

end GovernedMcp
