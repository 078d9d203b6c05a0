import GovernedMcp.Model.Policy

/-!
# The audit record of a decision

`Audit.record` builds what `governance/audit.py` writes for one decision: the members of the event
and the level it is logged at. The timestamp and the JSON text of the line are left out; nothing in
the server reads them.
-/

namespace GovernedMcp.Audit

/-- The two levels audit lines are written at. -/
inductive Level where
  | info
  | warning
  deriving DecidableEq

/-- One line of the audit stream. -/
structure Record where
  principal : String
  method : String
  target : String
  outcome : String
  reason : String
  classification : Option String
  requiredRoles : List String
  grantedRoles : List String
  protocolVersion : Option String
  /-- The names, never the values, of the arguments; absent when there was no mapping of them. -/
  argumentNames : Option (List String)
  level : Level
  deriving DecidableEq

/-- `outcome or ("allow" if decision.allowed else "deny")`. -/
def outcomeOf (decision : Decision) : Option String → String
  | none => if decision.allowed then "allow" else "deny"
  | some outcome => if outcome = "" then (if decision.allowed then "allow" else "deny") else outcome

/-- Source: `audit.py`, `record`. -/
def record (principal method : String) (decision : Decision)
    (arguments : Option (List (String × Json))) (protocolVersion : Option String)
    (outcome : Option String) : Record :=
  { principal
    method
    target := decision.target
    outcome := outcomeOf decision outcome
    reason := decision.reason
    classification := decision.classification
    requiredRoles := decision.requiredRoles
    grantedRoles := decision.grantedRoles
    protocolVersion
    argumentNames := arguments.map fun args => (args.map Prod.fst).insertionSort (· ≤ ·)
    -- a denial survives a log level set to WARNING
    level := if outcomeOf decision outcome = "deny" then .warning else .info }

/-- Without an outcome of its own, a record has that of the decision. -/
@[simp] theorem outcomeOf_none (decision : Decision) :
    outcomeOf decision none = if decision.allowed then "allow" else "deny" := rfl

/-- Where the outcome is taken from the decision, the record shows whether it allows. -/
theorem outcome_record_ne_allow_iff {principal method : String} {decision : Decision}
    {arguments : Option (List (String × Json))} {protocolVersion : Option String} :
    (record principal method decision arguments protocolVersion none).outcome ≠ "allow" ↔
      decision.allowed = false := by
  cases h : decision.allowed <;> simp [record, h]

/-- Exactly the denials are written at WARNING. -/
theorem level_record_eq_warning_iff {principal method : String} {decision : Decision}
    {arguments : Option (List (String × Json))} {protocolVersion outcome : Option String} :
    (record principal method decision arguments protocolVersion outcome).level = .warning ↔
      (record principal method decision arguments protocolVersion outcome).outcome = "deny" := by
  simp [record]

end GovernedMcp.Audit
