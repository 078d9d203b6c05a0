import GovernedMcp.Lib.Traced
import GovernedMcp.Lib.Stateful
import GovernedMcp.Lib.Machine
import GovernedMcp.Lib.Guarded
import GovernedMcp.Lib.Relational
import GovernedMcp.Lib.Dict
import GovernedMcp.Lib.Select
import GovernedMcp.Lib.Glob
import GovernedMcp.Lib.SortedSet
import GovernedMcp.Lib.Text
import GovernedMcp.Lib.Threads
import GovernedMcp.Lib.JsonText
import GovernedMcp.Lib.Separated
import GovernedMcp.Lib.Base64
import GovernedMcp.Lib.Rollout
import GovernedMcp.Lib.Rollback
import GovernedMcp.Lib.History
import GovernedMcp.Model.Value
import GovernedMcp.Model.Policy
import GovernedMcp.Model.Verifier
import GovernedMcp.Model.Audit
import GovernedMcp.Model.AuditStream
import GovernedMcp.Model.Approval
import GovernedMcp.Model.Middleware
import GovernedMcp.Model.RequestState
import GovernedMcp.Model.ServiceNow
import GovernedMcp.Model.Server
import GovernedMcp.Model.Shipments
import GovernedMcp.Model.Process
import GovernedMcp.Model.DevIdp
import GovernedMcp.Model.CommandLine
import GovernedMcp.Model.Coroutines
import GovernedMcp.Policy.Document
import GovernedMcp.Policy.Acceptance
import GovernedMcp.Policy.Order
import GovernedMcp.Policy.Specificity
import GovernedMcp.Policy.Withdrawal
import GovernedMcp.Enforcement.Plan
import GovernedMcp.Enforcement.Shadow
import GovernedMcp.Enforcement.Gate
import GovernedMcp.Enforcement.Concurrency
import GovernedMcp.Enforcement.Deployment
import GovernedMcp.Enforcement.Mediation
import GovernedMcp.Enforcement.AuditTrail
import GovernedMcp.Enforcement.AuditStream
import GovernedMcp.Enforcement.Noninterference
import GovernedMcp.Enforcement.Verification
import GovernedMcp.Enforcement.Principal
import GovernedMcp.Enforcement.Authorization
import GovernedMcp.Enforcement.Discovery
import GovernedMcp.Approval.Prompt
import GovernedMcp.Approval.KeyRing
import GovernedMcp.Approval.KeyRotation
import GovernedMcp.Approval.Rollback
import GovernedMcp.Approval.Exchange
import GovernedMcp.Approval.Provenance
import GovernedMcp.Approval.SingleUse
import GovernedMcp.Approval.Completion
import GovernedMcp.Connector.Query
import GovernedMcp.Connector.Containment
import GovernedMcp.Connector.Search
import GovernedMcp.Connector.Routing
import GovernedMcp.Connector.Assessment
import GovernedMcp.Connector.Agreement
import GovernedMcp.Connector.Store
import GovernedMcp.Connector.Interference
import GovernedMcp.Enforcement.Accountability
import GovernedMcp.Enforcement.Traffic
import GovernedMcp.Identity.Tokens
import GovernedMcp.Identity.KeyFile
import GovernedMcp.Enforcement.Withdrawal
import GovernedMcp.Policy.Onboarding
import GovernedMcp.Enforcement.Onboarding
import GovernedMcp.Startup.Program
import GovernedMcp.Connector.Interchange
import GovernedMcp.Connector.Confinement
import GovernedMcp.Connector.StandIn
import GovernedMcp.Startup.EndToEnd
import GovernedMcp.Startup.Served
