import GovernedMcp.Enforcement.Withdrawal
import GovernedMcp.Policy.Onboarding

/-!
# A server with one more domain

Adding a domain to the policy file is the reverse of a withdrawal: the server before is one more
guard in front of the server afterwards, that keeps the requests of the domain away from it. For
resources this takes a domain whose patterns match no URI of another one.

* `concerns`: the requests that an entry of the domain decides.
* `onboarded`: when the longer file is accepted, and runs before and after.
-/

namespace GovernedMcp.Deployment

open Lib PolicyEnforcementMiddleware Policy

variable [Interpreter] {σ ε : Type}

/-- A request is decided by an entry of the domain: it calls one of the tools, or reads a resource
whose rule stands under one of the patterns. -/
def concerns (domain : Domain) (policy : Policy) (a : Arrival) : Bool :=
  if a.ctx.method = some "tools/call" then domain.tools (toolOf a.ctx)
  else if a.ctx.method = some "resources/read" then
    (policy.resourceRule (uriOf a.ctx)).any fun rule => domain.patterns rule.pattern
  else false

section extended

variable {domain : Domain} {policy policy' : Policy} {a : Arrival}

/-- What is planned for other requests is the same. -/
theorem planOf_extends (h : Extends domain policy policy')
    (ha : concerns domain policy' a = false) :
    planOf (enforcing policy) a = planOf (enforcing policy') a := by
  unfold concerns at ha
  refine planOf_congr (fun hcall => ?_) fun hread => ?_
  · rw [if_pos hcall] at ha
    rw [h.get_tools, ha]
    rfl
  · rw [if_neg (by simp [hread]), if_pos hread, Option.any_eq_false] at ha
    refine h.resourceRule_eq fun rule hrule => ?_
    simpa using ha rule hrule

/-- Without its entries, no request of the domain gets through. -/
theorem passes_of_concerns (h : Extends domain policy policy') (hseparate : Separate domain policy')
    (ha : concerns domain policy' a = true) : passes (enforcing policy) a = false := by
  rw [Bool.eq_false_iff]
  intro hpasses
  have hauthorised := passes_enforcing_iff.mp hpasses
  unfold concerns at ha
  split_ifs at ha with hcall hread
  · obtain ⟨rule, hrule, -⟩ := hauthorised.call hcall
    rw [h.get_tools, if_pos ha] at hrule
    cases hrule
  · obtain ⟨rule, hrule, hnew⟩ := (Option.any_eq_true _ _).mp ha
    have hnone := h.resourceRule_of_separate hseparate hrule hnew
    have hallowed := hauthorised.read hread
    rw [(decideResource_of_none hnone _).1] at hallowed
    cases hallowed

/-- A request gets through before where it is none of the domain's and gets through afterwards. -/
theorem passes_extends (h : Extends domain policy policy') (hseparate : Separate domain policy')
    (a : Arrival) :
    passes (enforcing policy) a = (!concerns domain policy' a && passes (enforcing policy') a) := by
  cases hconcerns : concerns domain policy' a with
  | true => exact passes_of_concerns h hseparate hconcerns
  | false =>
    rw [Bool.not_false, Bool.true_and, passes, passes, planOf_extends h hconcerns]

omit [Interpreter] in
/-- What could be seen before can be seen afterwards. -/
theorem visibleTools_extends (h : Extends domain policy policy') (granted : List String) :
    ∀ t ∈ policy.visibleTools granted, t ∈ policy'.visibleTools granted := by
  intro t ht
  rw [mem_visibleTools_iff, decideTool_allowed_iff] at ht ⊢
  obtain ⟨rule, hrule, hgranted⟩ := ht
  rw [h.get_tools] at hrule
  split_ifs at hrule
  exact ⟨rule, hrule, hgranted⟩

end extended

/-- **Onboarding a domain.** Entries for the tools and the resources of a domain are added to an
accepted document, anywhere in it, and maybe roles. The longer document is accepted exactly when the
added entries are in order. Then a request that none of them decides is planned as before. If no URI
is matched both by an added pattern and by another one, no request of the domain got through before;
and over every run, the server before works as the server afterwards to which those requests never
get: its backend goes the same way, and every other request is answered the same, with listings cut
down. Source: `policy.py`, `Policy.from_mapping` and `_resource_rule`; `middleware.py`. -/
theorem onboarded {doc doc' : List (Scalar × Yaml)} {source : String} {policy : Policy}
    {before after : Sections} {domain : Domain} (h : fromMapping (.dict doc) source = .ok policy)
    (hdoc : Describes doc before) (hdoc' : Describes doc' after)
    (hadds : Adds domain before after) :
    ((∃ policy', fromMapping (.dict doc') source = .ok policy') ↔ AddedOk domain after) ∧
      ∀ policy', fromMapping (.dict doc') source = .ok policy' →
        (∀ a, concerns domain policy' a = false →
          planOf (enforcing policy') a = planOf (enforcing policy) a) ∧
        (Separate domain policy' →
          (∀ a, concerns domain policy' a = true → passes (enforcing policy) a = false) ∧
          ∀ [Calendar] [Server.Signatures] (D : Deployment σ ε) (s : σ) (arrivals : List Arrival),
            (D.governedBy (enforcing policy)).machine.final s arrivals =
              (D.governedBy (enforcing policy')).machine.final s
                (arrivals.filter fun a => !concerns domain policy' a) ∧
            (D.governedBy (enforcing policy)).machine.answers s arrivals =
              Machine.weave (fun a => !concerns domain policy' a) (reshown policy)
                (refusal (enforcing policy)) arrivals
                ((D.governedBy (enforcing policy')).machine.answers s
                  (arrivals.filter fun a => !concerns domain policy' a))) := by
  refine ⟨fromMapping_added_iff h hdoc hdoc' hadds, fun policy' h' => ?_⟩
  have hextends := extends_of_adds h hdoc h' hdoc' hadds
  refine ⟨fun a ha => (planOf_extends hextends ha).symm, fun hseparate => ?_⟩
  refine ⟨fun a => passes_of_concerns hextends hseparate, fun D s arrivals => ?_⟩
  have hverdict : ∀ a, (!concerns domain policy' a) = true →
      (planOf (enforcing policy) a).verdict = (planOf (enforcing policy') a).verdict := by
    intro a ha
    rw [planOf_extends hextends (by simpa using ha)]
  have hguards := D.guards_stricter (passes_extends hextends hseparate) hverdict
    (visibleTools_extends hextends)
  exact ⟨hguards.final s arrivals, hguards.answers s arrivals⟩

/-! ## A warehouse -/

section warehouse

omit [Interpreter]

/-- A document with these sections. -/
def documentOf (sections : Sections) : List (Scalar × Yaml) :=
  [(.str "version", .int 1), (.str "roles", .dict sections.roles),
    (.str "tools", .dict sections.tools), (.str "resources", .dict sections.resources)]

/-- A document is described by the sections it was written from. -/
theorem describes_documentOf (sections : Sections) : Describes (documentOf sections) sections := by
  constructor <;> rfl

/-- One tool, and the shipments. -/
def shipmentsAlone : Sections where
  roles := [(.str "tlo.reader", .none)]
  tools := [resourceEntry "search_incidents" "tlo.reader"]
  resources := [resourceEntry "shipment://*" "tlo.reader"]

/-- A domain with one tool and one kind of resource. -/
def warehouse : Domain where
  tools name := decide (name = "find_stock")
  patterns pattern := decide (pattern = "stock://*")

/-- The warehouse is added, with a role of its own. -/
def shipmentsAndStock : Sections where
  roles := [(.str "tlo.reader", .none), (.str "wms.operator", .none)]
  tools := [resourceEntry "find_stock" "wms.operator",
    resourceEntry "search_incidents" "tlo.reader"]
  resources := [resourceEntry "shipment://*" "tlo.reader",
    resourceEntry "stock://*" "wms.operator"]

/-- No URI is a shipment and a stock. -/
theorem disjoint_stock_shipment :
    Disjoint (Glob.language "stock://*") (Glob.language "shipment://*") := by
  refine Set.disjoint_left.mpr fun uri hstock hshipment => ?_
  have hstock' : "stock://".toList <+: uri.toList :=
    (Glob.mem_language_prefixPattern (by simp [Glob.IsPlain])).mp hstock
  have hshipment' : "shipment://".toList <+: uri.toList :=
    (Glob.mem_language_prefixPattern (by simp [Glob.IsPlain])).mp hshipment
  have hprefix := List.prefix_of_prefix_length_le hstock' hshipment' (by decide)
  exact absurd hprefix (by decide)

/-- Before the warehouse is added none of its requests gets through. -/
theorem onboarded_warehouse : ∃ policy policy',
    @fromMapping plainInterpreter (.dict (documentOf shipmentsAlone)) "policy.yaml" = .ok policy ∧
    @fromMapping plainInterpreter (.dict (documentOf shipmentsAndStock)) "policy.yaml" =
      .ok policy' ∧
    ∀ a, @concerns plainInterpreter warehouse policy' a = true →
      @passes plainInterpreter (enforcing policy) a = false := by
  obtain ⟨policy, hpolicy⟩ : ∃ policy, @fromMapping plainInterpreter
      (.dict (documentOf shipmentsAlone)) "policy.yaml" = .ok policy := ⟨_, rfl⟩
  obtain ⟨policy', hpolicy'⟩ : ∃ policy', @fromMapping plainInterpreter
      (.dict (documentOf shipmentsAndStock)) "policy.yaml" = .ok policy' := ⟨_, rfl⟩
  have hadds : @Adds plainInterpreter warehouse shipmentsAlone shipmentsAndStock :=
    @Adds.mk plainInterpreter _ _ _ (by decide) rfl rfl
  obtain ⟨-, hafter⟩ := @onboarded plainInterpreter Unit Unit _ _ "policy.yaml" policy _ _
    warehouse hpolicy (describes_documentOf _) (describes_documentOf _) hadds
  have hkeys : policy'.resources.keys = ["shipment://*", "stock://*"] := by
    cases hpolicy'
    rfl
  have hseparate : Separate warehouse policy' := by
    intro p _ q hq hp hq'
    obtain rfl : p = "stock://*" := of_decide_eq_true hp
    rw [hkeys] at hq
    rcases List.mem_pair.mp hq with rfl | rfl
    · exact disjoint_stock_shipment
    · cases hq'
  exact ⟨policy, policy', hpolicy, hpolicy', ((hafter policy' hpolicy').2 hseparate).1⟩

end warehouse

end GovernedMcp.Deployment
