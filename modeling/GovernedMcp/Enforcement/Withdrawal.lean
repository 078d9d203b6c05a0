import GovernedMcp.Enforcement.Discovery
import GovernedMcp.Enforcement.Mediation
import GovernedMcp.Policy.Withdrawal

/-!
# A server after a withdrawal

Withdrawing a tool is one more guard. A server under the edited policy works like the one under the
policy before, to which the calls never get that the edit forbids.

* `keeps`: the requests that the edit leaves alone; what is planned for them stays the same, up to
  the roles that a record names.
* `guards_stricter`: a policy that differs in what it forbids is one more guard.
* `withdrawn`: runs before and after the edit.
-/

namespace GovernedMcp.Deployment

open Lib PolicyEnforcementMiddleware Policy

variable [Interpreter] {σ ε : Type}

/-- A request calls a tool. -/
def CallsTool (tool : String) (a : Arrival) : Prop :=
  a.ctx.method = some "tools/call" ∧ toolOf a.ctx = tool

instance (tool : String) (a : Arrival) : Decidable (CallsTool tool a) :=
  inferInstanceAs (Decidable (_ ∧ _))

/-- A request is left alone by an edit of a tool: it does not call it, or the policy still grants
it. -/
def keeps (tool : String) (policy' : Policy) (a : Arrival) : Bool :=
  decide (CallsTool tool a → (policy'.decideTool tool (roles a.ambient)).allowed = true)

/-- What is shown, under another policy, of a request that is left alone. -/
def reshown (policy' : Policy) (a : Arrival) (handling : Handling ε Response) :
    Handling ε Response where
  events := (planOf (enforcing policy') a).records.map .record ++
    (forwardedOf handling.events).map .next
  value := handling.value.map (listed (enforcing policy') a)

/-! ## Requests that are left alone -/

omit [Interpreter] in
/-- The prompt of a tool goes by its rule. -/
theorem promptOf_eq (middleware : PolicyEnforcementMiddleware) (tool : String) :
    middleware.promptOf tool =
      if (middleware.policy.tools.get tool).elim "" Rule.approvalPrompt = "" then
        s!"Approve running {tool}?"
      else (middleware.policy.tools.get tool).elim "" Rule.approvalPrompt := by
  unfold promptOf
  cases middleware.policy.tools.get tool <;> rfl

/-- What is planned for a request goes by the rule of its tool or its resource. -/
theorem planOf_congr {policy policy' : Policy} {a : Arrival}
    (htool : a.ctx.method = some "tools/call" →
      policy'.tools.get (toolOf a.ctx) = policy.tools.get (toolOf a.ctx))
    (hresource : a.ctx.method = some "resources/read" →
      policy'.resourceRule (uriOf a.ctx) = policy.resourceRule (uriOf a.ctx)) :
    planOf (enforcing policy') a = planOf (enforcing policy) a := by
  unfold planOf
  by_cases hcall : a.ctx.method = some "tools/call"
  · have hrule := htool hcall
    have hdecision : (enforcing policy').toolDecision a.ambient a.ctx =
        (enforcing policy).toolDecision a.ambient a.ctx := by
      simp only [toolDecision, enforcing, decideTool, hrule]
    have hprompt : (enforcing policy').promptOf (toolOf a.ctx) =
        (enforcing policy).promptOf (toolOf a.ctx) := by
      simp only [promptOf_eq, enforcing, hrule]
    have happroval : ∀ outcome reason,
        (enforcing policy').approvalRecord (toolOf a.ctx) (principal a.ambient) outcome reason =
          (enforcing policy).approvalRecord (toolOf a.ctx) (principal a.ambient) outcome
            reason := by
      intro outcome reason
      simp only [approvalRecord, enforcing, hrule]
    rw [if_pos hcall, if_pos hcall]
    simp only [toolPlan, gatePlan, toolRecord, question, messageOf, hdecision, hprompt, happroval]
    rfl
  · rw [if_neg hcall, if_neg hcall]
    by_cases hread : a.ctx.method = some "resources/read"
    · have hdecision : policy'.decideResource (uriOf a.ctx) (roles a.ambient) =
          policy.decideResource (uriOf a.ctx) (roles a.ambient) := by
        simp only [decideResource, hresource hread]
      simp only [resourcePlan, resourceRecord, resourceDecision, enforcing, hdecision]
    · rw [if_neg hread, if_neg hread]

section kept

variable {tool : String} {edit : Edit} {policy policy' : Policy} {a : Arrival}

/-- What is planned for other requests is the same. -/
theorem planOf_narrows (h : Narrows tool edit policy policy') (ha : ¬CallsTool tool a) :
    planOf (enforcing policy') a = planOf (enforcing policy) a := by
  refine planOf_congr (fun hcall => h.others _ fun heq => ha ⟨hcall, heq⟩) fun _ => ?_
  simp only [resourceRule, h.resources]

/-- What becomes of a call that is still granted is the same. -/
theorem verdict_narrows (h : Narrows tool edit policy policy') (ha : CallsTool tool a)
    (hgranted : (policy'.decideTool tool (roles a.ambient)).allowed = true) :
    (planOf (enforcing policy') a).verdict = (planOf (enforcing policy) a).verdict := by
  obtain ⟨hcall, rfl⟩ := ha
  obtain ⟨rule', hrule', r, hr, hlisted'⟩ := decideTool_allowed_iff.mp hgranted
  obtain ⟨rule, hrule, heq, hroles⟩ := h.exists_rule hrule'
  have hgranted₀ : (policy.decideTool (toolOf a.ctx) (roles a.ambient)).allowed = true :=
    decideTool_allowed_iff.mpr ⟨rule, hrule, r, hr, ((hroles r).mp hlisted').1⟩
  have hasks : ((enforcing policy').toolDecision a.ambient a.ctx).requiresApproval =
      ((enforcing policy).toolDecision a.ambient a.ctx).requiresApproval := by
    simp only [toolDecision, enforcing]
    rw [decideTool_of_some hrule', decideTool_of_some hrule, heq]
    rfl
  have hprompt : (enforcing policy').promptOf (toolOf a.ctx) =
      (enforcing policy).promptOf (toolOf a.ctx) := by
    have hsame : rule'.approvalPrompt = rule.approvalPrompt := by rw [heq]
    simp only [promptOf_eq, enforcing, hrule', hrule, Option.elim, hsame]
  rw [planOf, planOf, if_pos hcall, if_pos hcall, verdict_toolPlan_of_allowed hgranted,
    verdict_toolPlan_of_allowed hgranted₀, hasks]
  simp only [question, messageOf, hprompt]

/-- A request gets through after the edit where the edit leaves it alone and it got through before.
-/
theorem passes_narrows (h : Narrows tool edit policy policy') (a : Arrival) :
    passes (enforcing policy') a = (keeps tool policy' a && passes (enforcing policy) a) := by
  by_cases ha : CallsTool tool a
  · cases hallowed : (policy'.decideTool tool (roles a.ambient)).allowed with
    | true =>
      have hkeeps : keeps tool policy' a = true := by simp [keeps, hallowed]
      rw [hkeeps, Bool.true_and, passes, passes, verdict_narrows h ha hallowed]
    | false =>
      have hkeeps : keeps tool policy' a = false := by simp [keeps, ha, hallowed]
      rw [hkeeps, Bool.false_and, Bool.eq_false_iff]
      intro hpasses
      obtain ⟨rule, hrule, hgranted, -⟩ := (passes_enforcing_iff.mp hpasses).call ha.1
      rw [ha.2] at hrule
      rw [decideTool_allowed_iff.mpr ⟨rule, hrule, hgranted⟩] at hallowed
      cases hallowed
  · have hkeeps : keeps tool policy' a = true := by simp [keeps, ha]
    rw [hkeeps, Bool.true_and, passes, passes, planOf_narrows h ha]

/-- What becomes of a request that is left alone is the same. -/
theorem verdict_of_keeps (h : Narrows tool edit policy policy') (ha : keeps tool policy' a = true) :
    (planOf (enforcing policy') a).verdict = (planOf (enforcing policy) a).verdict := by
  by_cases hcalls : CallsTool tool a
  · exact verdict_narrows h hcalls (of_decide_eq_true ha hcalls)
  · rw [planOf_narrows h hcalls]

end kept

/-! ## Listings -/

section listings

variable {visible visible' : SortedSet String}

/-- A listing in its mapping form has its tools replaced. -/
theorem keptTools_dict_eq (visible : SortedSet String) {entries : List (String × Json)}
    {tools : List Json} (h : Value.get "tools" entries = .list tools) :
    keptTools visible (.value (.dict entries)) = .value (.dict (Dict.setEntries "tools"
      (.list (tools.filter fun t => decide (toolName t ∈ visible))) entries)) := by
  have hlookup := Value.lookup_of_get h (by simp)
  simp only [keptTools, Value.asMapping, h]
  split_ifs with hlength
  · rw [List.filter_eq_self.mpr (List.length_filter_eq_length_iff.mp hlength),
      Dict.setEntries_of_lookup hlookup]
  · rfl

/-- What is kept of what was kept of a listing, if less is visible now. -/
theorem keptTools_keptTools (h : ∀ t ∈ visible', t ∈ visible) (r : HandlerResult) :
    keptTools visible' (keptTools visible r) = keptTools visible' r := by
  have hboth : ∀ name, (decide (name ∈ visible') && decide (name ∈ visible)) =
      decide (name ∈ visible') := by
    intro name
    by_cases hname : name ∈ visible'
    · simp [hname, h name hname]
    · simp [hname]
  cases r with
  | listTools listing =>
    rw [keptTools_listTools, keptTools_listTools, keptTools_listTools, List.filter_filter]
    simp only [hboth]
  | value v =>
    rcases v with scalar | xs | entries | ⟨cls, attrs⟩
    case dict =>
      by_cases hlist : ∃ tools, Value.get "tools" entries = .list tools
      · obtain ⟨tools, htools⟩ := hlist
        have hkept : Value.get "tools" (Dict.setEntries "tools"
            (.list (tools.filter fun t => decide (toolName t ∈ visible))) entries) =
            .list (tools.filter fun t => decide (toolName t ∈ visible)) := by
          rw [Value.get, Dict.lookup_setEntries, if_pos rfl, Option.getD_some]
        rw [keptTools_dict_eq visible htools, keptTools_dict_eq visible' hkept,
          keptTools_dict_eq visible' htools, Dict.setEntries_setEntries, List.filter_filter]
        simp only [hboth]
      · have hsame : ∀ shown : SortedSet String,
            keptTools shown (.value (.dict entries)) = .value (.dict entries) := by
          intro shown
          simp only [keptTools, Value.asMapping]
          split
          · rename_i tools htools
            exact absurd ⟨tools, htools⟩ hlist
          · rfl
        rw [hsame visible, hsame visible']
    all_goals rfl

end listings

/-! ## A stricter policy -/

section stricter

variable {policy policy' : Policy}

/-- What is listed under a policy that shows less can be read off what is listed before. -/
theorem listed_listed
    (h : ∀ granted, ∀ t ∈ policy'.visibleTools granted, t ∈ policy.visibleTools granted)
    (a : Arrival) (response : Response) :
    listed (enforcing policy') a (listed (enforcing policy) a response) =
      listed (enforcing policy') a response := by
  cases response with
  | inputRequired asked => rfl
  | result r =>
    by_cases hlist : a.ctx.method = some "tools/list"
    · simp only [listed, enforcing, hlist, and_self, if_true]
      rw [keptTools_keptTools (h _)]
    · simp only [listed, hlist, false_and, if_false]

/-- **A stricter policy is one more guard**: it lets only some of the requests through, to those it
leaves alone the same happens, and less is visible. -/
theorem guards_stricter [Calendar] [Server.Signatures] (D : Deployment σ ε)
    {leaves : Arrival → Bool}
    (hpasses : ∀ a, passes (enforcing policy') a = (leaves a && passes (enforcing policy) a))
    (hverdict : ∀ a, leaves a = true →
      (planOf (enforcing policy') a).verdict = (planOf (enforcing policy) a).verdict)
    (hvisible : ∀ granted, ∀ t ∈ policy'.visibleTools granted, t ∈ policy.visibleTools granted) :
    Machine.Guards (D.governedBy (enforcing policy')).machine
      (D.governedBy (enforcing policy)).machine leaves (reshown policy')
      (refusal (enforcing policy')) := by
  refine (D.guards_ungoverned (enforcing policy)).relative (D.guards_ungoverned (enforcing policy'))
    hpasses ?_ ?_
  · intro s a ha hpasses
    have hplain : (D.ungoverned.machine.answer s a).events = [.next a.ctx] := by
      show (forward (D.handler a.now s) a.ctx).events = _
      rw [Plan.forward_eq]
    have hforwarded : forwardedOf ((planOf (enforcing policy) a).records.map Event.record ++
        [.next a.ctx]) = [a.ctx] := by
      rw [forwardedOf, List.filterMap_append, ← forwardedOf, Plan.forwardedOf_map_record]
      rfl
    unfold shown reshown
    rw [hplain, hforwarded]
    congr 1
    cases (D.ungoverned.machine.answer s a).value with
    | error e => rfl
    | ok response => exact congrArg Except.ok (listed_listed hvisible a response).symm
  · intro a ha hpasses
    have hlist : a.ctx.method ≠ some "tools/list" := by
      intro hmethod
      rw [passes, planOf, hmethod] at hpasses
      simp at hpasses
    have hnot : (planOf (enforcing policy) a).verdict ≠ .forward := of_decide_eq_false hpasses
    unfold refusal reshown
    rw [Plan.forwardedOf_run, if_neg hnot, listed_of_guarded hlist]
    unfold Plan.run
    rw [hverdict a ha]
    cases hwhich : (planOf (enforcing policy) a).verdict with
    | forward => exact absurd hwhich hnot
    | pause asked => simp
    | refuse e => simp

end stricter

/-! ## Runs before and after -/

section runs

variable {tool : String} {edit : Edit} {policy policy' : Policy}

omit [Interpreter] in
/-- Less is visible after the edit. -/
theorem visibleTools_narrows (h : Narrows tool edit policy policy') (granted : List String) :
    ∀ t ∈ policy'.visibleTools granted, t ∈ policy.visibleTools granted := by
  intro t ht
  rw [mem_visibleTools_iff, decideTool_allowed_iff] at ht ⊢
  obtain ⟨rule', hrule', r, hr, hlisted'⟩ := ht
  by_cases hname : t = tool
  · subst hname
    obtain ⟨rule, hrule, -, hroles⟩ := h.exists_rule hrule'
    exact ⟨rule, hrule, r, hr, ((hroles r).mp hlisted').1⟩
  · exact ⟨rule', (h.others t hname).symm.trans hrule', r, hr, hlisted'⟩

/-- **A withdrawal is one more guard.** A document in which the entry of a tool is taken out, or
lists fewer roles, is accepted wherever the document before was. Whoever has none of the roles that
stay may no longer call the tool; what gets through is what got through before, less these calls.
Over every run the server works as if their calls had never
reached it: the backend goes the same way, and every other request is answered the same, with
listings cut down and the roles named that are left. What is planned for requests that do not call
the tool is the same. Source: `policy.py`, `Policy.from_mapping`; `middleware.py`. -/
theorem withdrawn {doc doc' : List (Scalar × Yaml)} {source : String} {sections : Sections}
    (h : fromMapping (.dict doc) source = .ok policy)
    (hdoc : Describes doc sections) (hdoc' : Describes doc' (sections.edit tool edit)) :
    ∃ policy', fromMapping (.dict doc') source = .ok policy' ∧
      (∀ a, keeps tool policy' a = false ↔ CallsTool tool a ∧
        ∀ rule, policy.tools.get tool = some rule →
          ∀ r ∈ roles a.ambient, r ∈ rule.allowRoles → edit.stays r = false) ∧
      (∀ a, passes (enforcing policy') a = true ↔
        keeps tool policy' a = true ∧ passes (enforcing policy) a = true) ∧
      (∀ a, ¬CallsTool tool a → planOf (enforcing policy') a = planOf (enforcing policy) a) ∧
      ∀ [Calendar] [Server.Signatures] (D : Deployment σ ε) (s : σ) (arrivals : List Arrival),
        (D.governedBy (enforcing policy')).machine.final s arrivals =
          (D.governedBy (enforcing policy)).machine.final s
            (arrivals.filter (keeps tool policy')) ∧
        (D.governedBy (enforcing policy')).machine.answers s arrivals =
          Machine.weave (keeps tool policy') (reshown policy') (refusal (enforcing policy'))
            arrivals ((D.governedBy (enforcing policy)).machine.answers s
              (arrivals.filter (keeps tool policy'))) := by
  obtain ⟨policy', hpolicy', hnarrows⟩ := exists_narrowed h hdoc hdoc'
  refine ⟨policy', hpolicy', fun a => ?_, fun a => ?_, fun a => planOf_narrows hnarrows,
    fun D s arrivals => ?_⟩
  · have hallowed := hnarrows.decideTool_allowed_iff (roles a.ambient)
    rw [keeps, decide_eq_false_iff_not, Classical.not_imp, hallowed]
    simp only [not_exists, not_and, Bool.not_eq_true]
  · rw [passes_narrows hnarrows, Bool.and_eq_true]
  · have hguards := D.guards_stricter (passes_narrows hnarrows)
      (fun _ => verdict_of_keeps hnarrows) (visibleTools_narrows hnarrows)
    exact ⟨hguards.final s arrivals, hguards.answers s arrivals⟩

end runs

/-- The document of the example, with some entries under `tools`. -/
def toolsDocument (tools : List (Scalar × Yaml)) : List (Scalar × Yaml) :=
  [(.str "version", .int 1), (.str "roles", .dict [(.str "tlo.operator", .none)]),
    (.str "tools", .dict tools)]

/-- An entry for an operator. -/
def operatorEntry (tool : String) : Scalar × Yaml :=
  (.str tool, .dict [(.str "allow_roles", .list [.str "tlo.operator"])])

omit [Interpreter] in
/-- Taking out the second entry withdraws its tool, whoever calls it, and nothing else. -/
theorem withdrawn_raiseShipmentIncident :
    ∃ policy', @fromMapping plainInterpreter (.dict (toolsDocument
        [operatorEntry "search_incidents"])) "policy.yaml" = .ok policy' ∧
      ∀ a : Arrival, @keeps plainInterpreter "raise_shipment_incident" policy' a = false ↔
        @CallsTool plainInterpreter "raise_shipment_incident" a := by
  let sections : Sections :=
    ⟨[(.str "tlo.operator", .none)],
      [operatorEntry "search_incidents", operatorEntry "raise_shipment_incident"], []⟩
  obtain ⟨policy, hpolicy⟩ : ∃ policy, @fromMapping plainInterpreter (.dict (toolsDocument
      [operatorEntry "search_incidents", operatorEntry "raise_shipment_incident"]))
      "policy.yaml" = .ok policy := ⟨_, rfl⟩
  obtain ⟨policy', hpolicy', hkeeps, -⟩ := @withdrawn plainInterpreter Unit Unit
    "raise_shipment_incident" .remove policy _
    (toolsDocument [operatorEntry "search_incidents"]) "policy.yaml" sections hpolicy
    (by constructor <;> rfl) (by constructor <;> rfl)
  refine ⟨policy', hpolicy', fun a => (hkeeps a).trans ⟨And.left, fun ha => ⟨ha, ?_⟩⟩⟩
  exact fun _ _ _ _ _ => rfl

end GovernedMcp.Deployment
