import Mathlib.Algebra.Order.BigOperators.Group.List
import Mathlib.Data.Rat.Defs
import GovernedMcp.Lib.History
import GovernedMcp.Enforcement.Plan

/-!
# The approval gate behind the boundary

A `tools/call` first passes the SDK's `RequestStateBoundary`, which opens the member `requestState`,
and then the middleware; when the middleware asks for approval, the boundary seals the state on the
way out. The server keeps nothing between two calls. What a run has to remember, the states that
were sealed, is read off its history.

* `Value.canonical`: arguments in a form that does not depend on the order of their members, as they
  go into the digest that a state is bound to (`bindingOf_eq_of_perm`).
* `Boundary` is a parameter, with the behaviour that `governance/approval.py` relies on as the
  hypotheses `Documented` and `Stateless`.
* `serve`: a run, over calls that the clients choose freely. The replicas share the key ring and
  have no other state, so it does not matter which of them answers a call.
* `executes_exchange_iff`: when a call of a gated tool reaches its handler.
-/

namespace GovernedMcp

open Lib PolicyEnforcementMiddleware

/-! ## What a state is bound to -/

namespace Value

mutual

/-- The value with the members of every mapping in the order of their names. -/
def canonical : Json → Json
  | .scalar a => .scalar a
  | .list xs => .list (canonicalItems xs)
  | .dict entries => .dict ((canonicalEntries entries).insertionSort fun a b => a.1 ≤ b.1)
  | .model cls attrs => .model cls attrs
termination_by structural v => v

/-- The same for items. -/
def canonicalItems : List Json → List Json
  | [] => []
  | v :: xs => v.canonical :: canonicalItems xs
termination_by structural xs => xs

/-- The same for members, which stay where they are. -/
def canonicalEntries : List (String × Json) → List (String × Json)
  | [] => []
  | e :: es => canonicalEntry e :: canonicalEntries es
termination_by structural es => es

/-- The same for a member. -/
def canonicalEntry : String × Json → String × Json
  | (name, v) => (name, v.canonical)
termination_by structural e => e

end

/-- Members are put in order one by one. -/
theorem canonicalEntries_eq_map (es : List (String × Json)) :
    canonicalEntries es = es.map fun e => (e.1, e.2.canonical) := by
  induction es with
  | nil => rfl
  | cons e es ih =>
    obtain ⟨name, v⟩ := e
    rw [canonicalEntries, ih, canonicalEntry, List.map_cons]

/-- **The order of members does not matter.** -/
theorem canonical_dict_of_perm {es es' : List (String × Json)} (h : es.Perm es')
    (hdistinct : (es.map Prod.fst).Nodup) :
    canonical (.dict es) = canonical (.dict es') := by
  let le : String × Json → String × Json → Prop := fun a b => a.1 ≤ b.1
  have hperm : (canonicalEntries es).Perm (canonicalEntries es') := by
    rw [canonicalEntries_eq_map, canonicalEntries_eq_map]
    exact h.map _
  have hnames : ((canonicalEntries es).map Prod.fst).Nodup := by
    rw [canonicalEntries_eq_map, List.map_map]
    exact hdistinct
  have hsorted : ((canonicalEntries es).insertionSort le).Perm
      ((canonicalEntries es').insertionSort le) :=
    (List.perm_insertionSort le _).trans (hperm.trans (List.perm_insertionSort le _).symm)
  rw [canonical, canonical]
  congr 1
  refine List.Perm.eq_of_pairwise ?_ (List.pairwise_insertionSort le _)
    (List.pairwise_insertionSort le _) hsorted
  -- two members of one name are the same member
  intro a b ha hb hab hba
  have ha' := (List.mem_insertionSort le).mp ha
  have hb' := hperm.mem_iff.mpr ((List.mem_insertionSort le).mp hb)
  exact List.inj_on_of_nodup_map hnames ha' hb' (le_antisymm hab hba)

end Value

/-- What a sealed state is bound to; the method is `tools/call` throughout. -/
structure Binding (π : Type) where
  tool : String
  /-- In canonical form, as they are digested. -/
  arguments : Json
  principal : π
  deriving DecidableEq

/-- A state the server has sealed. -/
structure Sealed (π : Type) where
  binding : Binding π
  issued : ℚ
  /-- What was sealed. -/
  state : String
  /-- What the client got instead. -/
  token : String
  deriving DecidableEq

/-- The SDK's `RequestStateBoundary`. Its first argument is what the server has sealed so far. -/
structure Boundary where
  Principal : Type
  /-- The (client, issuer, subject) triple of a caller. -/
  principalOf : Option AccessToken → Principal
  /-- How long a sealed state lives. -/
  ttl : ℚ
  /-- The params that are passed on, or `none` to reject the call. -/
  inbound : List (Sealed Principal) → Binding Principal → ℚ → List (String × Json) →
    Option (List (String × Json))
  /-- The token for a state. -/
  outbound : List (Sealed Principal) → Binding Principal → ℚ → String → String

namespace Boundary

/-- The params carry the token of a sealed state that is bound to this call and still alive. -/
def Presents (B : Boundary) (ledger : List (Sealed B.Principal)) (binding : Binding B.Principal)
    (now : ℚ) (params : List (String × Json)) (sealed : Sealed B.Principal) : Prop :=
  sealed ∈ ledger ∧ Dict.lookup "requestState" params = some (.str sealed.token) ∧
    sealed.binding = binding ∧ now - sealed.issued < B.ttl

/-- What `approval.py` relies on: a call without the member `requestState` is passed on as it is;
any other is rejected, unless it carries the token of a sealed state that is bound to it and still
alive, and then the member is replaced by the state, and the others are left alone. -/
structure Documented (B : Boundary) : Prop where
  absent : ∀ ledger binding now params, Dict.lookup "requestState" params = none →
    B.inbound ledger binding now params = some params
  present : ∀ ledger binding now params params',
    B.inbound ledger binding now params = some params' →
    Dict.lookup "requestState" params ≠ none →
    ∃ sealed, B.Presents ledger binding now params sealed ∧
      Dict.lookup "requestState" params' = some (.str sealed.state) ∧
      ∀ name ≠ "requestState", Dict.lookup name params' = Dict.lookup name params

/-- Unsealing leaves no trace, so a token is accepted as often as it is presented; and every state
is sealed under a nonce of its own, so no two tokens are equal. -/
structure Stateless (B : Boundary) : Prop extends B.Documented where
  again : ∀ ledger binding now params sealed, B.Presents ledger binding now params sealed →
    (B.inbound ledger binding now params).isSome = true
  fresh : ∀ ledger binding now state, ∀ sealed ∈ ledger,
    B.outbound ledger binding now state ≠ sealed.token

end Boundary

/-! ## Calls and runs -/

/-- A `tools/call` as it arrives, with what it finds: its caller, the time, the nonce that is drawn
should it be asked about, and how the handler would end. -/
structure Call (ε : Type) where
  params : List (String × Json)
  ambient : Ambient
  now : ℚ
  protocolVersion : Option String
  handler : Ctx → Except ε HandlerResult

variable {ε : Type}

/-- The request with the given params. -/
def Call.ctx (c : Call ε) (params : List (String × Json)) : Ctx :=
  ⟨some "tools/call", .dict params, c.protocolVersion⟩

/-- What was made of a call. -/
structure Exchange (π ε : Type) where
  call : Call ε
  /-- The request that passed the boundary, and what the middleware did with it. -/
  handled : Option (Ctx × Handling ε Response)
  /-- The state that was sealed into the answer. -/
  sealed : Option (Sealed π)

/-- The question in an answer. -/
def askedOf : Except (Raised ε) Response → Option InputRequiredResult
  | .ok (.inputRequired asked) => some asked
  | _ => none

/-- What the server has sealed so far. -/
def ledgerOf {π : Type} (past : List (Exchange π ε)) : List (Sealed π) :=
  past.filterMap Exchange.sealed

variable [Interpreter] (policy : Policy) (B : Boundary)

/-- What the state of a call is bound to. -/
def bindingOf (c : Call ε) : Binding B.Principal :=
  ⟨toolOf (c.ctx c.params), (argumentsOf (c.ctx c.params)).canonical,
    B.principalOf c.ambient.accessToken⟩

variable {B} in
/-- A call whose arguments are written in another order is the same call. -/
theorem bindingOf_eq_of_perm {c c' : Call ε} {es es' : List (String × Json)}
    (htool : toolOf (c.ctx c.params) = toolOf (c'.ctx c'.params))
    (hes : argumentsOf (c.ctx c.params) = .dict es)
    (hes' : argumentsOf (c'.ctx c'.params) = .dict es') (hperm : es.Perm es')
    (hdistinct : (es.map Prod.fst).Nodup)
    (hprincipal : B.principalOf c.ambient.accessToken = B.principalOf c'.ambient.accessToken) :
    bindingOf B c = bindingOf B c' := by
  rw [bindingOf, bindingOf, htool, hes, hes', hprincipal,
    Value.canonical_dict_of_perm hperm hdistinct]

/-- One call through the boundary and the middleware, and its answer back. -/
def exchange (past : List (Exchange B.Principal ε)) (c : Call ε) : Exchange B.Principal ε :=
  match B.inbound (ledgerOf past) (bindingOf B c) c.now c.params with
  | none => ⟨c, none, none⟩
  | some params =>
    let handling := (enforcing policy).call c.ambient c.handler (c.ctx params)
    ⟨c, some (c.ctx params, handling),
      (askedOf handling.value).map fun asked =>
        { binding := bindingOf B c
          issued := c.now
          state := asked.requestState
          token := B.outbound (ledgerOf past) (bindingOf B c) c.now asked.requestState }⟩

/-- A run of the server. -/
def serve (calls : List (Call ε)) : List (Exchange B.Principal ε) :=
  History.run (exchange policy B) calls

/-- The handler of a tool was reached whose rule asks for approval. -/
def Executes {π : Type} (e : Exchange π ε) : Prop :=
  ∃ ctx handling rule, e.handled = some (ctx, handling) ∧ forwardedOf handling.events ≠ [] ∧
    policy.tools.get (toolOf ctx) = some rule ∧ rule.requiresApproval = true

instance {π : Type} (e : Exchange π ε) : Decidable (Executes policy e) :=
  match h : e.handled with
  | none => isFalse (by simp [Executes, h])
  | some (ctx, handling) =>
    match h' : policy.tools.get (toolOf ctx) with
    | none => isFalse (by simp [Executes, h, h'])
    | some rule =>
      decidable_of_iff (forwardedOf handling.events ≠ [] ∧ rule.requiresApproval = true)
        (by simp [Executes, h, h'])

section exchange

variable {policy B} {past : List (Exchange B.Principal ε)} {c : Call ε}

/-- An exchange keeps the call that it is about. -/
@[simp] theorem call_exchange : (exchange policy B past c).call = c := by
  unfold exchange
  split <;> rfl

/-- What passes the boundary is handled. -/
theorem handled_exchange {params : List (String × Json)}
    (h : B.inbound (ledgerOf past) (bindingOf B c) c.now c.params = some params) :
    (exchange policy B past c).handled =
      some (c.ctx params, (enforcing policy).call c.ambient c.handler (c.ctx params)) := by
  unfold exchange
  rw [h]

/-- **When the handler of a gated tool is reached**: the boundary passes the call on, the caller is
authorised, and what is passed on carries an approval. -/
theorem executes_exchange_iff : Executes policy (exchange policy B past c) ↔
    ∃ params, B.inbound (ledgerOf past) (bindingOf B c) c.now c.params = some params ∧
      IsGatedCall policy c.ambient (c.ctx params) ∧ CarriesApproval params := by
  unfold exchange Executes
  rcases B.inbound (ledgerOf past) (bindingOf B c) c.now c.params with _ | params
  · simp
  · have hgated := forwarded_gated_iff policy c.handler c.ambient (c.ctx params) rfl
    constructor
    · rintro ⟨ctx, handling, rule, hhandled, hreached, hrule⟩
      cases hhandled
      exact ⟨params, rfl, hgated.mp ⟨hreached, rule, hrule⟩⟩
    · rintro ⟨params', heq, hcall⟩
      cases heq
      obtain ⟨hreached, rule, hrule⟩ := hgated.mpr hcall
      exact ⟨_, _, rule, rfl, hreached, hrule⟩

/-- What was sealed in answer to a call is the question about it. -/
theorem sealed_exchange {s : Sealed B.Principal} (h : (exchange policy B past c).sealed = some s) :
    s.binding = bindingOf B c ∧ ∃ params handling asked,
      (exchange policy B past c).handled = some (c.ctx params, handling) ∧
      handling.value = .ok (.inputRequired asked) ∧
      asked = (enforcing policy).question c.ambient (toolOf (c.ctx params))
        ((argumentsOf (c.ctx params)).asMapping.getD []) ∧
      s.state = asked.requestState ∧
      s.token = B.outbound (ledgerOf past) (bindingOf B c) c.now s.state := by
  unfold exchange at h ⊢
  rcases hin : B.inbound (ledgerOf past) (bindingOf B c) c.now c.params with _ | params
  · rw [hin] at h
    cases h
  · simp only [hin, Option.map_eq_some_iff] at h ⊢
    obtain ⟨asked, hasked, rfl⟩ := h
    have hvalue : ((enforcing policy).call c.ambient c.handler (c.ctx params)).value =
        .ok (.inputRequired asked) := by
      unfold askedOf at hasked
      split at hasked
      · rename_i heq
        cases hasked
        exact heq
      · cases hasked
    refine ⟨rfl, params, _, asked, rfl, hvalue, ?_, rfl, rfl⟩
    rw [call_of_toolsCall rfl, Plan.value_run_eq_inputRequired_iff] at hvalue
    exact eq_question_of_pause hvalue

end exchange

/-! ## A boundary that can be run -/

/-- A boundary whose tokens are mere lengths, each longer than all before. -/
@[reducible] def plainBoundary : Boundary where
  Principal := Option (String × Json × Option String)
  principalOf token := token.map fun t => (t.clientId, Value.get "iss" t.claims, t.subject)
  ttl := 600
  inbound ledger binding now params :=
    match Dict.lookup "requestState" params with
    | none => some params
    | some v =>
      let alive := fun s : Sealed _ =>
        decide (v = .str s.token ∧ s.binding = binding ∧ now - s.issued < 600)
      (ledger.find? alive).map fun s => Dict.setEntries "requestState" (.str s.state) params
  outbound ledger _ _ _ :=
    String.ofList (List.replicate ((ledger.map fun s => s.token.length).sum + 1) '.')

omit [Interpreter] in
/-- It does what is asked of a boundary. -/
theorem stateless_plainBoundary : plainBoundary.Stateless where
  absent ledger binding now params h := by
    show (match Dict.lookup "requestState" params with | none => _ | some v => _) = _
    rw [h]
  present ledger binding now params params' hin hpresent := by
    obtain ⟨v, hv⟩ := Option.ne_none_iff_exists'.mp hpresent
    simp only [hv, Option.map_eq_some_iff] at hin
    obtain ⟨s, hfind, rfl⟩ := hin
    have halive := List.find?_some hfind
    simp only [decide_eq_true_eq] at halive
    obtain ⟨rfl, hbinding, hage⟩ := halive
    refine ⟨s, ⟨List.mem_of_find?_eq_some hfind, hv, hbinding, hage⟩, ?_, fun name hname => ?_⟩
    · simp [Dict.lookup_setEntries]
    · simp [Dict.lookup_setEntries, hname.symm]
  again ledger binding now params s h := by
    obtain ⟨hmem, hv, hbinding, hage⟩ := h
    simp only [hv, Option.isSome_map, List.find?_isSome]
    exact ⟨s, hmem, by simpa using ⟨hbinding, hage⟩⟩
  fresh ledger binding now state s hs heq := by
    have hlength : s.token.length = (ledger.map fun s => s.token.length).sum + 1 := by
      rw [← heq]
      simp
    have hle : s.token.length ≤ (ledger.map fun s => s.token.length).sum :=
      List.le_sum_of_mem (List.mem_map_of_mem hs)
    rw [hlength] at hle
    exact Nat.not_succ_le_self _ hle

/-- The answer of a human who approves. -/
def yes : Json :=
  .dict [("approval", .dict [("action", .str "accept"),
    ("content", .dict [("approve", .bool true)])])]

/-- A call of the gated tool by an operator, with further members of its params. -/
def incidentCall (now : ℚ) (members : List (String × Json)) : Call Unit where
  params := [("name", .str "raise_shipment_incident"),
    ("arguments", .dict [("shipment_id", .str "SHP-1004")])] ++ members
  ambient := ⟨some (Verifier.tokenOf "olga" "tlo.operator"), "n1"⟩
  now
  protocolVersion := none
  handler _ := .ok (.value .none)

end GovernedMcp
