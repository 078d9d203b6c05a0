import GovernedMcp.Connector.Interchange

/-!
# What an instance says in confidence

A response that refuses a request may quote it, credentials included, so `_request` leaves its body
out of what it raises. Here this is put as two runs that cannot be told apart.

* `LooksAlike`: two outcomes of a request that differ in the body of a refusal at most.
* `Indistinct`: two instances, each with a client of its own, whose answers look alike.
* **`nothing_leaks`**: over either of them, a server gives the same answers.
-/

namespace GovernedMcp

open Lib Stateful

/-- Outcomes that differ in the body of a refusal at most. -/
inductive LooksAlike : HttpOutcome → HttpOutcome → Prop where
  | same (o : HttpOutcome) : LooksAlike o o
  | refused {statusCode : ℕ} (h : 400 ≤ statusCode) (body body' : Option Json) :
    LooksAlike (.response statusCode body) (.response statusCode body')

/-- Two clients, each before an instance of its own, where the same request has outcomes that look
alike, from states that `R` relates. The clients may have different credentials, and one may be
known to its instance that is a stranger to the other. -/
structure Indistinct {σ τ : Type} (client client' : LiveServiceNow) (transport : Transport σ)
    (transport' : Transport τ) (R : σ → τ → Prop) : Prop where
  looksAlike : ∀ method table params json s t, R s t →
    LooksAlike (transport (client.requestOf method table params json) s).1
      (transport' (client'.requestOf method table params json) t).1
  next : ∀ method table params json s t, R s t →
    R (transport (client.requestOf method table params json) s).2
      (transport' (client'.requestOf method table params json) t).2

namespace LiveServiceNow

/-- What is made of a refusal does not depend on its body. -/
theorem resultOf_of_looksAlike {o o' : HttpOutcome} (h : LooksAlike o o') (table : String) :
    resultOf table o = resultOf table o' := by
  cases h with
  | same => rfl
  | @refused statusCode h body body' =>
    unfold resultOf
    simp only [if_pos h]

section agree

variable {σ τ : Type} {client client' : LiveServiceNow} {transport : Transport σ}
  {transport' : Transport τ} {R : σ → τ → Prop}

/-- A request ends alike, and leaves related instances. -/
theorem request_agree (h : Indistinct client client' transport transport' R)
    (method table : String) (params : List (String × String)) (json : Option Json) :
    Stateful.Agree R Eq (client.request transport method table params json)
      (client'.request transport' method table params json) := by
  constructor
  · intro s t hR
    rw [outcome_request, outcome_request,
      resultOf_of_looksAlike (h.looksAlike method table params json s t hR)]
    exact alike_eq_iff.mpr rfl
  · intro s t hR
    rw [after_request, after_request]
    exact h.next method table params json s t hR

variable [Interpreter]

/-- **The operations** agree. -/
theorem backend_agree (h : Indistinct client client' transport transport' R) :
    (client.backend transport).Agree .everything R Eq Eq (client'.backend transport') where
  find name _ := by
    refine (request_agree h _ _ _ _).bind fun records records' heq => ?_
    exact .ofExcept (alike_eq_iff.mpr (congrArg itemOf heq))
  search configurationItem limit _ := by
    rw [List.forall₂_eq_eq_eq]
    refine (request_agree h _ _ _ _).bind fun records records' heq => ?_
    exact .ofExcept (alike_eq_iff.mpr (congrArg incidentsOf heq))
  create shortDescription configurationItem urgency description _ :=
    (request_agree h _ _ _ _).map fun _ _ heq => congrArg createdOf heq

end agree

end LiveServiceNow

namespace Deployment

/-- **Nothing leaks.** Neither the credentials of the connector, nor what an instance writes into
the body of a refusal, make a difference to what a server answers or records, whatever requests
reach it and however long it runs. Source: `servicenow.py`, `LiveServiceNow._request`; `server.py`.
-/
theorem nothing_leaks [Interpreter] [Calendar] [Server.Signatures] {ρ σ τ ε : Type}
    {client client' : LiveServiceNow} {transport : Transport σ} {transport' : Transport τ}
    {R : σ → τ → Prop} (h : Indistinct client client' transport transport' R)
    (D : Deployment ρ ε) {s : σ} {t : τ} (hR : R s t) (arrivals : List Arrival) :
    (D.withBackend fun _ => client.backend transport).machine.answers s arrivals =
      (D.withBackend fun _ => client'.backend transport').machine.answers t arrivals :=
  (D.answers_withBackend (fun _ => LiveServiceNow.backend_agree h) hR arrivals).1

/-! ## A network that quotes -/

section quoting

/-- It lets nobody in, and says whom it has turned away. -/
def quotingNetwork : Transport Unit := fun r s =>
  (.response 401 (some (.dict [("user", .str r.auth.1), ("password", .str r.auth.2)])), s)

/-- A client with some credentials for an instance. -/
def clientOf (user password : String) : LiveServiceNow :=
  { LiveServiceNow.devClient with user, password }

/-- Whoever it turns away, the refusals look alike. -/
theorem indistinct_quotingNetwork (user password user' password' : String) :
    Indistinct (clientOf user password) (clientOf user' password') quotingNetwork quotingNetwork
      fun _ _ => True where
  looksAlike _ _ _ _ _ _ _ := .refused (by decide) _ _
  next _ _ _ _ _ _ _ := trivial

/-- A required argument that is a text. -/
def stringAt (name : String) : Json → Option String
  | .dict arguments =>
    match Value.get name arguments with
    | .str text => some text
    | _ => none
  | _ => none

/-- A validation that takes no optional argument. -/
@[reducible] def plainSignatures : Server.Signatures where
  shipmentId := stringAt "shipment_id"
  thresholdHours _ := some 24
  search _ := some ("", 10)
  itemName := stringAt "name"
  raise arguments := (stringAt "shipment_id" arguments).map fun id => (id, "3")
  shipmentUri := some

/-- A server without a middleware, that tells its clients what went wrong. -/
def openDeployment : Deployment Unit Server.ToolFailure where
  middleware := none
  shipments := Server.fixtures 0
  backend _ := @LiveServiceNow.backend plainInterpreter (clientOf "" "") Unit quotingNetwork
  reply _ result := result.map fun _ => .value .none
  contents _ _ := .ok (.value .none)
  elsewhere _ := .ok (.value .none)

/-- Somebody looks an item up. -/
def lookup : Arrival where
  ctx :=
    { method := some "tools/call"
      params := .dict [("name", .str "get_configuration_item"),
        ("arguments", .dict [("name", .str "CI-WMS-01")])]
      protocolVersion := none }
  ambient := { accessToken := none, nonce := "" }
  now := 0

/-- What callers are answered, by a server whose connector has these credentials. -/
def answersTo (user password : String) (arrivals : List Arrival) :
    List (Handling Server.ToolFailure Response) :=
  let client := clientOf user password
  @Machine.answers _ _ _ (@machine plainInterpreter plainCalendar plainSignatures _ _
    (openDeployment.withBackend fun _ => @LiveServiceNow.backend plainInterpreter client _
      quotingNetwork)) () arrivals

/-- Callers of servers with different credentials are told the same. -/
theorem nothing_leaks_quoting :
    answersTo "admin" "secret" [lookup] = answersTo "guest" "" [lookup] :=
  @nothing_leaks plainInterpreter plainCalendar plainSignatures _ _ _ _ _ _ _ _ _
    (indistinct_quotingNetwork "admin" "secret" "guest" "") openDeployment () () trivial [lookup]

end quoting

end Deployment

end GovernedMcp
