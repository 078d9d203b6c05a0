import Mathlib.Data.List.Nodup
import GovernedMcp.Connector.Assessment

/-!
# Runs of the mock store

Clients call the operations of the mock in any order and with any arguments. No operation suspends,
so whatever clients there are, what the store goes through is one list of operations.

* `Operation`, `operations`: the store as a machine. `next_cases` says what one operation can do.
* `append_zeroPadded_injective`: a padded numeral can be read back, also where it is wider than its
  pad.
* `Numbered`: the numbers and the identifiers are the seed's and those of the counter so far. Every
  operation keeps it (`preserves_numbered`).
* **`storeInvariant`**: in any run from a new store numbers and identifiers are distinct, incidents
  have known items, earlier incidents stay where they are, and a refused call changes nothing.
* **`findsCreated_iff`**: a new incident is found under its item exactly when fewer than ten open
  ones were there before it.
-/

namespace GovernedMcp

open Lib Stateful

namespace MockServiceNow

/-! ## The store as a machine -/

/-- A call of a client, an incident being opened at some time. -/
inductive Operation where
  | findConfigurationItem (name : String)
  | searchIncidents (configurationItem : Option String) (activeOnly : Bool) (limit : ℤ)
  | createIncident (now : ℚ) (shortDescription configurationItem urgency description : String)
  deriving DecidableEq

/-- What it returns. -/
inductive Returned where
  | item (found : Option ConfigurationItem)
  | incidents (found : List Incident)
  | created (incident : Incident)
  deriving DecidableEq

variable [Interpreter] [Calendar]

/-- Carries out a call. -/
def Operation.run : Operation → EStateM ToolError MockServiceNow Returned
  | .findConfigurationItem name => do
    return .item (← MockServiceNow.findConfigurationItem name)
  | .searchIncidents configurationItem activeOnly limit => do
    return .incidents (← MockServiceNow.searchIncidents configurationItem activeOnly limit)
  | .createIncident now shortDescription configurationItem urgency description => do
    return .created (← MockServiceNow.createIncident now shortDescription configurationItem urgency
      description)

/-- The store, one call after the other. -/
def operations : Machine MockServiceNow Operation (Except ToolError Returned) where
  answer self op := outcome op.run self
  next self op := after op.run self

omit [Interpreter] [Calendar] in
/-- The store with one more incident. -/
def withIncident (self : MockServiceNow) (incident : Incident) : MockServiceNow :=
  { self with counter := self.counter + 1, incidents := self.incidents ++ [incident] }

section step

variable (self : MockServiceNow) {op : Operation} {now : ℚ}
  {shortDescription configurationItem urgency description : String}

/-- **What a call to open an incident does**: it opens the next one of a known item, and is refused
for any other. -/
theorem create_cases
    (hop : op = .createIncident now shortDescription configurationItem urgency description) :
    ((∃ item, self.configurationItems.get configurationItem = some item) ∧
      operations.answer self op =
        .ok (.created (self.nextIncident now shortDescription configurationItem urgency)) ∧
      operations.next self op =
        self.withIncident (self.nextIncident now shortDescription configurationItem urgency)) ∨
    (self.configurationItems.get configurationItem = none ∧
      (∃ e, operations.answer self op = .error e) ∧ operations.next self op = self) := by
  have hanswer : operations.answer self op =
      (outcome (createIncident now shortDescription configurationItem urgency description)
        self).map Returned.created := by
    rw [hop]
    exact outcome_bind_pure _ _ self
  have hnext : operations.next self op =
      after (createIncident now shortDescription configurationItem urgency description) self := by
    rw [hop]
    exact after_bind_pure _ _ self
  rcases hitem : self.configurationItems.get configurationItem with _ | item
  · right
    rw [hanswer, hnext, outcome_createIncident_of_none _ _ _ _ hitem,
      after_createIncident_of_none _ _ _ _ hitem]
    exact ⟨rfl, ⟨_, rfl⟩, rfl⟩
  · left
    rw [hanswer, hnext, outcome_createIncident_of_some _ _ _ _ hitem,
      after_createIncident_of_some _ _ _ _ hitem]
    exact ⟨⟨item, rfl⟩, rfl, rfl⟩

/-- **What a call does**: it leaves the store alone, or opens the next incident of a known item. -/
theorem next_cases (op : Operation) : operations.next self op = self ∨
    ∃ now shortDescription configurationItem urgency,
      (∃ item, self.configurationItems.get configurationItem = some item) ∧
        operations.next self op =
          self.withIncident (self.nextIncident now shortDescription configurationItem urgency) := by
  rcases op with name | ⟨configurationItem, activeOnly, limit⟩ |
    ⟨now, shortDescription, configurationItem, urgency, description⟩
  · exact Or.inl rfl
  · exact Or.inl rfl
  · rcases self.create_cases rfl with ⟨hitem, -, hnext⟩ | ⟨-, -, hnext⟩
    · exact Or.inr ⟨now, shortDescription, configurationItem, urgency, hitem, hnext⟩
    · exact Or.inl hnext

/-- A refused call leaves the store as it was. -/
theorem next_of_refused {e : ToolError}
    (hop : op = .createIncident now shortDescription configurationItem urgency description)
    (h : operations.answer self op = .error e) : operations.next self op = self := by
  rcases self.create_cases hop with ⟨-, hanswer, -⟩ | ⟨-, -, hnext⟩
  · rw [hanswer] at h
    cases h
  · exact hnext

/-- Every call extends the store. -/
theorem extends_operation (op : Operation) : Extends self (operations.next self op) := by
  rcases self.next_cases op with hnext | ⟨now, shortDescription, configurationItem, urgency, -,
    hnext⟩
  · rw [hnext]
    exact Extends.refl self
  · rw [hnext]
    exact ⟨rfl, List.prefix_append _ _⟩

end step

/-! ## Numbers and identifiers -/

section numbers

omit [Interpreter] [Calendar]

/-- The number in a padded numeral can be read back, whatever its width. -/
theorem ofDigitChars_zeroPadded (width n : ℕ) :
    Nat.ofDigitChars 10 (zeroPadded width n).toList 0 = n := by
  have hdigits : (toString n).toList = Nat.toDigits 10 n := Nat.toList_repr
  unfold zeroPadded List.leftpad
  rw [String.toList_ofList, Nat.ofDigitChars_append, Nat.ofDigitChars_replicate_zero, Nat.mul_zero,
    hdigits, Nat.ofDigitChars_ten_toDigits]

/-- So texts that differ in their numerals only are different. -/
theorem append_zeroPadded_injective (stem : String) (width : ℕ) :
    Function.Injective fun n => stem ++ zeroPadded width n := by
  intro n n' h
  have hlists : stem.toList ++ (zeroPadded width n).toList =
      stem.toList ++ (zeroPadded width n').toList := by
    rw [← String.toList_append, ← String.toList_append]
    exact congrArg String.toList h
  rw [← ofDigitChars_zeroPadded width n, List.append_cancel_left hlists, ofDigitChars_zeroPadded]

/-- The number of the incident that is opened at this value of the counter. -/
def numberOf (counter : ℕ) : String := s!"INC00200{zeroPadded 2 counter}"

/-- Its identifier. -/
def sysIdOf (counter : ℕ) : String := s!"mock{zeroPadded 8 counter}"

/-- A number is padded to two digits. -/
theorem numberOf_eq (counter : ℕ) : numberOf counter = "INC00200" ++ zeroPadded 2 counter := rfl

/-- A `sys_id` is padded to eight digits. -/
theorem sysIdOf_eq (counter : ℕ) : sysIdOf counter = "mock" ++ zeroPadded 8 counter := rfl

/-- No two counters give the same number. -/
theorem numberOf_injective : Function.Injective numberOf :=
  append_zeroPadded_injective "INC00200" 2

/-- Nor the same `sys_id`. -/
theorem sysIdOf_injective : Function.Injective sysIdOf := append_zeroPadded_injective "mock" 8

/-- No number that is handed out is the seed's: the sixth characters differ. -/
theorem numberOf_ne_seed (counter : ℕ) : numberOf counter ≠ seedIncident.number := by
  intro h
  have hchar := congrArg (fun s : String => s.toList[5]?) h
  simp [numberOf_eq, seedIncident] at hchar

/-- No identifier is: the first characters differ. -/
theorem sysIdOf_ne_seed (counter : ℕ) : sysIdOf counter ≠ seedIncident.sysId := by
  intro h
  have hchar := congrArg (fun s : String => s.toList[0]?) h
  simp [sysIdOf_eq, seedIncident] at hchar

/-- A label for the seed, and then one for each value of the counter up to the present one. -/
def labels (seed : String) (label : ℕ → String) (counter : ℕ) : List String :=
  seed :: (List.range counter).map fun k => label (k + 1)

/-- One more label is added at the end. -/
theorem labels_succ (seed : String) (label : ℕ → String) (counter : ℕ) :
    labels seed label (counter + 1) = labels seed label counter ++ [label (counter + 1)] := by
  unfold labels
  rw [List.range_succ, List.map_append]
  rfl

/-- Labels are distinct when values of the counter have distinct ones, other than the seed's. -/
theorem nodup_labels {seed : String} {label : ℕ → String} (hlabel : Function.Injective label)
    (hseed : ∀ n, label n ≠ seed) (counter : ℕ) : (labels seed label counter).Nodup := by
  unfold labels
  rw [List.nodup_cons]
  constructor
  · intro hmem
    obtain ⟨k, -, hk⟩ := List.mem_map.mp hmem
    exact hseed (k + 1) hk
  · have hinjective : Function.Injective fun k => label (k + 1) := by
      intro k k' h
      exact Nat.succ_injective (hlabel h)
    exact List.nodup_range.map hinjective

end numbers

/-! ## What every store of a run satisfies -/

/-- The counter accounts for every incident but the seed, and every incident has a known item. -/
structure Numbered (store : MockServiceNow) : Prop where
  numbers : store.incidents.map Incident.number =
    labels seedIncident.number numberOf store.counter
  sysIds : store.incidents.map Incident.sysId = labels seedIncident.sysId sysIdOf store.counter
  known : ∀ incident ∈ store.incidents,
    ∃ item, store.configurationItems.get incident.configurationItem = some item

omit [Interpreter] [Calendar] in
/-- A new store is numbered: its one incident is the seed. -/
theorem numbered_new : Numbered new where
  numbers := rfl
  sysIds := rfl
  known := by
    intro incident hmem
    rw [List.mem_singleton.mp hmem]
    exact ⟨_, rfl⟩

omit [Interpreter] in
/-- The next incident of a known item is numbered by the counter. -/
theorem Numbered.withIncident {self : MockServiceNow} (h : Numbered self) (now : ℚ)
    (shortDescription urgency : String) {configurationItem : String} {item : ConfigurationItem}
    (hitem : self.configurationItems.get configurationItem = some item) : Numbered
      (self.withIncident (self.nextIncident now shortDescription configurationItem urgency)) where
  numbers := by
    show (self.incidents ++ [_]).map Incident.number = labels _ _ (self.counter + 1)
    rw [List.map_append, h.numbers, labels_succ]
    rfl
  sysIds := by
    show (self.incidents ++ [_]).map Incident.sysId = labels _ _ (self.counter + 1)
    rw [List.map_append, h.sysIds, labels_succ]
    rfl
  known := by
    intro incident hmem
    rcases List.mem_append.mp hmem with hmem | hmem
    · exact h.known incident hmem
    · rw [List.mem_singleton.mp hmem]
      exact ⟨item, hitem⟩

/-- **Every operation** keeps the incidents numbered. -/
theorem preserves_numbered : operations.Preserves Numbered := by
  intro self op h
  rcases self.next_cases op with hnext | ⟨now, shortDescription, configurationItem, urgency,
    ⟨item, hitem⟩, hnext⟩
  · rw [hnext]
    exact h
  · rw [hnext]
    exact h.withIncident now shortDescription urgency hitem

/-- Incidents can be told apart, and each would route. -/
structure WellKept (store : MockServiceNow) : Prop where
  numbers : (store.incidents.map Incident.number).Nodup
  sysIds : (store.incidents.map Incident.sysId).Nodup
  known : ∀ incident ∈ store.incidents,
    ∃ item, store.configurationItems.get incident.configurationItem = some item

omit [Interpreter] [Calendar] in
/-- A numbered store satisfies the invariant. -/
theorem Numbered.wellKept {self : MockServiceNow} (h : Numbered self) : WellKept self where
  numbers := by
    rw [h.numbers]
    exact nodup_labels numberOf_injective numberOf_ne_seed self.counter
  sysIds := by
    rw [h.sysIds]
    exact nodup_labels sysIdOf_injective sysIdOf_ne_seed self.counter
  known := h.known

section runs

variable (ops : List Operation)

/-- The store before the call at a place of a run from a new store. -/
def reached (n : ℕ) : MockServiceNow := operations.stateAt new ops n

/-- What the calls return, or raise. -/
def returnsOf : List (Except ToolError Returned) := operations.answers new ops

variable {ops} {n : ℕ}

/-- Every store that is reached is numbered. -/
theorem numbered_reached : Numbered (reached ops n) :=
  preserves_numbered.of_start numbered_new n

/-- One operation more. -/
theorem reached_succ {op : Operation} (hop : ops[n]? = some op) :
    reached ops (n + 1) = operations.next (reached ops n) op :=
  Machine.stateAt_succ hop

/-- What an operation returns in a run. -/
theorem returnsOf_getElem? {op : Operation} (hop : ops[n]? = some op) :
    (returnsOf ops)[n]? = some (operations.answer (reached ops n) op) :=
  Machine.getElem?_answers_of_some hop

/-- **The store stays well kept** over every run. Source: `servicenow.py`, `MockServiceNow`. -/
theorem storeInvariant (ops : List Operation) :
    (∀ n, WellKept (reached ops n)) ∧
    (∀ m n, m ≤ n → (reached ops m).incidents <+: (reached ops n).incidents) ∧
    -- a call that raises
    ∀ n now shortDescription configurationItem urgency description e,
      ops[n]? =
          some (.createIncident now shortDescription configurationItem urgency description) →
        (returnsOf ops)[n]? = some (.error e) →
          (reached ops (n + 1)).incidents = (reached ops n).incidents ∧
            (reached ops (n + 1)).counter = (reached ops n).counter := by
  refine ⟨?_, ?_, ?_⟩
  · intro n
    exact numbered_reached.wellKept
  · intro m n hmn
    have hextends : Extends (reached ops m) (reached ops n) :=
      Machine.related_stateAt extends_operation hmn
    exact hextends.incidents
  · intro n now shortDescription configurationItem urgency description e hop hraises
    rw [returnsOf_getElem? hop, Option.some_inj] at hraises
    rw [reached_succ hop, next_of_refused _ rfl hraises]
    exact ⟨rfl, rfl⟩

end runs

/-! ## Reading one's writes -/

section readYourWrites

omit [Interpreter] [Calendar] in
/-- A new last element is among the first ones where there is room for it. -/
theorem mem_take_append_singleton_iff {α : Type} {xs : List α} {a : α} (h : a ∉ xs) (n : ℕ) :
    a ∈ (xs ++ [a]).take n ↔ xs.length < n := by
  constructor
  · intro hmem
    by_contra hle
    rw [List.take_append_of_le_length (Nat.le_of_not_lt hle)] at hmem
    exact h (List.mem_of_mem_take hmem)
  · intro hlt
    have hall : (xs ++ [a]).take n = xs ++ [a] := by
      apply List.take_of_length_le
      rw [List.length_append]
      exact hlt
    rw [hall]
    exact List.mem_append_right _ (List.mem_singleton_self a)

omit [Interpreter] [Calendar] in
/-- How many incidents of an item are open. -/
def openCount (self : MockServiceNow) (configurationItem : String) : ℕ :=
  self.incidents.countP fun incident =>
    incident.configurationItem = configurationItem ∧ incident.state ∉ ["6", "7"]

omit [Interpreter] [Calendar] in
/-- The open incidents of an item are counted by a search for it. -/
theorem length_matching (self : MockServiceNow) (configurationItem : String) :
    (self.matching (some configurationItem) true).length = self.openCount configurationItem := by
  unfold matching openCount
  rw [List.countP_eq_length_filter]
  congr 1
  apply List.filter_congr
  intro incident _
  simp [isOpen]

variable (ops : List Operation) (n : ℕ) (configurationItem : String) (incident : Incident)

/-- The call at a place opened this incident, for this item. -/
def Creates : Prop :=
  ∃ now shortDescription urgency description,
    ops[n]? = some (.createIncident now shortDescription configurationItem urgency description) ∧
      (returnsOf ops)[n]? = some (.ok (.created incident))

/-- A search for the item, with the arguments it has by default, finds the incident next. -/
def FindsNext : Prop :=
  ∃ found, outcome (MockServiceNow.searchIncidents (some configurationItem) true 10)
    (reached ops (n + 1)) = .ok found ∧ incident ∈ found

variable {ops n configurationItem incident}

/-- What a call that opened an incident left behind. -/
theorem Creates.reached_succ (h : Creates ops n configurationItem incident) :
    reached ops (n + 1) = (reached ops n).withIncident incident ∧
      incident.configurationItem = configurationItem ∧ isOpen incident = true := by
  obtain ⟨now, shortDescription, urgency, description, hop, hreturns⟩ := h
  rw [returnsOf_getElem? hop, Option.some_inj] at hreturns
  rw [MockServiceNow.reached_succ hop]
  rcases (reached ops n).create_cases rfl with ⟨-, hanswer, hnext⟩ | ⟨-, ⟨e, hanswer⟩, -⟩
  · rw [hanswer] at hreturns
    cases hreturns
    exact ⟨hnext, rfl, rfl⟩
  · rw [hanswer] at hreturns
    cases hreturns

/-- It was not there before: its number is new. -/
theorem Creates.not_mem (h : Creates ops n configurationItem incident) :
    incident ∉ (reached ops n).incidents := by
  intro hmem
  have hnumbers : ((reached ops (n + 1)).incidents.map Incident.number).Nodup :=
    numbered_reached.wellKept.numbers
  rw [h.reached_succ.1] at hnumbers
  have happend : ((reached ops n).withIncident incident).incidents.map Incident.number =
      (reached ops n).incidents.map Incident.number ++ [incident.number] :=
    List.map_append
  rw [happend, List.nodup_append] at hnumbers
  exact hnumbers.2.2 _ (List.mem_map_of_mem hmem) _ (List.mem_singleton_self _) rfl

/-- **When a new incident is found**: exactly when fewer than ten open incidents of its item were
there before it. Source: `servicenow.py`, `MockServiceNow.search_incidents` and
`create_incident`. -/
theorem findsCreated_iff (h : Creates ops n configurationItem incident) :
    FindsNext ops n configurationItem incident ↔
      (reached ops n).openCount configurationItem < 10 := by
  obtain ⟨hreached, hitem, hopen⟩ := h.reached_succ
  have hmatching : (reached ops (n + 1)).matching (some configurationItem) true =
      (reached ops n).matching (some configurationItem) true ++ [incident] := by
    rw [hreached]
    show List.filter _ ((reached ops n).incidents ++ [incident]) = _
    rw [List.filter_append, List.filter_singleton]
    simp [matching, hitem, hopen]
  have hnew : incident ∉ (reached ops n).matching (some configurationItem) true := by
    intro hmem
    exact h.not_mem (List.mem_filter.mp hmem).1
  have hfinds : FindsNext ops n configurationItem incident ↔ incident ∈
      ((reached ops n).matching (some configurationItem) true ++ [incident]).take 10 := by
    rw [← hmatching]
    constructor
    · rintro ⟨found, hfound, hmem⟩
      cases hfound
      exact hmem
    · intro hmem
      exact ⟨_, rfl, hmem⟩
  rw [hfinds, mem_take_append_singleton_iff hnew, length_matching]

end readYourWrites

section counting

omit [Interpreter] [Calendar] in
/-- The call is one to open an incident for the item. -/
def Operation.opensFor (configurationItem : String) : Operation → Bool
  | .createIncident _ _ ci _ _ => ci = configurationItem
  | _ => false

/-- One call more, for an item that is known. -/
theorem openCount_next {self : MockServiceNow} {configurationItem : String}
    {item : ConfigurationItem} (hitem : self.configurationItems.get configurationItem = some item)
    (op : Operation) : (operations.next self op).openCount configurationItem =
      self.openCount configurationItem + if op.opensFor configurationItem then 1 else 0 := by
  rcases op with name | ⟨searched, activeOnly, limit⟩ |
    ⟨now, shortDescription, ci, urgency, description⟩
  · rfl
  · rfl
  · rcases self.create_cases rfl with ⟨-, -, hnext⟩ | ⟨hnone, -, hnext⟩
    · rw [hnext]
      show List.countP _ (self.incidents ++ [_]) = _
      rw [List.countP_append, List.countP_singleton]
      congr 1
      simp [Operation.opensFor, nextIncident]
    · -- a call that is refused is for another item
      have hother : ci ≠ configurationItem := by
        rintro rfl
        rw [hitem] at hnone
        cases hnone
      rw [hnext]
      simp [Operation.opensFor, hother]

/-- **How many incidents of an item are open** after some calls: those of a new store, and one for
each call that opens one. -/
theorem openCount_reached {configurationItem : String} {item : ConfigurationItem}
    (hitem : new.configurationItems.get configurationItem = some item) (ops : List Operation)
    (n : ℕ) : (reached ops n).openCount configurationItem =
      new.openCount configurationItem + (ops.take n).countP (·.opensFor configurationItem) := by
  induction n with
  | zero => rfl
  | succ n ih =>
    rcases hop : ops[n]? with _ | op
    · have hstays : reached ops (n + 1) = reached ops n := Machine.stateAt_succ_of_none hop
      rw [hstays, ih, List.take_add_one, hop]
      simp
    · have hextends : Extends new (reached ops n) :=
        Machine.related_stateAt extends_operation (Nat.zero_le n)
      rw [← hextends.items] at hitem
      rw [reached_succ hop, openCount_next hitem, ih, List.take_add_one, hop, List.countP_append,
        Nat.add_assoc]
      congr 2
      simp [List.countP_singleton]

end counting

/-! ## Two runs -/

section instances

omit [Interpreter] [Calendar]

/-- An incident against a system without any, and one against an unknown system. -/
def oneOfTwo : List Operation :=
  [.createIncident 0 "test" "CI-TMS-02" "2" "", .createIncident 0 "test" "CI-NOPE" "2" ""]

/-- Ten incidents against the system that has one already. -/
def tenIncidents : List Operation :=
  List.replicate 10 (.createIncident 0 "latency" "CI-WMS-01" "3" "")

/-- The first one is found. -/
theorem findsCreated_oneOfTwo : ∃ incident,
    @FindsNext plainInterpreter plainCalendar oneOfTwo 0 "CI-TMS-02" incident := by
  refine ⟨_, (@findsCreated_iff plainInterpreter plainCalendar oneOfTwo 0 "CI-TMS-02" _
    ⟨0, "test", "2", "", rfl, rfl⟩).mpr ?_⟩
  show (@reached plainInterpreter plainCalendar oneOfTwo 0).openCount "CI-TMS-02" < 10
  decide

/-- **The failing input**: the tenth of them is not found. -/
theorem not_findsCreated_of_ten :
    ¬∀ ops n configurationItem incident,
      @Creates plainInterpreter plainCalendar ops n configurationItem incident →
        @FindsNext plainInterpreter plainCalendar ops n configurationItem incident := by
  intro h
  obtain ⟨found, hfound, hmem⟩ :=
    h tenIncidents 9 "CI-WMS-01" _ ⟨0, "latency", "3", "", rfl, rfl⟩
  cases hfound
  revert hmem
  decide

/-- The refused one leaves the store with the seed and the first one. -/
theorem storeInvariant_oneOfTwo :
    WellKept (@reached plainInterpreter plainCalendar oneOfTwo 2) ∧
      (@reached plainInterpreter plainCalendar oneOfTwo 2).counter = 1 := by
  obtain ⟨hkept, -, hrefused⟩ := @storeInvariant plainInterpreter plainCalendar oneOfTwo
  refine ⟨hkept 2, ?_⟩
  rw [(hrefused 1 0 "test" "CI-NOPE" "2" "" _ rfl rfl).2]
  rfl

end instances

end MockServiceNow

end GovernedMcp
