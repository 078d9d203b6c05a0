import Mathlib.Data.List.Induction
import GovernedMcp.Lib.Machine
import GovernedMcp.Lib.Stateful

/-!
# Threads that share a machine

A thread asks a machine for one thing after the other, and others may be served in between.

* `Thread.run`: a thread that nothing gets in between. `CarriesOut`: it does what a computation on a
  state does; the rules go by the way the computation is put together.
* `Pool`: threads at work and the state they share. `interleaved` gives them their turns, in any
  order, and lets others in as well.
* `ActsLast`: all that a thread asks before its last question is `Fixed`, so that it does not matter
  when it was asked.
* **`exists_serialises`**: threads that act last might as well have been run one at a time.
  `Serialises` says in which order.
* `finished_of_turns`: a thread that has had enough turns is finished.
-/

namespace GovernedMcp.Lib

/-- What is left of a computation that asks questions `ι`, with answers `ω`. -/
inductive Thread (ι ω α : Type) where
  | done (a : α)
  /-- A step of its own. -/
  | pause (next : Thread ι ω α)
  | ask (i : ι) (next : ω → Thread ι ω α)

namespace Thread

variable {σ ι ω ε α β : Type}

protected def bind : Thread ι ω α → (α → Thread ι ω β) → Thread ι ω β
  | .done a, f => f a
  | .pause t, f => .pause (t.bind f)
  | .ask i next, f => .ask i fun w => (next w).bind f

instance : Monad (Thread ι ω) where
  pure := .done
  bind := Thread.bind

/-- One question, and what is made of the answer. -/
def asks (i : ι) (f : ω → Except ε α) : ExceptT ε (Thread ι ω) α := .ask i fun w => .done (f w)

/-! ## A thread on its own -/

section alone

variable (M : Machine σ ι ω)

/-- The thread from beginning to end, with nothing in between: its result, and the state it
leaves. -/
def run : Thread ι ω α → σ → α × σ
  | .done a, s => (a, s)
  | .pause t, s => t.run s
  | .ask i next, s => (next (M.answer s i)).run (M.next s i)

/-- A sequence runs its second part from where the first has left off. -/
theorem run_bind (t : Thread ι ω α) (f : α → Thread ι ω β) (s : σ) :
    (t >>= f).run M s = (f (t.run M s).1).run M (t.run M s).2 := by
  show (t.bind f).run M s = _
  induction t generalizing s with
  | done a => rfl
  | pause t ih => exact ih s
  | ask i next ih => exact ih (M.answer s i) (M.next s i)

/-- The thread carries a computation out. -/
def CarriesOut (t : ExceptT ε (Thread ι ω) α) (x : EStateM ε σ α) : Prop :=
  ∀ s, t.run.run M s = (Stateful.outcome x s, Stateful.after x s)

namespace CarriesOut

variable {M}

/-- A value is carried out by giving it. -/
theorem pure (a : α) : CarriesOut M (Pure.pure a : ExceptT ε (Thread ι ω) α) (Pure.pure a) :=
  fun _ => rfl

/-- An exception is carried out by raising it. -/
theorem throw (e : ε) : CarriesOut M (MonadExcept.throw e : ExceptT ε (Thread ι ω) α)
    (MonadExcept.throw e) :=
  fun _ => rfl

/-- One request carries out a computation that makes it and reads the answer. -/
theorem asks {i : ι} {f : ω → Except ε α} {x : EStateM ε σ α}
    (houtcome : ∀ s, Stateful.outcome x s = f (M.answer s i))
    (hafter : ∀ s, Stateful.after x s = M.next s i) : CarriesOut M (Thread.asks i f) x := by
  intro s
  rw [houtcome, hafter]
  rfl

/-- **Composition.** -/
theorem bind {t : ExceptT ε (Thread ι ω) α} {f : α → ExceptT ε (Thread ι ω) β}
    {x : EStateM ε σ α} {g : α → EStateM ε σ β} (h : CarriesOut M t x)
    (hf : ∀ a, CarriesOut M (f a) (g a)) : CarriesOut M (t >>= f) (x >>= g) := by
  intro s
  have hbind := run_bind M t.run (ExceptT.bindCont f) s
  have hx := h s
  refine hbind.trans ?_
  rw [hx]
  cases houtcome : Stateful.outcome x s with
  | ok a =>
    rw [Stateful.outcome_bind_of_ok houtcome, Stateful.after_bind_of_ok houtcome]
    exact hf a _
  | error e =>
    rw [Stateful.outcome_bind, houtcome, Stateful.after_bind_of_error houtcome]
    rfl

end CarriesOut

/-! ### One step -/

/-- The next step: what is left, and the state after it. -/
def step : Thread ι ω α → σ → Thread ι ω α × σ
  | .done a, s => (.done a, s)
  | .pause t, s => (t, s)
  | .ask i next, s => (next (M.answer s i), M.next s i)

/-- What is left ends as the whole would have. -/
theorem run_step (t : Thread ι ω α) (s : σ) : (t.step M s).1.run M (t.step M s).2 = t.run M s := by
  cases t <;> rfl

/-- A last part that only puts the value into another form. -/
theorem run_bind_pure (t : ExceptT ε (Thread ι ω) α) (f : α → β) :
    (t >>= fun a => pure (f a)).run = t.run >>= fun r => pure (r.map f) := by
  show t.run >>= ExceptT.bindCont (fun a => pure (f a)) = _
  congr 1
  funext r
  cases r <;> rfl

/-- It takes no more than so many steps. -/
inductive EndsWithin : ℕ → Thread ι ω α → Prop where
  | done (n : ℕ) (a : α) : EndsWithin n (.done a)
  | pause {n : ℕ} {t : Thread ι ω α} (h : EndsWithin n t) : EndsWithin (n + 1) (.pause t)
  | ask {n : ℕ} {next : ω → Thread ι ω α} (i : ι) (h : ∀ w, EndsWithin n (next w)) :
    EndsWithin (n + 1) (.ask i next)

variable {M}

/-- After a step there is one step less to go. -/
theorem EndsWithin.step {n : ℕ} {t : Thread ι ω α} (h : EndsWithin (n + 1) t) (s : σ) :
    EndsWithin n (t.step M s).1 := by
  cases h with
  | done n a => exact .done n a
  | pause h => exact h
  | ask i h => exact h (M.answer s i)

end alone

end Thread

/-! ## Threads at work -/

/-- Whose turn it is. Others than the threads may ask too. -/
inductive Turn (ι : Type) where
  | thread (n : ℕ)
  | other (i : ι)

namespace Turn

variable {ι : Type}

def thread? : Turn ι → Option ℕ
  | .thread n => some n
  | .other _ => none

def other? : Turn ι → Option ι
  | .thread _ => none
  | .other i => some i

/-- A turn of a thread has one. -/
@[simp] theorem thread?_thread (n : ℕ) : (thread n : Turn ι).thread? = some n := rfl

/-- A turn of somebody else has none. -/
@[simp] theorem thread?_other (i : ι) : (other i).thread? = none := rfl

/-- A turn of a thread has no input of somebody else. -/
@[simp] theorem other?_thread (n : ℕ) : (thread n : Turn ι).other? = none := rfl

/-- A turn of somebody else has its input. -/
@[simp] theorem other?_other (i : ι) : (other i).other? = some i := rfl

/-- The threads that had a turn. -/
theorem mem_filterMap_thread? {turns : List (Turn ι)} {n : ℕ} :
    n ∈ turns.filterMap thread? ↔ .thread n ∈ turns := by
  rw [List.mem_filterMap]
  constructor
  · rintro ⟨turn, hturn, hn⟩
    cases turn with
    | thread m => exact Option.some.inj hn ▸ hturn
    | other i => cases hn
  · exact fun h => ⟨.thread n, h, rfl⟩

end Turn

/-- What is left of the threads, and the state they share. -/
structure Pool (σ ι ω α : Type) where
  threads : List (Thread ι ω α)
  shared : σ

section pool

variable {σ ι ω α : Type} (M : Machine σ ι ω)

/-- A turn of a pool. -/
def Pool.turn (self : Pool σ ι ω α) : Turn ι → Pool σ ι ω α
  | .other i => { self with shared := M.next self.shared i }
  | .thread n =>
    match self.threads[n]? with
    | some t => { threads := self.threads.set n (t.step M self.shared).1
                  shared := (t.step M self.shared).2 }
    | none => self

/-- Any number of turns, in any order. -/
def interleaved (pool : Pool σ ι ω α) (turns : List (Turn ι)) : Pool σ ι ω α :=
  turns.foldl (Pool.turn M) pool

/-- The same threads one at a time: where one gets its turn, it runs from beginning to end. -/
def oneAtATime (threads : List (Thread ι ω α)) : Machine σ (Turn ι) (Option α) where
  answer s
    | .thread n => threads[n]?.map fun t => (t.run M s).1
    | .other _ => none
  next s
    | .thread n =>
      match threads[n]? with
      | some t => (t.run M s).2
      | none => s
    | .other i => M.next s i

variable {M}

/-- One turn more. -/
theorem interleaved_append (pool : Pool σ ι ω α) (turns : List (Turn ι)) (turn : Turn ι) :
    interleaved M pool (turns ++ [turn]) = (interleaved M pool turns).turn M turn := by
  simp [interleaved, List.foldl_append]

/-- A turn of a thread is one step of it. -/
theorem Pool.turn_thread {pool : Pool σ ι ω α} {n : ℕ} {t : Thread ι ω α}
    (h : pool.threads[n]? = some t) : pool.turn M (.thread n) =
      ⟨pool.threads.set n (t.step M pool.shared).1, (t.step M pool.shared).2⟩ := by
  simp [Pool.turn, h]

/-- A turn of a thread that is not there does nothing. -/
theorem Pool.turn_thread_of_none {pool : Pool σ ι ω α} {n : ℕ} (h : pool.threads[n]? = none) :
    pool.turn M (.thread n) = pool := by
  simp [Pool.turn, h]

/-- A turn takes a thread one step further, or leaves it alone. -/
theorem Pool.getElem?_turn {pool : Pool σ ι ω α} {n : ℕ} {t : Thread ι ω α}
    (h : pool.threads[n]? = some t) (turn : Turn ι) :
    (pool.turn M turn).threads[n]? =
      some (if turn.thread? = some n then (t.step M pool.shared).1 else t) := by
  cases turn with
  | other i => exact h
  | thread m =>
    by_cases hmn : m = n
    · subst hmn
      obtain ⟨hlt, -⟩ := List.getElem?_eq_some_iff.mp h
      rw [Pool.turn_thread h, Turn.thread?_thread, if_pos rfl]
      exact List.getElem?_set_self hlt
    · rw [Turn.thread?_thread, if_neg fun heq => hmn (Option.some.inj heq)]
      cases hm : pool.threads[m]? with
      | none => rwa [Pool.turn_thread_of_none hm]
      | some t' =>
        rw [Pool.turn_thread hm]
        exact (List.getElem?_set_ne hmn).trans h

/-- **Progress**: a thread that has had as many turns as it takes steps is finished. -/
theorem finished_of_turns {pool : Pool σ ι ω α} {turns : List (Turn ι)} {n d : ℕ}
    {t : Thread ι ω α} (h : pool.threads[n]? = some t) (hends : t.EndsWithin d)
    (hturns : d ≤ (turns.filterMap Turn.thread?).count n) :
    ∃ a, (interleaved M pool turns).threads[n]? = some (.done a) := by
  induction turns generalizing pool d t with
  | nil =>
    cases hends with
    | done _ a => exact ⟨a, h⟩
    | pause => simp at hturns
    | ask => simp at hturns
  | cons turn turns ih =>
    have hturn := Pool.getElem?_turn (M := M) h turn
    by_cases hn : turn.thread? = some n
    · rw [if_pos hn] at hturn
      rw [List.filterMap_cons_some hn, List.count_cons_self] at hturns
      cases d with
      | zero =>
        cases hends with
        | done _ a => exact ih hturn (.done 0 a) (Nat.zero_le _)
      | succ d => exact ih hturn (hends.step pool.shared) (Nat.le_of_succ_le_succ hturns)
    · rw [if_neg hn] at hturn
      refine ih hturn hends ?_
      cases hm : turn.thread? with
      | none => rwa [List.filterMap_cons_none hm] at hturns
      | some m =>
        have hne : m ≠ n := fun heq => hn (hm.trans (congrArg some heq))
        rwa [List.filterMap_cons_some hm, List.count_cons_of_ne hne] at hturns

end pool

/-! ## Acting last -/

section serial

variable {σ ι ω α : Type} {M : Machine σ ι ω} {scope : ι → Prop}

/-- A question that changes nothing, with an answer that nothing within the scope changes. -/
structure Fixed (M : Machine σ ι ω) (scope : ι → Prop) (i : ι) : Prop where
  next : ∀ s, M.next s i = s
  answer : ∀ s j, scope j → M.answer (M.next s j) i = M.answer s i

/-- A fixed question has the same answer after inputs of the scope. -/
theorem Fixed.answer_final {i : ι} (h : Fixed M scope i) (s : σ) {inputs : List ι}
    (hinputs : ∀ j ∈ inputs, scope j) : M.answer (M.final s inputs) i = M.answer s i := by
  induction inputs generalizing s with
  | nil => rfl
  | cons j inputs ih =>
    obtain ⟨hj, hinputs⟩ := List.forall_mem_cons.mp hinputs
    exact (ih (M.next s j) hinputs).trans (h.answer s j hj)

/-- All questions but the last are fixed ones, and there are no more than so many steps. -/
inductive ActsLast (M : Machine σ ι ω) (scope : ι → Prop) : ℕ → Thread ι ω α → Prop where
  | done (n : ℕ) (a : α) : ActsLast M scope n (.done a)
  | pause {n : ℕ} {t : Thread ι ω α} (h : ActsLast M scope n t) :
    ActsLast M scope (n + 1) (.pause t)
  | early {n : ℕ} {i : ι} {next : ω → Thread ι ω α} (hi : Fixed M scope i)
    (h : ∀ w, ActsLast M scope n (next w)) : ActsLast M scope (n + 1) (.ask i next)
  | last {n : ℕ} {i : ι} {next : ω → Thread ι ω α} (hi : scope i) (h : ∀ w, ∃ a, next w = .done a) :
    ActsLast M scope (n + 1) (.ask i next)

namespace ActsLast

variable {ε β : Type} {n : ℕ}

/-- A thread that acts last ends. -/
theorem endsWithin {t : Thread ι ω α} (h : ActsLast M scope n t) : t.EndsWithin n := by
  induction h with
  | done n a => exact .done n a
  | pause h ih => exact .pause ih
  | @early n i next hi h ih => exact .ask i ih
  | @last n i next hi h =>
    refine .ask i fun w => ?_
    obtain ⟨a, ha⟩ := h w
    rw [ha]
    exact .done n a

/-- A last part that only puts the result into another form. -/
theorem map {t : Thread ι ω α} (h : ActsLast M scope n t) (f : α → β) :
    ActsLast M scope n (t >>= fun a => Pure.pure (f a)) := by
  induction h with
  | done n a => exact .done n (f a)
  | pause h ih => exact .pause ih
  | early hi h ih => exact .early hi ih
  | @last n i next hi h =>
    refine .last hi fun w => ?_
    obtain ⟨a, ha⟩ := h w
    exact ⟨f a, by rw [ha]; rfl⟩

/-- What is done with a result afterwards does not matter. -/
theorem map_ok {t : ExceptT ε (Thread ι ω) α} (h : ActsLast M scope n t.run) (f : α → β) :
    ActsLast M scope n (t >>= fun a => Pure.pure (f a)).run := by
  rw [Thread.run_bind_pure]
  exact h.map _

/-- A single request comes last. -/
theorem asks {i : ι} (hi : scope i) (f : ω → Except ε α) :
    ActsLast M scope (n + 1) (Thread.asks i f).run :=
  .last hi fun w => ⟨f w, rfl⟩

/-- A fixed question, and what comes after it unless it raises. -/
theorem bind {i : ι} (hi : Fixed M scope i) (f : ω → Except ε α)
    {g : α → ExceptT ε (Thread ι ω) β} (h : ∀ a, ActsLast M scope n (g a).run) :
    ActsLast M scope (n + 1) (Thread.asks i f >>= g).run := by
  refine .early hi fun w => ?_
  show ActsLast M scope n (ExceptT.bindCont g (f w))
  cases f w with
  | ok a => exact h a
  | error e => exact .done n (Except.error e)

end ActsLast

/-- What is left of a thread ends as the whole one, from here and from wherever the scope leads. -/
def Leads (M : Machine σ ι ω) (scope : ι → Prop) (whole left : Thread ι ω α) (s : σ) : Prop :=
  ∀ inputs, (∀ i ∈ inputs, scope i) →
    left.run M (M.final s inputs) = whole.run M (M.final s inputs)

/-- What is left ends as the whole thread, after inputs of the scope, too. -/
theorem Leads.final {whole left : Thread ι ω α} {s : σ} (h : Leads M scope whole left s)
    {inputs : List ι} (hinputs : ∀ i ∈ inputs, scope i) :
    Leads M scope whole left (M.final s inputs) := by
  intro later hlater
  have hboth := h (inputs ++ later) (List.forall_mem_append.mpr ⟨hinputs, hlater⟩)
  rwa [Machine.final_append] at hboth

/-- **A step of a thread that acts last**: nothing is changed, and it does not matter when the step
is taken; or it is the last one. -/
theorem ActsLast.step_cases {n : ℕ} {t : Thread ι ω α} (h : ActsLast M scope n t) (s : σ) :
    ((t.step M s).2 = s ∧ (∃ m, ActsLast M scope m (t.step M s).1) ∧
        ∀ whole, Leads M scope whole t s → Leads M scope whole (t.step M s).1 s) ∨
      ∃ i a, scope i ∧ t.step M s = (.done a, M.next s i) := by
  cases h with
  | done n a => exact Or.inl ⟨rfl, ⟨n, .done n a⟩, fun _ => id⟩
  | pause h => exact Or.inl ⟨rfl, ⟨_, h⟩, fun _ => id⟩
  | @early n i next hi h =>
    refine Or.inl ⟨hi.next s, ⟨n, h _⟩, fun whole hleads inputs hinputs => ?_⟩
    rw [← hleads inputs hinputs]
    show _ = (next (M.answer (M.final s inputs) i)).run M (M.next (M.final s inputs) i)
    rw [hi.answer_final s hinputs, hi.next]
    rfl
  | @last n i next hi h =>
    obtain ⟨a, ha⟩ := h (M.answer s i)
    exact Or.inr ⟨i, a, hi, Prod.ext ha rfl⟩

/-! ## One at a time -/

/-- An order of some of the turns: each thread comes once at most, and of the others none is left
out. -/
structure Orders (turns order : List (Turn ι)) : Prop where
  sublist : order.Sublist turns
  others : order.filterMap Turn.other? = turns.filterMap Turn.other?
  once : (order.filterMap Turn.thread?).Nodup

/-- A turn of a thread may be left out of the order. -/
theorem Orders.skip {turns order : List (Turn ι)} (h : Orders turns order) (n : ℕ) :
    Orders (turns ++ [.thread n]) order where
  sublist := h.sublist.trans (List.sublist_append_left turns _)
  others := by simp [h.others]
  once := h.once

/-- Or added to it, unless the thread is in the order already. -/
theorem Orders.add {turns order : List (Turn ι)} (h : Orders turns order) {turn : Turn ι}
    (hnew : ∀ n, turn = .thread n → .thread n ∉ order) :
    Orders (turns ++ [turn]) (order ++ [turn]) where
  sublist := h.sublist.append (List.Sublist.refl _)
  others := by simp [h.others]
  once := by
    rw [List.filterMap_append]
    cases turn with
    | other i =>
      show (order.filterMap Turn.thread? ++ []).Nodup
      rw [List.append_nil]
      exact h.once
    | thread n =>
      show (order.filterMap Turn.thread? ++ [n]).Nodup
      refine List.nodup_append.mpr ⟨h.once, List.pairwise_singleton _ n, ?_⟩
      intro m hm k hk heq
      rw [heq, List.mem_singleton.mp hk] at hm
      exact hnew n rfl (Turn.mem_filterMap_thread?.mp hm)

/-- What has come of a thread. -/
inductive Standing (M : Machine σ ι ω) (scope : ι → Prop) (threads : List (Thread ι ω α)) (s : σ)
    (order : List (Turn ι)) (n : ℕ) (whole : Thread ι ω α) (now : σ) : Thread ι ω α → Prop where
  /-- It has done nothing so far. -/
  | working {left : Thread ι ω α} (hleft : ∀ a, left ≠ .done a)
    (hacts : ∃ d, ActsLast M scope d left) (hleads : Leads M scope whole left now)
    (hout : .thread n ∉ order) : Standing M scope threads s order n whole now left
  /-- It might as well have run at its place in the order. -/
  | finished {a : α} (earlier later : List (Turn ι))
    (hplace : order = earlier ++ .thread n :: later)
    (hresult : (whole.run M ((oneAtATime M threads).final s earlier)).1 = a) :
    Standing M scope threads s order n whole now (.done a)

/-- What others do does not matter. -/
theorem Standing.frame {threads : List (Thread ι ω α)} {s now : σ} {order : List (Turn ι)} {n : ℕ}
    {whole left : Thread ι ω α} (h : Standing M scope threads s order n whole now left)
    {inputs : List ι} (hinputs : ∀ i ∈ inputs, scope i) {added : List (Turn ι)}
    (hadded : .thread n ∉ added) :
    Standing M scope threads s (order ++ added) n whole (M.final now inputs) left := by
  cases h with
  | working hleft hacts hleads hout =>
    exact .working hleft hacts (hleads.final hinputs) fun hmem =>
      (List.mem_append.mp hmem).elim hout hadded
  | finished earlier later hplace hresult =>
    refine .finished earlier (later ++ added) ?_ hresult
    rw [hplace, List.append_assoc, List.cons_append]

/-- The threads at work, and an order in which they might as well have run one at a time. -/
structure Serial (M : Machine σ ι ω) (scope : ι → Prop) (threads : List (Thread ι ω α)) (s : σ)
    (turns order : List (Turn ι)) (pool : Pool σ ι ω α) : Prop extends Orders turns order where
  shared : pool.shared = (oneAtATime M threads).final s order
  length : pool.threads.length = threads.length
  known : ∀ n, .thread n ∈ order → n < threads.length
  standing : ∀ n whole, threads[n]? = some whole → ∃ left, pool.threads[n]? = some left ∧
    Standing M scope threads s order n whole pool.shared left

namespace Serial

variable {threads : List (Thread ι ω α)} {s : σ} {turns order : List (Turn ι)} {pool : Pool σ ι ω α}

/-- Before the first turn nothing is ordered, and no thread has acted. -/
theorem start {d : ℕ} (hleft : ∀ t ∈ threads, ∀ a, t ≠ .done a)
    (hacts : ∀ t ∈ threads, ActsLast M scope d t) :
    Serial M scope threads s [] [] ⟨threads, s⟩ where
  sublist := List.Sublist.refl _
  others := rfl
  once := List.nodup_nil
  shared := rfl
  length := rfl
  known _ h := absurd h List.not_mem_nil
  standing n whole hn := by
    have hmem := List.mem_of_getElem? hn
    exact ⟨whole, hn, .working (hleft whole hmem) ⟨d, hacts whole hmem⟩
      (fun _ _ => rfl) List.not_mem_nil⟩

/-- Somebody else asks. -/
theorem turn_other (h : Serial M scope threads s turns order pool) {i : ι} (hi : scope i) :
    Serial M scope threads s (turns ++ [.other i]) (order ++ [.other i])
      (pool.turn M (.other i)) where
  toOrders := h.add nofun
  shared := by
    rw [Machine.final_append, ← h.shared]
    rfl
  length := h.length
  known n hn := h.known n (by simpa using hn)
  standing n whole hn := by
    obtain ⟨left, hleft, hstanding⟩ := h.standing n whole hn
    have hinputs : ∀ j ∈ [i], scope j := List.forall_mem_singleton.mpr hi
    exact ⟨left, hleft, hstanding.frame hinputs (by simp)⟩

/-- A thread is taken further, and the others do not mind. -/
theorem replace (h : Serial M scope threads s turns order pool) {n : ℕ} {whole left : Thread ι ω α}
    (hn : threads[n]? = some whole) {inputs : List ι} (hinputs : ∀ i ∈ inputs, scope i)
    {turns' added : List (Turn ι)} (hadded : ∀ turn ∈ added, turn = .thread n)
    (horders : Orders turns' (order ++ added))
    (hshared : M.final pool.shared inputs = (oneAtATime M threads).final pool.shared added)
    (hstanding : Standing M scope threads s (order ++ added) n whole (M.final pool.shared inputs)
      left) :
    Serial M scope threads s turns' (order ++ added)
      ⟨pool.threads.set n left, M.final pool.shared inputs⟩ where
  toOrders := horders
  shared := by
    rw [Machine.final_append, ← h.shared]
    exact hshared
  length := List.length_set.trans h.length
  known m hm := by
    rcases List.mem_append.mp hm with hm | hm
    · exact h.known m hm
    · cases hadded _ hm
      exact (List.getElem?_eq_some_iff.mp hn).1
  standing m whole' hm := by
    by_cases hnm : n = m
    · subst hnm
      cases hn.symm.trans hm
      refine ⟨left, List.getElem?_set_self ?_, hstanding⟩
      rw [h.length]
      exact (List.getElem?_eq_some_iff.mp hn).1
    · obtain ⟨left', hleft', hstanding'⟩ := h.standing m whole' hm
      refine ⟨left', (List.getElem?_set_ne hnm).trans hleft', hstanding'.frame hinputs ?_⟩
      intro hmem
      cases hadded _ hmem
      exact hnm rfl

/-- A thread takes its last step. This is its place in the order. -/
theorem finish (h : Serial M scope threads s turns order pool) {n : ℕ} {whole left : Thread ι ω α}
    (hn : threads[n]? = some whole) (hleads : Leads M scope whole left pool.shared)
    (hout : .thread n ∉ order) {inputs : List ι} (hinputs : ∀ i ∈ inputs, scope i) {a : α}
    (hstep : left.step M pool.shared = (.done a, M.final pool.shared inputs)) :
    Serial M scope threads s (turns ++ [.thread n]) (order ++ [.thread n])
      ⟨pool.threads.set n (.done a), M.final pool.shared inputs⟩ := by
  have hrun : whole.run M pool.shared = (a, M.final pool.shared inputs) := by
    have hleft := left.run_step M pool.shared
    rw [hstep] at hleft
    exact (hleads [] (by simp)).symm.trans hleft.symm
  refine h.replace hn hinputs (by simp) (h.add fun m hm => ?_) ?_ ?_
  · cases hm
    exact hout
  · show _ = (oneAtATime M threads).next pool.shared (.thread n)
    unfold oneAtATime
    simp only [hn, hrun]
  · refine .finished order [] rfl ?_
    rw [← h.shared, hrun]

/-- It is a thread's turn. -/
theorem turn_thread (h : Serial M scope threads s turns order pool) (n : ℕ) : ∃ order',
    Serial M scope threads s (turns ++ [.thread n]) order' (pool.turn M (.thread n)) := by
  cases hleft : pool.threads[n]? with
  | none =>
    rw [Pool.turn_thread_of_none hleft]
    exact ⟨order, { h with toOrders := h.toOrders.skip n }⟩
  | some left =>
    rw [Pool.turn_thread hleft]
    have hlt : n < threads.length := h.length ▸ (List.getElem?_eq_some_iff.mp hleft).1
    have hn : threads[n]? = some threads[n] := List.getElem?_eq_getElem hlt
    obtain ⟨left', hleft', hstanding⟩ := h.standing n _ hn
    cases hleft'.symm.trans hleft
    have hskip : Orders (turns ++ [.thread n]) (order ++ []) := by
      rw [List.append_nil]
      exact h.toOrders.skip n
    have hquiet : ∀ i ∈ ([] : List ι), scope i := by simp
    cases hstanding with
    | finished earlier later hplace hresult =>
      exact ⟨_, h.replace hn hquiet (by simp) hskip rfl
        (.finished earlier later ((List.append_nil _).trans hplace) hresult)⟩
    | working hworking hacts hleads hout =>
      obtain ⟨d, hacts⟩ := hacts
      rcases hacts.step_cases pool.shared with ⟨hsame, hacts', hleads'⟩ | ⟨i, a, hi, hstep⟩
      · rw [hsame]
        by_cases hdone : ∃ a, (left.step M pool.shared).1 = .done a
        · obtain ⟨a, ha⟩ := hdone
          rw [ha]
          exact ⟨_, h.finish hn hleads hout hquiet (Prod.ext ha hsame)⟩
        · refine ⟨_, h.replace hn hquiet (by simp) hskip rfl
            (.working (not_exists.mp hdone) hacts' (hleads' _ hleads) ?_)⟩
          rwa [List.append_nil]
      · rw [hstep]
        exact ⟨_, h.finish hn hleads hout (List.forall_mem_singleton.mpr hi) hstep⟩

end Serial

/-- What came of the threads could have come of running them one at a time, in that order. -/
structure Serialises (S : Machine σ (Turn ι) (Option α)) (s : σ) (turns order : List (Turn ι))
    (pool : Pool σ ι ω α) : Prop extends Orders turns order where
  shared : pool.shared = S.final s order
  /-- The threads of the order are finished. -/
  finished : ∀ n, .thread n ∈ order → ∃ a, pool.threads[n]? = some (.done a)
  /-- Every thread that is finished has its place in the order, and the result from there. -/
  result : ∀ n a, pool.threads[n]? = some (.done a) → ∃ earlier later,
    order = earlier ++ .thread n :: later ∧ S.answer (S.final s earlier) (.thread n) = some a

/-- The invariant gives what is claimed. -/
theorem Serial.serialises {threads : List (Thread ι ω α)} {s : σ} {turns order : List (Turn ι)}
    {pool : Pool σ ι ω α} (h : Serial M scope threads s turns order pool) :
    Serialises (oneAtATime M threads) s turns order pool where
  toOrders := h.toOrders
  shared := h.shared
  finished n hn := by
    have hwhole := List.getElem?_eq_getElem (h.known n hn)
    obtain ⟨left, hleft, hstanding⟩ := h.standing n _ hwhole
    cases hstanding with
    | working hworking hacts hleads hout => exact absurd hn hout
    | finished earlier later hplace hresult => exact ⟨_, hleft⟩
  result n a ha := by
    have hlt : n < threads.length := h.length ▸ (List.getElem?_eq_some_iff.mp ha).1
    have hwhole := List.getElem?_eq_getElem hlt
    obtain ⟨left, hleft, hstanding⟩ := h.standing n _ hwhole
    cases hleft.symm.trans ha
    cases hstanding with
    | working hworking hacts hleads hout => exact absurd rfl (hworking a)
    | finished earlier later hplace hresult =>
      refine ⟨earlier, later, hplace, ?_⟩
      show threads[n]?.map _ = _
      rw [hwhole]
      exact congrArg some hresult

/-- **Threads that act last might as well run one at a time**, whatever their turns, and in whatever
way others get in between. -/
theorem exists_serialises {threads : List (Thread ι ω α)} {d : ℕ}
    (hleft : ∀ t ∈ threads, ∀ a, t ≠ .done a) (hacts : ∀ t ∈ threads, ActsLast M scope d t) (s : σ)
    {turns : List (Turn ι)} (hothers : ∀ i, .other i ∈ turns → scope i) :
    ∃ order, Serialises (oneAtATime M threads) s turns order
      (interleaved M ⟨threads, s⟩ turns) := by
  have hserial : ∃ order, Serial M scope threads s turns order
      (interleaved M ⟨threads, s⟩ turns) := by
    induction turns using List.reverseRecOn with
    | nil => exact ⟨[], .start hleft hacts⟩
    | append_singleton turns turn ih =>
      obtain ⟨order, h⟩ := ih fun i hi => hothers i (List.mem_append_left _ hi)
      rw [interleaved_append]
      cases turn with
      | other i => exact ⟨_, h.turn_other (hothers i (by simp))⟩
      | thread n => exact h.turn_thread n
  obtain ⟨order, h⟩ := hserial
  exact ⟨order, h.serialises⟩

end serial

end GovernedMcp.Lib
