import GovernedMcp.Lib.Machine

/-!
# Machines behind a guard

A guard looks at an input, and at nothing else, and either lets it through or answers it itself.
What the machine behind it does over a run is what it does on the inputs that were let through.

* `Guards G M`: `G` is `M` behind a guard. `Guards.final` and `Guards.answers` compare their runs;
  `Guards.relative` compares two guards of one machine.
* `exists_journal`: where a step adds one thing at most to what is kept, and the input accounts for
  it, everything that a run has added is accounted for by an input of its own, in order.
-/

namespace GovernedMcp.Lib.Machine

variable {σ ι ω ω' τ : Type}

/-- `G` works like `M` on the inputs that pass, up to what it shows of the answer; to the others it
answers itself. -/
structure Guards (G : Machine σ ι ω') (M : Machine σ ι ω) (passes : ι → Bool) (shown : ι → ω → ω')
    (refusal : ι → ω') : Prop where
  next_of_passes : ∀ s i, passes i = true → G.next s i = M.next s i
  answer_of_passes : ∀ s i, passes i = true → G.answer s i = shown i (M.answer s i)
  next_of_refused : ∀ s i, passes i = false → G.next s i = s
  answer_of_refused : ∀ s i, passes i = false → G.answer s i = refusal i

/-- The answers of a machine, in the places of the inputs that passed, and refusals in the others.
-/
def weave (passes : ι → Bool) (shown : ι → ω → ω') (refusal : ι → ω') : List ι → List ω → List ω'
  | [], _ => []
  | i :: inputs, answers =>
    if passes i then
      match answers with
      | [] => []
      | o :: answers => shown i o :: weave passes shown refusal inputs answers
    else refusal i :: weave passes shown refusal inputs answers

section guards

variable {G : Machine σ ι ω'} {M : Machine σ ι ω} {passes : ι → Bool} {shown : ι → ω → ω'}
  {refusal : ι → ω'}

/-- An input that gets through takes the next answer, as it is shown. -/
theorem weave_of_passes {i : ι} (h : passes i = true) (inputs : List ι) (o : ω) (os : List ω) :
    weave passes shown refusal (i :: inputs) (o :: os) =
      shown i o :: weave passes shown refusal inputs os := by
  simp [weave, h]

/-- One that does not takes its refusal. -/
theorem weave_of_refused {i : ι} (h : passes i = false) (inputs : List ι) (os : List ω) :
    weave passes shown refusal (i :: inputs) os =
      refusal i :: weave passes shown refusal inputs os := by
  simp [weave, h]

/-- **A run behind a guard** leads where the inputs that passed lead without it. -/
theorem Guards.final (h : Guards G M passes shown refusal) (s : σ) (inputs : List ι) :
    G.final s inputs = M.final s (inputs.filter passes) := by
  induction inputs generalizing s with
  | nil => rfl
  | cons i inputs ih =>
    have hcons : G.final s (i :: inputs) = G.final (G.next s i) inputs := rfl
    rw [hcons, ih, List.filter_cons]
    cases hi : passes i with
    | true =>
      rw [h.next_of_passes s i hi]
      rfl
    | false =>
      rw [h.next_of_refused s i hi]
      rfl

/-- **Its answers** are those to the inputs that passed, with the refusals in between. -/
theorem Guards.answers (h : Guards G M passes shown refusal) (s : σ) (inputs : List ι) :
    G.answers s inputs =
      weave passes shown refusal inputs (M.answers s (inputs.filter passes)) := by
  induction inputs generalizing s with
  | nil => rfl
  | cons i inputs ih =>
    rw [Machine.answers, ih, List.filter_cons]
    cases hi : passes i with
    | true =>
      rw [if_pos rfl, Machine.answers, weave_of_passes hi, h.next_of_passes s i hi,
        h.answer_of_passes s i hi]
    | false =>
      rw [weave_of_refused hi, h.next_of_refused s i hi, h.answer_of_refused s i hi]
      rfl

/-- **One more guard.** Where two guards of a machine differ in that one of them refuses more, and
shows things another way, it is the other one behind a further guard. -/
theorem Guards.relative {G' : Machine σ ι ω'} {passes' : ι → Bool} {shown' : ι → ω → ω'}
    {refusal' : ι → ω'} (h : Guards G M passes shown refusal)
    (h' : Guards G' M passes' shown' refusal') {keeps : ι → Bool} {reshown : ι → ω' → ω'}
    (hpasses : ∀ i, passes' i = (keeps i && passes i))
    (hshown : ∀ s i, keeps i = true → passes i = true →
      shown' i (M.answer s i) = reshown i (shown i (M.answer s i)))
    (hrefusal : ∀ i, keeps i = true → passes i = false → refusal' i = reshown i (refusal i)) :
    Guards G' G keeps reshown refusal' where
  next_of_passes s i hi := by
    cases hpass : passes i with
    | true => rw [h.next_of_passes s i hpass, h'.next_of_passes s i (by simp [hpasses, hi, hpass])]
    | false =>
      rw [h.next_of_refused s i hpass, h'.next_of_refused s i (by simp [hpasses, hpass])]
  answer_of_passes s i hi := by
    cases hpass : passes i with
    | true =>
      rw [h.answer_of_passes s i hpass, h'.answer_of_passes s i (by simp [hpasses, hi, hpass]),
        hshown s i hi hpass]
    | false =>
      rw [h.answer_of_refused s i hpass, h'.answer_of_refused s i (by simp [hpasses, hpass]),
        hrefusal i hi hpass]
  next_of_refused s i hi := h'.next_of_refused s i (by simp [hpasses, hi])
  answer_of_refused s i hi := h'.answer_of_refused s i (by simp [hpasses, hi])

end guards

/-- Everything that a run has added to what is kept is accounted for by an input of its own, where
each step accounts for what it adds in the states that the run stays in. -/
theorem exists_journal {M : Machine σ ι ω} {P : σ → Prop} {kept : σ → List τ}
    {accounts : ι → τ → Prop} (hkeeps : M.Preserves P)
    (h : ∀ s i, P s → kept (M.next s i) = kept s ∨
      ∃ t, kept (M.next s i) = kept s ++ [t] ∧ accounts i t) {s : σ} (hs : P s) (inputs : List ι) :
    ∃ journal : List (ι × τ), kept (M.final s inputs) = kept s ++ journal.map Prod.snd ∧
      (journal.map Prod.fst).Sublist inputs ∧ ∀ e ∈ journal, accounts e.1 e.2 := by
  induction inputs generalizing s with
  | nil => exact ⟨[], by simp [final], .slnil, by simp⟩
  | cons i inputs ih =>
    obtain ⟨journal, hkept, hsub, hall⟩ := ih (hkeeps s i hs)
    have hcons : M.final s (i :: inputs) = M.final (M.next s i) inputs := rfl
    rcases h s i hs with hsame | ⟨t, hadded, hi⟩
    · refine ⟨journal, ?_, hsub.cons i, hall⟩
      rw [hcons, hkept, hsame]
    · refine ⟨(i, t) :: journal, ?_, hsub.cons_cons i, ?_⟩
      · rw [hcons, hkept, hadded, List.map_cons, List.append_assoc]
        rfl
      · rw [List.forall_mem_cons]
        exact ⟨hi, hall⟩

end GovernedMcp.Lib.Machine
