import Mathlib.Data.List.Induction
import Mathlib.Logic.Function.Basic
import Mathlib.Tactic.Choose

/-!
# Machines that see their history

The output of each step depends on the input and on everything that was output before; `run` is the
list of outputs, and `run_getElem?` says what a single place of it looks like.

* `Preceded`, `Distinct`: what happens at a place was prepared at an earlier one; no two places
  yield the same. `preceded_run` and `distinct_run` prove this of a run step by step.
* Vouchers: some places issue one, some redeem one. In a `Covered` run the redeeming places are
  matched with earlier places that issued what they redeem, no two with the same. `covered_iff`:
  when only issued vouchers are redeemed, and no two are alike, this is to say that none is redeemed
  twice.
-/

namespace GovernedMcp.Lib.History

variable {ι ω τ : Type}

/-- The outputs, first to last. -/
def run (step : List ω → ι → ω) (inputs : List ι) : List ω :=
  inputs.foldl (fun past i => past ++ [step past i]) []

/-! ## Places of a run -/

section places

variable {step : List ω → ι → ω} {inputs : List ι}

/-- One input more gives one output more. -/
theorem run_append_singleton (i : ι) :
    run step (inputs ++ [i]) = run step inputs ++ [step (run step inputs) i] := by
  simp [run]

/-- Every input has an output. -/
@[simp] theorem length_run : (run step inputs).length = inputs.length := by
  induction inputs using List.reverseRecOn with
  | nil => rfl
  | append_singleton is i ih => simp [run_append_singleton, ih]

/-- The history of a place is a run of its own. -/
theorem take_run (n : ℕ) : (run step inputs).take n = run step (inputs.take n) := by
  induction inputs using List.reverseRecOn with
  | nil => simp [run]
  | append_singleton is i ih =>
    by_cases hn : n ≤ is.length
    · rw [run_append_singleton, List.take_append_of_le_length (by simpa using hn), ih,
        List.take_append_of_le_length hn]
    · rw [List.take_of_length_le (by simp; omega), List.take_of_length_le (by simp; omega)]

/-- **One place of a run** is a step from its history. -/
theorem run_getElem? (n : ℕ) : (run step inputs)[n]? =
    inputs[n]?.map fun i => step (run step (inputs.take n)) i := by
  induction inputs using List.reverseRecOn with
  | nil => simp [run]
  | append_singleton is i ih =>
    rw [run_append_singleton]
    rcases Nat.lt_trichotomy n is.length with hn | hn | hn
    · rw [List.getElem?_append_left (by simpa using hn), ih, List.getElem?_append_left hn,
        List.take_append_of_le_length (Nat.le_of_lt hn)]
    · rw [List.getElem?_append_right (by simp [hn]), List.getElem?_append_right (by omega)]
      simp [hn]
    · rw [List.getElem?_eq_none (by simp; omega), List.getElem?_eq_none (by simp; omega)]
      rfl

end places

/-! ## What earlier places have prepared -/

/-- Where `P` holds, some earlier place is related to this one. -/
def Preceded (P : ω → Prop) (R : ω → ω → Prop) (outputs : List ω) : Prop :=
  ∀ (n : ℕ) (o : ω), outputs[n]? = some o → P o → ∃ m < n, ∃ o', outputs[m]? = some o' ∧ R o' o

/-- No two places yield the same. -/
def Distinct (p : ω → Option τ) (outputs : List ω) : Prop :=
  ∀ (m n : ℕ) (o o' : ω) (t : τ), outputs[m]? = some o → outputs[n]? = some o' →
    p o = some t → p o' = some t → m = n

section steps

variable {step : List ω → ι → ω}

/-- Every output is that of a step on one of the inputs. -/
theorem exists_step_of_mem_run {inputs : List ι} {o : ω} (h : o ∈ run step inputs) :
    ∃ past, ∃ i ∈ inputs, o = step past i := by
  obtain ⟨n, hn⟩ := List.mem_iff_getElem?.mp h
  rw [run_getElem?, Option.map_eq_some_iff] at hn
  obtain ⟨i, hi, rfl⟩ := hn
  exact ⟨_, i, List.mem_of_getElem? hi, rfl⟩

/-- What is among the first has a place among them. -/
theorem exists_lt_of_mem_take {outputs : List ω} {n : ℕ} {o : ω} (h : o ∈ outputs.take n) :
    ∃ m < n, outputs[m]? = some o := by
  obtain ⟨m, hm⟩ := List.mem_iff_getElem?.mp h
  rw [List.getElem?_take] at hm
  split_ifs at hm with hlt
  exact ⟨m, hlt, hm⟩

/-- It is enough that every step finds in its history what it needs. -/
theorem preceded_run {P : ω → Prop} {R : ω → ω → Prop} {inputs : List ι}
    (h : ∀ earlier ⊆ inputs, ∀ i ∈ inputs, P (step (run step earlier) i) →
      ∃ o ∈ run step earlier, R o (step (run step earlier) i)) :
    Preceded P R (run step inputs) := by
  intro n o hn hP
  rw [run_getElem?, Option.map_eq_some_iff] at hn
  obtain ⟨i, hi, rfl⟩ := hn
  obtain ⟨o', hmem, hR⟩ := h _ (List.take_subset n inputs) i (List.mem_of_getElem? hi) hP
  rw [← take_run] at hmem
  obtain ⟨m, hm, ho'⟩ := exists_lt_of_mem_take hmem
  exact ⟨m, hm, o', ho', hR⟩

/-- Two places are compared as two steps, each from its own history. -/
theorem distinct_run_iff {p : ω → Option τ} {inputs : List ι} :
    Distinct p (run step inputs) ↔ ∀ (m n : ℕ) (i i' : ι) (t : τ), m < n → inputs[m]? = some i →
      inputs[n]? = some i' → p (step (run step (inputs.take m)) i) = some t →
        p (step (run step (inputs.take n)) i') ≠ some t := by
  constructor
  · intro h m n i i' t hmn hi hi' ht ht'
    have heq := h m n _ _ t (by rw [run_getElem?, hi]; rfl) (by rw [run_getElem?, hi']; rfl) ht ht'
    omega
  · intro h m n o o' t hm hn ho ho'
    rw [run_getElem?, Option.map_eq_some_iff] at hm hn
    obtain ⟨i, hi, rfl⟩ := hm
    obtain ⟨i', hi', rfl⟩ := hn
    rcases Nat.lt_trichotomy m n with hlt | heq | hlt
    · exact absurd ho' (h m n i i' t hlt hi hi' ho)
    · exact heq
    · exact absurd ho (h n m i' i t hlt hi' hi ho')

/-- It is enough that no step yields what its history yields. -/
theorem distinct_run {p : ω → Option τ} {inputs : List ι}
    (h : ∀ earlier ⊆ inputs, ∀ i ∈ inputs, ∀ t, p (step (run step earlier) i) = some t →
      ∀ o ∈ run step earlier, p o ≠ some t) :
    Distinct p (run step inputs) := by
  apply distinct_run_iff.mpr
  intro m n i i' t hmn hi hi' ht ht'
  have hearlier : (run step (inputs.take n))[m]? = some (step (run step (inputs.take m)) i) := by
    rw [run_getElem?, List.getElem?_take_of_lt hmn, hi, List.take_take, Nat.min_eq_left (by omega)]
    rfl
  apply h _ (List.take_subset n inputs) i' (List.mem_of_getElem? hi') t ht' _ _ ht
  exact List.mem_of_getElem? hearlier

end steps

/-! ## Vouchers -/

/-- The places at which `p` yields something. -/
def Places (p : ω → Option τ) (outputs : List ω) : Type :=
  {n : Fin outputs.length // (p (outputs.get n)).isSome = true}

/-- The redeeming places are matched with earlier places that issued what they redeem, no two with
the same. -/
def Covered (issues redeems : ω → Option τ) (outputs : List ω) : Prop :=
  ∃ f : Places redeems outputs → Places issues outputs, Function.Injective f ∧
    ∀ n, (f n).1 < n.1 ∧ issues (outputs.get (f n).1) = redeems (outputs.get n.1)

section vouchers

variable {issues redeems : ω → Option τ} {outputs : List ω}

/-- In a covered run no voucher is redeemed twice. -/
theorem Covered.distinct (hcovered : Covered issues redeems outputs)
    (hissues : Distinct issues outputs) : Distinct redeems outputs := by
  obtain ⟨f, hinj, hf⟩ := hcovered
  intro m n o o' t hm hn ho ho'
  obtain ⟨hm', rfl⟩ := List.getElem?_eq_some_iff.mp hm
  obtain ⟨hn', rfl⟩ := List.getElem?_eq_some_iff.mp hn
  let pm : Places redeems outputs := ⟨⟨m, hm'⟩, by simp [ho]⟩
  let pn : Places redeems outputs := ⟨⟨n, hn'⟩, by simp [ho']⟩
  have hsame : f pm = f pn := by
    apply Subtype.ext
    apply Fin.ext
    apply hissues _ _ _ _ t (List.getElem?_eq_getElem (f pm).1.isLt)
      (List.getElem?_eq_getElem (f pn).1.isLt)
    · exact (hf pm).2.trans ho
    · exact (hf pn).2.trans ho'
  have hpm : pm = pn := hinj hsame
  exact congrArg (fun p : Places redeems outputs => p.1.val) hpm

/-- **Covered runs.** When only issued vouchers are redeemed, and no two are alike, a run is covered
iff none is redeemed twice. -/
theorem covered_iff
    (hbacked : Preceded (fun o => (redeems o).isSome = true) (fun o' o => issues o' = redeems o)
      outputs)
    (hissues : Distinct issues outputs) :
    Covered issues redeems outputs ↔ Distinct redeems outputs := by
  refine ⟨fun h => h.distinct hissues, fun hredeems => ?_⟩
  have hissuer : ∀ n : Places redeems outputs, ∃ m : Places issues outputs,
      m.1 < n.1 ∧ issues (outputs.get m.1) = redeems (outputs.get n.1) := by
    intro n
    obtain ⟨m, hlt, o, hm, heq⟩ :=
      hbacked n.1 _ (List.getElem?_eq_getElem n.1.isLt) n.2
    obtain ⟨hm', rfl⟩ := List.getElem?_eq_some_iff.mp hm
    refine ⟨⟨⟨m, hm'⟩, ?_⟩, hlt, heq⟩
    show (issues outputs[m]).isSome = true
    rw [heq]
    exact n.2
  choose f hf using hissuer
  refine ⟨f, fun a b hab => ?_, hf⟩
  have hvoucher : redeems (outputs.get a.1) = redeems (outputs.get b.1) := by
    rw [← (hf a).2, ← (hf b).2, hab]
  obtain ⟨t, ht⟩ := Option.isSome_iff_exists.mp a.2
  apply Subtype.ext
  apply Fin.ext
  exact hredeems _ _ _ _ t (List.getElem?_eq_getElem a.1.isLt)
    (List.getElem?_eq_getElem b.1.isLt) ht (hvoucher.symm.trans ht)

end vouchers

end GovernedMcp.Lib.History
