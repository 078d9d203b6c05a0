import Mathlib.Data.List.Sort

/-!
# Longest-first selection

A list is sorted by decreasing length, ties staying in their original order, and the first element
that satisfies a test is taken. `selectLongest len p l` is that element.

* `selectLongest_eq_some_iff`: it is the element `a` with `p a` that no later candidate exceeds in
  length and every earlier candidate falls short of.
* `selectLongest_ne_iff`: what keeps a given candidate from being selected.
* `selectLongest_filter`: candidates that are not selected may be left out.
* `IsLongest`: the candidates of maximal length. The selection is one of them
  (`isLongest_of_select`), each of them is selected once it is moved to the front
  (`selectLongest_of_front`), and what all of them agree on does not depend on the order
  (`map_select_eq_of_perm`).
-/

namespace GovernedMcp.Lib

variable {α β : Type}

/-- The list by decreasing length; the sort is stable. -/
def longestFirst (len : α → ℕ) (l : List α) : List α := l.insertionSort fun a b => len b ≤ len a

/-- The first element satisfying `p`, longest elements first. -/
def selectLongest (len : α → ℕ) (p : α → Bool) (l : List α) : Option α :=
  (longestFirst len l).find? p

section select

variable (len : α → ℕ) (p : α → Bool)

instance total_len : Std.Total fun a b : α => len b ≤ len a :=
  ⟨fun a b => le_total (len b) (len a)⟩

instance isTrans_len : IsTrans α fun a b : α => len b ≤ len a :=
  ⟨fun _ _ _ h₁ h₂ => le_trans h₂ h₁⟩

/-- The longest come first. -/
theorem pairwise_longestFirst (l : List α) :
    (longestFirst len l).Pairwise fun a b => len b ≤ len a :=
  List.pairwise_insertionSort _ l

/-- Sorting loses nothing. -/
@[simp] theorem mem_longestFirst {l : List α} {a : α} : a ∈ longestFirst len l ↔ a ∈ l :=
  List.mem_insertionSort _

/-- Inserting into a list sorted by decreasing length: the new element is found unless it fails the
test or a strictly longer candidate stands before it. -/
theorem find?_orderedInsert (a : α) {l : List α} (hl : l.Pairwise fun a b => len b ≤ len a) :
    (l.orderedInsert (fun a b => len b ≤ len a) a).find? p =
      if p a ∧ ∀ b ∈ l.find? p, len b ≤ len a then some a else l.find? p := by
  induction l with
  | nil => by_cases hp : p a <;> simp [hp]
  | cons b l ih =>
      rw [List.pairwise_cons] at hl
      rw [List.orderedInsert_cons]
      by_cases hba : len b ≤ len a
      · -- everything that follows is at most as long as `b`, hence as `a`
        have hle : ∀ c ∈ (b :: l).find? p, len c ≤ len a := by
          intro c hc
          rcases List.mem_cons.mp (List.mem_of_find?_eq_some hc) with rfl | hmem
          · exact hba
          · exact (hl.1 c hmem).trans hba
        rw [if_pos hba, List.find?_cons]
        cases hp : p a
        · rw [if_neg (by simp)]
        · rw [if_pos ⟨rfl, hle⟩]
      · rw [if_neg hba, List.find?_cons, ih hl.2, List.find?_cons]
        cases hpb : p b
        · rfl
        · simp [hba]

/-- The first element is selected unless it fails the test or falls short of what the rest selects.
-/
theorem selectLongest_cons (a : α) (l : List α) :
    selectLongest len p (a :: l) =
      if p a ∧ ∀ b ∈ selectLongest len p l, len b ≤ len a then some a
      else selectLongest len p l := by
  unfold selectLongest longestFirst
  rw [List.insertionSort_cons]
  exact find?_orderedInsert len p a (pairwise_longestFirst len l)

/-- Nothing is selected iff nothing satisfies the test. -/
theorem selectLongest_eq_none_iff {l : List α} :
    selectLongest len p l = none ↔ ∀ a ∈ l, p a = false := by
  simp [selectLongest, List.find?_eq_none]

/-- No candidate is longer than the selected one. -/
theorem le_of_selectLongest {l : List α} {a b : α} (h : selectLongest len p l = some a)
    (hb : b ∈ l) (hpb : p b) : len b ≤ len a := by
  have hb' : b ∈ longestFirst len l := (mem_longestFirst len).mpr hb
  obtain ⟨-, pre, post, heq, hpre⟩ := List.find?_eq_some_iff_append.mp h
  have hsorted := pairwise_longestFirst len l
  rw [heq, List.pairwise_append] at hsorted
  rw [heq, List.mem_append, List.mem_cons] at hb'
  rcases hb' with hmem | rfl | hmem
  · exact absurd hpb (by simpa using hpre b hmem)
  · exact le_rfl
  · exact (List.pairwise_cons.mp hsorted.2.1).1 b hmem

/-- What is selected is in the list and passes the test. -/
theorem mem_of_selectLongest {l : List α} {a : α} (h : selectLongest len p l = some a) :
    a ∈ l ∧ p a :=
  ⟨(mem_longestFirst len).mp (List.mem_of_find?_eq_some h), List.find?_some h⟩

/-- **What is selected**: a candidate longer than every candidate before it in the list and at
least as long as every candidate after it. -/
theorem selectLongest_eq_some_iff {l : List α} {a : α} :
    selectLongest len p l = some a ↔
      ∃ pre post, l = pre ++ a :: post ∧ p a ∧ (∀ b ∈ pre, p b → len b < len a) ∧
        ∀ b ∈ post, p b → len b ≤ len a := by
  induction l with
  | nil => simp [selectLongest, longestFirst]
  | cons c l ih =>
      constructor
      · intro h
        have hsel := h
        rw [selectLongest_cons] at h
        split_ifs at h with hc
        · cases h
          exact ⟨[], l, rfl, hc.1, by simp, fun b hb hpb =>
            le_of_selectLongest len p hsel (List.mem_cons_of_mem _ hb) hpb⟩
        · obtain ⟨pre, post, rfl, hpa, hpre, hpost⟩ := ih.mp h
          refine ⟨c :: pre, post, rfl, hpa, fun b hb hpb => ?_, hpost⟩
          rcases List.mem_cons.mp hb with rfl | hb
          · rw [h] at hc
            simpa [hpb] using hc
          · exact hpre b hb hpb
      · rintro ⟨pre, post, heq, hpa, hpre, hpost⟩
        rw [selectLongest_cons]
        cases pre with
        | nil =>
            obtain ⟨rfl, rfl⟩ := List.cons.inj heq
            apply if_pos
            refine ⟨hpa, ?_⟩
            intro b hb
            obtain ⟨hmem, hpb⟩ := mem_of_selectLongest len p hb
            exact hpost b hmem hpb
        | cons d pre =>
            obtain ⟨rfl, rfl⟩ := List.cons.inj heq
            have hsel := ih.mpr ⟨pre, post, rfl, hpa,
              fun b hb => hpre b (List.mem_cons_of_mem _ hb), hpost⟩
            rw [if_neg, hsel]
            rintro ⟨hpc, hle⟩
            exact absurd (hle a hsel) (not_le.mpr (hpre c List.mem_cons_self hpc))

/-- A candidate is not among those that fall short of it. -/
theorem not_mem_of_shorter {pre : List α} {a : α} (hpa : p a)
    (hpre : ∀ b ∈ pre, p b → len b < len a) : a ∉ pre :=
  fun hmem => absurd (hpre a hmem hpa) (lt_irrefl _)

/-- **What keeps a candidate `b` from being selected**: another candidate that is longer, or as long
and earlier in the list. -/
theorem selectLongest_ne_iff [DecidableEq α] {l : List α} {b : α} (hb : b ∈ l) (hpb : p b) :
    selectLongest len p l ≠ some b ↔
      ∃ a ∈ l, p a ∧ (len b < len a ∨ len a = len b ∧ l.idxOf a < l.idxOf b) := by
  constructor
  · intro hne
    obtain ⟨a, ha⟩ : ∃ a, selectLongest len p l = some a := by
      rcases hs : selectLongest len p l with _ | a
      · have := (selectLongest_eq_none_iff len p).mp hs b hb
        simp [hpb] at this
      · exact ⟨a, rfl⟩
    obtain ⟨pre, post, rfl, hpa, hpre, -⟩ := (selectLongest_eq_some_iff len p).mp ha
    refine ⟨a, by simp, hpa, ?_⟩
    rcases (le_of_selectLongest len p ha hb hpb).lt_or_eq with hlt | hlen
    · exact Or.inl hlt
    · right
      refine ⟨hlen.symm, ?_⟩
      have hab : a ≠ b := fun h => hne (h ▸ ha)
      have hbpre : b ∉ pre := fun h => absurd (hpre b h hpb) (by omega)
      rw [List.idxOf_append_of_notMem (not_mem_of_shorter len p hpa hpre),
        List.idxOf_append_of_notMem hbpre, List.idxOf_cons_self, List.idxOf_cons_ne _ hab]
      omega
  · rintro ⟨a, ha, hpa, hbefore⟩ hsel
    rcases hbefore with hlt | ⟨hlen, hidx⟩
    · exact absurd (le_of_selectLongest len p hsel ha hpa) (not_le.mpr hlt)
    · obtain ⟨pre, post, rfl, -, hpre, -⟩ := (selectLongest_eq_some_iff len p).mp hsel
      have hbpre := not_mem_of_shorter len p hpb hpre
      have hapre : a ∈ pre := by
        by_contra hno
        rw [List.idxOf_append_of_notMem hno, List.idxOf_append_of_notMem hbpre,
          List.idxOf_cons_self] at hidx
        omega
      exact absurd (hpre a hapre hpa) (by omega)

/-- Candidates that are not selected may be left out. -/
theorem selectLongest_filter {q : α → Bool} {l : List α}
    (h : ∀ a, selectLongest len p l = some a → q a = true) :
    selectLongest len p (l.filter q) = selectLongest len p l := by
  cases hs : selectLongest len p l with
  | none =>
    rw [selectLongest_eq_none_iff] at hs ⊢
    exact fun a ha => hs a (List.mem_of_mem_filter ha)
  | some a =>
    obtain ⟨pre, post, rfl, hpa, hpre, hpost⟩ := (selectLongest_eq_some_iff len p).mp hs
    refine (selectLongest_eq_some_iff len p).mpr ⟨pre.filter q, post.filter q, ?_, hpa,
      fun b hb => hpre b (List.mem_of_mem_filter hb),
      fun b hb => hpost b (List.mem_of_mem_filter hb)⟩
    rw [List.filter_append, List.filter_cons_of_pos (h a hs)]

/-! ## Selection and reordering -/

/-- The candidates of maximal length. -/
def IsLongest (l : List α) (a : α) : Prop := a ∈ l ∧ p a ∧ ∀ b ∈ l, p b → len b ≤ len a

/-- The selection is a candidate of maximal length. -/
theorem isLongest_of_select {l : List α} {a : α} (h : selectLongest len p l = some a) :
    IsLongest len p l a :=
  ⟨(mem_of_selectLongest len p h).1, (mem_of_selectLongest len p h).2,
    fun _ hb hpb => le_of_selectLongest len p h hb hpb⟩

/-- Reordering the list makes no difference to that. -/
theorem IsLongest.perm {l l' : List α} (h : l.Perm l') {a : α} (ha : IsLongest len p l a) :
    IsLongest len p l' a :=
  ⟨h.mem_iff.mp ha.1, ha.2.1, fun b hb => ha.2.2 b (h.mem_iff.mpr hb)⟩

/-- Moved to the front, a longest candidate is selected. -/
theorem selectLongest_of_front {l : List α} {a : α} (ha : IsLongest len p (a :: l) a) :
    selectLongest len p (a :: l) = some a :=
  (selectLongest_eq_some_iff len p).mpr
    ⟨[], l, rfl, ha.2.1, by simp, fun b hb => ha.2.2 b (List.mem_cons_of_mem _ hb)⟩

/-- What all longest candidates agree on, any reordering of the list selects alike. -/
theorem map_select_eq_of_perm {l l' : List α} (h : l.Perm l') (f : α → β)
    (hf : ∀ a b, IsLongest len p l a → IsLongest len p l b → f a = f b) :
    (selectLongest len p l).map f = (selectLongest len p l').map f := by
  rcases hs : selectLongest len p l with _ | a
  · have hnone : selectLongest len p l' = none := by
      rw [selectLongest_eq_none_iff] at hs ⊢
      intro b hb
      apply hs
      exact h.mem_iff.mpr hb
    rw [hnone]
  · have ha := isLongest_of_select len p hs
    rcases hs' : selectLongest len p l' with _ | b
    · have := (selectLongest_eq_none_iff len p).mp hs' a (h.mem_iff.mp ha.1)
      simp [ha.2.1] at this
    · have hb := (isLongest_of_select len p hs').perm len p h.symm
      simp [hf a b ha hb]

end select

end GovernedMcp.Lib
