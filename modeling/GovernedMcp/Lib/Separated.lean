import Mathlib.Data.List.Infix

/-!
# Texts joined by a two-character separator

Texts are joined with a separator of two different characters `a b`, and nothing is escaped.

* `cut a b s`: the pieces of `s` between the occurrences of the separator.
* `intercalate_cut`, `cut_intercalate`: joining undoes cutting, and cutting a joined text gives the
  pieces of its parts.
* `intercalate_eq_iff`: so two lists of parts are joined to the same text exactly when they have the
  same pieces. Parts in which the separator does not occur are their own pieces (`cut_eq_self`).
-/

namespace GovernedMcp.Lib.Separated

variable {α : Type} [DecidableEq α] (a b : α)

/-- The pieces between the occurrences of the separator `a b`. -/
def cut : List α → List (List α)
  | [] => [[]]
  | [c] => [[c]]
  | c :: d :: s => if c = a ∧ d = b then [] :: cut s else (cut (d :: s)).modifyHead (c :: ·)

/-- There is always a piece. -/
theorem cut_ne_nil (s : List α) : cut a b s ≠ [] := by
  induction s using cut.induct a b with
  | case1 => simp [cut]
  | case2 c => simp [cut]
  | case3 c d s h ih => simp [cut, h]
  | case4 c d s h ih => simpa [cut, h] using ih

/-- Joining the pieces gives the text back. -/
theorem intercalate_cut (s : List α) : [a, b].intercalate (cut a b s) = s := by
  induction s using cut.induct a b with
  | case1 => rfl
  | case2 c => simp [cut]
  | case3 c d s h ih =>
      obtain ⟨rfl, rfl⟩ := h
      rw [cut, if_pos ⟨rfl, rfl⟩, List.intercalate_cons_of_ne_nil (cut_ne_nil c d s), ih]
      rfl
  | case4 c d s h ih =>
      rw [cut, if_neg h]
      rcases hp : cut a b (d :: s) with _ | ⟨p, ps⟩
      · exact absurd hp (cut_ne_nil a b _)
      · rw [hp] at ih
        rw [List.modifyHead_cons, List.intercalate_cons_cons_left, ih]

/-- Cutting at a separator that is there. -/
theorem cut_append (hab : a ≠ b) (s t : List α) :
    cut a b (s ++ a :: b :: t) = cut a b s ++ cut a b t := by
  induction s using cut.induct a b with
  | case1 => simp [cut]
  | case2 c =>
      -- the separator does not overlap itself, so no occurrence begins at `c`
      have hno : ¬(c = a ∧ a = b) := fun h => hab h.2
      have hcut : cut a b (c :: a :: b :: t) = (cut a b (a :: b :: t)).modifyHead (c :: ·) := by
        rw [cut, if_neg hno]
      rw [List.singleton_append, hcut]
      simp [cut]
  | case3 c d s h ih =>
      rw [List.cons_append, List.cons_append, cut, if_pos h, ih, cut, if_pos h]
      rfl
  | case4 c d s h ih =>
      rw [List.cons_append, List.cons_append, cut, if_neg h, ← List.cons_append, ih, cut, if_neg h]
      rcases hp : cut a b (d :: s) with _ | ⟨p, ps⟩
      · exact absurd hp (cut_ne_nil a b _)
      · rfl

/-- Cutting a joined text gives the pieces of its parts. -/
theorem cut_intercalate (hab : a ≠ b) {parts : List (List α)} (h : parts ≠ []) :
    cut a b ([a, b].intercalate parts) = parts.flatMap (cut a b) := by
  induction parts with
  | nil => exact absurd rfl h
  | cons p parts ih =>
      by_cases hparts : parts = []
      · simp [hparts]
      · have htext : [a, b].intercalate (p :: parts) =
            p ++ a :: b :: [a, b].intercalate parts := by
          rw [List.intercalate_cons_of_ne_nil hparts]
          simp
        rw [htext, cut_append a b hab, ih hparts, List.flatMap_cons]

/-- **When joined texts are equal**: exactly when the parts have the same pieces. -/
theorem intercalate_eq_iff (hab : a ≠ b) {parts parts' : List (List α)} (h : parts ≠ [])
    (h' : parts' ≠ []) : [a, b].intercalate parts = [a, b].intercalate parts' ↔
      parts.flatMap (cut a b) = parts'.flatMap (cut a b) := by
  rw [← cut_intercalate a b hab h, ← cut_intercalate a b hab h']
  constructor
  · intro heq
    rw [heq]
  · intro heq
    rw [← intercalate_cut a b ([a, b].intercalate parts), heq, intercalate_cut]

/-- A text without the separator is its own piece. -/
theorem cut_eq_self {s : List α} (h : ¬ [a, b] <:+: s) : cut a b s = [s] := by
  induction s using cut.induct a b with
  | case1 => rfl
  | case2 c => rfl
  | case3 c d s hcd _ =>
      obtain ⟨rfl, rfl⟩ := hcd
      exact absurd (List.prefix_append [c, d] s).isInfix h
  | case4 c d s hcd ih =>
      rw [cut, if_neg hcd, ih fun hcontained => h (hcontained.trans (List.suffix_cons c _).isInfix)]
      rfl

/-- Parts without the separator are their own pieces. -/
theorem flatMap_cut_eq_self {parts : List (List α)} (h : ∀ p ∈ parts, ¬ [a, b] <:+: p) :
    parts.flatMap (cut a b) = parts := by
  induction parts with
  | nil => rfl
  | cons p parts ih =>
      rw [List.flatMap_cons, cut_eq_self a b (h p List.mem_cons_self),
        ih fun q hq => h q (List.mem_cons_of_mem p hq)]
      rfl

end GovernedMcp.Lib.Separated
