import Mathlib.Data.List.Dedup
import Mathlib.Data.List.Sort

/-!
# Finite sets as strictly sorted lists

`SortedSet α` is a finite set over a linear order, represented by its elements in increasing order.
The representation is unique, so sets with the same members are equal (`ext_mem`), and sorting
a set is reading its representation. Lists with the same elements are sorted into the same list
(`insertionSort_eq_of_perm`).
-/

namespace GovernedMcp.Lib

/-- Sorting forgets the order that the elements came in. -/
theorem insertionSort_eq_of_perm {α : Type} [LinearOrder α] {l l' : List α} (h : l.Perm l') :
    l.insertionSort (· ≤ ·) = l'.insertionSort (· ≤ ·) := by
  have hperm : (l.insertionSort (· ≤ ·)).Perm (l'.insertionSort (· ≤ ·)) :=
    (List.perm_insertionSort _ l).trans (h.trans (List.perm_insertionSort _ l').symm)
  exact hperm.eq_of_pairwise' (List.pairwise_insertionSort _ l) (List.pairwise_insertionSort _ l')

/-- A finite set, as the list of its elements in increasing order. -/
@[ext] structure SortedSet (α : Type) [LinearOrder α] where
  /-- The elements, in increasing order. -/
  elems : List α
  /-- The order is strict, so no element is listed twice. -/
  sorted : elems.Pairwise (· < ·)

namespace SortedSet

variable {α : Type} [LinearOrder α]

instance : DecidableEq (SortedSet α) := fun s t =>
  decidable_of_iff (s.elems = t.elems) ⟨SortedSet.ext, fun h => h ▸ rfl⟩

instance : Membership α (SortedSet α) := ⟨fun s a => a ∈ s.elems⟩

/-- The elements are the members. -/
@[simp] theorem mem_elems {s : SortedSet α} {a : α} : a ∈ s.elems ↔ a ∈ s := Iff.rfl

instance (a : α) (s : SortedSet α) : Decidable (a ∈ s) := inferInstanceAs (Decidable (a ∈ s.elems))

/-- The set of the elements of a list. -/
def ofList (l : List α) : SortedSet α where
  elems := l.dedup.insertionSort (· ≤ ·)
  sorted := by
    have hnd : (l.dedup.insertionSort (· ≤ ·)).Nodup :=
      (List.perm_insertionSort _ _).nodup_iff.mpr l.nodup_dedup
    exact (List.pairwise_insertionSort (· ≤ ·) l.dedup).imp₂
      (fun _ _ hle hne => lt_of_le_of_ne hle hne)
      hnd

/-- A list has its members. -/
@[simp] theorem mem_ofList {l : List α} {a : α} : a ∈ ofList l ↔ a ∈ l := by
  show a ∈ l.dedup.insertionSort (· ≤ ·) ↔ a ∈ l
  rw [List.mem_insertionSort, List.mem_dedup]

/-- Sets with the same members are equal. -/
theorem ext_mem {s t : SortedSet α} (h : ∀ a, a ∈ s ↔ a ∈ t) : s = t := by
  have hs : s.elems.Nodup := s.sorted.imp fun hab => ne_of_lt hab
  have ht : t.elems.Nodup := t.sorted.imp fun hab => ne_of_lt hab
  have hperm : s.elems.Perm t.elems := (List.perm_ext_iff_of_nodup hs ht).mpr h
  refine SortedSet.ext (@List.Perm.eq_of_pairwise α (· < ·) _ _ ?_ s.sorted t.sorted hperm)
  intro a b _ _ hab hba
  exact absurd hab (lt_asymm hba)

/-- Lists with the same members make the same set. -/
theorem ofList_congr {l l' : List α} (h : ∀ a, a ∈ l ↔ a ∈ l') : ofList l = ofList l' :=
  ext_mem fun a => by simp [h a]

/-- Whether two sets meet. -/
def meets (s t : SortedSet α) : Bool := s.elems.any fun a => decide (a ∈ t)

/-- Two sets meet in a common member. -/
@[simp] theorem meets_iff {s t : SortedSet α} : s.meets t = true ↔ ∃ a ∈ s, a ∈ t := by
  simp [meets]

/-- The set without elements. -/
def empty : SortedSet α := ⟨[], List.Pairwise.nil⟩

end SortedSet

end GovernedMcp.Lib
