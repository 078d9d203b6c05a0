import Mathlib.Data.List.Nodup
import Mathlib.Data.List.Perm.Basic

/-!
# Insertion-ordered dictionaries

`Dict κ ν` is a finite map that remembers the order in which its keys were first set, as the
mappings of scripting languages do. The keys of a `Dict` are pairwise distinct, which is a field.

* `get`, `set`, `keys`: look a key up, bind it (in place when it is bound already, at the end
  otherwise), list the keys in order.
* `ofEntries l`: the dictionary a loop `for k, v in l: d[k] = v` leaves behind. A repeated key keeps
  the place of its first occurrence and the value of its last one (`get_ofEntries`).
* `entries_ofEntries_filter`: the same loop over some of the keys.
* `insertAll`: that loop when computing the value may fail; it succeeds exactly when every single
  computation does (`insertAll_eq_ok_iff`).
* `get_eq_of_perm`: looking up does not depend on the order.
-/

namespace GovernedMcp.Lib

/-- A finite map that remembers the order of its keys. -/
structure Dict (κ ν : Type) where
  /-- The bindings, in order. -/
  entries : List (κ × ν)
  /-- No key is bound twice. -/
  nodup : (entries.map Prod.fst).Nodup

namespace Dict

variable {κ ν α ε : Type}

/-- The keys, in order. -/
def keys (d : Dict κ ν) : List κ := d.entries.map Prod.fst

/-- The dictionary without bindings. -/
def empty : Dict κ ν := ⟨[], List.nodup_nil⟩

variable [DecidableEq κ]

/-- The value bound to a key in a list of bindings; the first one, if there are several. -/
def lookup (k : κ) : List (κ × ν) → Option ν
  | [] => none
  | (k', v) :: l => if k' = k then some v else lookup k l

/-- The value bound to a key. -/
def get (d : Dict κ ν) (k : κ) : Option ν := lookup k d.entries

/-- Replace the value of the first binding of `k`, or append a binding. -/
def setEntries (k : κ) (v : ν) : List (κ × ν) → List (κ × ν)
  | [] => [(k, v)]
  | (k', v') :: l => if k' = k then (k, v) :: l else (k', v') :: setEntries k v l

/-! ## Lookup in a list of bindings -/

/-- Nothing is found where the key does not occur. -/
theorem lookup_eq_none_iff {k : κ} {l : List (κ × ν)} :
    lookup k l = none ↔ k ∉ l.map Prod.fst := by
  induction l with
  | nil => simp [lookup]
  | cons e l ih =>
      obtain ⟨k', v⟩ := e
      by_cases h : k' = k
      · simp [lookup, h]
      · simp [lookup, h, ih, Ne.symm h]

/-- Only bindings of the list are found. -/
theorem mem_of_lookup {k : κ} {v : ν} {l : List (κ × ν)} (h : lookup k l = some v) :
    (k, v) ∈ l := by
  induction l with
  | nil => simp [lookup] at h
  | cons e l ih =>
      obtain ⟨k', v'⟩ := e
      by_cases hk : k' = k
      · simp only [lookup, hk, if_true, Option.some.injEq] at h
        simp [hk, h]
      · simp only [lookup, hk, if_false] at h
        exact List.mem_cons_of_mem _ (ih h)

/-- Where keys are distinct, a binding of the list is the one found. -/
theorem lookup_of_mem {k : κ} {v : ν} {l : List (κ × ν)} (hl : (l.map Prod.fst).Nodup)
    (h : (k, v) ∈ l) : lookup k l = some v := by
  induction l with
  | nil => simp at h
  | cons e l ih =>
      obtain ⟨k', v'⟩ := e
      simp only [List.map_cons, List.nodup_cons] at hl
      rcases List.mem_cons.mp h with heq | hmem
      · cases heq
        simp [lookup]
      · have hne : k' ≠ k := by
          rintro rfl
          exact hl.1 (List.mem_map.mpr ⟨_, hmem, rfl⟩)
        simp only [lookup, hne, if_false]
        exact ih hl.2 hmem

/-- What is found in the first list counts. -/
theorem lookup_append (k : κ) (l₁ l₂ : List (κ × ν)) :
    lookup k (l₁ ++ l₂) = (lookup k l₁).or (lookup k l₂) := by
  induction l₁ with
  | nil => simp [lookup]
  | cons e l₁ ih =>
      obtain ⟨k', v⟩ := e
      by_cases h : k' = k <;> simp [lookup, h, ih]

/-- Looking up among the bindings of some keys. -/
theorem lookup_filter (p : κ → Bool) (k : κ) (l : List (κ × ν)) :
    lookup k (l.filter fun e => p e.1) = if p k then lookup k l else none := by
  induction l with
  | nil => simp [lookup]
  | cons e l ih =>
      obtain ⟨k', v⟩ := e
      rw [List.filter_cons]
      by_cases hk : k' = k
      · subst hk
        cases hp : p k' with
        | true => simp [lookup]
        | false =>
          rw [if_neg (by simp), ih, hp]
          rfl
      · cases p k' with
        | true => simp [lookup, hk, ih]
        | false => simp [lookup, hk, ih]

/-- Looking up in a list of computed bindings is searching the list they are computed from. -/
theorem lookup_map (key : α → κ) (value : α → ν) (k : κ) (l : List α) :
    lookup k (l.map fun a => (key a, value a)) =
      (l.find? fun a => decide (key a = k)).map value := by
  induction l with
  | nil => rfl
  | cons a l ih =>
      by_cases h : key a = k
      · simp [lookup, h]
      · simp [lookup, h, ih]

/-! ## Setting a key -/

/-- A key that was set is found with its value, and any other as before. -/
theorem lookup_setEntries (k k' : κ) (v : ν) (l : List (κ × ν)) :
    lookup k' (setEntries k v l) = if k = k' then some v else lookup k' l := by
  induction l with
  | nil => simp [setEntries, lookup]
  | cons e l ih =>
      obtain ⟨k₁, v₁⟩ := e
      by_cases h₁ : k₁ = k
      · subst h₁
        by_cases h : k₁ = k' <;> simp [setEntries, lookup, h]
      · rw [setEntries, if_neg h₁, lookup, ih]
        by_cases h : k = k'
        · subst h
          simp [h₁]
        · simp [h, lookup]

/-- Setting a key to the value it has. -/
theorem setEntries_of_lookup {k : κ} {v : ν} {l : List (κ × ν)} (h : lookup k l = some v) :
    setEntries k v l = l := by
  induction l with
  | nil => cases h
  | cons e l ih =>
      obtain ⟨k', v'⟩ := e
      by_cases hk : k' = k
      · rw [lookup, if_pos hk, Option.some.injEq] at h
        rw [setEntries, if_pos hk, h, hk]
      · rw [lookup, if_neg hk] at h
        rw [setEntries, if_neg hk, ih h]

/-- Of two values set one after the other the second one counts. -/
theorem setEntries_setEntries (k : κ) (v v' : ν) (l : List (κ × ν)) :
    setEntries k v' (setEntries k v l) = setEntries k v' l := by
  induction l with
  | nil => simp [setEntries]
  | cons e l ih =>
      obtain ⟨k', v₁⟩ := e
      by_cases hk : k' = k
      · simp [setEntries, hk]
      · simp [setEntries, hk, ih]

/-- A key that is not bound yet is bound at the end. -/
theorem setEntries_of_not_mem {k : κ} (v : ν) {l : List (κ × ν)} (h : k ∉ l.map Prod.fst) :
    setEntries k v l = l ++ [(k, v)] := by
  induction l with
  | nil => rfl
  | cons e l ih =>
      obtain ⟨k', v'⟩ := e
      simp only [List.map_cons, List.mem_cons, not_or] at h
      simp only [setEntries, Ne.symm h.1, if_false, List.cons_append]
      rw [ih h.2]

/-- A new key is added at the end, and one that is there stays where it is. -/
theorem map_fst_setEntries (k : κ) (v : ν) (l : List (κ × ν)) :
    (setEntries k v l).map Prod.fst =
      if k ∈ l.map Prod.fst then l.map Prod.fst else l.map Prod.fst ++ [k] := by
  induction l with
  | nil => simp [setEntries]
  | cons e l ih =>
      obtain ⟨k₁, v₁⟩ := e
      by_cases h₁ : k₁ = k
      · simp [setEntries, h₁]
      · have hne : k ≠ k₁ := Ne.symm h₁
        simp only [setEntries, h₁, if_false, List.map_cons, ih, List.mem_cons, hne, false_or]
        split_ifs <;> rfl

/-- Setting a key, as the bindings of some keys see it. -/
theorem filter_setEntries (p : κ → Bool) (k : κ) (v : ν) (l : List (κ × ν)) :
    (setEntries k v l).filter (fun e => p e.1) =
      if p k then setEntries k v (l.filter fun e => p e.1) else l.filter fun e => p e.1 := by
  induction l with
  | nil => cases hp : p k <;> simp [setEntries, hp]
  | cons e l ih =>
      obtain ⟨k', v'⟩ := e
      by_cases hk : k' = k
      · subst hk
        cases hp : p k' <;> simp [setEntries, hp]
      · rw [setEntries, if_neg hk, List.filter_cons, List.filter_cons, ih]
        cases hp : p k <;> cases hp' : p k' <;> simp [setEntries, hk]

/-- Bind `k` to `v`: in place when `k` is bound already, at the end otherwise. -/
def set (d : Dict κ ν) (k : κ) (v : ν) : Dict κ ν where
  entries := setEntries k v d.entries
  nodup := by
    rw [map_fst_setEntries]
    split_ifs with h
    · exact d.nodup
    · apply List.nodup_append.mpr
      refine ⟨d.nodup, List.nodup_singleton k, ?_⟩
      rintro a ha b hb rfl
      rw [List.mem_singleton.mp hb] at ha
      exact h ha

/-- There is nothing in the empty dictionary. -/
@[simp] theorem get_empty (k : κ) : (empty : Dict κ ν).get k = none := rfl

/-- A key that was set has its value, and any other the one it had. -/
@[simp] theorem get_set (d : Dict κ ν) (k k' : κ) (v : ν) :
    (d.set k v).get k' = if k = k' then some v else d.get k' :=
  lookup_setEntries k k' v d.entries

/-- A key is bound to something iff it is among the keys. -/
theorem get_eq_none_iff {d : Dict κ ν} {k : κ} : d.get k = none ↔ k ∉ d.keys :=
  lookup_eq_none_iff

/-- A key is bound to `v` iff the pair is among the bindings. -/
theorem get_eq_some_iff {d : Dict κ ν} {k : κ} {v : ν} :
    d.get k = some v ↔ (k, v) ∈ d.entries :=
  ⟨mem_of_lookup, lookup_of_mem d.nodup⟩

/-- Looking up does not depend on the order of the bindings. -/
theorem get_eq_of_perm {d d' : Dict κ ν} (h : d.entries.Perm d'.entries) (k : κ) :
    d.get k = d'.get k := by
  ext v
  rw [get_eq_some_iff, get_eq_some_iff, h.mem_iff]

/-! ## The dictionary a loop builds -/

/-- Run `d[k] = v` for every pair of `l`, in order. -/
def setAll (d : Dict κ ν) (l : List (κ × ν)) : Dict κ ν := l.foldl (fun d e => d.set e.1 e.2) d

/-- The dictionary that the bindings of `l`, set one after the other, leave behind. -/
def ofEntries (l : List (κ × ν)) : Dict κ ν := setAll empty l

/-- The loop over the bindings of some keys builds what the whole loop builds for them. -/
theorem entries_setAll_filter (p : κ → Bool) {d d' : Dict κ ν} (l : List (κ × ν))
    (h : d'.entries = d.entries.filter fun e => p e.1) :
    (d'.setAll (l.filter fun e => p e.1)).entries =
      (d.setAll l).entries.filter fun e => p e.1 := by
  induction l generalizing d d' with
  | nil => exact h
  | cons e l ih =>
      have hset : (d.set e.1 e.2).entries.filter (fun e => p e.1) =
          if p e.1 then setEntries e.1 e.2 d'.entries else d'.entries := by
        rw [h]
        exact filter_setEntries p e.1 e.2 d.entries
      show _ = ((d.set e.1 e.2).setAll l).entries.filter _
      rw [List.filter_cons]
      split_ifs at hset ⊢ with hp
      · exact ih hset.symm
      · exact ih hset.symm

/-- Leaving entries out by their keys can be done before or afterwards. -/
theorem entries_ofEntries_filter (p : κ → Bool) (l : List (κ × ν)) :
    (ofEntries (l.filter fun e => p e.1)).entries =
      (ofEntries l).entries.filter fun e => p e.1 :=
  entries_setAll_filter p l rfl

/-- The last value `l` gives to `k`. -/
def lastOf (k : κ) (l : List (κ × ν)) : Option ν := lookup k l.reverse

/-- The last entry of a key counts, or else what was there. -/
theorem get_setAll (d : Dict κ ν) (k : κ) (l : List (κ × ν)) :
    (d.setAll l).get k = (lastOf k l).or (d.get k) := by
  induction l generalizing d with
  | nil => simp [setAll, lastOf, lookup]
  | cons e l ih =>
      obtain ⟨k₁, v₁⟩ := e
      have hcons : d.setAll ((k₁, v₁) :: l) = (d.set k₁ v₁).setAll l := rfl
      rw [hcons, ih, get_set, lastOf, lastOf, List.reverse_cons, lookup_append]
      rcases lookup k l.reverse with _ | v
      · by_cases h : k₁ = k <;> simp [lookup, h]
      · simp

/-- In the dictionary a loop builds, the last binding of a key wins. -/
theorem get_ofEntries (k : κ) (l : List (κ × ν)) : (ofEntries l).get k = lastOf k l := by
  rw [ofEntries, get_setAll]
  simp

/-- The last of the computed bindings of a key is the value of the last element with that key. -/
theorem lastOf_map (key : α → κ) (value : α → ν) (k : κ) (l : List α) :
    lastOf k (l.map fun a => (key a, value a)) =
      (l.reverse.find? fun a => decide (key a = k)).map value := by
  rw [lastOf, ← List.map_reverse, lookup_map]

/-- New and distinct keys are added in order. -/
theorem entries_setAll_of_nodup (d : Dict κ ν) (l : List (κ × ν))
    (h : ((d.entries ++ l).map Prod.fst).Nodup) : (d.setAll l).entries = d.entries ++ l := by
  induction l generalizing d with
  | nil => simp [setAll]
  | cons e l ih =>
      have hfresh : e.1 ∉ d.entries.map Prod.fst := by
        rw [List.map_append, List.nodup_append] at h
        intro hmem
        exact h.2.2 _ hmem _ (by simp) rfl
      have hset : (d.set e.1 e.2).entries = d.entries ++ [e] := setEntries_of_not_mem e.2 hfresh
      have hcons : d.setAll (e :: l) = (d.set e.1 e.2).setAll l := rfl
      rw [hcons, ih _ (by rw [hset]; simpa using h), hset]
      simp

/-- Distinct keys are kept as they come. -/
theorem entries_ofEntries_of_nodup (l : List (κ × ν)) (h : (l.map Prod.fst).Nodup) :
    (ofEntries l).entries = l := by
  have := entries_setAll_of_nodup empty l (by simpa [empty] using h)
  simpa [empty, ofEntries] using this

/-! ## Loops whose body may fail -/

/-- `for a in l: d[key a] = value a`, where computing a value may raise; the first exception ends
the loop. -/
def insertAll (key : α → κ) (value : α → Except ε ν) : Dict κ ν → List α → Except ε (Dict κ ν)
  | d, [] => .ok d
  | d, a :: l =>
    match value a with
    | .error e => .error e
    | .ok v => insertAll key value (d.set (key a) v) l

/-- Where a value is computed exactly for the elements satisfying `P`, the loop succeeds exactly
when all elements do, and then leaves their values behind. -/
theorem insertAll_eq_ok_iff {key : α → κ} {value : α → Except ε ν} {P : α → Prop} {g : α → ν}
    (h : ∀ a v, value a = .ok v ↔ P a ∧ v = g a) (d d' : Dict κ ν) (l : List α) :
    insertAll key value d l = .ok d' ↔
      (∀ a ∈ l, P a) ∧ d' = d.setAll (l.map fun a => (key a, g a)) := by
  induction l generalizing d with
  | nil => simp [insertAll, setAll, eq_comm]
  | cons a l ih =>
      unfold insertAll
      rcases hv : value a with e | v
      · simp only [reduceCtorEq, List.forall_mem_cons, false_iff, not_and]
        rintro ⟨ha, -⟩
        have := (h a (g a)).mpr ⟨ha, rfl⟩
        simp [hv] at this
      · obtain ⟨ha, rfl⟩ := (h a v).mp hv
        simp only [List.forall_mem_cons, ha, true_and]
        exact ih _

end Dict

end GovernedMcp.Lib
