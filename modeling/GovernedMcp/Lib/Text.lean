import Mathlib.Data.List.Basic
import Mathlib.Data.List.TakeWhile

/-!
# Cutting and trimming text

* `isWhitespace`: the characters that count as white space in Unicode text.
* `strip`: the text without white space at either end. `strip_padded`: white space around a text
  without any is taken away; `strip_eq_empty_iff`: nothing is left of a blank text only.
* `words`: the maximal runs of characters that are not white space.
* `fields sep s`: the pieces between the occurrences of a separator character. `fields_of_not_mem`
  and `fields_append` compute them, and `fields_intercalate_iff` says when they are the parts that a
  text was joined from.
* `ofLines` and `linesOf`: texts with a line break after each. `linesOf_ofLines`: texts without one
  are found again.
* `append_eq_append_iff`: two ways to split one text in two.
-/

namespace GovernedMcp.Lib.Text

/-- White space: the control characters that separate lines and fields, and the Unicode spaces. -/
def isWhitespace (c : Char) : Bool :=
  let n := c.toNat
  (9 ≤ n && n ≤ 13) || (28 ≤ n && n ≤ 32) || n == 0x85 || n == 0xA0 || n == 0x1680 ||
    (0x2000 ≤ n && n ≤ 0x200A) || n == 0x2028 || n == 0x2029 || n == 0x202F || n == 0x205F ||
    n == 0x3000

/-- Drop the white space at both ends. -/
def stripChars (cs : List Char) : List Char :=
  ((cs.dropWhile isWhitespace).reverse.dropWhile isWhitespace).reverse

/-- The text without the white space at its ends. -/
def strip (s : String) : String := String.ofList (stripChars s.toList)

/-- The runs of characters between white space. -/
def words (s : String) : List String :=
  ((s.toList.splitOnP isWhitespace).filter (fun w => w ≠ [])).map String.ofList

/-- The pieces of a text between the occurrences of `sep`. -/
def fields (sep : Char) (s : String) : List String := (s.toList.splitOn sep).map String.ofList

/-- Nothing but white space. -/
def IsBlank (s : String) : Prop := ∀ c ∈ s.toList, isWhitespace c = true

/-- No other character is in a blank text. -/
theorem IsBlank.not_mem {s : String} (h : IsBlank s) {c : Char} (hc : isWhitespace c = false) :
    c ∉ s.toList := by
  intro hmem
  rw [h c hmem] at hc
  cases hc

/-- Nothing is left where there is white space only. -/
theorem stripChars_eq_nil_iff {cs : List Char} :
    stripChars cs = [] ↔ ∀ c ∈ cs, isWhitespace c = true := by
  unfold stripChars
  rw [List.reverse_eq_nil_iff, List.dropWhile_eq_nil_iff]
  constructor
  · intro h
    rw [← List.dropWhile_eq_nil_iff]
    rcases hrest : cs.dropWhile isWhitespace with _ | ⟨c, rest⟩
    · rfl
    · -- what is left begins with a character that is not white space
      have hfirst := List.head?_dropWhile_not isWhitespace cs
      rw [hrest] at h hfirst
      have hwhite := h c (by simp)
      rw [List.head?_cons] at hfirst
      simp only [hwhite, Bool.true_eq_false] at hfirst
  · intro h c hc
    exact h c (List.dropWhile_sublist _ |>.subset (List.mem_reverse.mp hc))

/-- Nothing is left of a blank text only. -/
theorem strip_eq_empty_iff {s : String} : strip s = "" ↔ IsBlank s := by
  unfold strip IsBlank
  rw [← stripChars_eq_nil_iff]
  constructor
  · intro h
    have hlist := congrArg String.toList h
    rwa [String.toList_ofList] at hlist
  · intro h
    rw [h]

/-- White space in front is dropped, up to a character that is none. -/
theorem dropWhile_padded {ws cs : List Char} (hws : ∀ c ∈ ws, isWhitespace c = true)
    (hcs : ∀ c ∈ cs, isWhitespace c = false) (hne : cs ≠ []) (rest : List Char) :
    (ws ++ (cs ++ rest)).dropWhile isWhitespace = cs ++ rest := by
  rw [List.dropWhile_append_of_pos hws]
  rcases cs with _ | ⟨c, cs⟩
  · exact absurd rfl hne
  · simp [hcs c List.mem_cons_self]

/-- **White space around a text** without any is what stripping takes away. -/
theorem strip_padded {before s after : String} (hbefore : IsBlank before) (hafter : IsBlank after)
    (h : ∀ c ∈ s.toList, isWhitespace c = false) : strip (before ++ s ++ after) = s := by
  by_cases hs : s = ""
  · rw [hs, String.append_empty, strip_eq_empty_iff]
    intro c hc
    rw [String.toList_append, List.mem_append] at hc
    exact hc.elim (hbefore c) (hafter c)
  · have hne : s.toList ≠ [] := by simpa using hs
    have hback := dropWhile_padded (fun c hc => hafter c (List.mem_reverse.mp hc))
      (fun c hc => h c (List.mem_reverse.mp hc)) (List.reverse_ne_nil_iff.mpr hne) []
    rw [List.append_nil] at hback
    unfold strip stripChars
    rw [String.toList_append, String.toList_append, List.append_assoc,
      dropWhile_padded hbefore h hne, List.reverse_append, hback, List.reverse_reverse,
      String.ofList_toList]

/-- A text without white space is its own stripped form. -/
theorem strip_eq_self {s : String} (h : ∀ c ∈ s.toList, isWhitespace c = false) :
    strip s = s := by
  have hblank : IsBlank "" := by
    intro c hc
    cases hc
  have hpadded := strip_padded hblank hblank h
  rwa [String.append_empty, String.empty_append] at hpadded

/-- A text in which the separator does not occur is a single piece. -/
theorem fields_of_not_mem {sep : Char} {s : String} (h : sep ∉ s.toList) :
    fields sep s = [s] := by
  rw [fields, List.splitOn_eq_singleton h]
  simp

/-- Two texts joined by a separator are cut into the pieces of both. -/
theorem fields_append {sep : Char} (s t : String) :
    fields sep (s ++ String.singleton sep ++ t) = fields sep s ++ fields sep t := by
  have htext : (s ++ String.singleton sep ++ t).toList = s.toList ++ sep :: t.toList := by simp
  rw [fields, htext, List.splitOn_append_cons_self, List.map_append]
  rfl

/-- There is always a field. -/
theorem fields_ne_nil (sep : Char) (s : String) : fields sep s ≠ [] := by
  simp [fields, List.splitOn_ne_nil]

/-- The parts between separators have none. -/
theorem not_mem_of_mem_splitOn {α : Type} [DecidableEq α] {a : α} {xs p : List α}
    (h : p ∈ xs.splitOn a) : a ∉ p := by
  induction xs generalizing p with
  | nil =>
    rw [List.splitOn_nil, List.mem_singleton] at h
    simp [h]
  | cons x xs ih =>
    rw [List.splitOn_cons_eq_if_modifyHead] at h
    split_ifs at h with hx
    · rcases List.mem_cons.mp h with rfl | h
      · exact List.not_mem_nil
      · exact ih h
    · -- the first character goes to the first piece
      rcases hs : xs.splitOn a with _ | ⟨q, qs⟩
      · exact absurd hs (List.splitOn_ne_nil a xs)
      · rw [hs] at h ih
        rcases List.mem_cons.mp h with rfl | h
        · rw [List.mem_cons, not_or]
          exact ⟨fun hax => hx (by simp [hax]), ih List.mem_cons_self⟩
        · exact ih (List.mem_cons_of_mem q h)

/-- The separator occurs in no piece. -/
theorem not_mem_of_mem_fields {sep : Char} {s p : String} (h : p ∈ fields sep s) :
    sep ∉ p.toList := by
  obtain ⟨q, hq, rfl⟩ := List.mem_map.mp h
  rw [String.toList_ofList]
  exact not_mem_of_mem_splitOn hq

/-- Joining texts one of which is not empty does not give the empty text. -/
theorem intercalate_ne_empty {s p : String} {parts : List String} (h : p ∈ parts) (hp : p ≠ "") :
    s.intercalate parts ≠ "" := by
  induction parts with
  | nil => cases h
  | cons q parts ih =>
    cases parts with
    | nil =>
      rw [String.intercalate_singleton, ← List.mem_singleton.mp h]
      exact hp
    | cons r parts =>
      rw [String.intercalate_cons_cons]
      rcases List.mem_cons.mp h with rfl | h
      · simp [hp]
      · simp [ih h]

/-- Joined parts without the separator are the pieces. -/
theorem fields_intercalate {sep : Char} {parts : List String} (hne : parts ≠ [])
    (h : ∀ p ∈ parts, sep ∉ p.toList) :
    fields sep ((String.singleton sep).intercalate parts) = parts := by
  induction parts with
  | nil => exact absurd rfl hne
  | cons p parts ih =>
    have hp := fields_of_not_mem (h p List.mem_cons_self)
    cases parts with
    | nil => rw [String.intercalate_singleton, hp]
    | cons q parts =>
      rw [String.intercalate_cons_cons, fields_append, hp,
        ih (by simp) fun r hr => h r (List.mem_cons_of_mem p hr)]
      rfl

/-- **When a joined text is cut into its parts**: when there are any, and the separator is in none
of them. -/
theorem fields_intercalate_iff {sep : Char} {parts : List String} :
    fields sep ((String.singleton sep).intercalate parts) = parts ↔
      parts ≠ [] ∧ ∀ p ∈ parts, sep ∉ p.toList := by
  constructor
  · intro h
    constructor
    · intro hnil
      rw [hnil] at h
      exact fields_ne_nil sep _ h
    · intro p hp
      rw [← h] at hp
      exact not_mem_of_mem_fields hp
  · rintro ⟨hne, h⟩
    exact fields_intercalate hne h

/-- Texts as lines, a line break after each. -/
def ofLines (lines : List String) : String := String.join (lines.map fun line => line ++ "\n")

/-- The lines of a text. What follows the last line break is none. -/
def linesOf (s : String) : List String := (fields '\n' s).dropLast

/-- The first line comes first, with its line break. -/
theorem ofLines_cons (line : String) (lines : List String) :
    ofLines (line :: lines) = line ++ String.singleton '\n' ++ ofLines lines := by
  simp [ofLines, String.join_cons]

/-- **Texts without a line break** are the lines of what they are written as. -/
theorem linesOf_ofLines {lines : List String} (h : ∀ line ∈ lines, '\n' ∉ line.toList) :
    linesOf (ofLines lines) = lines := by
  have hfields : fields '\n' (ofLines lines) = lines ++ [""] := by
    induction lines with
    | nil => exact fields_of_not_mem (by simp [ofLines])
    | cons line lines ih =>
      rw [List.forall_mem_cons] at h
      rw [ofLines_cons, fields_append, fields_of_not_mem h.1, ih h.2, List.singleton_append,
        List.cons_append]
  rw [linesOf, hfields, List.dropLast_concat]

/-- Two splittings of one text: one first part extends the other. -/
theorem append_eq_append_iff {h d h' d' : String} : h ++ d = h' ++ d' ↔
    (∃ x, h' = h ++ x ∧ d = x ++ d') ∨ ∃ x, h = h' ++ x ∧ d' = x ++ d := by
  constructor
  · intro heq
    have hlist : h.toList ++ d.toList = h'.toList ++ d'.toList := by
      rw [← String.toList_append, heq, String.toList_append]
    rcases List.append_eq_append_iff.mp hlist with ⟨x, hh, hd⟩ | ⟨x, hh, hd⟩
    · exact Or.inl ⟨String.ofList x, String.ext (by simpa using hh), String.ext (by simpa using hd)⟩
    · exact Or.inr ⟨String.ofList x, String.ext (by simpa using hh), String.ext (by simpa using hd)⟩
  · rintro (⟨x, rfl, rfl⟩ | ⟨x, rfl, rfl⟩)
    · rw [String.append_assoc]
    · rw [String.append_assoc]

end GovernedMcp.Lib.Text
