import Mathlib.Data.List.Forall2
import Mathlib.Data.List.Infix
import Mathlib.Data.Set.Lattice
import Mathlib.Order.CompletePartialOrder

/-!
# Shell-style patterns

Patterns with `*` (any text), `?` (any character), `[...]` (a character class with ranges, negated
by a leading `!`) and literal characters.

* `parse`: the atoms of a pattern as written. A `]` right after the opening bracket, or after the
  `!`, belongs to the class; a `[` that is never closed is a literal; `a-b` inside a class is a
  range, empty when `b < a`; a `-` at either end of a class is itself.
* `Matches`: when a text matches a list of atoms, as a relation; `matchAtoms` decides it
  (`matchAtoms_iff`).
* `language`: the texts a pattern matches. It grows with each atom (`language_mono`), and that of a
  `prefixPattern` is all texts with the prefix (`mem_language_prefixPattern`).
-/

namespace GovernedMcp.Lib.Glob

/-- One atom of a pattern. -/
inductive Atom where
  /-- The character itself. -/
  | lit (c : Char)
  /-- `?` -/
  | any
  /-- `[...]`: the ranges of the class, and whether it is negated. -/
  | cls (neg : Bool) (ranges : List (Char × Char))
  /-- `*` -/
  | star
  deriving DecidableEq

/-! ## Reading a pattern -/

/-- The text up to the first `]`, and what follows that bracket. -/
def untilBracket : List Char → Option (List Char × List Char)
  | [] => none
  | c :: cs => if c = ']' then some ([], cs) else (untilBracket cs).map fun r => (c :: r.1, r.2)

/-- The inside of a class that has just been opened (after a `!`, if there is one); its first
character belongs to it even when it is a `]`. -/
def classBody : List Char → Option (List Char × List Char)
  | [] => none
  | c :: cs => if c = ']' then (untilBracket cs).map fun r => (c :: r.1, r.2)
    else untilBracket (c :: cs)

/-- The ranges of a class, read left to right; a single character is a range of one. -/
def ranges : List Char → List (Char × Char)
  | a :: '-' :: b :: cs => (a, b) :: ranges cs
  | a :: cs => (a, a) :: ranges cs
  | [] => []

/-- The class opened by a `[`, with what follows it; `none` when it is never closed. -/
def readClass : List Char → Option (Atom × List Char)
  | '!' :: cs => (classBody cs).map fun r => (.cls true (ranges r.1), r.2)
  | cs => (classBody cs).map fun r => (.cls false (ranges r.1), r.2)

/-- Read at most `fuel` atoms. Every atom uses up a character, so the length of the pattern is
fuel enough. -/
def parseAtoms : ℕ → List Char → List Atom
  | 0, _ => []
  | _ + 1, [] => []
  | fuel + 1, c :: cs =>
    if c = '*' then .star :: parseAtoms fuel cs
    else if c = '?' then .any :: parseAtoms fuel cs
    else if c = '[' then
      match readClass cs with
      | some (a, rest) => a :: parseAtoms fuel rest
      | none => .lit c :: parseAtoms fuel cs
    else .lit c :: parseAtoms fuel cs

/-- The atoms of a pattern. -/
def parse (pattern : String) : List Atom := parseAtoms pattern.toList.length pattern.toList

/-! ## Matching -/

/-- Whether an atom other than `*` accepts a character. -/
def Atom.accepts : Atom → Char → Bool
  | .lit c, d => c == d
  | .any, _ => true
  | .cls neg rs, d => (rs.any fun r => r.1 ≤ d && d ≤ r.2) != neg
  | .star, _ => false

/-- A text matches a list of atoms. -/
inductive Matches : List Atom → List Char → Prop
  | nil : Matches [] []
  | star {as : List Atom} {s : List Char} (t : List Char) (h : Matches as s) :
      Matches (.star :: as) (t ++ s)
  | char {a : Atom} {as : List Atom} {c : Char} {s : List Char} (hc : a.accepts c)
      (h : Matches as s) : Matches (a :: as) (c :: s)

/-- Decide whether a text matches. -/
def matchAtoms : List Atom → List Char → Bool
  | [], s => s.isEmpty
  | .star :: as, s => s.tails.any (matchAtoms as)
  | _ :: _, [] => false
  | a :: as, c :: s => a.accepts c && matchAtoms as s

/-- A `*` matches any beginning of the text. -/
theorem matchAtoms_star {as : List Atom} {s : List Char} :
    matchAtoms (.star :: as) s ↔ ∃ t r, s = t ++ r ∧ matchAtoms as r := by
  simp only [matchAtoms, List.any_eq_true, List.mem_tails]
  constructor
  · rintro ⟨r, ⟨t, rfl⟩, hr⟩
    exact ⟨t, r, rfl, hr⟩
  · rintro ⟨t, r, rfl, hr⟩
    exact ⟨r, ⟨t, rfl⟩, hr⟩

/-- Any other atom matches one character. -/
theorem matchAtoms_cons {a : Atom} (ha : a ≠ .star) {as : List Atom} {c : Char} {s : List Char} :
    matchAtoms (a :: as) (c :: s) = (a.accepts c && matchAtoms as s) := by
  cases a <;> simp_all [matchAtoms]

/-- A `*` accepts no single character. -/
theorem Atom.ne_star_of_accepts {a : Atom} {c : Char} (h : a.accepts c) : a ≠ .star := by
  rintro rfl
  simp [accepts] at h

/-- `matchAtoms` decides `Matches`. -/
theorem matchAtoms_iff {as : List Atom} {s : List Char} : matchAtoms as s ↔ Matches as s := by
  constructor
  · intro h
    induction as generalizing s with
    | nil =>
        cases s with
        | nil => exact .nil
        | cons c s => simp [matchAtoms] at h
    | cons a as ih =>
        by_cases ha : a = .star
        · subst ha
          obtain ⟨t, r, rfl, hr⟩ := matchAtoms_star.mp h
          exact .star t (ih hr)
        · cases s with
          | nil => cases a <;> simp_all [matchAtoms]
          | cons c s =>
              rw [matchAtoms_cons ha, Bool.and_eq_true] at h
              exact .char h.1 (ih h.2)
  · intro h
    induction h with
    | nil => rfl
    | star t _ ih => exact matchAtoms_star.mpr ⟨t, _, rfl, ih⟩
    | char hc _ ih =>
        rw [matchAtoms_cons (Atom.ne_star_of_accepts hc), hc, ih]
        rfl

/-- Whether a text matches a pattern. -/
def isMatch (text pattern : String) : Bool := matchAtoms (parse pattern) text.toList

/-! ## The language of a pattern -/

/-- The texts a pattern matches. -/
def language (pattern : String) : Set String := {text | isMatch text pattern}

/-- The language is what is matched. -/
@[simp] theorem mem_language {text pattern : String} :
    text ∈ language pattern ↔ isMatch text pattern := Iff.rfl

/-- The decision is right. -/
theorem isMatch_iff {text pattern : String} :
    isMatch text pattern ↔ Matches (parse pattern) text.toList :=
  matchAtoms_iff

/-- The atom `b` accepts what `a` accepts. -/
def Atom.Le (a b : Atom) : Prop := a = b ∨ a ≠ .star ∧ ∀ c, a.accepts c → b.accepts c

/-- Atoms accept what they accept. -/
theorem forall₂_le_refl (as : List Atom) : List.Forall₂ Atom.Le as as :=
  List.forall₂_same.mpr fun _ _ => Or.inl rfl

/-- Replacing atoms by more permissive ones keeps every match. -/
theorem Matches.mono {as bs : List Atom} {s : List Char} (h : Matches as s)
    (hle : List.Forall₂ Atom.Le as bs) : Matches bs s := by
  induction h generalizing bs with
  | nil =>
      cases hle
      exact .nil
  | star t _ ih =>
      cases hle with
      | cons hab htail =>
          rcases hab with rfl | ⟨hne, -⟩
          · exact .star t (ih htail)
          · exact absurd rfl hne
  | char hc _ ih =>
      cases hle with
      | cons hab htail =>
          rcases hab with rfl | ⟨-, haccepts⟩
          · exact .char hc (ih htail)
          · exact .char (haccepts _ hc) (ih htail)

/-- So the language grows with each atom. -/
theorem language_mono {p q : String} (h : List.Forall₂ Atom.Le (parse p) (parse q)) :
    language p ⊆ language q := fun _ ht => isMatch_iff.mpr ((isMatch_iff.mp ht).mono h)

/-! ## Prefix patterns -/

/-- A character that stands for itself wherever it occurs. -/
def IsPlain (c : Char) : Prop := c ≠ '*' ∧ c ≠ '?' ∧ c ≠ '['

instance (c : Char) : Decidable (IsPlain c) := inferInstanceAs (Decidable (_ ∧ _))

/-- The pattern for the texts that begin with `head`. -/
def prefixPattern (head : String) : String := head ++ "*"

/-- A prefix pattern is read as its characters, and a `*`. -/
theorem parseAtoms_prefix {head : List Char} (h : ∀ c ∈ head, IsPlain c) :
    parseAtoms (head.length + 1) (head ++ ['*']) = head.map Atom.lit ++ [.star] := by
  induction head with
  | nil => rfl
  | cons c head ih =>
      obtain ⟨hstar, hany, hclass⟩ := h c List.mem_cons_self
      simp only [List.length_cons, List.cons_append, parseAtoms, hstar, hany, hclass, if_false,
        List.map_cons]
      rw [ih fun d hd => h d (List.mem_cons_of_mem c hd)]

/-- These match what begins with the characters. -/
theorem matches_prefix_iff {head s : List Char} :
    Matches (head.map Atom.lit ++ [.star]) s ↔ head <+: s := by
  induction head generalizing s with
  | nil =>
      simp only [List.map_nil, List.nil_append, List.nil_prefix, iff_true]
      simpa using Matches.star s Matches.nil
  | cons c head ih =>
      rw [List.map_cons, List.cons_append]
      constructor
      · intro h
        cases h with
        | @char _ _ d s hc h =>
            have hcd : c = d := by simpa [Atom.accepts] using hc
            rw [hcd]
            exact (List.prefix_cons_inj d).mpr (ih.mp h)
      · rintro ⟨t, rfl⟩
        exact .char (by simp [Atom.accepts]) (ih.mpr (List.prefix_append head t))

/-- A prefix pattern matches the texts with that prefix. -/
theorem mem_language_prefixPattern {head text : String} (h : ∀ c ∈ head.toList, IsPlain c) :
    text ∈ language (prefixPattern head) ↔ head.toList <+: text.toList := by
  rw [mem_language, isMatch_iff, ← matches_prefix_iff]
  have htext : (prefixPattern head).toList = head.toList ++ ['*'] := by
    simp [prefixPattern]
  rw [parse, htext, List.length_append, List.length_singleton, parseAtoms_prefix h]

/-- Among prefix patterns, a strictly smaller language has a strictly longer pattern. -/
theorem length_lt_of_language_ssubset {head head' : String} (h : ∀ c ∈ head.toList, IsPlain c)
    (h' : ∀ c ∈ head'.toList, IsPlain c)
    (hlt : language (prefixPattern head) ⊂ language (prefixPattern head')) :
    (prefixPattern head').length < (prefixPattern head).length := by
  have hmem : head.toList <+: head.toList := List.prefix_rfl
  have hhead : head'.toList <+: head.toList :=
    (mem_language_prefixPattern h').mp (hlt.1 ((mem_language_prefixPattern h).mpr hmem))
  have hne : head'.toList.length ≠ head.toList.length := by
    intro hlen
    have heq : head' = head := String.ext (hhead.eq_of_length hlen)
    exact hlt.2 (heq ▸ subset_rfl)
  have hle := hhead.length_le
  simp only [prefixPattern, String.length_append, String.length_toList] at hne hle ⊢
  omega

end GovernedMcp.Lib.Glob
