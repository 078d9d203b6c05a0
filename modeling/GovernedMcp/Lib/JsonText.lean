import Mathlib.Data.List.Basic
import Mathlib.Tactic.IntervalCases

/-!
# JSON documents as texts

Compact texts of JSON documents, in ASCII: no white space between tokens, and every character
outside the printable ASCII range escaped. Numbers are left out, so that a text shows by its own
last character where it ends.

* `render` writes a document, `read` reads one.
* `read_render`: what was written is read back.
* `printable_render`: a text is made of printable ASCII characters, so it is a single line.

A reader is a function from a text to a value and what is left of the text. Readers of nested things
are given fuel; the length of the text is enough.
-/

namespace GovernedMcp.Lib.JsonText

/-- A document without numbers. -/
inductive Doc where
  | null
  | bool (b : Bool)
  | str (s : String)
  | arr (items : List Doc)
  | obj (members : List (String × Doc))

/-! ## Characters -/

/-- The hexadecimal digit of a number below sixteen. -/
def hexDigit (n : ℕ) : Char := if n < 10 then Char.ofNat (48 + n) else Char.ofNat (87 + n)

/-- What a hexadecimal digit stands for. -/
def hexValue (c : Char) : Option ℕ :=
  if 48 ≤ c.toNat ∧ c.toNat ≤ 57 then some (c.toNat - 48)
  else if 97 ≤ c.toNat ∧ c.toNat ≤ 102 then some (c.toNat - 87)
  else if 65 ≤ c.toNat ∧ c.toNat ≤ 70 then some (c.toNat - 55)
  else none

/-- The four digits of a UTF-16 code unit. -/
def unit (n : ℕ) : List Char :=
  [hexDigit (n / 4096 % 16), hexDigit (n / 256 % 16), hexDigit (n / 16 % 16), hexDigit (n % 16)]

/-- The letter of a short escape. -/
def shortEscape (c : Char) : Option Char :=
  if c = '"' then some '"'
  else if c = '\\' then some '\\'
  else if c = '\n' then some 'n'
  else if c = '\r' then some 'r'
  else if c = '\t' then some 't'
  else if c = Char.ofNat 8 then some 'b'
  else if c = Char.ofNat 12 then some 'f'
  else none

/-- What the letter of a short escape stands for. -/
def ofShortEscape (c : Char) : Option Char :=
  if c = '"' then some '"'
  else if c = '\\' then some '\\'
  else if c = '/' then some '/'
  else if c = 'n' then some '\n'
  else if c = 'r' then some '\r'
  else if c = 't' then some '\t'
  else if c = 'b' then some (Char.ofNat 8)
  else if c = 'f' then some (Char.ofNat 12)
  else none

/-- A character inside a string. -/
def escape (c : Char) : List Char :=
  match shortEscape c with
  | some letter => ['\\', letter]
  | none =>
    if 32 ≤ c.toNat ∧ c.toNat ≤ 126 then [c]
    else if c.toNat < 65536 then '\\' :: 'u' :: unit c.toNat
    else
      -- a surrogate pair
      '\\' :: 'u' :: unit (55296 + (c.toNat - 65536) / 1024) ++
        '\\' :: 'u' :: unit (56320 + (c.toNat - 65536) % 1024)

/-- Reads the four digits of a code unit. -/
def readUnit : List Char → Option (ℕ × List Char)
  | a :: b :: c :: d :: rest =>
    match hexValue a, hexValue b, hexValue c, hexValue d with
    | some a, some b, some c, some d => some (a * 4096 + b * 256 + c * 16 + d, rest)
    | _, _, _, _ => none
  | _ => none

/-- Reads the second half of a surrogate pair. -/
def readLow (high : ℕ) : List Char → Option (Char × List Char)
  | a :: b :: rest =>
    if a = '\\' ∧ b = 'u' then
      match readUnit rest with
      | some (low, rest) =>
        if 56320 ≤ low ∧ low < 57344 then
          some (Char.ofNat (65536 + (high - 55296) * 1024 + (low - 56320)), rest)
        else none
      | none => none
    else none
  | _ => none

/-- Reads a character inside a string. -/
def readChar : List Char → Option (Char × List Char)
  | [] => none
  | c :: rest =>
    if c = '\\' then
      match rest with
      | [] => none
      | letter :: rest =>
        if letter = 'u' then
          match readUnit rest with
          | some (n, rest) =>
            if 55296 ≤ n ∧ n < 56320 then readLow n rest
            else if 56320 ≤ n ∧ n < 57344 then none
            else some (Char.ofNat n, rest)
          | none => none
        else (ofShortEscape letter).map fun c => (c, rest)
    else if c = '"' ∨ c.toNat < 32 then none
    else some (c, rest)

/-- A character in the printable ASCII range. -/
def Printable (c : Char) : Prop := 32 ≤ c.toNat ∧ c.toNat ≤ 126

instance (c : Char) : Decidable (Printable c) := inferInstanceAs (Decidable (_ ∧ _))

/-- A hexadecimal digit is read back. -/
theorem hexValue_hexDigit {n : ℕ} (h : n < 16) : hexValue (hexDigit n) = some n := by
  interval_cases n <;> rfl

/-- A hexadecimal digit is printable. -/
theorem printable_hexDigit {n : ℕ} (h : n < 16) : Printable (hexDigit n) := by
  interval_cases n <;> decide

/-- So is a unit. -/
theorem printable_unit (n : ℕ) : ∀ c ∈ unit n, Printable c := by
  have hdigit (m : ℕ) : Printable (hexDigit (m % 16)) :=
    printable_hexDigit (Nat.mod_lt m (by decide))
  simp only [unit, List.forall_mem_cons]
  exact ⟨hdigit _, hdigit _, hdigit _, hdigit _, by simp⟩

/-- The digits of a code unit are read back. -/
theorem readUnit_unit {n : ℕ} (h : n < 65536) (rest : List Char) :
    readUnit (unit n ++ rest) = some (n, rest) := by
  have hdigit (m : ℕ) : hexValue (hexDigit (m % 16)) = some (m % 16) :=
    hexValue_hexDigit (Nat.mod_lt m (by decide))
  simp only [unit, List.cons_append, List.nil_append, readUnit, hdigit]
  congr 2
  omega

/-- A short escape is read back, and is not taken for a unit. -/
theorem ofShortEscape_of_shortEscape {c letter : Char} (h : shortEscape c = some letter) :
    ofShortEscape letter = some c ∧ letter ≠ 'u' := by
  unfold shortEscape at h
  split_ifs at h with h₁ h₂ h₃ h₄ h₅ h₆ h₇ <;> cases h <;> subst c <;> decide

/-- The second half of a surrogate pair gives the lower ten bits. -/
theorem readLow_unit {high low : ℕ} (h : low < 1024) (rest : List Char) :
    readLow high ('\\' :: 'u' :: unit (56320 + low) ++ rest) =
      some (Char.ofNat (65536 + (high - 55296) * 1024 + low), rest) := by
  have hunit := readUnit_unit (show 56320 + low < 65536 by omega) rest
  have hlow : 56320 ≤ 56320 + low ∧ 56320 + low < 57344 := by omega
  have hsub : 56320 + low - 56320 = low := by omega
  simp only [List.cons_append, readLow, and_self, if_true, hunit, if_pos hlow, hsub]

/-- **An escaped character is read back.** -/
theorem readChar_escape (c : Char) (rest : List Char) :
    readChar (escape c ++ rest) = some (c, rest) := by
  unfold escape
  rcases hshort : shortEscape c with _ | letter
  · have hquote : c ≠ '"' := by
      rintro rfl
      cases hshort
    have hbackslash : c ≠ '\\' := by
      rintro rfl
      cases hshort
    dsimp only
    split_ifs with hplain hunit
    · simp only [List.cons_append, List.nil_append, readChar, if_neg hbackslash]
      rw [if_neg]
      simp only [hquote, false_or, not_lt]
      exact hplain.1
    · -- a character is no surrogate
      have hvalid : c.toNat < 55296 ∨ 57343 < c.toNat := by
        rcases c.valid with h | h
        · exact Or.inl h
        · exact Or.inr h.1
      simp only [List.cons_append, readChar, if_true, readUnit_unit hunit]
      rw [if_neg (by omega), if_neg (by omega), Char.ofNat_toNat]
    · have hmax : c.toNat < 1114112 := by
        rcases c.valid with h | h
        · exact h.trans (by decide)
        · exact h.2
      have hhigh : 55296 + (c.toNat - 65536) / 1024 < 56320 := by omega
      simp only [List.cons_append, List.append_assoc, readChar, if_true,
        readUnit_unit (hhigh.trans (by decide))]
      rw [if_pos (by omega)]
      refine (readLow_unit (Nat.mod_lt _ (by decide)) rest).trans ?_
      have hback : 65536 + (55296 + (c.toNat - 65536) / 1024 - 55296) * 1024 +
          (c.toNat - 65536) % 1024 = c.toNat := by omega
      rw [hback, Char.ofNat_toNat]
  · obtain ⟨hback, hu⟩ := ofShortEscape_of_shortEscape hshort
    simp [readChar, hback, hu]

/-- Whatever the character, its escape is printable. -/
theorem printable_escape (c : Char) : ∀ d ∈ escape c, Printable d := by
  unfold escape
  rcases hshort : shortEscape c with _ | letter
  · dsimp only
    split_ifs with hplain hunit
    · rw [List.forall_mem_singleton]
      exact hplain
    · rw [List.forall_mem_cons, List.forall_mem_cons]
      exact ⟨by decide, by decide, printable_unit _⟩
    · simp only [List.cons_append, List.forall_mem_cons, List.forall_mem_append]
      exact ⟨by decide, by decide, printable_unit _, by decide, by decide, printable_unit _⟩
  · have hletter : Printable letter := by
      unfold shortEscape at hshort
      split_ifs at hshort <;> cases hshort <;> decide
    rw [List.forall_mem_cons]
    exact ⟨by decide, by simpa using hletter⟩

/-- No character begins like the end of a string. -/
theorem escape_eq_cons (c : Char) : ∃ d rest, escape c = d :: rest ∧ d ≠ '"' := by
  unfold escape
  rcases hshort : shortEscape c with _ | letter
  · dsimp only
    split_ifs with hplain hunit
    · refine ⟨c, [], rfl, ?_⟩
      rintro rfl
      cases hshort
    · exact ⟨_, _, rfl, by decide⟩
    · exact ⟨_, _, rfl, by decide⟩
  · exact ⟨_, _, rfl, by decide⟩

/-! ## Strings -/

/-- A string, up to and including its closing quote. -/
def quoteTail (s : List Char) : List Char := s.flatMap escape ++ ['"']

/-- Reads the rest of a string, after its opening quote. -/
def readQuoteTail : ℕ → List Char → Option (List Char × List Char)
  | 0, _ => none
  | _ + 1, [] => none
  | fuel + 1, c :: rest =>
    if c = '"' then some ([], rest)
    else
      match readChar (c :: rest) with
      | none => none
      | some (d, rest) => (readQuoteTail fuel rest).map fun r => (d :: r.1, r.2)

/-- A quoted text begins with its first character, escaped. -/
theorem quoteTail_cons (c : Char) (s : List Char) :
    quoteTail (c :: s) = escape c ++ quoteTail s := by
  simp [quoteTail]

/-- **A string is read back.** -/
theorem readQuoteTail_quoteTail {s : List Char} {fuel : ℕ} (h : s.length < fuel)
    (rest : List Char) : readQuoteTail fuel (quoteTail s ++ rest) = some (s, rest) := by
  induction s generalizing fuel with
  | nil =>
    obtain ⟨fuel, rfl⟩ := Nat.exists_eq_succ_of_ne_zero (Nat.ne_of_gt h)
    rfl
  | cons c s ih =>
    obtain ⟨fuel, rfl⟩ := Nat.exists_eq_succ_of_ne_zero (Nat.ne_of_gt (Nat.zero_lt_of_lt h))
    obtain ⟨d, more, hescape, hd⟩ := escape_eq_cons c
    have hchar : readChar (d :: (more ++ (quoteTail s ++ rest))) =
        some (c, quoteTail s ++ rest) := by
      rw [← List.cons_append, ← hescape]
      exact readChar_escape c _
    rw [quoteTail_cons, List.append_assoc, hescape, List.cons_append, readQuoteTail, if_neg hd,
      hchar]
    simp [ih (Nat.lt_of_succ_lt_succ h)]

/-- A quoted text is printable. -/
theorem printable_quoteTail (s : List Char) : ∀ c ∈ quoteTail s, Printable c := by
  unfold quoteTail
  rw [List.forall_mem_append, List.forall_mem_singleton]
  refine ⟨?_, by decide⟩
  intro c hc
  obtain ⟨d, -, hd⟩ := List.mem_flatMap.mp hc
  exact printable_escape d c hd

/-- A quoted text is longer than the text. -/
theorem length_le_quoteTail (s : List Char) : s.length < (quoteTail s).length := by
  induction s with
  | nil => decide
  | cons c s ih =>
    obtain ⟨d, more, hescape, -⟩ := escape_eq_cons c
    rw [quoteTail_cons, hescape]
    simp only [List.length_cons, List.cons_append, List.length_append]
    omega

/-! ## Sequences -/

section sequences

variable {α : Type}

/-- Texts between commas, and then a closing character. -/
def separated (close : Char) (texts : List (List Char)) : List Char :=
  [','].intercalate texts ++ [close]

/-- Reads one thing or more, between commas, up to the closing character. -/
def readSeparated (close : Char) (read : List Char → Option (α × List Char)) :
    ℕ → List Char → Option (List α × List Char)
  | 0, _ => none
  | fuel + 1, cs =>
    match read cs with
    | some (a, c :: rest) =>
      if c = close then some ([a], rest)
      else if c = ',' then (readSeparated close read fuel rest).map fun r => (a :: r.1, r.2)
      else none
    | _ => none

/-- Reads any number of things. -/
def readSequence (close : Char) (read : List Char → Option (α × List Char)) (fuel : ℕ) :
    List Char → Option (List α × List Char)
  | [] => none
  | c :: rest => if c = close then some ([], rest) else readSeparated close read fuel (c :: rest)

/-- One text is followed by the closing bracket. -/
theorem separated_singleton (close : Char) (text : List Char) :
    separated close [text] = text ++ [close] := by
  simp [separated]

/-- Two texts have a comma between them. -/
theorem separated_cons_cons (close : Char) (text text' : List Char) (texts : List (List Char)) :
    separated close (text :: text' :: texts) = text ++ ',' :: separated close (text' :: texts) := by
  simp [separated, List.intercalate]

/-- Separated texts are longer than their number, and than each of them. -/
theorem length_le_separated (close : Char) (texts : List (List Char)) :
    texts.length ≤ (separated close texts).length ∧
      ∀ text ∈ texts, text.length < (separated close texts).length := by
  induction texts with
  | nil => simp
  | cons text texts ih =>
    cases texts with
    | nil => simp [separated_singleton]
    | cons text' texts =>
      rw [separated_cons_cons, List.forall_mem_cons]
      simp only [List.length_append, List.length_cons] at ih ⊢
      refine ⟨by omega, by omega, fun t ht => ?_⟩
      have hlt := ih.2 t ht
      omega

/-- Separating adds commas and a bracket only. -/
theorem forall_mem_separated {P : Char → Prop} {close : Char} {texts : List (List Char)}
    (hclose : P close) (hcomma : P ',') (h : ∀ text ∈ texts, ∀ c ∈ text, P c) :
    ∀ c ∈ separated close texts, P c := by
  induction texts with
  | nil => simpa [separated] using hclose
  | cons text texts ih =>
    rw [List.forall_mem_cons] at h
    cases texts with
    | nil =>
      rw [separated_singleton, List.forall_mem_append, List.forall_mem_singleton]
      exact ⟨h.1, hclose⟩
    | cons text' texts =>
      rw [separated_cons_cons, List.forall_mem_append, List.forall_mem_cons]
      exact ⟨h.1, hcomma, ih h.2⟩

variable {close : Char} {text : α → List Char} {read : List Char → Option (α × List Char)}
  {as : List α} {fuel : ℕ}

/-- Where each thing is read back, so are one or more of them. -/
theorem readSeparated_separated (hclose : close ≠ ',')
    (hread : ∀ a ∈ as, ∀ rest, read (text a ++ rest) = some (a, rest)) (hne : as ≠ [])
    (hfuel : as.length ≤ fuel) (rest : List Char) :
    readSeparated close read fuel (separated close (as.map text) ++ rest) = some (as, rest) := by
  induction as generalizing fuel with
  | nil => exact absurd rfl hne
  | cons a as ih =>
    rw [List.forall_mem_cons] at hread
    obtain ⟨fuel, rfl⟩ := Nat.exists_eq_succ_of_ne_zero (Nat.ne_of_gt (Nat.zero_lt_of_lt hfuel))
    cases as with
    | nil =>
      rw [List.map_singleton, separated_singleton, List.append_assoc, readSeparated, hread.1]
      simp
    | cons a' as =>
      have hmore := ih hread.2 (by simp) (Nat.le_of_succ_le_succ hfuel)
      rw [List.map_cons] at hmore
      rw [List.map_cons, List.map_cons, separated_cons_cons, List.append_assoc, readSeparated,
        hread.1]
      simp only [List.cons_append, if_neg hclose.symm, if_true, hmore]
      rfl

/-- **A sequence is read back**, where each of its things is and none begins like its end. -/
theorem readSequence_separated (hclose : close ≠ ',')
    (hread : ∀ a ∈ as, ∀ rest, read (text a ++ rest) = some (a, rest))
    (hhead : ∀ a ∈ as, ∃ c rest, text a = c :: rest ∧ c ≠ close) (hfuel : as.length ≤ fuel)
    (rest : List Char) :
    readSequence close read fuel (separated close (as.map text) ++ rest) = some (as, rest) := by
  cases as with
  | nil => simp [separated, readSequence]
  | cons a as =>
    have hall := readSeparated_separated hclose hread (by simp) hfuel rest
    obtain ⟨c, more, htext, hc⟩ := hhead a (by simp)
    have hcons : ∃ rest', separated close ((a :: as).map text) ++ rest = c :: rest' := by
      rw [List.map_cons, htext]
      cases as with
      | nil => exact ⟨_, by rw [List.map_nil, separated_singleton]; rfl⟩
      | cons a' as => exact ⟨_, by rw [List.map_cons, separated_cons_cons]; rfl⟩
    obtain ⟨rest', heq⟩ := hcons
    rw [heq] at hall ⊢
    rw [readSequence, if_neg hc, hall]

end sequences

/-! ## Documents -/

mutual

/-- The text of a document. -/
def render : Doc → List Char
  | .null => ['n', 'u', 'l', 'l']
  | .bool true => ['t', 'r', 'u', 'e']
  | .bool false => ['f', 'a', 'l', 's', 'e']
  | .str s => '"' :: quoteTail s.toList
  | .arr items => '[' :: separated ']' (renderItems items)
  | .obj members => '{' :: separated '}' (renderMembers members)
termination_by structural d => d

/-- The texts of the items of an array. -/
def renderItems : List Doc → List (List Char)
  | [] => []
  | d :: items => render d :: renderItems items
termination_by structural items => items

/-- The texts of the members of an object. -/
def renderMembers : List (String × Doc) → List (List Char)
  | [] => []
  | m :: members => renderMember m :: renderMembers members
termination_by structural members => members

/-- The text of a member. -/
def renderMember : String × Doc → List Char
  | (name, d) => '"' :: (quoteTail name.toList ++ ':' :: render d)
termination_by structural m => m

end

/-- Reads a member of an object. -/
def readMember (read : List Char → Option (Doc × List Char)) (fuel : ℕ) :
    List Char → Option ((String × Doc) × List Char)
  | [] => none
  | c :: rest =>
    if c = '"' then
      match readQuoteTail fuel rest with
      | some (name, d :: rest) =>
        if d = ':' then (read rest).map fun r => ((String.ofList name, r.1), r.2) else none
      | _ => none
    else none

/-- Reads a document. -/
def readDoc : ℕ → List Char → Option (Doc × List Char)
  | 0, _ => none
  | _ + 1, [] => none
  | fuel + 1, c :: rest =>
    if c = '"' then (readQuoteTail fuel rest).map fun r => (.str (String.ofList r.1), r.2)
    else if c = '[' then
      (readSequence ']' (readDoc fuel) fuel rest).map fun r => (.arr r.1, r.2)
    else if c = '{' then
      (readSequence '}' (readMember (readDoc fuel) fuel) fuel rest).map fun r => (.obj r.1, r.2)
    else if ['n', 'u', 'l', 'l'].isPrefixOf (c :: rest) then some (.null, rest.drop 3)
    else if ['t', 'r', 'u', 'e'].isPrefixOf (c :: rest) then some (.bool true, rest.drop 3)
    else if ['f', 'a', 'l', 's', 'e'].isPrefixOf (c :: rest) then
      some (.bool false, rest.drop 4)
    else none

/-- Reads a text that is a document and nothing more. -/
def read (text : List Char) : Option Doc :=
  match readDoc (text.length + 1) text with
  | some (d, []) => some d
  | _ => none

/-- Items are rendered one by one. -/
theorem renderItems_eq (items : List Doc) : renderItems items = items.map render := by
  induction items with
  | nil => rfl
  | cons d items ih => rw [renderItems, ih, List.map_cons]

/-- So are members. -/
theorem renderMembers_eq (members : List (String × Doc)) :
    renderMembers members = members.map renderMember := by
  induction members with
  | nil => rfl
  | cons m members ih => rw [renderMembers, ih, List.map_cons]

/-- No document begins like the end of an array. -/
theorem render_eq_cons (d : Doc) : ∃ c rest, render d = c :: rest ∧ c ≠ ']' := by
  cases d with
  | null => exact ⟨_, _, rfl, by decide⟩
  | bool b => cases b <;> exact ⟨_, _, rfl, by decide⟩
  | str s => exact ⟨_, _, rfl, by decide⟩
  | arr items => exact ⟨_, _, rfl, by decide⟩
  | obj members => exact ⟨_, _, rfl, by decide⟩

/-- A rendered member does not begin like an empty object. -/
theorem renderMember_eq_cons (m : String × Doc) :
    ∃ c rest, renderMember m = c :: rest ∧ c ≠ '}' := by
  obtain ⟨name, d⟩ := m
  exact ⟨_, _, rfl, by decide⟩

/-- A member is read back where its document is. -/
theorem readMember_renderMember {m : String × Doc} {fuel : ℕ}
    {read : List Char → Option (Doc × List Char)}
    (hread : ∀ rest, read (render m.2 ++ rest) = some (m.2, rest))
    (hfuel : m.1.toList.length < fuel) (rest : List Char) :
    readMember read fuel (renderMember m ++ rest) = some (m, rest) := by
  obtain ⟨name, d⟩ := m
  rw [renderMember, List.cons_append, List.append_assoc, readMember, if_pos rfl,
    readQuoteTail_quoteTail hfuel]
  simp [hread]

/-- **A document is read back** from the beginning of a text, given fuel for its own length. -/
theorem readDoc_render (fuel : ℕ) (d : Doc) (h : (render d).length < fuel) (rest : List Char) :
    readDoc fuel (render d ++ rest) = some (d, rest) := by
  induction fuel generalizing d rest with
  | zero => exact absurd h (Nat.not_lt_zero _)
  | succ fuel ih =>
    cases d with
    | null => rfl
    | bool b => cases b <;> rfl
    | str s =>
      have hlength := length_le_quoteTail s.toList
      rw [render, List.length_cons] at h
      rw [render, List.cons_append, readDoc, if_pos rfl, readQuoteTail_quoteTail (by omega)]
      simp
    | arr items =>
      rw [render, renderItems_eq, List.length_cons] at h
      obtain ⟨hcount, hitem⟩ := length_le_separated ']' (items.map render)
      rw [List.length_map] at hcount
      have hread : ∀ d ∈ items, ∀ rest', readDoc fuel (render d ++ rest') = some (d, rest') :=
        fun d hd => ih d ((hitem _ (List.mem_map_of_mem hd)).trans (by omega))
      have hcount' : items.length ≤ fuel := by omega
      have hitems := readSequence_separated (by decide : ']' ≠ ',') hread
        (fun d _ => render_eq_cons d) hcount' rest
      rw [render, renderItems_eq, List.cons_append, readDoc, if_neg (by decide), if_pos rfl, hitems]
      rfl
    | obj members =>
      rw [render, renderMembers_eq, List.length_cons] at h
      obtain ⟨hcount, hmember⟩ := length_le_separated '}' (members.map renderMember)
      rw [List.length_map] at hcount
      have hread : ∀ m ∈ members, ∀ rest',
          readMember (readDoc fuel) fuel (renderMember m ++ rest') = some (m, rest') := by
        intro m hm rest'
        have hlength := hmember _ (List.mem_map_of_mem hm)
        have hname := length_le_quoteTail m.1.toList
        rw [renderMember, List.length_cons, List.length_append, List.length_cons] at hlength
        exact readMember_renderMember (fun rest'' => ih m.2 (by omega) rest'') (by omega) rest'
      have hcount' : members.length ≤ fuel := by omega
      have hmembers := readSequence_separated (by decide : '}' ≠ ',') hread
        (fun m _ => renderMember_eq_cons m) hcount' rest
      rw [render, renderMembers_eq, List.cons_append, readDoc, if_neg (by decide),
        if_neg (by decide), if_pos rfl, hmembers]
      rfl

/-- **A document that was written is read back.** -/
theorem read_render (d : Doc) : read (render d) = some d := by
  have h := readDoc_render ((render d).length + 1) d (Nat.lt_succ_self _) []
  rw [List.append_nil] at h
  rw [read, h]

/-- What lies outside the basic plane is escaped as two code units. -/
example : render (.str "a\nü😀") = "\"a\\n\\u00fc\\ud83d\\ude00\"".toList := by decide

/-! ## A text is a line -/

mutual

/-- **Every character of a text is printable ASCII.** -/
theorem printable_render : (d : Doc) → ∀ c ∈ render d, Printable c
  | .null => by
    show ∀ c ∈ ['n', 'u', 'l', 'l'], Printable c
    simp [Printable]
  | .bool true => by
    show ∀ c ∈ ['t', 'r', 'u', 'e'], Printable c
    simp [Printable]
  | .bool false => by
    show ∀ c ∈ ['f', 'a', 'l', 's', 'e'], Printable c
    simp [Printable]
  | .str s => by
    rw [render, List.forall_mem_cons]
    exact ⟨by decide, printable_quoteTail _⟩
  | .arr items => by
    rw [render, List.forall_mem_cons]
    exact ⟨by decide, forall_mem_separated (by decide) (by decide) (printable_renderItems items)⟩
  | .obj members => by
    rw [render, List.forall_mem_cons]
    exact ⟨by decide, forall_mem_separated (by decide) (by decide)
      (printable_renderMembers members)⟩

/-- Rendered items are printable. -/
theorem printable_renderItems : (items : List Doc) →
    ∀ text ∈ renderItems items, ∀ c ∈ text, Printable c
  | [] => by simp [renderItems]
  | d :: items => by
    rw [renderItems, List.forall_mem_cons]
    exact ⟨printable_render d, printable_renderItems items⟩

/-- So are rendered members. -/
theorem printable_renderMembers : (members : List (String × Doc)) →
    ∀ text ∈ renderMembers members, ∀ c ∈ text, Printable c
  | [] => by simp [renderMembers]
  | m :: members => by
    rw [renderMembers, List.forall_mem_cons]
    exact ⟨printable_renderMember m, printable_renderMembers members⟩

/-- And each of them. -/
theorem printable_renderMember : (m : String × Doc) → ∀ c ∈ renderMember m, Printable c
  | (name, d) => by
    rw [renderMember, List.forall_mem_cons, List.forall_mem_append, List.forall_mem_cons]
    exact ⟨by decide, printable_quoteTail _, by decide, printable_render d⟩

end

/-- A text has no line break in it. -/
theorem newline_not_mem_render (d : Doc) : '\n' ∉ render d := by
  intro h
  exact absurd (printable_render d _ h) (by decide)

end GovernedMcp.Lib.JsonText
