import GovernedMcp.Lib.Text

/-!
# Base64

The standard alphabet, with padding. `decode` is strict: the text is cut into groups of four
characters, each of them a digit, where the last group may end in one or two `=`.

* `isCode_of_decodeChars`: only digits and `=` occur in a text that is decoded, so neither commas
  nor white space do (`comma_not_mem_of_decode`, `isWhitespace_of_decode`).
* `decode_encode`: decoding undoes encoding.
-/

namespace GovernedMcp.Lib.Base64

/-- The value of a digit. -/
def digit (c : Char) : Option ℕ :=
  let n := c.toNat
  if 65 ≤ n ∧ n ≤ 90 then some (n - 65)
  else if 97 ≤ n ∧ n ≤ 122 then some (n - 71)
  else if 48 ≤ n ∧ n ≤ 57 then some (n + 4)
  else if n = 43 then some 62
  else if n = 47 then some 63
  else none

/-- The bytes of four, three and two digits. -/
def threeBytes (a b c d : ℕ) : List UInt8 :=
  [UInt8.ofNat (a * 4 + b / 16), UInt8.ofNat (b % 16 * 16 + c / 4), UInt8.ofNat (c % 4 * 64 + d)]

/-- Decode a list of characters. -/
def decodeChars : List Char → Option (List UInt8)
  | [] => some []
  | c₁ :: c₂ :: c₃ :: c₄ :: rest => do
    let a ← digit c₁
    let b ← digit c₂
    if rest = [] ∧ c₄ = '=' then
      if c₃ = '=' then return (threeBytes a b 0 0).take 1
      else
        let c ← digit c₃
        return (threeBytes a b c 0).take 2
    else
      let c ← digit c₃
      let d ← digit c₄
      let bytes ← decodeChars rest
      return threeBytes a b c d ++ bytes
  | _ => none

/-- Decode a text; `none` when it is not base64. -/
def decode (s : String) : Option (List UInt8) := decodeChars s.toList

/-- A digit or the padding character. -/
def IsCode (c : Char) : Prop := (digit c).isSome = true ∨ c = '='

/-- A digit is a code character. -/
theorem isCode_of_digit {c : Char} {n : ℕ} (h : digit c = some n) : IsCode c :=
  Or.inl (by rw [h]; rfl)

/-- A text that is decoded consists of digits and padding. -/
theorem isCode_of_decodeChars {cs : List Char} {bytes : List UInt8}
    (h : decodeChars cs = some bytes) : ∀ c ∈ cs, IsCode c := by
  induction cs using decodeChars.induct generalizing bytes with
  | case1 => simp
  | case2 c₁ c₂ c₃ c₄ rest ih =>
    rw [decodeChars] at h
    simp only [Option.bind_eq_bind, Option.bind_eq_some_iff] at h
    obtain ⟨a, ha, b, hb, h⟩ := h
    have htail : IsCode c₃ ∧ IsCode c₄ ∧ ∀ c ∈ rest, IsCode c := by
      split_ifs at h with hlast hpad
      · -- the last group, with two padding characters
        obtain ⟨rfl, rfl⟩ := hlast
        exact ⟨Or.inr hpad, Or.inr rfl, by simp⟩
      · -- the last group, with one
        obtain ⟨rfl, rfl⟩ := hlast
        obtain ⟨c, hc, -⟩ := Option.bind_eq_some_iff.mp h
        exact ⟨isCode_of_digit hc, Or.inr rfl, by simp⟩
      · simp only [Option.bind_eq_some_iff] at h
        obtain ⟨c, hc, d, hd, bytes', hrest, -⟩ := h
        exact ⟨isCode_of_digit hc, isCode_of_digit hd, ih hrest⟩
    intro c hmem
    simp only [List.mem_cons] at hmem
    rcases hmem with rfl | rfl | rfl | rfl | hmem
    · exact isCode_of_digit ha
    · exact isCode_of_digit hb
    · exact htail.1
    · exact htail.2.1
    · exact htail.2.2 c hmem
  | case3 cs h₁ h₂ =>
    rw [decodeChars] at h
    · cases h
    · exact h₁
    · exact h₂

/-- Commas are not part of a text that is decoded. -/
theorem comma_not_mem_of_decode {s : String} {bytes : List UInt8} (h : decode s = some bytes) :
    ',' ∉ s.toList := by
  intro hmem
  rcases isCode_of_decodeChars h ',' hmem with hdigit | heq
  · exact absurd hdigit (by decide)
  · exact absurd heq (by decide)

/-- No digit is white space. -/
theorem isWhitespace_of_digit {c : Char} (h : (digit c).isSome = true) :
    Text.isWhitespace c = false := by
  have hrange : c.toNat = 43 ∨ 47 ≤ c.toNat ∧ c.toNat ≤ 122 := by
    simp only [digit] at h
    split_ifs at h <;> first | omega | simp at h
  rw [← Bool.not_eq_true]
  unfold Text.isWhitespace
  simp only [Bool.or_eq_true, Bool.and_eq_true, decide_eq_true_eq, beq_iff_eq]
  omega

/-- Neither is white space. -/
theorem isWhitespace_of_decode {s : String} {bytes : List UInt8} (h : decode s = some bytes) :
    ∀ c ∈ s.toList, Text.isWhitespace c = false := by
  intro c hc
  rcases isCode_of_decodeChars h c hc with hdigit | rfl
  · exact isWhitespace_of_digit hdigit
  · decide

/-! ## Encoding -/

/-- The digit of a value below 64. -/
def toDigit (n : ℕ) : Char :=
  if n < 26 then Char.ofNat (n + 65)
  else if n < 52 then Char.ofNat (n + 71)
  else if n < 62 then Char.ofNat (n - 4)
  else if n = 62 then '+'
  else '/'

/-- Encode a list of bytes. -/
def encodeChars : List UInt8 → List Char
  | [] => []
  | [x] => [toDigit (x.toNat / 4), toDigit (x.toNat % 4 * 16), '=', '=']
  | [x, y] =>
    [toDigit (x.toNat / 4), toDigit (x.toNat % 4 * 16 + y.toNat / 16), toDigit (y.toNat % 16 * 4),
      '=']
  | x :: y :: z :: rest =>
    toDigit (x.toNat / 4) :: toDigit (x.toNat % 4 * 16 + y.toNat / 16) ::
      toDigit (y.toNat % 16 * 4 + z.toNat / 64) :: toDigit (z.toNat % 64) :: encodeChars rest

/-- Encode bytes as a text. -/
def encode (bytes : List UInt8) : String := String.ofList (encodeChars bytes)

/-- A digit is read back. -/
theorem digit_toDigit {n : ℕ} (h : n < 64) : digit (toDigit n) = some n := by
  have hall : ∀ n < 64, digit (toDigit n) = some n := by decide
  exact hall n h

/-- No digit is padding. -/
theorem toDigit_ne_pad {n : ℕ} (h : n < 64) : toDigit n ≠ '=' := by
  intro heq
  have hdigit := digit_toDigit h
  rw [heq] at hdigit
  cases hdigit

/-- The four digits of three bytes give the bytes back. -/
theorem threeBytes_eq (x y z : UInt8) :
    threeBytes (x.toNat / 4) (x.toNat % 4 * 16 + y.toNat / 16) (y.toNat % 16 * 4 + z.toNat / 64)
      (z.toNat % 64) = [x, y, z] := by
  have hx : x.toNat < 256 := x.toNat_lt
  have hy : y.toNat < 256 := y.toNat_lt
  have hz : z.toNat < 256 := z.toNat_lt
  have h₁ : x.toNat / 4 * 4 + (x.toNat % 4 * 16 + y.toNat / 16) / 16 = x.toNat := by omega
  have h₂ : (x.toNat % 4 * 16 + y.toNat / 16) % 16 * 16 + (y.toNat % 16 * 4 + z.toNat / 64) / 4 =
      y.toNat := by omega
  have h₃ : (y.toNat % 16 * 4 + z.toNat / 64) % 4 * 64 + z.toNat % 64 = z.toNat := by omega
  unfold threeBytes
  rw [h₁, h₂, h₃, UInt8.ofNat_toNat, UInt8.ofNat_toNat, UInt8.ofNat_toNat]

/-- A group without padding. -/
theorem decodeChars_group {a b c d : ℕ} (ha : a < 64) (hb : b < 64) (hc : c < 64) (hd : d < 64)
    (rest : List Char) :
    decodeChars (toDigit a :: toDigit b :: toDigit c :: toDigit d :: rest) =
      (decodeChars rest).map (threeBytes a b c d ++ ·) := by
  rw [decodeChars]
  simp only [digit_toDigit ha, digit_toDigit hb, digit_toDigit hc, digit_toDigit hd,
    toDigit_ne_pad hd, and_false, if_false]
  cases decodeChars rest <;> rfl

/-- **Decoding undoes encoding.** -/
theorem decodeChars_encodeChars (bytes : List UInt8) :
    decodeChars (encodeChars bytes) = some bytes := by
  induction bytes using encodeChars.induct with
  | case1 => rfl
  | case2 x =>
    have hx : x.toNat < 256 := x.toNat_lt
    have hbytes := threeBytes_eq x 0 0
    rw [encodeChars, decodeChars, digit_toDigit (by omega), digit_toDigit (by omega)]
    simp only [UInt8.toNat_zero, Nat.zero_div, Nat.add_zero, Nat.zero_mod, Nat.zero_mul] at hbytes
    simp [hbytes]
  | case3 x y =>
    have hx : x.toNat < 256 := x.toNat_lt
    have hy : y.toNat < 256 := y.toNat_lt
    have hbytes := threeBytes_eq x y 0
    have hc : y.toNat % 16 * 4 < 64 := by omega
    rw [encodeChars, decodeChars, digit_toDigit (by omega), digit_toDigit (by omega),
      digit_toDigit hc]
    simp only [UInt8.toNat_zero, Nat.zero_div, Nat.add_zero, Nat.zero_mod] at hbytes
    simp [hbytes, toDigit_ne_pad hc]
  | case4 x y z rest ih =>
    have hx : x.toNat < 256 := x.toNat_lt
    have hy : y.toNat < 256 := y.toNat_lt
    have hz : z.toNat < 256 := z.toNat_lt
    rw [encodeChars, decodeChars_group (by omega) (by omega) (by omega) (by omega), ih,
      threeBytes_eq]
    rfl

/-- **A text that was encoded** is decoded. -/
theorem decode_encode (bytes : List UInt8) : decode (encode bytes) = some bytes := by
  unfold decode encode
  rw [String.toList_ofList]
  exact decodeChars_encodeChars bytes

end GovernedMcp.Lib.Base64
