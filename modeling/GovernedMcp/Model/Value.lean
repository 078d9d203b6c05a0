import Mathlib.Data.Rat.Defs
import GovernedMcp.Lib.Dict

/-!
# The values the server handles

Everything the modelled functions receive is a Python object: a YAML document, the claims of a
token, the params of a request, an answer of a human, the result of a handler. `Value κ` is such an
object, with mapping keys of type `κ`:

* `Json = Value String`: what arrives on the wire, and the claims of a token. Member names are
  strings.
* `Yaml = Value Scalar`: what the YAML loader builds. A mapping key may be any scalar.

The rest of the file is the part of the language the modelled functions use on them: truthiness and
`or`, `str`, `isinstance(_, Mapping)`, `dict.get`, `getattr`, comparison with a literal.

`Interpreter` holds the conversions whose result the language fixes but no modelled function looks
into: the text of a float, a container or a model object, `repr`, and `int` of a text.
-/

namespace GovernedMcp

open Lib

/-- A floating-point number, as far as truthiness and comparison with integers go. -/
inductive PyFloat where
  | finite (q : ℚ)
  | inf (neg : Bool)
  | nan
  deriving DecidableEq

/-- An object that is neither a container nor a model. -/
inductive Scalar where
  | none
  | bool (b : Bool)
  | int (n : ℤ)
  | float (x : PyFloat)
  | str (s : String)
  /-- Anything else a YAML loader builds (a date, a byte string): its text and its truth value. -/
  | other (text : String) (truth : Bool)
  deriving DecidableEq

/-- A Python object. -/
inductive Value (κ : Type) where
  | scalar (a : Scalar)
  | list (xs : List (Value κ))
  /-- A mapping, with its entries in insertion order. -/
  | dict (entries : List (κ × Value κ))
  /-- An instance of a model class, read through its attributes. -/
  | model (cls : String) (attrs : List (String × Value κ))

/-- A value as it arrives on the wire. -/
abbrev Json := Value String

/-- A value as the YAML loader builds it. -/
abbrev Yaml := Value Scalar

namespace Value

variable {κ : Type}

@[match_pattern] abbrev none : Value κ := .scalar .none
@[match_pattern] abbrev bool (b : Bool) : Value κ := .scalar (.bool b)
@[match_pattern] abbrev int (n : ℤ) : Value κ := .scalar (.int n)
@[match_pattern] abbrev float (x : PyFloat) : Value κ := .scalar (.float x)
@[match_pattern] abbrev str (s : String) : Value κ := .scalar (.str s)

/-! ## Equality is decidable -/

section decEq

variable [DecidableEq κ]

mutual

/-- Decide equality of two objects. -/
def decEq : (a b : Value κ) → Decidable (a = b)
  | .scalar a, .scalar b => decidable_of_iff (a = b) (by simp)
  | .list xs, .list ys =>
    have := decEqList xs ys
    decidable_of_iff (xs = ys) (by simp)
  | .dict xs, .dict ys =>
    have := decEqEntries xs ys
    decidable_of_iff (xs = ys) (by simp)
  | .model c xs, .model d ys =>
    have := decEqAttrs xs ys
    decidable_of_iff (c = d ∧ xs = ys) (by simp)
  | .scalar _, .list _ | .scalar _, .dict _ | .scalar _, .model _ _ => isFalse (by simp)
  | .list _, .scalar _ | .list _, .dict _ | .list _, .model _ _ => isFalse (by simp)
  | .dict _, .scalar _ | .dict _, .list _ | .dict _, .model _ _ => isFalse (by simp)
  | .model _ _, .scalar _ | .model _ _, .list _ | .model _ _, .dict _ => isFalse (by simp)
termination_by structural a => a

/-- Decide equality of two lists of objects. -/
def decEqList : (xs ys : List (Value κ)) → Decidable (xs = ys)
  | [], [] => isTrue rfl
  | [], _ :: _ => isFalse (by simp)
  | _ :: _, [] => isFalse (by simp)
  | x :: xs, y :: ys =>
    have := decEq x y
    have := decEqList xs ys
    decidable_of_iff (x = y ∧ xs = ys) (by simp)
termination_by structural a => a

/-- Decide equality of two lists of entries. -/
def decEqEntries : (xs ys : List (κ × Value κ)) → Decidable (xs = ys)
  | [], [] => isTrue rfl
  | [], _ :: _ => isFalse (by simp)
  | _ :: _, [] => isFalse (by simp)
  | x :: xs, y :: ys =>
    have := decEqEntry x y
    have := decEqEntries xs ys
    decidable_of_iff (x = y ∧ xs = ys) (by simp)
termination_by structural a => a

/-- Decide equality of two entries. -/
def decEqEntry : (x y : κ × Value κ) → Decidable (x = y)
  | (k, x), (l, y) =>
    have := decEq x y
    decidable_of_iff (k = l ∧ x = y) (by simp)
termination_by structural a => a

/-- Decide equality of two lists of attributes. -/
def decEqAttrs : (xs ys : List (String × Value κ)) → Decidable (xs = ys)
  | [], [] => isTrue rfl
  | [], _ :: _ => isFalse (by simp)
  | _ :: _, [] => isFalse (by simp)
  | x :: xs, y :: ys =>
    have := decEqAttr x y
    have := decEqAttrs xs ys
    decidable_of_iff (x = y ∧ xs = ys) (by simp)
termination_by structural a => a

/-- Decide equality of two attributes. -/
def decEqAttr : (x y : String × Value κ) → Decidable (x = y)
  | (k, x), (l, y) =>
    have := decEq x y
    decidable_of_iff (k = l ∧ x = y) (by simp)
termination_by structural a => a

end

instance : DecidableEq (Value κ) := decEq

end decEq

/-! ## Truthiness -/

end Value

/-- `bool(a)` of a scalar. -/
def Scalar.truthy : Scalar → Bool
  | .none => false
  | .bool b => b
  | .int n => n != 0
  | .float (.finite q) => q != 0
  | .float _ => true
  | .str s => s != ""
  | .other _ b => b

namespace Value

variable {κ : Type}

/-- `bool(v)`. -/
def truthy : Value κ → Bool
  | .scalar a => a.truthy
  | .list xs => !xs.isEmpty
  | .dict es => !es.isEmpty
  | .model _ _ => true

/-- `v or w`. -/
def orElse (v w : Value κ) : Value κ := if v.truthy then v else w

/-- A text is true unless it is empty. -/
@[simp] theorem truthy_str (s : String) : (str s : Value κ).truthy = (s != "") := rfl

/-- Something true is taken. -/
theorem orElse_of_truthy {v : Value κ} (h : v.truthy = true) (w : Value κ) : v.orElse w = v := by
  simp [orElse, h]

/-- `None` is not. -/
@[simp] theorem orElse_none (v : Value κ) : (none : Value κ).orElse v = v := rfl

/-! ## Mappings and attributes -/

/-- The entries, when the object is a `Mapping`. -/
def asMapping : Value κ → Option (List (κ × Value κ))
  | .dict es => some es
  | _ => .none

/-- `entries.get(k)`, with `None` for a member that is absent. -/
def get [DecidableEq κ] (k : κ) (entries : List (κ × Value κ)) : Value κ :=
  (Dict.lookup k entries).getD none

/-- `entries.get(k, default)`. -/
def getOr [DecidableEq κ] (k : κ) (default : Value κ) (entries : List (κ × Value κ)) : Value κ :=
  (Dict.lookup k entries).getD default

/-- The first entry is looked at first. -/
theorem get_cons [DecidableEq κ] (k l : κ) (v : Value κ) (es : List (κ × Value κ)) :
    get k ((l, v) :: es) = if l = k then v else get k es := by
  simp only [get, Dict.lookup]
  split_ifs <;> rfl

/-- A member that is absent reads as `None`. -/
theorem get_of_lookup_none [DecidableEq κ] {k : κ} {es : List (κ × Value κ)}
    (h : Dict.lookup k es = .none) : get k es = none := by
  simp [get, h]

/-- A member that does not read as `None` is there. -/
theorem lookup_of_get [DecidableEq κ] {k : κ} {v : Value κ} {es : List (κ × Value κ)}
    (h : get k es = v) (hv : v ≠ none) : Dict.lookup k es = some v := by
  unfold get at h
  rcases hl : Dict.lookup k es with _ | w
  · rw [hl] at h
    exact absurd h.symm hv
  · rw [hl, Option.getD_some] at h
    rw [h]

/-- `getattr(v, name, default)`. The built-in types carry none of the attributes the code asks
for. -/
def attrOr (v : Value κ) (name : String) (default : Value κ) : Value κ :=
  match v with
  | .model _ attrs => (Dict.lookup name attrs).getD default
  | _ => default

/-! ## Comparison with a literal -/

/-- `v == n` for an integer literal; `True` equals `1`, and so does `1.0`. -/
def eqInt (n : ℤ) : Value κ → Bool
  | bool b => (if b then 1 else 0) == n
  | int m => m == n
  | float (.finite q) => q == (n : ℚ)
  | _ => false

/-- `v == s` for a string literal. -/
def eqStr (s : String) : Value κ → Bool
  | str t => t == s
  | _ => false

/-- `v is True`. -/
def isExactlyTrue : Value κ → Bool
  | bool true => true
  | _ => false

end Value

/-! ## Text -/

/-- The conversions between objects and text that the language fixes and the modelled code never
looks into. -/
class Interpreter where
  /-- `str(v)` of a float, a container or a model object. -/
  text : {κ : Type} → Value κ → String
  /-- `repr(v)`, which appears in error messages only. -/
  repr : {κ : Type} → Value κ → String
  /-- `int(s)` of a text; `none` where it raises. -/
  parseInt : String → Option ℤ

/-- An interpreter for concrete runs on values whose text is never asked for: it quotes strings and
reads plain decimal numerals. -/
@[reducible] def plainInterpreter : Interpreter where
  text _ := ""
  repr
    | .str s => "'" ++ s ++ "'"
    | _ => ""
  parseInt := String.toInt?

/-- `str(v)`. -/
def Value.toStr [Interpreter] {κ : Type} : Value κ → String
  | .none => "None"
  | .bool true => "True"
  | .bool false => "False"
  | .int n => toString n
  | .str s => s
  | .scalar (.other text _) => text
  | v => Interpreter.text v

/-- A text is its own text. -/
@[simp] theorem Value.toStr_str [Interpreter] {κ : Type} (s : String) :
    (Value.str s : Value κ).toStr = s := rfl

end GovernedMcp
