/-
The values of a script and the schemas that check them.

* `JsValue`: what a JSON reader of the script language returns.  A property that
  an object does not have is `undefined`, here `none`;
* `Schema`: a check of a value that may be absent, with the combinators of the
  validation library (`string`, `number`, `literal`, `nullable`, `optional`, `array`,
  `tuple`, `record`, `object`, `union`, `refine`);
* `object_iff` and its siblings: what an accepted value is made of.
-/
import CnsServer.Library.Calendar
import Mathlib.Algebra.GroupWithZero.Nat
import Mathlib.Algebra.Order.Ring.Rat
import Mathlib.Data.List.Dedup

namespace CnsServer

/-! ### Values -/

/-- A value of the script language, as a JSON reader returns it.  A literal beyond
the largest double is read as an infinity.  Of several fields with one key the first
counts. -/
inductive JsValue where
  | null
  | bool (b : Bool)
  | number (q : ℚ)
  | infinity (negative : Bool)
  | string (s : String)
  | array (items : List JsValue)
  | object (fields : List (String × JsValue))

namespace JsValue

/-- A property of a value. -/
def get (value : JsValue) (key : String) : Option JsValue :=
  match value with
  | object fields => fields.lookup key
  | _ => none

/-- `Object.keys`. -/
def keys : JsValue → List String
  | object fields => (fields.map Prod.fst).dedup
  | _ => []

/-- An object literal: properties that are `undefined` are not written by a JSON printer. -/
def ofProperties (properties : List (String × Option JsValue)) : JsValue :=
  object (properties.filterMap fun property => property.2.map fun value => (property.1, value))

end JsValue

/-- The length of a string in code units of sixteen bits. -/
def utf16Length (text : String) : ℕ :=
  (text.toList.map fun c => if c.val < 0x10000 then 1 else 2).sum

/-- One unit for each character below `2 ^ 16`, two for each other. -/
lemma length_le_utf16Length (text : String) : text.length ≤ utf16Length text := by
  rw [utf16Length, ← String.length_toList]
  induction text.toList with
  | nil => simp
  | cons c chars ih =>
      rw [List.map_cons, List.sum_cons, List.length_cons]
      split
      · omega
      · omega

lemma utf16Length_of_forall {text : String} (h : ∀ c ∈ text.toList, c.val < 0x10000) :
    utf16Length text = text.length := by
  rw [utf16Length, ← String.length_toList]
  generalize text.toList = chars at h ⊢
  induction chars with
  | nil => rfl
  | cons c chars ih =>
      rw [List.map_cons, List.sum_cons, List.length_cons, if_pos (h c List.mem_cons_self),
        ih fun d hd => h d (List.mem_cons_of_mem c hd)]
      omega

/-! ### Schemas -/

/-- A check of a value; `none` is `undefined`. -/
abbrev Schema := Option JsValue → Bool

/-- The checks on a string. -/
inductive StringCheck where
  | min (length : ℕ)
  | max (length : ℕ)
  /-- The regular expression `^[…]+$` of a class of characters. -/
  | regex (inClass : Char → Bool)
  | uuid
  /-- An instant of RFC 3339, with `Z` or with an offset. -/
  | datetime

/-- The checks on a number. -/
inductive NumberCheck where
  | int
  | min (bound : ℚ)
  | max (bound : ℚ)

/-- A hexadecimal digit of either case. -/
def isHexDigit (c : Char) : Bool :=
  c.isDigit || ('a' ≤ c && c ≤ 'f') || ('A' ≤ c && c ≤ 'F')

/-- The letters of either case and the digits. -/
lemma isAlphanum_iff {c : Char} : c.isAlphanum = true ↔
    ('A' ≤ c ∧ c ≤ 'Z') ∨ ('a' ≤ c ∧ c ≤ 'z') ∨ c.isDigit = true := by
  have hclasses : c.isAlphanum =
      (decide ('A' ≤ c ∧ c ≤ 'Z') || decide ('a' ≤ c) && decide (c ≤ 'z') || c.isDigit) := rfl
  rw [hclasses]
  simp only [Bool.or_eq_true, Bool.and_eq_true, decide_eq_true_eq, or_assoc]

/-- Eight, four, four, four and twelve hexadecimal digits with hyphens in between. -/
def isUuid (text : String) : Bool :=
  text.toList.length = 36 &&
    text.toList.zipIdx.all fun (c, index) =>
      if index = 8 || index = 13 || index = 18 || index = 23 then c = '-' else isHexDigit c

/-- The number that two digits spell. -/
def twoDigits (c d : Char) : ℕ := (c.toNat - '0'.toNat) * 10 + (d.toNat - '0'.toNat)

/-- `Z`, or an offset such as `+08:00`, whose colon may be missing. -/
def isZone : List Char → Bool
  | ['Z'] => true
  | [sign, a, b, ':', c, d] | [sign, a, b, c, d] =>
      (sign = '+' || sign = '-') && [a, b, c, d].all Char.isDigit
  | _ => false

/-- What follows the seconds: digits after a dot, if there are any, and the zone. -/
def isFractionAndZone : List Char → Bool
  | '.' :: rest =>
      (rest.takeWhile Char.isDigit).length ≠ 0 && isZone (rest.dropWhile Char.isDigit)
  | rest => isZone rest

/-- What follows the minutes: the seconds with their fraction, if they are there, and the
zone. -/
def isSecondsAndZone : List Char → Bool
  | ':' :: s₁ :: s₂ :: rest =>
      [s₁, s₂].all Char.isDigit && twoDigits s₁ s₂ < 60 && isFractionAndZone rest
  | rest => isZone rest

/-- `YYYY-MM-DDThh:mm`, with or without `:ss` and a fraction of any length, and a zone. -/
def isDatetime (text : String) : Bool :=
  match text.toList with
  | y₁ :: y₂ :: y₃ :: y₄ :: '-' :: m₁ :: m₂ :: '-' :: d₁ :: d₂ :: 'T' :: h₁ :: h₂ :: ':' ::
      n₁ :: n₂ :: rest =>
      [y₁, y₂, y₃, y₄, m₁, m₂, d₁, d₂, h₁, h₂, n₁, n₂].all Char.isDigit &&
        decide (IsDate (twoDigits y₁ y₂ * 100 + twoDigits y₃ y₄ : ℕ) (twoDigits m₁ m₂)
          (twoDigits d₁ d₂)) &&
        twoDigits h₁ h₂ < 24 && twoDigits n₁ n₂ < 60 && isSecondsAndZone rest
  | _ => false

/-- The check holds of the text. -/
def StringCheck.holds (text : String) : StringCheck → Bool
  | .min length => length ≤ utf16Length text
  | .max length => utf16Length text ≤ length
  | .regex inClass => !text.isEmpty && text.toList.all inClass
  | .uuid => isUuid text
  | .datetime => isDatetime text

/-- The check holds of the number. -/
def NumberCheck.holds (q : ℚ) : NumberCheck → Bool
  | .int => q.den = 1
  | .min bound => bound ≤ q
  | .max bound => q ≤ bound

/-- The check holds of an infinity. -/
def NumberCheck.holdsAtInfinity (negative : Bool) : NumberCheck → Bool
  | .int => false
  | .min _ => !negative
  | .max _ => negative

namespace Schema

/-- A boolean. -/
def boolean : Schema
  | some (.bool _) => true
  | _ => false

/-- A string that passes the checks. -/
def string (checks : List StringCheck) : Schema
  | some (.string text) => checks.all (·.holds text)
  | _ => false

/-- A number that passes the checks. -/
def number (checks : List NumberCheck) : Schema
  | some (.number q) => checks.all (·.holds q)
  | some (.infinity negative) => checks.all (·.holdsAtInfinity negative)
  | _ => false

/-- The number itself. -/
def literalNumber (q : ℚ) : Schema
  | some (.number q') => q' = q
  | _ => false

/-- The string itself. -/
def literal (text : String) : Schema
  | some (.string text') => text' = text
  | _ => false

/-- One of the strings. -/
def enum (texts : List String) : Schema
  | some (.string text) => texts.contains text
  | _ => false

/-- `null`, or what the schema accepts. -/
def nullable (schema : Schema) : Schema
  | some .null => true
  | value => schema value

/-- `undefined`, or what the schema accepts. -/
def optional (schema : Schema) : Schema
  | none => true
  | some value => schema (some value)

/-- An array of accepted items. -/
def array (item : Schema) : Schema
  | some (.array items) => items.all fun value => item (some value)
  | _ => false

/-- An array of as many items as there are schemas, each accepted by its own. -/
def tuple (schemas : List Schema) : Schema
  | some (.array items) =>
      items.length = schemas.length && (schemas.zip items).all fun (schema, value) =>
        schema (some value)
  | _ => false

/-- An object with any values. -/
def record : Schema
  | some (.object _) => true
  | _ => false

/-- What becomes of the keys that an object schema does not name. -/
inductive UnknownKeys where
  | strict | passthrough
  deriving DecidableEq

/-- An object with accepted properties. -/
def object (unknownKeys : UnknownKeys) (shape : List (String × Schema)) : Schema
  | some (.object fields) =>
      (shape.all fun (key, schema) => schema (fields.lookup key)) &&
        (unknownKeys = .passthrough ||
          fields.all fun field => (shape.map Prod.fst).contains field.1)
  | _ => false

/-- What one of the schemas accepts. -/
def union (schemas : List Schema) : Schema := fun value => schemas.any fun schema => schema value

/-- What the schema accepts, if the further check passes. -/
def refine (schema : Schema) (check : JsValue → Bool) : Schema
  | some value => schema (some value) && check value
  | none => false

/-! ### What is accepted -/

lemma string_iff {checks : List StringCheck} {value : Option JsValue} :
    string checks value = true ↔
      ∃ text, value = some (.string text) ∧ ∀ check ∈ checks, check.holds text = true := by
  rw [string.eq_def]
  split
  · simp
  · next hother =>
      refine iff_of_false Bool.false_ne_true ?_
      rintro ⟨text, rfl, -⟩
      exact hother text rfl

lemma literal_iff {text : String} {value : Option JsValue} :
    literal text value = true ↔ value = some (.string text) := by
  rw [literal.eq_def]
  split
  · simp
  · next hother => simpa using fun h => hother text h

lemma literalNumber_iff {q : ℚ} {value : Option JsValue} :
    literalNumber q value = true ↔ value = some (.number q) := by
  rw [literalNumber.eq_def]
  split
  · simp
  · next hother => simpa using fun h => hother q h

/-- A schema that does not accept `undefined` has found a value. -/
lemma exists_of_accepted {schema : Schema} {value : Option JsValue} (h : schema value = true)
    (hnone : schema none = false) : ∃ found, value = some found := by
  cases value with
  | none => rw [hnone] at h; cases h
  | some found => exact ⟨found, rfl⟩

lemma object_iff {unknownKeys : UnknownKeys} {shape : List (String × Schema)}
    {value : Option JsValue} :
    object unknownKeys shape value = true ↔ ∃ fields, value = some (.object fields) ∧
      (∀ entry ∈ shape, entry.2 (fields.lookup entry.1) = true) ∧
      (unknownKeys = .strict → ∀ field ∈ fields, field.1 ∈ shape.map Prod.fst) := by
  rw [object.eq_def]
  split
  · next fields =>
      cases unknownKeys <;> simp
  · next hother =>
      refine iff_of_false Bool.false_ne_true ?_
      rintro ⟨fields, rfl, -⟩
      exact hother fields rfl

/-- A number between two whole bounds. -/
lemma number_int_iff {low high : ℚ} {value : Option JsValue} :
    number [.int, .min low, .max high] value = true ↔
      ∃ i : ℤ, value = some (.number i) ∧ low ≤ i ∧ i ≤ high := by
  rw [number.eq_def]
  split
  · next q =>
      simp only [NumberCheck.holds, List.all_cons, List.all_nil, Bool.and_true, Bool.and_eq_true,
        decide_eq_true_eq, Option.some.injEq, JsValue.number.injEq]
      constructor
      · rintro ⟨hint, hlow, hhigh⟩
        have hq : (q.num : ℚ) = q := Rat.coe_int_num_of_den_eq_one hint
        exact ⟨q.num, hq.symm, hq ▸ hlow, hq ▸ hhigh⟩
      · rintro ⟨i, rfl, hlow, hhigh⟩
        exact ⟨Rat.den_intCast i, hlow, hhigh⟩
  · simp [NumberCheck.holdsAtInfinity]
  · next hnumber _ =>
      refine iff_of_false Bool.false_ne_true ?_
      rintro ⟨i, rfl, -⟩
      exact hnumber i rfl

lemma optional_iff {schema : Schema} {value : Option JsValue} :
    optional schema value = true ↔ ∀ v, value = some v → schema (some v) = true := by
  cases value with
  | none => simp [optional]
  | some v => simp [optional]

end Schema

end CnsServer
