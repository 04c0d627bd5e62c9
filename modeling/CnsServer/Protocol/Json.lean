/-
JSON values as the route service handles them.

The service parses payloads with nlohmann::json, keeps the values it needs in
memory and in `jsonb` columns, and compares whole requests with `operator==`.
The model keeps the library's distinctions that the code can observe:

* numbers written without a fraction or exponent are integers (`integer`),
  whatever their sign; all other numbers are doubles (`float`), which are
  rationals because JSON has neither infinities nor NaN;
* an object is the list of its fields in key order, as `std::map` keeps them;
* `Json.equal` is `operator==`: signed and unsigned integers are compared
  modulo `2^64`, an integer and a double after rounding the integer.
-/
import Mathlib.Algebra.GroupWithZero.Nat
import Mathlib.Algebra.Ring.Int.Defs
import Mathlib.Data.Rat.Defs

namespace CnsServer

/-- A parsed JSON value. -/
inductive Json where
  | null
  | bool (b : Bool)
  | integer (i : ℤ)
  | float (q : ℚ)
  | string (s : String)
  | array (items : List Json)
  | object (fields : List (String × Json))

namespace Json

/-! ### Access -/

/-- The field `key` of an object, if the value is an object that has it. -/
def find? (j : Json) (key : String) : Option Json :=
  match j with
  | object fields => fields.lookup key
  | _ => none

/-- `contains(key)`. -/
def contains (j : Json) (key : String) : Bool := (j.find? key).isSome

/-- `is_object()`. -/
def isObject : Json → Bool
  | object _ => true
  | _ => false

/-- The text of a string value. -/
def asString? : Json → Option String
  | string s => some s
  | _ => none

/-- The text of the string field `key`. -/
def stringField? (j : Json) (key : String) : Option String :=
  (j.find? key).bind asString?

/-- The keys of an object in key order; other values have none. -/
def keys : Json → List String
  | object fields => fields.map Prod.fst
  | _ => []

/-- `size()` of an object or an array. -/
def size : Json → ℕ
  | object fields => fields.length
  | array items => items.length
  | null => 0
  | _ => 1

/-- `get<std::int64_t>()` of an integer: unsigned values from `2^63` on wrap. -/
def toInt64 (i : ℤ) : ℤ := Int.bmod i (2 ^ 64)

/-- `get<std::uint64_t>()` of an integer: negative values wrap. -/
def toUInt64 (i : ℤ) : ℕ := (i % 2 ^ 64).toNat

/-! ### Construction -/

/-- A value, or `null` if there is none. -/
def orNull {α : Type} (field : α → Json) (value : Option α) : Json :=
  match value with
  | some value => field value
  | none => null

/-- An array of texts. -/
def texts (items : List String) : Json := array (items.map string)

/-- The object with those of the fields that are there. -/
def ofFields (fields : List (String × Option Json)) : Json :=
  object (fields.filterMap fun field => field.2.map fun value => (field.1, value))

/-! ### Equality -/

/-- The double nearest to an integer, ties to even, as a conversion from a
64-bit integer rounds. -/
def doubleOfInt (i : ℤ) : ℚ :=
  let n := i.natAbs
  if n < 2 ^ 53 then i
  else
    let e := Nat.log2 n - 52
    let q := n / 2 ^ e
    let r := n % 2 ^ e
    let half := 2 ^ (e - 1)
    let rounded := if half < r ∨ (r = half ∧ q % 2 = 1) then q + 1 else q
    ((i.sign * ((rounded * 2 ^ e : ℕ) : ℤ) : ℤ) : ℚ)

mutual

/-- `operator==` of two JSON values. -/
def equal : Json → Json → Bool
  | null, null => true
  | bool a, bool b => a == b
  | integer i, integer j => toInt64 i == toInt64 j
  | integer i, float q => doubleOfInt i == q
  | float q, integer i => q == doubleOfInt i
  | float p, float q => p == q
  | string s, string t => s == t
  | array xs, array ys => equalItems xs ys
  | object fs, object gs => equalFields fs gs
  | _, _ => false

/-- Item by item comparison of two arrays. -/
def equalItems : List Json → List Json → Bool
  | [], [] => true
  | x :: xs, y :: ys => equal x y && equalItems xs ys
  | _, _ => false

/-- Field by field comparison of two objects, both in key order. -/
def equalFields : List (String × Json) → List (String × Json) → Bool
  | [], [] => true
  | (k, v) :: fs, (l, w) :: gs => k == l && equal v w && equalFields fs gs
  | _, _ => false

end

mutual

/-- A JSON value is equal to itself. -/
lemma equal_refl : ∀ j : Json, equal j j = true
  | null => by simp [equal]
  | bool _ => by simp [equal]
  | integer _ => by simp [equal]
  | float _ => by simp [equal]
  | string _ => by simp [equal]
  | array xs => by rw [equal]; exact equalItems_refl xs
  | object fs => by rw [equal]; exact equalFields_refl fs

/-- Arrays and objects, item by item. -/
lemma equalItems_refl : ∀ xs : List Json, equalItems xs xs = true
  | [] => by simp [equalItems]
  | x :: xs => by simp [equalItems, equal_refl x, equalItems_refl xs]

lemma equalFields_refl : ∀ fs : List (String × Json), equalFields fs fs = true
  | [] => by simp [equalFields]
  | (_, v) :: fs => by simp [equalFields, equal_refl v, equalFields_refl fs]

end

mutual
/-- The comparison does not depend on the order. -/
lemma equal_comm : ∀ a b : Json, equal a b = equal b a
  | array xs, array ys => by
      rw [equal, equal]
      exact equalItems_comm xs ys
  | object fs, object gs => by
      rw [equal, equal]
      exact equalFields_comm fs gs
  | null, b => by cases b <;> rfl
  | bool _, b => by cases b <;> simp [equal, Bool.beq_comm]
  | integer _, b => by cases b <;> simp [equal, eq_comm, Bool.beq_eq_decide_eq]
  | float _, b => by cases b <;> simp [equal, eq_comm, Bool.beq_eq_decide_eq]
  | string _, b => by cases b <;> simp [equal, eq_comm, Bool.beq_eq_decide_eq]
  | array _, null | array _, bool _ | array _, integer _ | array _, float _ | array _, string _
  | array _, object _ | object _, null | object _, bool _ | object _, integer _
  | object _, float _ | object _, string _ | object _, array _ => by simp [equal]

lemma equalItems_comm : ∀ xs ys : List Json, equalItems xs ys = equalItems ys xs
  | [], [] => rfl
  | [], _ :: _ => by simp [equalItems]
  | _ :: _, [] => by simp [equalItems]
  | x :: xs, y :: ys => by
      rw [equalItems, equalItems, equal_comm x y, equalItems_comm xs ys]

lemma equalFields_comm : ∀ fs gs : List (String × Json), equalFields fs gs = equalFields gs fs
  | [], [] => rfl
  | [], _ :: _ => by simp [equalFields]
  | _ :: _, [] => by simp [equalFields]
  | (k, v) :: fs, (l, w) :: gs => by
      rw [equalFields, equalFields, equal_comm v w, equalFields_comm fs gs, Bool.beq_comm]
end

example : equal (integer (-1)) (integer 18446744073709551615) = true := by decide

end Json

end CnsServer
