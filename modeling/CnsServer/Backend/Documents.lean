/-
The texts that pass between the backend and the route service.

Both sides write and read JSON with a library, so a text is left out and a value of
one side is turned into the value that the other side reads:

* `JsValue.document`: what `Json::parse` reads from the text of `JSON.stringify`;
* `JsValue.parsed`: what `JSON.parse` reads from the text of `dump`;
* `find?_document`, `mem_keys_document`, `lookup_parsedFields`: an object has the same
  properties on both sides;
* `accepts_object`, `accepts_ofFields`, `accepts_ofProperties`: when a schema accepts one.
-/
import CnsServer.Library.Schema
import CnsServer.Protocol.Json
import Mathlib.Data.List.Sort
import Mathlib.Data.String.Basic

namespace CnsServer

/-! ### From the backend to the route service -/

/-- The integer that the digits of `Number::toString` spell, below `10 ^ 21`: as few
digits as tell the number from all other doubles, and zeros up to the decimal point. -/
def printedInteger (i : ℤ) : ℤ :=
  if i.natAbs < 2 ^ 53 then i
  else
    let candidates (e : ℕ) : List ℤ :=
      let low := i / 10 ^ e * 10 ^ e
      let high := low + 10 ^ e
      (if i - low ≤ high - i then [low, high] else [high, low]).filter fun j =>
        Json.doubleOfInt j = i
    (((List.range 21).reverse.flatMap candidates).head?).getD i

/-- A number, as `Json::parse` reads it: what is written without a fraction or an
exponent and fits in 64 bits is an integer. -/
def numberDocument (q : ℚ) : Json :=
  if q.den = 1 ∧ q.num.natAbs < 10 ^ 21 then
    let i := printedInteger q.num
    if -2 ^ 63 ≤ i ∧ i < 2 ^ 64 then .integer i else .float q
  else .float q

namespace JsValue

mutual

/-- `JSON.stringify`, and `Json::parse` on its text. An infinity is written as `null`. -/
def document : JsValue → Json
  | null => .null
  | bool b => .bool b
  | number q => numberDocument q
  | infinity _ => .null
  | string s => .string s
  | array items => .array (documentItems items)
  | object fields => .object (documentFields fields)

def documentItems : List JsValue → List Json
  | [] => []
  | value :: items => document value :: documentItems items

/-- The fields come to stand in key order, one for each key. -/
def documentFields : List (String × JsValue) → List (String × Json)
  | [] => []
  | (key, value) :: fields =>
      ((documentFields fields).filter (·.1 ≠ key)).orderedInsert
        (fun field other => field.1 ≤ other.1) (key, document value)

end

end JsValue

/-! ### From the route service to the backend -/

namespace JsValue

mutual

/-- `dump`, and `JSON.parse` on its text. -/
def parsed : Json → JsValue
  | .null => null
  | .bool b => bool b
  | .integer i => number (Json.doubleOfInt i)
  | .float q => number q
  | .string s => string s
  | .array items => array (parsedItems items)
  | .object fields => object (parsedFields fields)

def parsedItems : List Json → List JsValue
  | [] => []
  | value :: items => parsed value :: parsedItems items

def parsedFields : List (String × Json) → List (String × JsValue)
  | [] => []
  | (key, value) :: fields => (key, parsed value) :: parsedFields fields

end

end JsValue

/-! ### Properties -/

section

variable {fields : List (String × JsValue)}

/-- A new field is found under its key. -/
lemma lookup_orderedInsert {α : Type} (entry : String × α) (entries : List (String × α))
    (key : String) :
    (entries.orderedInsert (fun field other => field.1 ≤ other.1) entry).lookup key =
      (entry :: entries).lookup key := by
  induction entries with
  | nil => rfl
  | cons first rest ih =>
      rw [List.orderedInsert_cons]
      split
      · rfl
      · next hlater =>
          -- the first field has a smaller key, so it stays in front
          have hne : first.1 ≠ entry.1 := fun heq => hlater heq.ge
          obtain ⟨name, value⟩ := first
          obtain ⟨new, newValue⟩ := entry
          rw [List.lookup_cons, ih, List.lookup_cons, List.lookup_cons, List.lookup_cons]
          by_cases hname : key = name
          · have hnew : (key == new) = false := by simpa [hname] using hne
            rw [hnew, beq_iff_eq.mpr hname]
          · rw [beq_eq_false_iff_ne.mpr hname]

lemma lookup_filter_ne {α : Type} {entries : List (String × α)} {key other : String}
    (hne : key ≠ other) : (entries.filter (·.1 ≠ other)).lookup key = entries.lookup key := by
  induction entries with
  | nil => rfl
  | cons first rest ih =>
      obtain ⟨name, value⟩ := first
      rw [List.filter_cons]
      split
      · rw [List.lookup_cons, List.lookup_cons, ih]
      · next hsame =>
          have hname : (key == name) = false := by
            have heq : name = other := by simpa using hsame
            simpa [heq] using hne
          rw [ih, List.lookup_cons, hname]

/-- A field of the document is the one of the object. -/
lemma lookup_documentFields (key : String) :
    (JsValue.documentFields fields).lookup key = (fields.lookup key).map JsValue.document := by
  induction fields with
  | nil => rfl
  | cons field fields ih =>
      obtain ⟨name, value⟩ := field
      rw [JsValue.documentFields, lookup_orderedInsert, List.lookup_cons, List.lookup_cons]
      by_cases hname : key = name
      · rw [beq_iff_eq.mpr hname]
        rfl
      · rw [beq_eq_false_iff_ne.mpr hname, ← ih]
        exact lookup_filter_ne hname

/-- **Every property is the same** on both sides. -/
lemma find?_document (key : String) :
    (JsValue.object fields).document.find? key =
      ((JsValue.object fields).get key).map JsValue.document := by
  rw [JsValue.document]
  exact lookup_documentFields key

lemma keys_documentFields (name : String) (value : JsValue) :
    ((JsValue.documentFields ((name, value) :: fields)).map Prod.fst).Perm
      (name :: ((JsValue.documentFields fields).map Prod.fst).filter (· ≠ name)) := by
  rw [JsValue.documentFields, List.filter_map]
  exact (List.perm_orderedInsert _ _ _).map Prod.fst

/-- The document has the keys of the object. -/
lemma mem_keys_documentFields {key : String} :
    key ∈ (JsValue.documentFields fields).map Prod.fst ↔ key ∈ fields.map Prod.fst := by
  induction fields with
  | nil => rfl
  | cons field fields ih =>
      obtain ⟨name, value⟩ := field
      rw [(keys_documentFields name value).mem_iff, List.mem_cons, List.mem_filter, ih,
        List.map_cons, List.mem_cons]
      by_cases hname : key = name
      · simp [hname]
      · simp [hname]

/-- The document has each key once, also where the object lists one twice. -/
lemma nodup_documentFields : ((JsValue.documentFields fields).map Prod.fst).Nodup := by
  induction fields with
  | nil => exact .nil
  | cons field fields ih =>
      obtain ⟨name, value⟩ := field
      rw [(keys_documentFields name value).nodup_iff, List.nodup_cons]
      exact ⟨by simp, ih.filter _⟩

lemma mem_keys_document {key : String} :
    key ∈ (JsValue.object fields).document.keys ↔ key ∈ fields.map Prod.fst := by
  rw [JsValue.document]
  exact mem_keys_documentFields

lemma nodup_keys_document : (JsValue.object fields).document.keys.Nodup := by
  rw [JsValue.document]
  exact nodup_documentFields

/-- The size of an object is the number of its keys. -/
lemma size_document :
    (JsValue.object fields).document.size = (JsValue.object fields).document.keys.length := by
  rw [JsValue.document]
  exact (List.length_map _).symm

lemma isObject_document : (JsValue.object fields).document.isObject = true := by
  rw [JsValue.document]
  rfl

/-- A whole number that a double holds exactly is written with all its digits. -/
lemma document_number {i : ℤ} (h : i.natAbs < 2 ^ 53) :
    (JsValue.number i).document = .integer i := by
  rw [JsValue.document, numberDocument, if_pos, printedInteger, Rat.num_intCast, if_pos h]
  · rw [if_pos]
    omega
  · rw [Rat.den_intCast, Rat.num_intCast]
    exact ⟨rfl, h.trans (by decide)⟩

end

/-! ### Properties of what is read -/

section

variable (fields : List (String × Json))

/-- A property that is read is the one that was written. -/
lemma lookup_parsedFields (key : String) :
    (JsValue.parsedFields fields).lookup key = (fields.lookup key).map JsValue.parsed := by
  induction fields with
  | nil => rfl
  | cons field fields ih =>
      obtain ⟨name, value⟩ := field
      rw [JsValue.parsedFields, List.lookup_cons, List.lookup_cons, ih]
      by_cases hname : key = name
      · rw [beq_iff_eq.mpr hname]
        rfl
      · rw [beq_eq_false_iff_ne.mpr hname]

lemma keys_parsedFields : (JsValue.parsedFields fields).map Prod.fst = fields.map Prod.fst := by
  induction fields with
  | nil => rfl
  | cons field fields ih =>
      obtain ⟨name, value⟩ := field
      rw [JsValue.parsedFields, List.map_cons, List.map_cons, ih]

end

lemma parsedItems_eq (items : List Json) :
    JsValue.parsedItems items = items.map JsValue.parsed := by
  induction items with
  | nil => rfl
  | cons item items ih => rw [JsValue.parsedItems, List.map_cons, ih]

/-- An object is accepted if each of its properties is. -/
lemma accepts_object {unknownKeys : Schema.UnknownKeys} {shape : List (String × Schema)}
    {fields : List (String × Json)}
    (hshape : ∀ entry ∈ shape, entry.2 ((fields.lookup entry.1).map JsValue.parsed) = true)
    (hkeys : unknownKeys = .strict → ∀ key ∈ fields.map Prod.fst, key ∈ shape.map Prod.fst) :
    Schema.object unknownKeys shape (some (.parsed (.object fields))) = true := by
  rw [JsValue.parsed]
  refine Schema.object_iff.mpr ⟨_, rfl, fun entry hentry => ?_, fun hstrict field hfield => ?_⟩
  · rw [lookup_parsedFields]
    exact hshape entry hentry
  · refine hkeys hstrict field.1 ?_
    rw [← keys_parsedFields]
    exact List.mem_map_of_mem hfield

/-! ### Objects whose fields may be missing -/

section

variable {α : Type} {fields : List (String × Option α)}

lemma mem_keys_present {key : String}
    (h : key ∈ (fields.filterMap fun field =>
      field.2.map fun value => (field.1, value)).map Prod.fst) : key ∈ fields.map Prod.fst := by
  obtain ⟨entry, hentry, rfl⟩ := List.mem_map.mp h
  obtain ⟨field, hfield, hpresent⟩ := List.mem_filterMap.mp hentry
  obtain ⟨value, -, rfl⟩ := Option.map_eq_some_iff.mp hpresent
  exact List.mem_map_of_mem hfield

/-- A field is found if it is there. -/
lemma lookup_present (h : (fields.map Prod.fst).Nodup) (key : String) :
    (fields.filterMap fun field => field.2.map fun value => (field.1, value)).lookup key =
      (fields.lookup key).join := by
  induction fields with
  | nil => rfl
  | cons field fields ih =>
      obtain ⟨name, value⟩ := field
      rw [List.map_cons, List.nodup_cons] at h
      rw [List.lookup_cons]
      cases value with
      | some value =>
          simp only [List.filterMap_cons, Option.map_some, List.lookup_cons, ih h.2]
          cases key == name <;> rfl
      | none =>
          simp only [List.filterMap_cons, Option.map_none, ih h.2]
          by_cases hname : key = name
          · -- no other field has the name
            have habsent : fields.lookup name = none := by
              rw [List.lookup_eq_none_iff]
              intro field hfield
              rw [bne_iff_ne]
              rintro rfl
              exact h.1 (List.mem_map.mpr ⟨field, hfield, rfl⟩)
            rw [beq_iff_eq.mpr hname, hname, habsent]
            rfl
          · rw [beq_eq_false_iff_ne.mpr hname]

end

/-- A property is there if its field has a value. -/
lemma get_parsed_ofFields {fields : List (String × Option Json)}
    (h : (fields.map Prod.fst).Nodup) (key : String) :
    (JsValue.parsed (.ofFields fields)).get key =
      (fields.lookup key).join.map JsValue.parsed := by
  rw [Json.ofFields, JsValue.parsed, JsValue.get, lookup_parsedFields, lookup_present h]

/-- The object is accepted if each of its properties is. -/
lemma accepts_ofFields {unknownKeys : Schema.UnknownKeys} {shape : List (String × Schema)}
    {fields : List (String × Option Json)} (h : (fields.map Prod.fst).Nodup)
    (hshape : ∀ entry ∈ shape, entry.2 ((fields.lookup entry.1).join.map JsValue.parsed) = true)
    (hkeys : unknownKeys = .strict → ∀ key ∈ fields.map Prod.fst, key ∈ shape.map Prod.fst) :
    Schema.object unknownKeys shape (some (.parsed (.ofFields fields))) = true := by
  refine accepts_object (fun entry hentry => ?_) fun hstrict key hkey =>
    hkeys hstrict key (mem_keys_present hkey)
  rw [lookup_present h]
  exact hshape entry hentry

/-- So is an object literal. -/
lemma accepts_ofProperties {unknownKeys : Schema.UnknownKeys} {shape : List (String × Schema)}
    {properties : List (String × Option JsValue)} (h : (properties.map Prod.fst).Nodup)
    (hshape : ∀ entry ∈ shape, entry.2 (properties.lookup entry.1).join = true)
    (hkeys : unknownKeys = .strict → ∀ key ∈ properties.map Prod.fst, key ∈ shape.map Prod.fst) :
    Schema.object unknownKeys shape (some (.ofProperties properties)) = true := by
  refine Schema.object_iff.mpr ⟨_, rfl, fun entry hentry => ?_, fun hstrict field hfield =>
    hkeys hstrict field.1 (mem_keys_present (List.mem_map_of_mem hfield))⟩
  rw [lookup_present h]
  exact hshape entry hentry

/-- Of an object that is accepted each property is. -/
lemma ofProperties_accepted {unknownKeys : Schema.UnknownKeys} {shape : List (String × Schema)}
    {properties : List (String × Option JsValue)} (h : (properties.map Prod.fst).Nodup)
    (haccepted : Schema.object unknownKeys shape (some (.ofProperties properties)) = true) :
    ∀ entry ∈ shape, entry.2 (properties.lookup entry.1).join = true := by
  intro entry hentry
  obtain ⟨fields, hfields, hshape, -⟩ := Schema.object_iff.mp haccepted
  cases hfields
  rw [← lookup_present h]
  exact hshape entry hentry

end CnsServer
