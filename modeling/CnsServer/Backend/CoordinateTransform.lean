/-
The coordinates in the telemetry of a device (`coordinateTransform.ts`).

* `CoordinateArithmetic`: what is computed with doubles, a parameter;
* `findSourcePosition`: the first record that has a latitude and a longitude;
* `enrichTelemetryCoordinates`: the telemetry with the position to display;
* `enrich_accepted`: telemetry that is JSON stays JSON;
* `enrich_frame`: **only the coordinates of the position change**, and only where the
  telemetry has a position whose fix is not invalid.
-/
import CnsServer.Backend.DeviceStore

namespace CnsServer

open DeviceStore (trim)
open Schema (nullable)

/-! ### Records -/

/-- `JsonRecord`, the fields of an object. -/
abbrev JsonRecord := List (String × JsValue)

/-- `asRecord`, of a value that may be `undefined`. -/
def asRecord : Option JsValue → Option JsonRecord
  | some (.object fields) => some fields
  | _ => none

/-- An assignment to a property: an old one keeps its place, a new one comes last. -/
def JsonRecord.set : JsonRecord → String → JsValue → JsonRecord
  | [], key, value => [(key, value)]
  | (name, old) :: record, key, value =>
      if name = key then (key, value) :: record
      else (name, old) :: JsonRecord.set record key value

/-- Assignments one after the other. -/
def JsonRecord.setAll (record : JsonRecord) (fields : JsonRecord) : JsonRecord :=
  fields.foldl (fun record field => record.set field.1 field.2) record

/-! ### Coordinates -/

/-- What is computed with doubles: the finite number that a text spells (`Number`), a value
divided by ten million, and the latitude and longitude that `wgs84ToGcj02` offsets. -/
structure CoordinateArithmetic where
  numberOf : String → Option ℚ
  scaled : ℚ → ℚ
  offset : ℚ → ℚ → ℚ × ℚ

/-- `isValidCoordinate`. -/
def isValidCoordinate (longitude latitude : ℚ) : Bool :=
  -180 ≤ longitude && longitude ≤ 180 && -90 ≤ latitude && latitude ≤ 90

/-- `isOutsideMainlandChina`, with the doubles nearest to its four constants. -/
def isOutsideMainlandChina (longitude latitude : ℚ) : Bool :=
  longitude < 5066831055768519 / 2 ^ 46 || longitude > 1212406842888133 / 2 ^ 43 ||
    latitude < 7469670341956705 / 2 ^ 53 || latitude > 1964241459040433 / 2 ^ 45

/-- `wgs84ToGcj02`: the latitude and the longitude. -/
def wgs84ToGcj02 (arithmetic : CoordinateArithmetic) (longitude latitude : ℚ) : ℚ × ℚ :=
  if !isValidCoordinate longitude latitude || isOutsideMainlandChina longitude latitude then
    (latitude, longitude)
  else arithmetic.offset longitude latitude

/-- The finite number that a value is, or that its text spells. -/
def numericValue (arithmetic : CoordinateArithmetic) : Option JsValue → Option ℚ
  | some (.number raw) => some raw
  | some (.string raw) => if trim raw ≠ "" then arithmetic.numberOf raw else none
  | _ => none

/-- The value in degrees: beyond the maximum it may be in units of `1e-7` degrees. -/
def degreesOf (arithmetic : CoordinateArithmetic) (maximum value : ℚ) : ℚ :=
  if |value| > maximum ∧ |value| ≤ maximum * 10000000 then arithmetic.scaled value else value

/-- `coordinateNumber`. -/
def coordinateNumber (arithmetic : CoordinateArithmetic) (record : JsonRecord)
    (keys : List String) (maximum : ℚ) : Option ℚ :=
  keys.findSome? fun key =>
    ((numericValue arithmetic (record.lookup key)).map (degreesOf arithmetic maximum)).filter
      fun normalized => |normalized| ≤ maximum

/-- `stringValue`. -/
def stringValue (record : JsonRecord) (keys : List String) : Option String :=
  keys.findSome? fun key =>
    match record.lookup key with
    | some (.string value) => if trim value ≠ "" then some value else none
    | _ => none

/-- A value that says whether the fix is valid. -/
def validityOf : Option JsValue → Option Bool
  | some (.bool value) => some value
  | some (.number value) => if value = 0 then some false else if value = 1 then some true else none
  | some (.string value) =>
      if value = "0" ∨ value = "false" then some false
      else if value = "1" ∨ value = "true" then some true
      else none
  | _ => none

/-- The words for a fix that is not there; no letter beyond ASCII is one of theirs in small. -/
def isNoFix (fixType : String) : Bool :=
  ["none", "no_fix", "nofix", "invalid", "offline"].contains
    (String.ofList ((trim fixType).toList.map Char.toLower))

/-- `fixValidity`. -/
def fixValidity (arithmetic : CoordinateArithmetic) (record : JsonRecord) : Option Bool :=
  match ["fix_valid", "valid", "has_fix"].findSome? fun key => validityOf (record.lookup key) with
  | some valid => some valid
  | none =>
      match ["fix_type", "fix", "gps_fix"].findSome? fun key =>
          numericValue arithmetic (record.lookup key) with
      | some fixType => some (fixType ≥ 2)
      | none => (stringValue record ["fix_type", "fix", "gps_fix"]).map fun text => !isNoFix text

/-- What `findSourcePosition` returns. -/
structure SourcePosition where
  latitude : ℚ
  longitude : ℚ
  coordinateSystem : String
  fixValid : Option Bool

/-- The records that may have the position, in the order of the search. -/
def positionCandidates (source : JsonRecord) : List JsonRecord :=
  let telemetry := (asRecord (source.lookup "telemetry")).getD []
  (["position", "gps", "global_position", "location"].filterMap fun key =>
    asRecord (telemetry.lookup key)) ++
  (["position", "gps", "global_position", "location"].filterMap fun key =>
    asRecord (source.lookup key)) ++
  [source]

/-- `findSourcePosition`. -/
def findSourcePosition (arithmetic : CoordinateArithmetic) (source : JsonRecord) :
    Option SourcePosition :=
  (positionCandidates source).findSome? fun candidate => do
    let latitude ← coordinateNumber arithmetic candidate
      ["latitude_wgs84", "latitude_deg", "latitude", "lat_deg", "lat"] 90
    let longitude ← coordinateNumber arithmetic candidate
      ["longitude_wgs84", "longitude_deg", "longitude", "lon_deg", "lng_deg", "lon", "lng"] 180
    if latitude = 0 ∧ longitude = 0 then none
    else
      return {
        latitude
        longitude
        coordinateSystem := (stringValue candidate
          ["coordinate_system", "source_coordinate_system", "coord_type", "crs"]).getD "WGS84"
        fixValid := fixValidity arithmetic candidate }

/-- The test for `GCJ` in capitals: beyond ASCII only `ǰ` has one of these letters there. -/
def namesGcj (coordinateSystem : String) : Bool :=
  decide (['G', 'C', 'J'] <:+: coordinateSystem.toList.flatMap fun c =>
    if c = '\u01f0' then ['J', '\u030c'] else if c = '_' then ['-'] else [c.toUpper])

/-- The assignments to the position. -/
def positionFields (arithmetic : CoordinateArithmetic) (position : SourcePosition) : JsonRecord :=
  if namesGcj position.coordinateSystem then
    [("latitude_gcj02", .number position.latitude),
      ("longitude_gcj02", .number position.longitude),
      ("display_coordinate_system", .string "GCJ-02"),
      ("coordinate_conversion", .string "source_gcj02")]
  else
    let converted := wgs84ToGcj02 arithmetic position.longitude position.latitude
    [("latitude_wgs84", .number position.latitude),
      ("longitude_wgs84", .number position.longitude),
      ("latitude_gcj02", .number converted.1),
      ("longitude_gcj02", .number converted.2),
      ("source_coordinate_system", .string "WGS84"),
      ("display_coordinate_system", .string "GCJ-02"),
      ("coordinate_conversion", .string "backend_local")]

/-- The position that is displayed: one is found, and its fix is not invalid. -/
def displayedPosition (arithmetic : CoordinateArithmetic) (source : JsonRecord) :
    Option SourcePosition :=
  (findSourcePosition arithmetic source).filter fun position => position.fixValid ≠ some false

/-- `enrichTelemetryCoordinates` of a record. -/
def enrichRecord (arithmetic : CoordinateArithmetic) (source : JsonRecord) : JsonRecord :=
  match displayedPosition arithmetic source with
  | none => source
  | some displayed =>
      let telemetry := (asRecord (source.lookup "telemetry")).getD []
      let position := (asRecord (telemetry.lookup "position")).getD []
      source.set "telemetry" (.object (telemetry.set "position"
        (.object (position.setAll (positionFields arithmetic displayed)))))

/-- `enrichTelemetryCoordinates`, of a record or `null`. -/
def enrichTelemetryCoordinates (arithmetic : CoordinateArithmetic) : JsValue → JsValue
  | .object source => .object (enrichRecord arithmetic source)
  | source => source

/-! ### Assignments -/

section

variable (record : JsonRecord) (key : String) (value : JsValue)

/-- An assignment replaces one property. -/
lemma lookup_set (other : String) :
    (record.set key value).lookup other =
      if other = key then some value else record.lookup other := by
  induction record with
  | nil =>
      rw [JsonRecord.set, List.lookup_cons]
      by_cases hother : other = key
      · rw [beq_iff_eq.mpr hother, if_pos hother]
      · rw [beq_eq_false_iff_ne.mpr hother, if_neg hother]
  | cons field record ih =>
      obtain ⟨name, old⟩ := field
      rw [JsonRecord.set]
      split
      · next hname =>
          rw [hname, List.lookup_cons, List.lookup_cons]
          by_cases hother : other = key
          · rw [beq_iff_eq.mpr hother, if_pos hother]
          · rw [beq_eq_false_iff_ne.mpr hother, if_neg hother]
      · next hname =>
          rw [List.lookup_cons, List.lookup_cons, ih]
          by_cases hother : other = name
          · have hne : other ≠ key := fun heq => hname (hother.symm.trans heq)
            rw [beq_iff_eq.mpr hother, if_neg hne, if_neg hne]
          · rw [beq_eq_false_iff_ne.mpr hother]

variable {record key value} in
lemma mem_set {field : String × JsValue} (h : field ∈ record.set key value) :
    field = (key, value) ∨ field ∈ record := by
  induction record with
  | nil => exact .inl (List.mem_singleton.mp h)
  | cons first record ih =>
      obtain ⟨name, old⟩ := first
      rw [JsonRecord.set] at h
      split at h
      · exact (List.mem_cons.mp h).imp_right (List.mem_cons_of_mem _)
      · rcases List.mem_cons.mp h with rfl | hrest
        · exact .inr List.mem_cons_self
        · exact (ih hrest).imp_right (List.mem_cons_of_mem _)

/-- The assigned properties, and the others as they were. -/
lemma lookup_setAll {fields : JsonRecord} (hfields : (fields.map Prod.fst).Nodup) (other : String) :
    (record.setAll fields).lookup other = (fields.lookup other).or (record.lookup other) := by
  induction fields generalizing record with
  | nil => rfl
  | cons field fields ih =>
      obtain ⟨name, new⟩ := field
      rw [List.map_cons, List.nodup_cons] at hfields
      have hrest : (record.setAll ((name, new) :: fields)).lookup other =
          ((record.set name new).setAll fields).lookup other := rfl
      rw [hrest, ih _ hfields.2, lookup_set, List.lookup_cons]
      by_cases hother : other = name
      · have habsent : fields.lookup other = none := by
          rw [List.lookup_eq_none_iff]
          intro field hfield
          rw [bne_iff_ne]
          rintro rfl
          exact hfields.1 (List.mem_map.mpr ⟨field, hfield, hother⟩)
        rw [habsent, if_pos hother, beq_iff_eq.mpr hother]
        rfl
      · rw [if_neg hother, beq_eq_false_iff_ne.mpr hother]

variable {record} in
/-- A property of the merged record comes from one of the two. -/
lemma mem_setAll {fields : JsonRecord} {field : String × JsValue}
    (h : field ∈ record.setAll fields) : field ∈ fields ∨ field ∈ record := by
  induction fields generalizing record with
  | nil => exact .inr h
  | cons first fields ih =>
      rcases @ih (record.set first.1 first.2) h with hmem | hmem
      · exact .inl (List.mem_cons_of_mem _ hmem)
      · refine (mem_set hmem).imp_left ?_
        rintro rfl
        exact List.mem_cons_self

end

/-! ### What is JSON stays JSON -/

lemma areJsonFields_iff {fields : JsonRecord} :
    areJsonFields fields = true ↔ ∀ field ∈ fields, isJsonValue field.2 = true := by
  induction fields with
  | nil => simp [areJsonFields]
  | cons field fields ih =>
      obtain ⟨key, value⟩ := field
      rw [areJsonFields, Bool.and_eq_true, ih, List.forall_mem_cons]

/-- A record of a record of JSON, or the empty one. -/
lemma areJsonFields_asRecord {fields : JsonRecord} (h : areJsonFields fields = true)
    (key : String) : areJsonFields ((asRecord (fields.lookup key)).getD []) = true := by
  cases hfound : fields.lookup key with
  | none => rfl
  | some value =>
      cases value with
      | object inner =>
          obtain ⟨before, after, hfields, -⟩ := List.lookup_eq_some_iff.mp hfound
          have hmem : (key, JsValue.object inner) ∈ fields := by
            rw [hfields]
            simp
          simpa [asRecord, isJsonValue] using areJsonFields_iff.mp h _ hmem
      | _ => rfl

section

variable (arithmetic : CoordinateArithmetic)

/-- The fields of a position are JSON: none of its numbers is infinite. -/
lemma positionFields_json (position : SourcePosition) :
    areJsonFields (positionFields arithmetic position) = true := by
  rw [positionFields]
  split
  · rfl
  · rfl

lemma positionFields_nodup (position : SourcePosition) :
    ((positionFields arithmetic position).map Prod.fst).Nodup := by
  rw [positionFields]
  split
  · simp
  · simp

/-- A record that is JSON stays JSON. -/
lemma enrichRecord_json {source : JsonRecord} (h : areJsonFields source = true) :
    areJsonFields (enrichRecord arithmetic source) = true := by
  rw [enrichRecord]
  split
  · exact h
  · next displayed _ =>
      have htelemetry := areJsonFields_asRecord h "telemetry"
      have hposition := areJsonFields_asRecord htelemetry "position"
      rw [areJsonFields_iff] at h htelemetry hposition ⊢
      have hfields := areJsonFields_iff.mp (positionFields_json arithmetic displayed)
      -- from the inside out: an assigned value is one of the fields, or it was there
      intro field hfield
      rcases mem_set hfield with rfl | hold
      · refine areJsonFields_iff.mpr fun field hfield => ?_
        rcases mem_set hfield with rfl | hold
        · exact areJsonFields_iff.mpr fun field hfield =>
            (mem_setAll hfield).elim (hfields field) (hposition field)
        · exact htelemetry field hold
      · exact h field hold

/-- **Telemetry that is JSON stays JSON**, and `null` stays `null`. -/
lemma enrich_accepted {value : JsValue} (h : nullable jsonObjectSchema (some value) = true) :
    nullable jsonObjectSchema (some (enrichTelemetryCoordinates arithmetic value)) = true := by
  cases value with
  | object source => exact enrichRecord_json arithmetic h
  | _ => exact h

end

/-! ### What changes -/

/-- The record of the telemetry, empty where there is none. -/
def telemetryOf (record : JsonRecord) : JsonRecord := (asRecord (record.lookup "telemetry")).getD []

/-- The record of its position. -/
def positionOf (record : JsonRecord) : JsonRecord :=
  (asRecord ((telemetryOf record).lookup "position")).getD []

section

variable {arithmetic : CoordinateArithmetic} {source : JsonRecord}

/-- A coordinate that is taken is within its bound. -/
lemma coordinateNumber_le {record : JsonRecord} {keys : List String} {maximum q : ℚ}
    (h : coordinateNumber arithmetic record keys maximum = some q) : |q| ≤ maximum := by
  obtain ⟨key, -, hkey⟩ := List.exists_of_findSome?_eq_some h
  exact of_decide_eq_true (Option.filter_eq_some_iff.mp hkey).2

/-- The displayed position is one of the candidates, on the globe, without a fix that is
invalid. -/
lemma displayedPosition_some {position : SourcePosition}
    (h : displayedPosition arithmetic source = some position) :
    |position.latitude| ≤ 90 ∧ |position.longitude| ≤ 180 ∧ position.fixValid ≠ some false := by
  obtain ⟨hfound, hvalid⟩ := Option.filter_eq_some_iff.mp h
  obtain ⟨candidate, -, hcandidate⟩ := List.exists_of_findSome?_eq_some hfound
  obtain ⟨latitude, hlatitude, hrest⟩ := Option.bind_eq_some_iff.mp hcandidate
  obtain ⟨longitude, hlongitude, hposition⟩ := Option.bind_eq_some_iff.mp hrest
  split at hposition
  · cases hposition
  · cases hposition
    exact ⟨coordinateNumber_le hlatitude, coordinateNumber_le hlongitude, by simpa using hvalid⟩

lemma enrichRecord_none (h : displayedPosition arithmetic source = none) :
    enrichRecord arithmetic source = source := by
  rw [enrichRecord, h]

/-- The telemetry of the new record is the old one with another position. -/
lemma telemetryOf_enrichRecord {position : SourcePosition}
    (h : displayedPosition arithmetic source = some position) :
    telemetryOf (enrichRecord arithmetic source) = (telemetryOf source).set "position"
      (.object ((positionOf source).setAll (positionFields arithmetic position))) := by
  rw [telemetryOf, enrichRecord, h]
  simp only [lookup_set]
  rfl

lemma positionOf_enrichRecord {position : SourcePosition}
    (h : displayedPosition arithmetic source = some position) :
    positionOf (enrichRecord arithmetic source) =
      (positionOf source).setAll (positionFields arithmetic position) := by
  rw [positionOf, telemetryOf_enrichRecord h, lookup_set]
  rfl

end

/-- **Only the coordinates of the position change.**  The telemetry stays JSON; a record
without a position to display, which is on the globe and whose fix is not invalid, stays as it
is; in any other the position gets the coordinates of that one, and every other property of the
record, of its telemetry and of the position is what it was. -/
theorem enrich_frame (arithmetic : CoordinateArithmetic) (source : JsonRecord) :
    (areJsonFields source = true → areJsonFields (enrichRecord arithmetic source) = true) ∧
    (displayedPosition arithmetic source = none → enrichRecord arithmetic source = source) ∧
    ∀ position, displayedPosition arithmetic source = some position →
      (|position.latitude| ≤ 90 ∧ |position.longitude| ≤ 180 ∧
        position.fixValid ≠ some false) ∧
      (∀ key, key ≠ "telemetry" →
        (enrichRecord arithmetic source).lookup key = source.lookup key) ∧
      (∀ key, key ≠ "position" → (telemetryOf (enrichRecord arithmetic source)).lookup key =
        (telemetryOf source).lookup key) ∧
      ∀ key, (positionOf (enrichRecord arithmetic source)).lookup key =
        ((positionFields arithmetic position).lookup key).or
          ((positionOf source).lookup key) := by
  refine ⟨enrichRecord_json arithmetic, enrichRecord_none, fun position hposition => ?_⟩
  refine ⟨displayedPosition_some hposition, fun key hkey => ?_, fun key hkey => ?_, fun key => ?_⟩
  · rw [enrichRecord, hposition, lookup_set, if_neg hkey]
  · rw [telemetryOf_enrichRecord hposition, lookup_set, if_neg hkey]
  · rw [positionOf_enrichRecord hposition,
      lookup_setAll _ (positionFields_nodup arithmetic position)]

end CnsServer
