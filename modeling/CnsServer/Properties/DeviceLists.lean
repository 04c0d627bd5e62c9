/-
The lists of the two stores of devices (`deviceStore.ts`, `postgresDeviceStore.ts`).

* `SameDevices`, `AgreeOn`: stores with the same devices, and the queries on which they have
  the same lists;
* `agreeOn_of_forall`, `AgreeOn.bareDevice`: the lists are the same if every device of the
  protocol is on both or on none, and a single device shows where they are not;
* `SearchesAlike`: where the pattern of `LIKE` finds what `includes` finds, and the type of
  the device, which has no column in the search, does not count;
* `device_lists_agree`: the stores agree on these queries and on no others.
-/
import CnsServer.Backend.DeviceStore
import CnsServer.Properties.EventContract
import Mathlib

namespace CnsServer

namespace DeviceStore

open Like Schema

/-! ### Agreement -/

/-- The devices of the one store are those of the tables, and devices of the protocol. -/
structure SameDevices (toISOString : ℤ → String) (devices : List DeviceDetail)
    (t : DeviceTables) : Prop where
  distinct : (devices.map fun device => device.deviceId).Nodup
  same : ∀ item, (∃ device ∈ devices, device.toDeviceSummary = item) ↔
    ∃ row ∈ Postgres.join t, Postgres.toSummary toISOString row = item
  accepted : ∀ device ∈ devices, device.toDeviceSummary.Accepted

/-- Stores with the same devices answer the query with the same items, in some order. -/
def AgreeOn (toISOString : ℤ → String) (query : DeviceListQuery) : Prop :=
  ∀ devices t, SameDevices toISOString devices t →
    ∃ items, Postgres.list toISOString t query = some items ∧
      ∀ item, item ∈ items ↔ item ∈ InMemory.list devices query

/-! ### The lists -/

/-- The clause of the keyword. -/
def columnsMatch (key : List Char) (item : DeviceSummary) : Bool :=
  like (lower item.deviceId) (containing key) ||
    like (lower (item.dcdwLabel.getD "")) (containing key) ||
    like (lower (item.schoolName.getD "")) (containing key) ||
    like (lower item.modelVersion) (containing key)

/-- The search for the keyword. -/
def textsInclude (key : List Char) (item : DeviceSummary) : Bool :=
  [item.deviceId, item.deviceType.text, item.schoolName.getD "", item.dcdwLabel.getD "",
    item.modelVersion].any fun value => includes (lower value) key

/-- The filters that the stores share. -/
def passes (query : DeviceListQuery) (item : DeviceSummary) : Bool :=
  ((truthy query.schoolName).all fun name => item.schoolName = some name) &&
    (query.status.all fun status => item.status = status)

/-- The clauses, on an item. -/
def selects (query : DeviceListQuery) (item : DeviceSummary) : Bool :=
  ((truthy query.keyword).all fun keyword => columnsMatch (lower keyword) item) &&
    passes query item

lemma buildListWhere_eq (toISOString : ℤ → String) (query : DeviceListQuery)
    (row : Postgres.JoinedRow) :
    Postgres.buildListWhere query row = selects query (Postgres.toSummary toISOString row) := by
  rw [Postgres.buildListWhere, selects, passes, Bool.and_assoc]
  cases truthy query.keyword with
  | none => rfl
  | some keyword => rfl

lemma matchesQuery_eq (query : DeviceListQuery) (item : DeviceSummary) :
    matchesQuery item query =
      (((truthy query.keyword).all fun keyword => textsInclude (lower keyword) item) &&
        passes query item) := by
  have hstatus : (query.status.any fun status => item.status ≠ status) =
      !(query.status.all fun status => item.status = status) := by
    cases query.status <;> simp
  have hname : ((truthy query.schoolName).any fun name => item.schoolName ≠ some name) =
      !((truthy query.schoolName).all fun name => item.schoolName = some name) := by
    cases truthy query.schoolName <;> simp
  rw [matchesQuery, passes, hstatus, hname]
  cases query.status.all fun status => item.status = status with
  | false => simp
  | true =>
      cases (truthy query.schoolName).all fun name => item.schoolName = some name with
      | false => simp
      | true => cases truthy query.keyword <;> simp [textsInclude]

lemma mem_devicesById {devices : List DeviceDetail}
    (h : (devices.map fun device => device.deviceId).Nodup) {device : DeviceDetail} :
    device ∈ (InMemory.devicesById devices).values ↔ device ∈ devices := by
  have hlookup := Map.lookup_foldl_insert (fun device : DeviceDetail => device.deviceId) devices
  rw [Map.mem_values]
  constructor
  · rintro ⟨deviceId, hdevice⟩
    rw [InMemory.devicesById, hlookup] at hdevice
    exact List.mem_reverse.mp (List.mem_of_find?_eq_some hdevice)
  · intro hmem
    refine ⟨device.deviceId, ?_⟩
    rw [InMemory.devicesById, hlookup]
    cases hfind : devices.reverse.find? fun other => other.deviceId = device.deviceId with
    | none => simpa using List.find?_eq_none.mp hfind device (List.mem_reverse.mpr hmem)
    | some other =>
        have hother := List.mem_reverse.mp (List.mem_of_find?_eq_some hfind)
        have hid : other.deviceId = device.deviceId := by simpa using List.find?_some hfind
        rw [List.inj_on_of_nodup_map h hother hmem hid]

lemma mem_inMemory_list {devices : List DeviceDetail}
    (h : (devices.map fun device => device.deviceId).Nodup) {query : DeviceListQuery}
    {item : DeviceSummary} :
    item ∈ InMemory.list devices query ↔
      (∃ device ∈ devices, device.toDeviceSummary = item) ∧ matchesQuery item query = true := by
  simp only [InMemory.list, List.mem_map, List.mem_filter, mem_devicesById h]
  constructor
  · rintro ⟨device, ⟨hdevice, hmatches⟩, rfl⟩
    exact ⟨⟨device, hdevice, rfl⟩, hmatches⟩
  · rintro ⟨⟨device, hdevice, rfl⟩, hmatches⟩
    exact ⟨device, ⟨hdevice, hmatches⟩, rfl⟩

/-- The selected rows, as items. -/
lemma mem_selected {toISOString : ℤ → String} {t : DeviceTables} {query : DeviceListQuery}
    {item : DeviceSummary} :
    item ∈ ((((Postgres.join t).filter (Postgres.buildListWhere query)).insertionSort
        fun row other => Postgres.precedes row other).map (Postgres.toSummary toISOString)) ↔
      (∃ row ∈ Postgres.join t, Postgres.toSummary toISOString row = item) ∧
        selects query item = true := by
  simp only [List.mem_map, List.mem_insertionSort, List.mem_filter]
  constructor
  · rintro ⟨row, ⟨hrow, hwhere⟩, rfl⟩
    exact ⟨⟨row, hrow, rfl⟩, buildListWhere_eq toISOString query row ▸ hwhere⟩
  · rintro ⟨⟨row, hrow, rfl⟩, hselects⟩
    exact ⟨row, ⟨hrow, (buildListWhere_eq toISOString query row).trans hselects⟩, rfl⟩

/-- **The rows of devices of the protocol** are all in the answer. -/
lemma SameDevices.list_postgres {toISOString : ℤ → String} {devices : List DeviceDetail}
    {t : DeviceTables} (h : SameDevices toISOString devices t) (query : DeviceListQuery) :
    ∃ items, Postgres.list toISOString t query = some items ∧ ∀ item, item ∈ items ↔
      (∃ device ∈ devices, device.toDeviceSummary = item) ∧ selects query item = true := by
  refine ⟨_, if_pos fun item hitem => ?_, fun item => ?_⟩
  · obtain ⟨device, hdevice, rfl⟩ := (h.same item).mpr (mem_selected.mp hitem).1
    exact h.accepted device hdevice
  · rw [mem_selected, h.same]

/-- The stores agree if every device of the protocol is on both lists or on none. -/
lemma agreeOn_of_forall {toISOString : ℤ → String} {query : DeviceListQuery}
    (h : ∀ item : DeviceSummary, item.Accepted → selects query item = matchesQuery item query) :
    AgreeOn toISOString query := by
  intro devices t hsame
  obtain ⟨items, hlist, hitems⟩ := hsame.list_postgres query
  refine ⟨items, hlist, fun item => ?_⟩
  rw [hitems, mem_inMemory_list hsame.distinct]
  refine and_congr_right ?_
  rintro ⟨device, hdevice, rfl⟩
  rw [h _ (hsame.accepted device hdevice)]

/-! ### One device -/

lemma lookup_single {K V : Type} [DecidableEq K] {k k' : K} {v w : V} :
    ((∅ : Map K V).insert k v).lookup k' = some w ↔ k' = k ∧ w = v := by
  rw [Map.lookup_insert_some]
  simp

section

variable (deviceId : String) (deviceType : DeviceType) (schoolName : Option String)
  (modelVersion : String) (status : DeviceStatus)

/-- A device with nothing but what it must have, and a school. -/
def bareDevice : DeviceSummary where
  deviceId := deviceId
  deviceType := deviceType
  schoolName := schoolName
  dcdwLabel := none
  modelVersion := modelVersion
  capabilities := .null
  product := .null
  version := .null
  status := status
  lastSeenAt := none
  telemetryReceivedAt := none
  degraded := false

/-- What the store in memory holds of it. -/
def bareDetail : DeviceDetail where
  toDeviceSummary := bareDevice deviceId deviceType schoolName modelVersion status
  provisionedAt := none
  latestTelemetry := .null

/-- Its row. -/
def bareRow : DeviceRow where
  schoolId := schoolName.map fun _ => 1
  dcdwLabel := none
  modelVersion := modelVersion
  deviceType := deviceType
  capabilities := none
  product := none
  version := none

/-- Its state. -/
def bareState : StateRow where
  status := status
  lastSeenAt := none

/-- The school of the tables. -/
def bareSchools : Map ℤ String :=
  match schoolName with
  | none => ∅
  | some name => (∅ : Map ℤ String).insert 1 name

lemma bareSchools_some {schoolId : ℤ} {name : String} :
    (bareSchools schoolName).lookup schoolId = some name ↔
      schoolId = 1 ∧ schoolName = some name := by
  cases schoolName with
  | none => simp [bareSchools]
  | some other => rw [bareSchools, lookup_single, Option.some.injEq, eq_comm (a := other)]

/-- The tables with this device. -/
def bareTables : DeviceTables where
  schools := bareSchools schoolName
  schoolSequence := 1
  devices := (∅ : Map String DeviceRow).insert deviceId (bareRow deviceType schoolName modelVersion)
  states := (∅ : Map String StateRow).insert deviceId (bareState status)
  sequence_nonneg := by omega
  school_ids schoolId name h := by
    rw [(bareSchools_some schoolName).mp h |>.1]
    omega
  school_names schoolId schoolId' name h h' := by
    rw [((bareSchools_some schoolName).mp h).1, ((bareSchools_some schoolName).mp h').1]
  device_school deviceId' row h schoolId hschool := by
    obtain ⟨-, rfl⟩ := lookup_single.mp h
    obtain ⟨name, hname, rfl⟩ := Option.map_eq_some_iff.mp hschool
    rw [(bareSchools_some schoolName).mpr ⟨rfl, hname⟩]
    rfl
  device_role first row second row' h h' hne := by
    exact absurd ((lookup_single.mp h).1.trans (lookup_single.mp h').1.symm) hne
  state_device deviceId' h := by
    obtain ⟨state, hstate⟩ := Option.isSome_iff_exists.mp h
    obtain ⟨rfl, -⟩ := lookup_single.mp hstate
    rw [AList.lookup_insert]
    rfl

/-- The row of the join. -/
lemma join_bareTables :
    Postgres.join (bareTables deviceId deviceType schoolName modelVersion status) =
      [{ deviceId := deviceId
         device := bareRow deviceType schoolName modelVersion
         schoolName := schoolName
         state := bareState status }] := by
  have hschool : (bareRow deviceType schoolName modelVersion).schoolId.bind
      (bareSchools schoolName).lookup = schoolName := by
    cases schoolName with
    | none => rfl
    | some name => exact (bareSchools_some (some name)).mpr ⟨rfl, rfl⟩
  have hentries : ((∅ : Map String DeviceRow).insert deviceId
      (bareRow deviceType schoolName modelVersion)).entries =
        [⟨deviceId, bareRow deviceType schoolName modelVersion⟩] := rfl
  have hstate : ((∅ : Map String StateRow).insert deviceId (bareState status)).lookup deviceId =
      some (bareState status) := AList.lookup_insert _
  rw [Postgres.join, bareTables, hentries, List.filterMap_cons, hstate, Option.map_some,
    List.filterMap_nil, hschool]

variable {deviceId deviceType schoolName modelVersion status}

/-- A device whose identifier is one, and whose other texts are not empty. -/
lemma bareDevice_accepted (hid : isValidDeviceId deviceId = true) (hschool : schoolName ≠ some "")
    (hmodel : modelVersion ≠ "") :
    (bareDevice deviceId deviceType schoolName modelVersion status).Accepted := by
  have hschoolName : nullable (string [.min 1]) (some (textOrNull schoolName)) = true := by
    cases schoolName with
    | none => rfl
    | some name => exact accepts_text fun hempty => hschool (congrArg some hempty)
  refine object_iff.mpr ⟨_, rfl, ?_, fun _ => ?_⟩
  · simp only [List.forall_mem_cons, List.not_mem_nil, false_imp_iff, implies_true, and_true]
    exact ⟨accepts_deviceId hid, accepts_deviceType deviceType, hschoolName, rfl,
      accepts_text hmodel, rfl, rfl, rfl, accepts_status (status = .online), rfl, rfl, rfl⟩
  · simp

/-- Both stores can hold it. -/
lemma sameDevices_bare (toISOString : ℤ → String)
    (h : (bareDevice deviceId deviceType schoolName modelVersion status).Accepted) :
    SameDevices toISOString [bareDetail deviceId deviceType schoolName modelVersion status]
      (bareTables deviceId deviceType schoolName modelVersion status) where
  distinct := List.nodup_singleton _
  same other := by
    rw [join_bareTables]
    simp only [List.mem_singleton, exists_eq_left]
    rfl
  accepted device hdevice := by
    obtain rfl := List.mem_singleton.mp hdevice
    exact h

/-- **A single device** shows where the stores do not agree. -/
lemma AgreeOn.bareDevice {toISOString : ℤ → String} {query : DeviceListQuery}
    (h : AgreeOn toISOString query)
    (hitem : (bareDevice deviceId deviceType schoolName modelVersion status).Accepted) :
    selects query (bareDevice deviceId deviceType schoolName modelVersion status) =
      matchesQuery (bareDevice deviceId deviceType schoolName modelVersion status) query := by
  have hsame := sameDevices_bare toISOString hitem
  obtain ⟨items, hlist, hitems⟩ := h _ _ hsame
  obtain ⟨items', hlist', hitems'⟩ := hsame.list_postgres query
  obtain rfl : items' = items := Option.some.inj (hlist'.symm.trans hlist)
  rw [Bool.eq_iff_iff]
  have hiff := (hitems' (DeviceStore.bareDevice deviceId deviceType schoolName modelVersion
    status)).symm.trans (hitems _)
  rw [mem_inMemory_list hsame.distinct] at hiff
  exact and_congr_right_iff.mp hiff ⟨_, List.mem_singleton_self _, rfl⟩

end

/-! ### Keywords -/

/-- `LIKE` finds the keyword in the devices in which `includes` finds it: it is `_`, which
all devices have; or the school that the query asks for has it, and matches its pattern; or
it has no character that a pattern gives a meaning to, and is not in the name of a type. -/
def SearchesAlike (query : DeviceListQuery) : Prop :=
  ∀ keyword ∈ query.keyword,
    keyword = "_" ∨
    (∃ name ∈ query.schoolName, includes (lower name) (lower keyword) = true ∧
      like (lower name) (containing (lower keyword)) = true) ∨
    ((∀ c ∈ lower keyword, ¬IsSpecial c) ∧
      ∀ deviceType : DeviceType, includes (lower deviceType.text) (lower keyword) = false)

lemma includes_iff {text key : List Char} : includes text key = true ↔ key <:+: text :=
  decide_eq_true_iff

lemma lower_empty : lower "" = [] := rfl

lemma lower_eq_nil {text : String} : lower text = [] ↔ text = "" := by
  rw [lower, List.map_eq_nil_iff, String.toList_eq_nil_iff]

lemma truthy_of_ne {text : Option String} (h : text ≠ some "") : truthy text = text := by
  cases text with
  | none => rfl
  | some text =>
      have hne : text ≠ "" := fun hempty => h (congrArg some hempty)
      simp [truthy, hne]

/-- The letters of a keyword are small. -/
lemma toLower_of_mem_lower {text : String} {c : Char} (h : c ∈ lower text) : c.toLower = c := by
  obtain ⟨d, -, rfl⟩ := List.mem_map.mp h
  exact Char.toLower_toLower_eq_toLower d

lemma lower_ofList {chars : List Char} (h : ∀ c ∈ chars, c.toLower = c) :
    lower (String.ofList chars) = chars := by
  rw [lower, String.toList_ofList]
  exact (List.map_congr_left h).trans (List.map_id chars)

/-- No letter is small for `_`. -/
lemma eq_underscore {text : String} (h : lower text = ['_']) : text = "_" := by
  obtain ⟨c, hchars, hc⟩ := List.map_eq_singleton_iff.mp h
  have halpha : c.isAlpha = false := by
    rw [← Char.isAlpha_toLower_eq_isAlpha, hc]
    rfl
  have hupper : ¬c.isUpper = true := by
    intro hupper
    rw [Char.isAlpha, hupper, Bool.true_or] at halpha
    cases halpha
  rw [Char.toLower_eq_of_not_isUpper hupper] at hc
  rw [← String.ofList_toList (s := text), hchars, hc]

/-- A text that is accepted as a parameter is not empty. -/
lemma queryText_ne {value : Option JsValue} {text : Option String}
    (h : queryText value = some text) : text ≠ some "" := by
  rintro rfl
  rw [queryText.eq_def] at h
  split at h
  · cases h
  · next given =>
      split at h
      · next haccepted =>
          rw [Option.some.injEq, Option.some.injEq] at h
          rw [h] at haccepted
          simp [string, StringCheck.holds, utf16Length] at haccepted
      · cases h
  · cases h

lemma parse_ne {value : JsValue} {query : DeviceListQuery}
    (h : parseDeviceListQuery value = some query) :
    query.keyword ≠ some "" ∧ query.schoolName ≠ some "" := by
  cases value with
  | object fields =>
      simp only [parseDeviceListQuery, Option.pure_def, Option.bind_eq_bind] at h
      split at h
      · cases h
      · obtain ⟨keyword, hkeyword, h⟩ := Option.bind_eq_some_iff.mp h
        obtain ⟨schoolName, hschoolName, h⟩ := Option.bind_eq_some_iff.mp h
        obtain ⟨status, -, h⟩ := Option.bind_eq_some_iff.mp h
        cases h
        exact ⟨queryText_ne hkeyword, queryText_ne hschoolName⟩
  | _ => cases h

section

variable {query : DeviceListQuery} {keyword : String} {key : List Char} {item : DeviceSummary}

lemma columnsMatch_iff : columnsMatch key item = true ↔
    like (lower item.deviceId) (containing key) = true ∨
      like (lower (item.dcdwLabel.getD "")) (containing key) = true ∨
      like (lower (item.schoolName.getD "")) (containing key) = true ∨
      like (lower item.modelVersion) (containing key) = true := by
  simp only [columnsMatch, Bool.or_eq_true, or_assoc]

lemma textsInclude_iff : textsInclude key item = true ↔
    key <:+: lower item.deviceId ∨ key <:+: lower item.deviceType.text ∨
      key <:+: lower (item.schoolName.getD "") ∨ key <:+: lower (item.dcdwLabel.getD "") ∨
      key <:+: lower item.modelVersion := by
  simp only [textsInclude, List.any_cons, List.any_nil, Bool.or_false, Bool.or_eq_true,
    includes_iff]

lemma DeviceSummary.Accepted.deviceId_ne (h : item.Accepted) : item.deviceId ≠ "" := by
  intro hempty
  obtain ⟨fields, hfields, hshape, -⟩ := object_iff.mp h
  cases hfields
  have hid : deviceIdSchema (some (.string item.deviceId)) = true :=
    hshape ("device_id", deviceIdSchema) (by simp)
  obtain ⟨text, htext, hchecks⟩ := string_iff.mp hid
  cases htext
  have hmin := hchecks (.min 1) (by simp)
  simp [StringCheck.holds, hempty, utf16Length] at hmin

lemma passes_school (h : passes query item = true) (hschool : query.schoolName ≠ some "")
    {name : String} (hname : query.schoolName = some name) : item.schoolName = some name := by
  rw [passes, truthy_of_ne hschool, hname, Bool.and_eq_true] at h
  simpa using h.1

/-- **The search is the same** for every device that passes the filters. -/
lemma SearchesAlike.clause (h : SearchesAlike query) (hkeyword : query.keyword = some keyword)
    (hschool : query.schoolName ≠ some "") (hitem : item.Accepted)
    (hpasses : passes query item = true) :
    columnsMatch (lower keyword) item = textsInclude (lower keyword) item := by
  rw [Bool.eq_iff_iff]
  rcases h keyword hkeyword with rfl | ⟨name, hname, hincludes, hlike⟩ | ⟨hplain, htypes⟩
  · -- Every identifier has a character, and the name of every type has the `_`.
    refine iff_of_true (columnsMatch_iff.mpr (.inl ?_)) (textsInclude_iff.mpr (.inr (.inl ?_)))
    · exact like_containing_underscore.mpr fun hnil => hitem.deviceId_ne (lower_eq_nil.mp hnil)
    · cases item.deviceType <;> decide +kernel
  · have hitemSchool := passes_school hpasses hschool hname
    refine iff_of_true (columnsMatch_iff.mpr ?_) (textsInclude_iff.mpr ?_)
    · rw [hitemSchool]
      exact .inr (.inr (.inl hlike))
    · rw [hitemSchool]
      exact .inr (.inr (.inl (includes_iff.mp hincludes)))
  · have htype : ¬lower keyword <:+: lower item.deviceType.text := by
      intro hstands
      rw [← includes_iff, htypes item.deviceType] at hstands
      cases hstands
    rw [columnsMatch_iff, textsInclude_iff]
    simp only [like_containing_iff hplain, htype, false_or]
    tauto

/-- The stores agree on such a query. -/
lemma SearchesAlike.agreeOn (h : SearchesAlike query) (hschool : query.schoolName ≠ some "")
    (hkeyword : query.keyword ≠ some "") (toISOString : ℤ → String) :
    AgreeOn toISOString query := by
  refine agreeOn_of_forall fun item hitem => ?_
  rw [selects, matchesQuery_eq, truthy_of_ne hkeyword]
  cases hpasses : passes query item with
  | false => rw [Bool.and_false, Bool.and_false]
  | true =>
      cases hsearch : query.keyword with
      | none => rfl
      | some keyword =>
          rw [Option.all_some, Option.all_some, h.clause hsearch hschool hitem hpasses]

/-! ### Where they do not agree -/

/-- Only `_` is in the names of both types, of what a pattern gives a meaning to. -/
lemma exists_type_without (hspecial : ∃ c ∈ key, IsSpecial c) (hne : key ≠ ['_']) :
    ∃ deviceType : DeviceType, ¬key <:+: lower deviceType.text := by
  have hcommon : ((lower DeviceType.cnsBox.text).tails.flatMap List.inits).all (fun part =>
      !(part.any fun c => IsSpecial c) || part = ['_'] ||
        !decide (part <:+: lower DeviceType.flightController.text)) = true := by
    decide +kernel
  by_contra hall
  push Not at hall
  obtain ⟨rest, hbegins, hsuffix⟩ := List.infix_iff_prefix_suffix.mp (hall .cnsBox)
  have hpart : key ∈ (lower DeviceType.cnsBox.text).tails.flatMap List.inits :=
    List.mem_flatMap.mpr ⟨rest, (List.mem_tails _ _).mpr hsuffix, (List.mem_inits _ _).mpr hbegins⟩
  have hkey := List.all_eq_true.mp hcommon key hpart
  have hany : (key.any fun c => IsSpecial c) = true := by simpa using hspecial
  rw [hany, decide_eq_false hne, decide_eq_true (hall .flightController)] at hkey
  cases hkey

variable {toISOString : ℤ → String}

/-- A device that has the school and the state of the query, and no label. -/
lemma AgreeOn.search (h : AgreeOn toISOString query) (hkeyword : query.keyword = some keyword)
    (hne : keyword ≠ "") (hschool : query.schoolName ≠ some "") (deviceId modelVersion : String)
    (hid : isValidDeviceId deviceId = true) (hmodel : modelVersion ≠ "")
    (deviceType : DeviceType) :
    (like (lower deviceId) (containing (lower keyword)) = true ∨
      like [] (containing (lower keyword)) = true ∨
      like (lower (query.schoolName.getD "")) (containing (lower keyword)) = true ∨
      like (lower modelVersion) (containing (lower keyword)) = true) ↔
    (lower keyword <:+: lower deviceId ∨ lower keyword <:+: lower deviceType.text ∨
      lower keyword <:+: lower (query.schoolName.getD "") ∨ lower keyword <:+: [] ∨
      lower keyword <:+: lower modelVersion) := by
  let item := DeviceStore.bareDevice deviceId deviceType query.schoolName modelVersion
    (query.status.getD .online)
  have hpasses : passes query item = true := by
    rw [passes, truthy_of_ne hschool, Bool.and_eq_true]
    constructor
    · cases hname : query.schoolName with
      | none => rfl
      | some name => simp [item, DeviceStore.bareDevice, hname]
    · cases hstatus : query.status with
      | none => rfl
      | some status => simp [item, DeviceStore.bareDevice, hstatus]
  have haccepted : item.Accepted := bareDevice_accepted hid hschool hmodel
  have hsame := h.bareDevice haccepted
  have htruthy : truthy query.keyword = some keyword := by
    rw [hkeyword, truthy_of_ne fun heq => hne (Option.some.inj heq)]
  rw [selects, matchesQuery_eq, htruthy, hpasses, Option.all_some, Option.all_some, Bool.and_true,
    Bool.and_true, Bool.eq_iff_iff, columnsMatch_iff, textsInclude_iff] at hsame
  exact hsame

/-- Nothing but the empty keyword is in the empty text. -/
lemma not_in_empty (hne : keyword ≠ "") : ¬lower keyword <:+: lower "" := by
  rw [lower_empty, List.infix_nil, lower_eq_nil]
  exact hne

/-- A keyword without special characters is not in the name of a type, unless the school
has it. -/
lemma AgreeOn.types (h : AgreeOn toISOString query) (hkeyword : query.keyword = some keyword)
    (hne : keyword ≠ "") (hschool : query.schoolName ≠ some "")
    (hplain : ∀ c ∈ lower keyword, ¬IsSpecial c)
    (hnone : ¬lower keyword <:+: lower (query.schoolName.getD "")) (deviceType : DeviceType) :
    ¬lower keyword <:+: lower deviceType.text := by
  intro htype
  have hsearch := h.search hkeyword hne hschool "0" "0" (by decide +kernel) (by decide) deviceType
  simp only [like_containing_iff hplain] at hsearch
  have hdigit : ¬lower keyword <:+: lower "0" := by
    intro hstands
    obtain ⟨c, hc⟩ := List.exists_mem_of_ne_nil _ fun hnil => hne (lower_eq_nil.mp hnil)
    obtain rfl : c = '0' := List.mem_singleton.mp (hstands.subset hc)
    have hin : '0' ∈ lower deviceType.text := htype.subset hc
    revert hin
    cases deviceType <;> decide +kernel
  rcases hsearch.mpr (.inr (.inl htype)) with hid | hlabel | hin | hmodel
  · exact hdigit hid
  · exact not_in_empty hne hlabel
  · exact hnone hin
  · exact hdigit hmodel

/-- The school has a keyword with special characters, unless it is `_`. -/
lemma AgreeOn.infix_school (h : AgreeOn toISOString query)
    (hkeyword : query.keyword = some keyword) (hne : keyword ≠ "")
    (hschool : query.schoolName ≠ some "") (hspecial : ∃ c ∈ lower keyword, IsSpecial c)
    (hunderscore : keyword ≠ "_") : lower keyword <:+: lower (query.schoolName.getD "") := by
  by_contra hnone
  obtain ⟨deviceType, htype⟩ := exists_type_without hspecial fun h => hunderscore (eq_underscore h)
  -- A model that the pattern accepts and that the keyword does not stand in.
  obtain ⟨text, htext, hchars, hlike, hnot⟩ :=
    exists_like_without '0' (by decide) hspecial
  have hlower : lower (String.ofList text) = text := by
    refine lower_ofList fun c hc => ?_
    rcases hchars c hc with rfl | hmem | rfl
    · rfl
    · exact toLower_of_mem_lower hmem
    · rfl
  have hmodel : String.ofList text ≠ "" := by
    intro hempty
    rw [hempty] at hlower
    exact htext hlower.symm
  have hdigit : ¬lower keyword <:+: lower "0" := by
    intro hstands
    obtain ⟨c, hc, hcspecial⟩ := hspecial
    obtain rfl : c = '0' := List.mem_singleton.mp (hstands.subset hc)
    exact absurd hcspecial (by decide)
  have hsearch := h.search hkeyword hne hschool "0" (String.ofList text) (by decide +kernel) hmodel
    deviceType
  rw [hlower] at hsearch
  rcases hsearch.mp (.inr (.inr (.inr hlike))) with hid | hin | hin | hlabel | hin
  · exact hdigit hid
  · exact htype hin
  · exact hnone hin
  · exact not_in_empty hne hlabel
  · exact hnot hin

/-- The pattern of the keyword finds it in the school. -/
lemma AgreeOn.like_school (h : AgreeOn toISOString query)
    (hkeyword : query.keyword = some keyword) (hne : keyword ≠ "")
    (hschool : query.schoolName ≠ some "")
    (hin : lower keyword <:+: lower (query.schoolName.getD "")) :
    like (lower (query.schoolName.getD "")) (containing (lower keyword)) = true := by
  rw [← Bool.not_eq_false]
  intro hlike
  obtain ⟨a, ha⟩ := exists_required hin hlike
  -- A digit that is not the character that the pattern requires.
  obtain ⟨digit, hid, hdigit, hnot⟩ : ∃ digit : String, isValidDeviceId digit = true ∧
      digit ≠ "" ∧ a ∉ lower digit := by
    by_cases hzero : a = '0'
    · subst hzero
      exact ⟨"1", by decide +kernel, by decide, by decide +kernel⟩
    · exact ⟨"0", by decide +kernel, by decide, fun hmem => hzero (List.mem_singleton.mp hmem)⟩
  have hsearch := h.search hkeyword hne hschool digit digit hid hdigit .cnsBox
  rcases hsearch.mpr (.inr (.inr (.inl hin))) with hfound | hfound | hfound | hfound
  · exact hnot (ha _ hfound)
  · cases ha _ hfound
  · rw [hfound] at hlike
    cases hlike
  · exact hnot (ha _ hfound)

/-- **The stores agree on no other query.** -/
lemma AgreeOn.searchesAlike (h : AgreeOn toISOString query) (hschool : query.schoolName ≠ some "")
    (hne : query.keyword ≠ some "") : SearchesAlike query := by
  intro keyword hkeyword
  have hne : keyword ≠ "" := by
    rintro rfl
    exact hne hkeyword
  by_cases hin : lower keyword <:+: lower (query.schoolName.getD "")
  · cases hname : query.schoolName with
    | none =>
        rw [hname] at hin
        exact absurd hin (not_in_empty hne)
    | some name =>
        have hlike := h.like_school hkeyword hne hschool hin
        rw [hname] at hin hlike
        exact .inr (.inl ⟨name, rfl, includes_iff.mpr hin, hlike⟩)
  · by_cases hunderscore : keyword = "_"
    · exact .inl hunderscore
    have hplain : ∀ c ∈ lower keyword, ¬IsSpecial c := by
      intro c hc hspecial
      exact hin (h.infix_school hkeyword hne hschool ⟨c, hc, hspecial⟩ hunderscore)
    refine .inr (.inr ⟨hplain, fun deviceType => ?_⟩)
    have htype := h.types hkeyword hne hschool hplain hin deviceType
    exact decide_eq_false htype

end

/-! ### The theorem -/

/-- **The lists of the stores.** Of a query that is accepted, two stores with the same
devices give the same items, whichever devices they are, if and only if `LIKE` finds the
keyword where `includes` does. -/
theorem device_lists_agree (toISOString : ℤ → String) {value : JsValue} {query : DeviceListQuery}
    (h : parseDeviceListQuery value = some query) :
    AgreeOn toISOString query ↔ SearchesAlike query := by
  obtain ⟨hkeyword, hschool⟩ := parse_ne h
  exact ⟨fun hagree => hagree.searchesAlike hschool hkeyword,
    fun hsearch => hsearch.agreeOn hschool hkeyword toISOString⟩

/-- The model of a device is found by both. -/
theorem device_lists_agree_model :
    AgreeOn (fun microseconds => formatUtcRfc3339Millis (microseconds * 1000))
      { keyword := some "PX4", schoolName := none, status := none } := by
  have hparse : parseDeviceListQuery (.object [("keyword", .string " PX4 ")]) =
      some { keyword := some "PX4", schoolName := none, status := none } := by
    decide +kernel
  refine (device_lists_agree _ hparse).mpr fun keyword hkeyword => ?_
  cases hkeyword
  have hlower : lower "PX4" = ['p', 'x', '4'] := by decide +kernel
  rw [hlower]
  refine .inr (.inr ⟨by simp [IsSpecial], fun deviceType => ?_⟩)
  cases deviceType <;> decide +kernel

/-- A search for `flight`: the device is a flight controller, which the one store lists and
the other does not. -/
theorem device_list_without_type :
    ∃ query, parseDeviceListQuery (.object [("keyword", .string "flight")]) = some query ∧
      ∃ devices t item, SameDevices (fun microseconds =>
          formatUtcRfc3339Millis (microseconds * 1000)) devices t ∧
        item ∈ InMemory.list devices query ∧
        ∃ items, Postgres.list (fun microseconds =>
          formatUtcRfc3339Millis (microseconds * 1000)) t query = some items ∧ item ∉ items := by
  have haccepted : (bareDevice "px4-01" .flightController none "PX4" .online).Accepted :=
    bareDevice_accepted (by decide +kernel) nofun (by decide)
  have hsame := sameDevices_bare (fun microseconds =>
    formatUtcRfc3339Millis (microseconds * 1000)) haccepted
  refine ⟨{ keyword := some "flight", schoolName := none, status := none }, by decide +kernel,
    _, _, bareDevice "px4-01" .flightController none "PX4" .online, hsame, ?_, ?_⟩
  · exact (mem_inMemory_list hsame.distinct).mpr
      ⟨⟨_, List.mem_singleton_self _, rfl⟩, by decide +kernel⟩
  · obtain ⟨items, hlist, hitems⟩ := hsame.list_postgres
      { keyword := some "flight", schoolName := none, status := none }
    refine ⟨items, hlist, fun hmem => ?_⟩
    have hselects := ((hitems _).mp hmem).2
    revert hselects
    decide +kernel

end DeviceStore

end CnsServer
