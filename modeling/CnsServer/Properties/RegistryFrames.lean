/-
What an operation of the device directory touches.

* `Atomic`: an operation that fails changes nothing;
* `Renewed`: the frame of a report: one record is renewed, and every other record
  and every role of another device stay as they were;
* `Registered`, `Reported`: what a registration and a telemetry make of the
  addressed record; the label they ask for is refused exactly if another device of
  the school has it (`claimRole_refused`), and the other fields are applied anyway;
* `Expires`: a scan takes down exactly the silent devices, tells of each once, and
  finds nothing when it is repeated;
* `seen_next`: an online device was seen, if the row it came in with says so, hence
  `expired_of_silent`: a silent device does expire;
* `registry_operations_framed`: **all of it, for every directory that operations
  reach**.
-/
import CnsServer.Invariants.RegistryChanges
import CnsServer.Properties.StoredRoles

namespace CnsServer

open DeviceRegistry Index

/-! ### The frame -/

/-- An operation that fails leaves the directory as it was. -/
structure Atomic (devices : DeviceRegistry) : Prop where
  load : ∀ records message, (devices.load records).1 = .error message →
    (devices.load records).2 = devices
  addProvisioned : ∀ record message, (devices.addProvisioned record).1 = .error message →
    (devices.addProvisioned record).2 = devices
  registration : ∀ registration receivedAt message,
    (devices.applyRegistration registration receivedAt).1 = .error message →
      (devices.applyRegistration registration receivedAt).2 = devices
  telemetry : ∀ deviceId telemetry receivedAt message,
    (devices.applyTelemetry deviceId telemetry receivedAt).1 = .error message →
      (devices.applyTelemetry deviceId telemetry receivedAt).2 = devices

lemma atomic (devices : DeviceRegistry) : Atomic devices where
  load records message h := by
    rw [DeviceRegistry.load] at h ⊢
    split at h
    · cases h
    · rfl
  addProvisioned record message h := by
    rw [DeviceRegistry.addProvisioned] at h ⊢
    split at h
    · cases h
    · rfl
  registration _ _ _ := applyRegistration_error
  telemetry _ _ _ _ := applyTelemetry_error

/-- The record of a device is renewed: the next revision, in the same school and of the
same type and model. Nothing about another device changes. -/
structure Renewed (devices registry : DeviceRegistry) (record newRecord : DeviceRecord) : Prop
    extends NextRecord record newRecord, Changed devices registry newRecord where
  modelVersion : newRecord.modelVersion = record.modelVersion
  before : devices.find record.deviceId = some record
  roles : ∀ key owner, owner ≠ record.deviceId →
    (registry.roles.lookup key = some owner ↔ devices.roles.lookup key = some owner)
  named : ∀ key owner, owner ≠ record.deviceId →
    (owner ∈ (registry.namedRoles.lookup key).getD [] ↔
      owner ∈ (devices.namedRoles.lookup key).getD [])

/-- The indexes follow the records, so that only the roles of the renewed device move. -/
lemma renewed {devices registry : DeviceRegistry} {record newRecord : DeviceRecord}
    (hkeys : RolesIndexed devices) (hkeys' : RolesIndexed registry)
    (hbefore : devices.find record.deviceId = some record)
    (hnext : NextRecord record newRecord) (hmodel : newRecord.modelVersion = record.modelVersion)
    (hchanged : Changed devices registry newRecord) :
    Renewed devices registry record newRecord := by
  have hroles : ∀ {I : Type} [DecidableEq I] (key : DeviceRecord → Option I) owner,
      owner ≠ record.deviceId →
        rolesOf key registry.records owner = rolesOf key devices.records owner := by
    intro I _ key owner hne
    have hsame : registry.records.lookup owner = devices.records.lookup owner :=
      hchanged.others owner (hnext.deviceId ▸ hne)
    rw [rolesOf, rolesOf, hsame]
  refine ⟨hnext, hchanged, hmodel, hbefore, fun key owner hne => ?_, fun key owner hne => ?_⟩
  · rw [hkeys'.roles key owner, hkeys.roles key owner, hroles _ owner hne]
  · rw [hkeys'.named.mem key owner, hkeys.named.mem key owner, hroles _ owner hne]

/-! ### The label -/

/-- Another device of the same school has the label. -/
def OwnedByAnother (devices : DeviceRegistry) (record : DeviceRecord) (label : String) : Prop :=
  ∃ other, devices.find other.deviceId = some other ∧ other.deviceId ≠ record.deviceId ∧
    other.schoolId = record.schoolId ∧ other.dcdwLabel = some label

section

variable {devices : DeviceRegistry} {record : DeviceRecord} {label : String}

/-- The index says who owns a label. -/
lemma ownedByAnother_iff (hkeys : RolesIndexed devices) : OwnedByAnother devices record label ↔
    ∃ owner, devices.roles.lookup (record.schoolId, label) = some owner ∧
      owner ≠ record.deviceId := by
  constructor
  · rintro ⟨other, hother, hne, hschool, hlabel⟩
    refine ⟨other.deviceId, (hkeys.roles _ _).mpr ?_, hne⟩
    exact (rolesOf_eq _ hother).trans (role_eq_some.mpr ⟨hschool, hlabel⟩)
  · rintro ⟨owner, howner, hne⟩
    obtain ⟨other, hother, hrole⟩ := rolesOf_some.mp ((hkeys.roles _ _).mp howner)
    obtain ⟨hschool, hlabel⟩ := role_eq_some.mp hrole
    obtain rfl : other.deviceId = owner := hkeys.ids owner other hother
    exact ⟨other, hother, hne, hschool, hlabel⟩

/-- Two devices of a school do not have the same label. -/
lemma not_ownedByAnother (hkeys : RolesIndexed devices)
    (hrecord : devices.find record.deviceId = some record)
    (hlabel : record.dcdwLabel = some label) : ¬ OwnedByAnother devices record label := by
  rw [ownedByAnother_iff hkeys]
  rintro ⟨owner, howner, hne⟩
  have hself : devices.roles.lookup (record.schoolId, label) = some record.deviceId :=
    (hkeys.roles _ _).mpr ((rolesOf_eq _ hrecord).trans (role_eq_some.mpr ⟨rfl, hlabel⟩))
  rw [hself, Option.some_inj] at howner
  exact hne howner.symm

/-- **A label of another device is refused**, and the label stays. -/
lemma claimRole_refused (hkeys : RolesIndexed devices) (h : OwnedByAnother devices record label) :
    (devices.claimRole record label).label = record.dcdwLabel ∧
      (devices.claimRole record label).refused = true := by
  obtain ⟨owner, howner, hne⟩ := (ownedByAnother_iff hkeys).mp h
  rw [claimRole, howner]
  dsimp only
  rw [if_pos hne]
  exact ⟨rfl, rfl⟩

/-- Any other label is taken. -/
lemma claimRole_taken (hkeys : RolesIndexed devices) (h : ¬ OwnedByAnother devices record label) :
    (devices.claimRole record label).label = some label ∧
      (devices.claimRole record label).refused = false := by
  rw [ownedByAnother_iff hkeys] at h
  rw [claimRole]
  split
  · exact ⟨rfl, rfl⟩
  · next owner howner =>
      rw [if_neg fun hne => h ⟨owner, howner, hne⟩]
      exact ⟨rfl, rfl⟩

end

/-- What becomes of the label a report asks for: the label afterwards, and whether it was
refused. -/
structure Labelled (devices : DeviceRegistry) (record : DeviceRecord) (asked : Option String)
    (label : Option String) (refused : Bool) : Prop where
  unasked : asked = none → label = record.dcdwLabel ∧ refused = false
  owned : ∀ wanted, asked = some wanted → OwnedByAnother devices record wanted →
    label = record.dcdwLabel ∧ refused = true
  free : ∀ wanted, asked = some wanted → ¬ OwnedByAnother devices record wanted →
    label = some wanted ∧ refused = false

section

variable {devices : DeviceRegistry} {record : DeviceRecord}

lemma claimRole_labelled (hkeys : RolesIndexed devices) (record : DeviceRecord) (wanted : String) :
    Labelled devices record (some wanted) (devices.claimRole record wanted).label
      (devices.claimRole record wanted).refused where
  unasked h := by cases h
  owned _ h howned := by
    cases h
    exact claimRole_refused hkeys howned
  free _ h hfree := by
    cases h
    exact claimRole_taken hkeys hfree

lemma labelled_unasked (devices : DeviceRegistry) (record : DeviceRecord) :
    Labelled devices record none record.dcdwLabel false where
  unasked _ := ⟨rfl, rfl⟩
  owned _ h := by cases h
  free _ h := by cases h

lemma registrationRole_labelled (hkeys : RolesIndexed devices)
    (hrecord : devices.find record.deviceId = some record) (registration : Registration) :
    Labelled devices record registration.dcdwLabel
      (devices.registrationRole record registration).label
      (devices.registrationRole record registration).refused := by
  rw [registrationRole]
  cases registration.dcdwLabel with
  | none => exact labelled_unasked devices record
  | some wanted =>
      dsimp only
      by_cases hown : record.dcdwLabel = some wanted
      · -- the device asks for the label it has, which nobody else does
        have hfree := not_ownedByAnother hkeys hrecord hown
        rw [if_pos hown]
        refine ⟨fun h => (by cases h), fun _ h howned => ?_, fun _ h _ => ?_⟩
        · cases h
          exact absurd howned hfree
        · cases h
          exact ⟨hown, rfl⟩
      · rw [if_neg hown]
        exact claimRole_labelled hkeys record wanted

/-- The label a telemetry asks for: only a device without one may. -/
def firstLabel (record : DeviceRecord) (telemetry : Telemetry) : Option String :=
  if record.dcdwLabel.isNone then telemetry.dcdwLabel else none

lemma telemetryRole_labelled (hkeys : RolesIndexed devices) (record : DeviceRecord)
    (telemetry : Telemetry) :
    Labelled devices record (firstLabel record telemetry)
      (devices.telemetryRole record telemetry).label
      (devices.telemetryRole record telemetry).refused := by
  have hunasked := labelled_unasked devices record
  cases hown : record.dcdwLabel with
  | some label =>
      rw [hown] at hunasked
      simp only [telemetryRole, firstLabel, hown]
      exact hunasked
  | none =>
      rw [hown] at hunasked
      cases hwanted : telemetry.dcdwLabel with
      | none =>
          simp only [telemetryRole, firstLabel, hown, hwanted]
          exact hunasked
      | some wanted =>
          simp only [telemetryRole, firstLabel, hown, hwanted]
          exact claimRole_labelled hkeys record wanted

end

/-! ### The reports -/

/-- What a registration is told: its school is not the device's, its label is taken. -/
def registrationDiagnostic (record : DeviceRecord) (registration : Registration)
    (refused : Bool) : Option String :=
  let diagnostic := if asksForSchool record registration then some "拒绝设备自动迁移学校" else none
  if refused then appendDiagnostic diagnostic "拒绝同校冲突角色号" else diagnostic

/-- An accepted registration. -/
structure Registered (devices registry : DeviceRegistry) (registration : Registration)
    (receivedAt : TimePoint) (record : DeviceRecord) (mutation : Mutation) : Prop
    extends Renewed devices registry record mutation.record where
  addressed : record.deviceId = registration.deviceId
  label : ∃ refused,
    Labelled devices record registration.dcdwLabel mutation.record.dcdwLabel refused ∧
      mutation.diagnostic = registrationDiagnostic record registration refused
  fields : mutation.record =
    { record with
      dcdwLabel := mutation.record.dcdwLabel
      capabilities := registration.capabilities.or record.capabilities
      product := registration.product.or record.product
      version := registration.version.or record.version
      status := registration.status
      lastSeenAt := if registration.status = .online then some receivedAt else record.lastSeenAt
      revision := record.revision + 1 }

/-- An accepted telemetry. -/
structure Reported (devices registry : DeviceRegistry) (reporter : String) (telemetry : Telemetry)
    (receivedAt : TimePoint) (record : DeviceRecord) (mutation : Mutation) : Prop
    extends Renewed devices registry record mutation.record where
  addressed : record.deviceId = reporter
  label : ∃ refused,
    Labelled devices record (firstLabel record telemetry) mutation.record.dcdwLabel refused ∧
      mutation.diagnostic = if refused then some "拒绝同校冲突角色号" else none
  fields : mutation.record =
    { record with
      dcdwLabel := mutation.record.dcdwLabel
      status := .online
      lastSeenAt := some receivedAt
      latestTelemetry := some telemetry.payload
      telemetryReceivedAt := some receivedAt
      revision := record.revision + 1 }

section

variable {devices registry : DeviceRegistry} {mutation : Mutation}

lemma applyRegistration_registered (hkeys : RolesIndexed devices) {registration : Registration}
    {receivedAt : TimePoint}
    (h : devices.applyRegistration registration receivedAt = (.ok mutation, registry)) :
    ∃ record, Registered devices registry registration receivedAt record mutation := by
  have hchanged := applyRegistration_changed h
  have hkeys' : RolesIndexed registry := by
    have hnext := applyRegistration_rolesIndexed hkeys registration receivedAt
    rw [h] at hnext
    exact hnext
  rw [applyRegistration] at h
  split at h
  · cases h
  next record hrecord =>
  have hid : record.deviceId = registration.deviceId := hkeys.ids _ record hrecord
  have hbefore : devices.find record.deviceId = some record := hid ▸ hrecord
  split at h
  · cases h
  · cases h
    exact ⟨record, ⟨renewed hkeys hkeys' hbefore (registered_next _ _ _ _) rfl hchanged, hid,
      ⟨_, registrationRole_labelled hkeys hbefore registration, rfl⟩, rfl⟩⟩

lemma applyTelemetry_reported (hkeys : RolesIndexed devices) {deviceId : String}
    {telemetry : Telemetry} {receivedAt : TimePoint}
    (h : devices.applyTelemetry deviceId telemetry receivedAt = (.ok mutation, registry)) :
    ∃ record, Reported devices registry deviceId telemetry receivedAt record mutation := by
  have hchanged := applyTelemetry_changed h
  have hkeys' : RolesIndexed registry := by
    have hnext := applyTelemetry_rolesIndexed hkeys deviceId telemetry receivedAt
    rw [h] at hnext
    exact hnext
  rw [applyTelemetry] at h
  split at h
  · cases h
  next record hrecord =>
  have hid : record.deviceId = deviceId := hkeys.ids _ record hrecord
  have hbefore : devices.find record.deviceId = some record := hid ▸ hrecord
  split at h
  · cases h
  · cases h
    exact ⟨record, ⟨renewed hkeys hkeys' hbefore (reported_next _ _ _ _) rfl hchanged, hid,
      ⟨_, telemetryRole_labelled hkeys record telemetry, rfl⟩, rfl⟩⟩

end

/-- The reports touch one device each. -/
structure Local (devices : DeviceRegistry) : Prop where
  registration : ∀ registration receivedAt mutation registry,
    devices.applyRegistration registration receivedAt = (.ok mutation, registry) →
      ∃ record, Registered devices registry registration receivedAt record mutation
  telemetry : ∀ deviceId telemetry receivedAt mutation registry,
    devices.applyTelemetry deviceId telemetry receivedAt = (.ok mutation, registry) →
      ∃ record, Reported devices registry deviceId telemetry receivedAt record mutation

/-! ### Silence -/

/-- An online device that was last seen at least `timeout` ago. -/
def DeviceRecord.Silent (now timeout : TimePoint) (record : DeviceRecord) : Prop :=
  record.status = .online ∧ ∃ seen, record.lastSeenAt = some seen ∧ timeout ≤ now - seen

lemma isInactive_iff {now timeout : TimePoint} {record : DeviceRecord} :
    isInactive now timeout record = true ↔ record.Silent now timeout := by
  obtain ⟨_, _, _, _, _, status, lastSeenAt, _, _, _, _, _, _, _⟩ := record
  cases status with
  | offline =>
      refine ⟨fun h => (by cases h), fun h => ?_⟩
      cases h.1
  | online =>
      cases lastSeenAt with
      | none =>
          refine ⟨fun h => (by cases h), fun h => ?_⟩
          obtain ⟨-, seen, hseen, -⟩ := h
          cases hseen
      | some seen =>
          refine ⟨fun h => ⟨rfl, seen, rfl, of_decide_eq_true h⟩, fun h => ?_⟩
          obtain ⟨-, _, hseen, hle⟩ := h
          cases hseen
          exact decide_eq_true hle

/-- A device that has expired is silent no more: it is offline. -/
lemma expired_not_silent {now timeout : TimePoint} {record : DeviceRecord} :
    ¬ (expired record).Silent now timeout := by
  rintro ⟨hstatus, -⟩
  cases hstatus

/-- What a scan does. -/
structure Expires (devices : DeviceRegistry) (now timeout : TimePoint) : Prop where
  silent : ∀ deviceId record, devices.find deviceId = some record → record.Silent now timeout →
    (devices.expireInactive now timeout).2.find deviceId =
      some { record with status := .offline, revision := record.revision + 1 }
  others : ∀ deviceId record, devices.find deviceId = some record →
    ¬ record.Silent now timeout →
      (devices.expireInactive now timeout).2.find deviceId = some record
  unknown : ∀ deviceId, devices.find deviceId = none →
    (devices.expireInactive now timeout).2.find deviceId = none
  roles : (devices.expireInactive now timeout).2.roles = devices.roles
  named : (devices.expireInactive now timeout).2.namedRoles = devices.namedRoles
  once : ((devices.expireInactive now timeout).1.map fun mutation =>
    mutation.record.deviceId).Nodup
  told : ∀ deviceId,
    (∃ mutation ∈ (devices.expireInactive now timeout).1, mutation.record.deviceId = deviceId) ↔
      ∃ record, devices.find deviceId = some record ∧ record.Silent now timeout
  mutations : ∀ mutation ∈ (devices.expireInactive now timeout).1,
    (devices.expireInactive now timeout).2.find mutation.record.deviceId = some mutation.record ∧
      mutation.reason = .activityTimeout ∧ mutation.statusChanged = true ∧
      mutation.diagnostic = none
  again : (devices.expireInactive now timeout).2.expireInactive now timeout =
    ([], (devices.expireInactive now timeout).2)

section

variable {devices : DeviceRegistry} {now timeout : TimePoint}

lemma find_expireInactive (devices : DeviceRegistry) (now timeout : TimePoint)
    (deviceId : String) :
    (devices.expireInactive now timeout).2.find deviceId =
      (devices.find deviceId).map fun record =>
        if isInactive now timeout record then expired record else record :=
  Map.lookup_mapValues _ _ _

/-- The devices of a registry, each once. -/
lemma values_nodup (hkeys : RolesIndexed devices) :
    (devices.records.values.map DeviceRecord.deviceId).Nodup := by
  have hids : devices.records.values.map DeviceRecord.deviceId = devices.records.keys := by
    rw [Map.values_eq, List.map_map]
    refine List.map_congr_left fun entry hmem => ?_
    exact hkeys.ids entry.1 entry.2 (Map.mem_entries_iff.mp hmem)
  rw [hids]
  exact devices.records.keys_nodup

/-- After a scan nobody is silent. -/
lemma expireInactive_not_silent {deviceId : String} {record : DeviceRecord}
    (h : (devices.expireInactive now timeout).2.find deviceId = some record) :
    ¬ record.Silent now timeout := by
  rw [find_expireInactive, Option.map_eq_some_iff] at h
  obtain ⟨before, -, rfl⟩ := h
  split
  · exact expired_not_silent
  · next hactive => exact fun hsilent => hactive (isInactive_iff.mpr hsilent)

/-- A scan that finds nobody silent changes nothing. -/
lemma expireInactive_none
    (h : ∀ deviceId record, devices.find deviceId = some record → ¬ record.Silent now timeout) :
    devices.expireInactive now timeout = ([], devices) := by
  have hvalue : ∀ record ∈ devices.records.values, isInactive now timeout record ≠ true := by
    intro record hmem hinactive
    obtain ⟨deviceId, hrecord⟩ := Map.mem_values.mp hmem
    exact h deviceId record hrecord (isInactive_iff.mp hinactive)
  have hfiltered : devices.records.values.filter (isInactive now timeout) = [] :=
    List.filter_eq_nil_iff.mpr hvalue
  have hrecords : devices.records.mapValues (fun record =>
      if isInactive now timeout record then expired record else record) = devices.records := by
    refine Map.mapValues_eq_self fun record hmem => ?_
    exact if_neg (hvalue record hmem)
  rw [expireInactive, hfiltered, hrecords]
  rfl

lemma expires (hkeys : RolesIndexed devices) (now timeout : TimePoint) :
    Expires devices now timeout where
  silent deviceId record hrecord hsilent := by
    rw [find_expireInactive, hrecord, Option.map_some, if_pos (isInactive_iff.mpr hsilent)]
    rfl
  others deviceId record hrecord hactive := by
    rw [find_expireInactive, hrecord, Option.map_some]
    rw [if_neg fun hinactive => hactive (isInactive_iff.mp hinactive)]
  unknown deviceId hnone := by rw [find_expireInactive, hnone, Option.map_none]
  roles := rfl
  named := rfl
  once := by
    rw [expireInactive, List.map_map]
    have hfiltered : ((devices.records.values.filter (isInactive now timeout)).map
        DeviceRecord.deviceId).Nodup :=
      (values_nodup hkeys).sublist (List.filter_sublist.map _)
    exact hfiltered
  told deviceId := by
    constructor
    · rintro ⟨mutation, hmem, rfl⟩
      obtain ⟨record, hvalue, rfl⟩ := List.mem_map.mp hmem
      obtain ⟨hvalue, hinactive⟩ := List.mem_filter.mp hvalue
      exact ⟨record, mem_all hkeys hvalue, isInactive_iff.mp hinactive⟩
    · rintro ⟨record, hrecord, hsilent⟩
      have hvalue : record ∈ devices.records.values := Map.mem_values.mpr ⟨deviceId, hrecord⟩
      exact ⟨⟨expired record, .activityTimeout, true, none⟩,
        List.mem_map.mpr ⟨record, List.mem_filter.mpr ⟨hvalue, isInactive_iff.mpr hsilent⟩, rfl⟩,
        hkeys.ids deviceId record hrecord⟩
  mutations mutation hmem := by
    refine ⟨expireInactive_changed hkeys hmem, ?_⟩
    obtain ⟨record, -, rfl⟩ := List.mem_map.mp hmem
    exact ⟨rfl, rfl, rfl⟩
  again := expireInactive_none fun _ _ => expireInactive_not_silent

end

/-! ### The devices that are online -/

/-- A record says when its device was last seen, if the device is online. -/
def DeviceRecord.SeenOnline (record : DeviceRecord) : Prop :=
  record.status = .online → record.lastSeenAt.isSome

/-- The rows of the device that come in say when it was last seen, if they say that it is
online. -/
def RowsSeen (deviceId : String) : RegistryInput → Prop
  | .load records => ∀ record ∈ records, record.deviceId = deviceId → record.SeenOnline
  | .addProvisioned record => record.deviceId = deviceId → record.SeenOnline
  | _ => True

/-- A report says so whatever the record said before. -/
lemma Renews.seenOnline {input : RegistryInput} {record newRecord : DeviceRecord}
    (h : Renews record newRecord input) : newRecord.SeenOnline := by
  cases input with
  | registration registration receivedAt =>
      obtain ⟨-, change, -, rfl⟩ := h
      intro hstatus
      have honline : registration.status = .online := hstatus
      rw [registered, if_pos honline]
      rfl
  | telemetry deviceId telemetry receivedAt =>
      obtain ⟨-, change, -, rfl⟩ := h
      intro _
      rfl
  | expireInactive now timeout =>
      rw [show newRecord = expired record from h]
      intro hstatus
      cases hstatus
  | _ => exact h.elim

/-- **One operation**: an online device was seen. -/
lemma seen_next {devices : DeviceRegistry} (hkeys : RolesIndexed devices) {input : RegistryInput}
    {deviceId : String} (hrows : RowsSeen deviceId input)
    (h : ∀ record, devices.find deviceId = some record → record.SeenOnline)
    {record : DeviceRecord} (hrecord : (devices.next input).find deviceId = some record) :
    record.SeenOnline := by
  have hid : record.deviceId = deviceId :=
    (next_rolesIndexed hkeys input).ids deviceId record hrecord
  by_cases hload : ∃ records, input = .load records
  · obtain ⟨records, rfl⟩ := hload
    rcases load_find devices records with hsame | hloaded
    · rw [show devices.next (.load records) = devices from hsame] at hrecord
      exact h record hrecord
    · exact hrows record (hloaded deviceId record hrecord).1 hid
  · rcases find_next hkeys (fun records heq => hload ⟨records, heq⟩) hrecord with
      hold | ⟨old, -, hrenews⟩ | ⟨rfl, -⟩
    · exact h record hold
    · exact hrenews.seenOnline
    · exact hrows hid

lemma seenOnline_of_reachable {deviceId : String} {devices : DeviceRegistry}
    (h : (registryMachine.restrict fun _ => RowsSeen deviceId).Reachable devices)
    {record : DeviceRecord} (hrecord : devices.find deviceId = some record) :
    record.SeenOnline := by
  have hall : ∀ record, devices.find deviceId = some record → record.SeenOnline := by
    refine h.invariant (P := fun devices =>
      ∀ record, devices.find deviceId = some record → record.SeenOnline)
      (fun devices h0 => ?_) fun devices input hreached hseen henabled => ?_
    · cases h0
      intro record hnone
      cases hnone
    · have hkeys := reachable_rolesIndexed hreached.of_restrict
      exact fun record hrecord => seen_next hkeys henabled.2 hseen hrecord
  exact hall record hrecord

/-- Whoever is still online after a scan was seen within `timeout`. -/
lemma expired_of_silent {devices : DeviceRegistry} {deviceId : String} {now timeout : TimePoint}
    (hseen : ∀ record, devices.find deviceId = some record → record.SeenOnline)
    {record : DeviceRecord}
    (hrecord : (devices.expireInactive now timeout).2.find deviceId = some record)
    (honline : record.status = .online) :
    ∃ seen, record.lastSeenAt = some seen ∧ now - seen < timeout := by
  have hactive := expireInactive_not_silent hrecord
  rw [find_expireInactive, Option.map_eq_some_iff] at hrecord
  obtain ⟨before, hbefore, rfl⟩ := hrecord
  split at honline
  · cases honline
  · next hinactive =>
      rw [if_neg hinactive] at hactive ⊢
      obtain ⟨seen, hlast⟩ := Option.isSome_iff_exists.mp (hseen before hbefore honline)
      exact ⟨seen, hlast, Int.not_le.mp fun hle => hactive ⟨honline, seen, hlast, hle⟩⟩

/-- **The operations of the directory**, in every state that they reach: they are atomic, a
report touches only its device, and a scan takes down exactly the silent ones; a device whose
rows say when it was last seen says so as long as it is online, so that it does expire. -/
theorem registry_operations_framed :
    (∀ devices, registryMachine.Reachable devices →
      Atomic devices ∧ Local devices ∧ ∀ now timeout, Expires devices now timeout) ∧
    ∀ deviceId devices,
      (registryMachine.restrict fun _ => RowsSeen deviceId).Reachable devices →
        (∀ record, devices.find deviceId = some record → record.SeenOnline) ∧
        ∀ now timeout record,
          (devices.expireInactive now timeout).2.find deviceId = some record →
            record.status = .online →
              ∃ seen, record.lastSeenAt = some seen ∧ now - seen < timeout := by
  refine ⟨fun devices h => ?_, fun deviceId devices h => ?_⟩
  · have hkeys := reachable_rolesIndexed h
    refine ⟨atomic devices, ⟨?_, ?_⟩, expires hkeys⟩
    · intro registration receivedAt mutation registry happlied
      exact applyRegistration_registered hkeys happlied
    · intro deviceId telemetry receivedAt mutation registry happlied
      exact applyTelemetry_reported hkeys happlied
  · have hseen := fun record => @seenOnline_of_reachable deviceId devices h record
    exact ⟨hseen, fun now timeout record hrecord => expired_of_silent hseen hrecord⟩

end CnsServer
