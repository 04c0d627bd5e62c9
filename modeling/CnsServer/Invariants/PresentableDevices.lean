/-
What the devices show to the outside.

* `DeviceRecord.Presentable`: a valid id, a label and a version of the model that are not
  empty, and a telemetry that is an object;
* `Presents`: what may enter the directory;
* `PresentableDevices`: the rows, the records and whatever is on its way are so;
* `presentable_of_reachable`: **in every run**, over any number of starts.
-/
import CnsServer.Invariants.StoredDevices

namespace CnsServer

open DeviceService

/-! ### Records and rows -/

/-- A record that can be shown. -/
structure DeviceRecord.Presentable (record : DeviceRecord) : Prop where
  deviceId : isValidDeviceId record.deviceId = true
  dcdwLabel : record.dcdwLabel ≠ some ""
  modelVersion : record.modelVersion ≠ ""
  latestTelemetry : IsObject record.latestTelemetry

/-- A registration that leads to such a record. -/
structure Registration.Presentable (registration : Registration) : Prop where
  deviceId : isValidDeviceId registration.deviceId = true
  dcdwLabel : registration.dcdwLabel ≠ some ""

/-- A row that reads as such a record. -/
structure DeviceRow.Presentable (deviceId : String) (row : DeviceRow) : Prop where
  deviceId : isValidDeviceId deviceId = true
  dcdwLabel : row.dcdwLabel ≠ some ""
  modelVersion : row.modelVersion ≠ ""

/-- All rows do. -/
def DeviceTables.Presentable (t : DeviceTables) : Prop :=
  ∀ deviceId row, t.devices.lookup deviceId = some row → row.Presentable deviceId

section

variable {t t' : DeviceTables} {record : DeviceRecord}

lemma optionalString_nonempty {root : Json} {key : String} {found : Option String}
    (h : optionalString root key = .ok found) : found ≠ some "" := by
  rintro rfl
  rw [optionalString] at h
  split at h
  · cases h
  · cases h
  · rw [requiredString] at h
    split at h
    · split at h
      · cases h
      · next hnonempty =>
          cases h
          exact hnonempty rfl
    · cases h

/-- A registration that is accepted can be shown. -/
lemma parseRegistration_presentable {json : Option Json} {topicDeviceId : String}
    {registration : Registration} (h : parseRegistration json topicDeviceId = .ok registration) :
    registration.Presentable := by
  refine ⟨(parseRegistration_ok h).2.1, ?_⟩
  simp only [parseRegistration, bind, Except.bind] at h
  repeat' split at h
  all_goals first | contradiction | skip
  cases h
  exact optionalString_nonempty (by assumption)

/-- A telemetry that is accepted is an object and names no label. -/
lemma parseTelemetry_ok {json : Option Json} {topicDeviceId : String} {telemetry : Telemetry}
    (h : parseTelemetry json topicDeviceId = .ok telemetry) :
    telemetry.dcdwLabel = none ∧ telemetry.payload.isObject = true := by
  simp only [parseTelemetry, bind, Except.bind] at h
  split at h
  · cases h
  next root hroot =>
  have hobject : root.isObject = true := by
    rw [parseObject.eq_def] at hroot
    split at hroot
    · cases hroot
    · split at hroot
      · cases hroot
        assumption
      · cases hroot
  repeat' split at h
  all_goals first | contradiction | skip
  cases h
  exact ⟨rfl, hobject⟩

/-- What is read from the rows of a device can be shown. -/
lemma DeviceTables.Holds.presentable (h : t.Holds record) (hreads : t.Reads)
    (ht : t.Presentable) : record.Presentable := by
  obtain ⟨columns, hselect, hread⟩ := h
  have hcolumns := deviceFromRow_readAs hread
  obtain ⟨hrow, hstate⟩ := select_rows hselect
  have hshown := ht _ _ hrow
  refine ⟨hshown.deviceId, ?_, ?_, ?_⟩
  · rw [hcolumns.dcdwLabel]
    exact hshown.dcdwLabel
  · rw [hcolumns.modelVersion]
    exact hshown.modelVersion
  · rw [hcolumns.latestTelemetry]
    exact (hreads.states _ _ hstate).latestTelemetry

end

/-! ### The directory -/

/-- What an operation brings into the directory can be shown. -/
def Presents (devices : DeviceRegistry) : RegistryInput → Prop
  | .addProvisioned record => devices.find record.deviceId = none → record.Presentable
  | .registration registration _ => registration.Presentable
  | .telemetry _ telemetry _ =>
      telemetry.dcdwLabel = none ∧ telemetry.payload.isObject = true
  | .expireInactive _ _ => True
  | .load _ => False

/-- The records can be shown. -/
def RecordsPresentable (devices : DeviceRegistry) : Prop :=
  ∀ deviceId record, devices.find deviceId = some record → record.Presentable

section

variable {devices : DeviceRegistry} {record : DeviceRecord}

lemma Presents.not_load {input : RegistryInput} (h : Presents devices input) :
    ∀ records, input ≠ .load records := by
  rintro records rfl
  exact h

lemma renews_presentable {newRecord : DeviceRecord} {input : RegistryInput}
    (hrenews : Renews record newRecord input) (hpresents : Presents devices input)
    (h : record.Presentable) : newRecord.Presentable := by
  cases input with
  | registration registration receivedAt =>
      obtain ⟨-, change, hlabel, rfl⟩ := hrenews
      refine ⟨h.deviceId, ?_, h.modelVersion, h.latestTelemetry⟩
      change change.label ≠ some ""
      rcases hlabel with hold | hnew
      · rw [hold]
        exact h.dcdwLabel
      · rw [hnew]
        exact hpresents.dcdwLabel
  | telemetry deviceId telemetry receivedAt =>
      obtain ⟨-, change, hlabel, rfl⟩ := hrenews
      refine ⟨h.deviceId, ?_, h.modelVersion, fun value hvalue => ?_⟩
      · change change.label ≠ some ""
        rcases hlabel with hold | hnew
        · rw [hold]
          exact h.dcdwLabel
        · rw [hnew, hpresents.1]
          nofun
      · cases hvalue
        exact hpresents.2
  | expireInactive now timeout =>
      rw [show newRecord = DeviceRegistry.expired record from hrenews]
      exact ⟨h.deviceId, h.dcdwLabel, h.modelVersion, h.latestTelemetry⟩
  | _ => exact hrenews.elim

lemma Presents.keeps {input : RegistryInput} (h : Presents devices input) :
    Keeps DeviceRecord.Presentable devices input where
  not_load := h.not_load
  added record hadded hnone := by
    subst hadded
    exact h hnone
  renewed old record hrenews hold := renews_presentable hrenews h hold

end

/-! ### The invariant -/

/-- The rows and the records can be shown, and so can what the registrations and the writes
on their way leave. -/
structure PresentableDevices (s : DeviceSystem) : Prop where
  rows : s.tables.Presentable
  records : RecordsPresentable s.registry
  registrations : s.runtime.exchange.Registrations fun registration _ => registration.Presentable
  writes : ∀ write, s.side.Pending write → write.record.dcdwLabel ≠ some ""

section

variable {wcfg : WorkerConfig} {cfg : DeviceServiceConfig} {s : DeviceSystem}

/-! ### The transactions -/

lemma provision_presentable (h : PresentableDevices s) {task : ProvisionTask} {t : DeviceTables}
    {record : DeviceRecord} (hhand : s.runtime.worker.hand = .provision task)
    (hprovisioned : s.tables.provisionDevice task.registration task.receivedAt =
      .ok (record, t)) : t.Presentable := by
  have hspec := DeviceTables.provisionDevice_ok hprovisioned
  have htask := h.registrations.hand task (congrArg Hand.device hhand)
  intro deviceId row hrow
  by_cases hid : deviceId = task.registration.deviceId
  · subst hid
    rcases hspec.row with ⟨found, hbefore, hafter⟩ | ⟨-, schoolId, hafter, -⟩
    · rw [hafter, Option.some_inj] at hrow
      exact hrow ▸ h.rows _ found hbefore
    · rw [hafter, Option.some_inj] at hrow
      subst hrow
      refine ⟨htask.deviceId, htask.dcdwLabel, ?_⟩
      simp only [DeviceTables.newDevice]
      split <;> decide
  · rw [(hspec.others deviceId hid).1] at hrow
    exact h.rows deviceId row hrow

lemma write_presentable (h : PresentableDevices s) {desired : DesiredDeviceWrite}
    {t : DeviceTables} (hhand : s.runtime.worker.hand = .write desired)
    (hwritten : s.tables.writeDeviceState desired = .ok t) : t.Presentable := by
  have hspec := DeviceTables.writeDeviceState_ok hwritten
  have hlabel := h.writes desired (.inl (congrArg Hand.device hhand))
  intro deviceId row hrow
  rw [hspec.devices deviceId] at hrow
  split at hrow
  · next hid =>
      obtain ⟨before, hbefore, rfl⟩ := Option.map_eq_some_iff.mp hrow
      have hshown := h.rows _ before hbefore
      refine ⟨hid ▸ hshown.deviceId, ?_, ?_⟩
      · simp only [DeviceTables.writtenRow]
        split
        · exact hlabel
        · exact hshown.dcdwLabel
      · simp only [DeviceTables.writtenRow]
        split
        · exact hshown.modelVersion
        · exact hshown.modelVersion
  · exact h.rows deviceId row hrow

/-- **The transactions**: the rows can be shown after each. -/
lemma transaction_presentable (h : PresentableDevices s) {input : RuntimeInput} {committed : Bool}
    (henabled : (SystemInput.runtime input committed).Enabled cfg s) :
    ((SystemInput.runtime input committed).apply wcfg cfg s).tables.Presentable := by
  simp only [SystemInput.apply]
  cases committed with
  | false => exact h.rows
  | true =>
      rw [if_pos rfl]
      rcases committed_cases henabled with
        hnone | ⟨task, outcome, now, -, hhand, hends⟩ | ⟨desired, outcome, now, -, hhand, hends⟩
      · cases hnone
      · obtain ⟨record, hrecord⟩ := hends.ok
        obtain ⟨⟨found, t⟩, hprovisioned, -⟩ := map_ok hrecord
        rw [transaction_provision hhand hprovisioned]
        exact provision_presentable h hhand hprovisioned
      · obtain ⟨done, hdone⟩ := hends.ok
        obtain ⟨t, hwritten, -⟩ := map_ok hdone
        rw [transaction_write hhand hwritten]
        exact write_presentable h hhand hwritten

/-! ### The steps of the runtime -/

lemma message_presents (devices : DeviceRegistry) (inbound : InboundMessage)
    (service : DeviceService) :
    ∀ op ∈ service.messageRegistryInputs cfg inbound, Presents devices op := by
  intro op hop
  rw [messageRegistryInputs] at hop
  split at hop
  · cases hop
  · split at hop
    · cases hop
    · next registration hparsed =>
        split at hop
        · rw [List.mem_singleton.mp hop]
          exact parseRegistration_presentable hparsed
        · cases hop
  · split at hop
    · cases hop
    · next telemetry hparsed =>
        rw [List.mem_singleton.mp hop]
        exact parseTelemetry_ok hparsed

lemma result_presents (h : PresentableDevices s) (hstored : StoredDevices s)
    {answer : DatabaseResult} (hanswer : answer ∈ s.answers) :
    ∀ op ∈ s.runtime.service.resultRegistryInputs answer, Presents s.registry op := by
  intro op hop
  rw [resultRegistryInputs] at hop
  split at hop
  · next record candidate _ hrecord hcandidate =>
      split at hop
      · rcases List.mem_cons.mp hop with rfl | hop
        · -- the record is read from its rows
          intro hnone
          exact (hstored.answers answer hanswer record hrecord hnone).presentable hstored.reads
            h.rows
        · rw [List.mem_singleton.mp hop]
          exact h.registrations.pending _ candidate hcandidate
      · cases hop
  · cases hop

lemma service_presents (h : PresentableDevices s) (hstored : StoredDevices s) {input : DeviceInput}
    {committed : Bool} (henabled : (SystemInput.runtime (.service input) committed).Enabled cfg s) :
    ∀ op ∈ input.registryInputs cfg s.runtime.service, Presents s.registry op := by
  cases input with
  | result answer writes now =>
      refine result_presents h hstored (List.mem_append_left _ ?_)
      exact List.mem_of_mem_head? (henabled.1.2.1 answer rfl)
  | message inbound now => exact message_presents s.registry inbound s.runtime.service
  | scan now systemNow mutations markedAt =>
      intro op hop
      simp only [DeviceInput.registryInputs] at hop
      split at hop
      · rw [List.mem_singleton.mp hop]
        trivial
      · cases hop
  | _ => exact fun op hop => by cases hop

lemma system_presents (h : PresentableDevices s) (hstored : StoredDevices s) {input : RuntimeInput}
    {committed : Bool} (henabled : (SystemInput.runtime input committed).Enabled cfg s) :
    ∀ op ∈ (SystemInput.runtime input committed).registryInputs cfg s, Presents s.registry op := by
  cases input with
  | worker input => exact fun op hop => by cases hop
  | deliver => exact fun op hop => by cases hop
  | service input => exact service_presents h hstored henabled

/-- A write of the service has the record of its device. -/
lemma submitted_presentable (h : PresentableDevices s) (hcurrent : CurrentRecords s.runtime.service)
    {input : RuntimeInput} {write : DesiredDeviceWrite} {outcome : SubmitOutcome}
    (hsubmit : input.exchangeInput cfg s.runtime = .work (.submitWrite write outcome)) :
    write.record.dcdwLabel ≠ some "" := by
  obtain ⟨now, -, hphase⟩ := exchangeInput_submitWrite hsubmit
  have hstaged : write ∈ s.runtime.service.phase.writes := by
    rcases hphase with ⟨writes, hphase⟩ | ⟨batch, writes, accepted, hphase⟩
    · rw [hphase]
      exact List.mem_cons_self
    · rw [hphase]
      exact List.mem_cons_self
  exact (h.records _ _ (hcurrent.staged write hstaged).1).dcdwLabel

/-- **A step of the runtime.** -/
lemma runtime_presentable (h : PresentableDevices s) (hstored : StoredDevices s)
    (hcurrent : CurrentRecords s.runtime.service) (hkeys : RolesIndexed s.registry)
    {input : RuntimeInput} {committed : Bool}
    (henabled : (SystemInput.runtime input committed).Enabled cfg s) :
    PresentableDevices ((SystemInput.runtime input committed).apply wcfg cfg s) := by
  have hexchange := @exchange_apply wcfg cfg s input committed henabled
  refine ⟨transaction_presentable h henabled, ?_, ?_, fun write hwrite => ?_⟩
  · rw [registry_apply]
    exact foldl_records (fun op hop => (system_presents h hstored henabled op hop).keeps) hkeys
      h.records
  · rw [hexchange]
    refine registrations_next h.registrations (exchange_enabled henabled.1)
      fun deviceId registration receivedAt hawaits => ?_
    obtain ⟨inbound, now, -, -, hparsed⟩ := exchangeInput_awaits hawaits
    exact parseRegistration_presentable hparsed
  · have hpending : (s.runtime.exchange.next
        (input.exchangeInput cfg s.runtime)).side.Pending write := by
      rw [← hexchange]
      exact hwrite
    obtain ⟨old, hold, hrecord, -⟩ := pending_exchange (exchange_enabled henabled.1) hpending
    rw [hrecord]
    rcases hold with hold | ⟨outcome, hsubmit⟩
    · exact h.writes old hold
    · exact submitted_presentable h hcurrent hsubmit

/-! ### A start of the service -/

/-- **A start of the service**, with the tables that it loads. -/
lemma restart_presentable {t : DeviceTables} (hreads : t.Reads) (ht : t.Presentable)
    {records : List DeviceRecord} (hrecords : t.loadDevices = .ok records) (systemNow : TimePoint)
    (now : Option TimePoint) : PresentableDevices ⟨.fresh cfg records systemNow now, t⟩ := by
  have hkeys : RolesIndexed (DeviceRegistry.empty.load records).2 :=
    load_rolesIndexed empty_rolesIndexed records
  have hloaded : RecordsPresentable (DeviceRegistry.empty.load records).2 := by
    intro deviceId record hrecord
    obtain ⟨hmem, rfl⟩ := load_find_mem hrecord
    exact DeviceTables.Holds.presentable (loadDevices_mem hrecords hmem) hreads ht
  have hexpire : Presents (DeviceRegistry.empty.load records).2
      (.expireInactive systemNow cfg.offlineTimeout) := trivial
  have hpresentable :
      RecordsPresentable (loadDeviceSnapshot records systemNow cfg.offlineTimeout) :=
    hexpire.keeps.records hkeys hloaded
  refine ⟨ht, hpresentable, ?_, fun write hwrite => ?_⟩
  · rw [fresh_exchange]
    refine ⟨fun deviceId candidate h => ?_, fun deviceId task h => ?_, fun task h => ?_⟩
    · cases h
    · cases h
    · cases h
  · obtain ⟨old, hold, hrecord, -⟩ := foldl_submitWrite_pending hwrite
    rw [hrecord]
    rcases hold with hold | hmem
    · rcases hold with hhand | ⟨deviceId, hlookup⟩
      · cases hhand
      · cases hlookup
    · obtain ⟨mutation, hmutation, rfl⟩ := List.mem_map.mp hmem
      exact (hpresentable _ _ (expireInactive_changed hkeys hmutation)).dcdwLabel

/-- **In every run** the devices can be shown: over any number of starts, and whatever the
store answers. -/
theorem presentable_of_reachable (h : (deviceSystem wcfg cfg).Reachable s) :
    PresentableDevices s := by
  refine h.invariant (fun s h0 => ?_) fun s input hreach hs henabled => ?_
  · obtain ⟨systemNow, now, rfl⟩ := h0
    exact restart_presentable empty_reads (fun deviceId row hrow => by cases hrow) rfl systemNow now
  · have hstored := stored_of_reachable hreach
    cases input with
    | runtime input committed =>
        have hservice := service_of_reachable hreach
        exact runtime_presentable hs hstored (currentRecords_of_reachable hservice)
          (reachable_rolesIndexed (registry_of_reachable hservice)) henabled
    | restart systemNow now =>
        obtain ⟨records, hrecords, -⟩ := henabled
        simp only [deviceSystem, SystemInput.apply, hrecords]
        exact restart_presentable hstored.reads hs.rows hrecords systemNow now

end

end CnsServer
