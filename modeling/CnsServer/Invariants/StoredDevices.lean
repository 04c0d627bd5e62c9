/-
What the database is asked to take, and what comes back from it.

* `Brings`, `foldl_recordsStored`: whatever enters the directory can be stored, and has
  rows;
* `StoredDevices`: all rows read; the registrations and the writes on their way can be
  stored, the writes are of devices of the directory, and a provisioned record is read
  from the rows of its device until it is let in;
* `transaction_kept`, `runtime_stored`, `restart_stored`: one lemma for each kind of step;
* `stored_of_reachable`: **this is so in every run**, over any number of starts.
-/
import CnsServer.Invariants.CurrentRecords
import CnsServer.Invariants.DeviceQueues
import CnsServer.Runtime.DeviceSystem
import CnsServer.Properties.StoredRoles

namespace CnsServer

open DeviceService

/-! ### The directory -/

/-- The record is read from the rows of its device. -/
def DeviceTables.Holds (t : DeviceTables) (record : DeviceRecord) : Prop :=
  ∃ columns, t.select record.deviceId = some columns ∧ deviceFromRow columns = .ok record

/-- What an operation brings into the directory can be stored, and a record that is let in
is read from its rows. -/
def Brings (t : DeviceTables) (devices : DeviceRegistry) : RegistryInput → Prop
  | .addProvisioned record => devices.find record.deviceId = none → t.Holds record
  | .registration registration receivedAt => registration.Storable ∧ InClockRange receivedAt
  | .telemetry _ _ receivedAt => InClockRange receivedAt
  | .expireInactive _ _ => True
  | .load _ => False

/-- The records can be stored, and their devices have rows. -/
def RecordsStored (t : DeviceTables) (devices : DeviceRegistry) : Prop :=
  ∀ deviceId record, devices.find deviceId = some record →
    record.Storable ∧ (t.devices.lookup deviceId).isSome = true

section

variable {t t' : DeviceTables} {devices : DeviceRegistry} {record : DeviceRecord}

lemma mem_or {α : Type} {a b : Option α} {x : α} (h : x ∈ a.or b) : x ∈ a ∨ x ∈ b := by
  cases a with
  | none => exact .inr h
  | some value => exact .inl h

lemma registered_storable (h : record.Storable) {registration : Registration}
    (hregistration : registration.Storable) {receivedAt : TimePoint}
    (hclock : InClockRange receivedAt) (change : RoleChange) :
    (DeviceRegistry.registered record change registration receivedAt).Storable := by
  refine ⟨fun items hitems => ?_, fun value hvalue => ?_, fun value hvalue => ?_,
    fun seen hseen => ?_, h.telemetryReceivedAt⟩
  · rcases mem_or hitems with hnew | hold
    · exact hregistration.capabilities items hnew
    · exact h.capabilities items hold
  · rcases mem_or hvalue with hnew | hold
    · exact hregistration.product value hnew
    · exact h.product value hold
  · rcases mem_or hvalue with hnew | hold
    · exact hregistration.version value hnew
    · exact h.version value hold
  · simp only [DeviceRegistry.registered] at hseen
    split at hseen
    · cases hseen
      exact hclock
    · exact h.lastSeenAt seen hseen

lemma reported_storable (h : record.Storable) {receivedAt : TimePoint}
    (hclock : InClockRange receivedAt) (change : RoleChange) (telemetry : Telemetry) :
    (DeviceRegistry.reported record change telemetry receivedAt).Storable := by
  refine ⟨h.capabilities, h.product, h.version, fun seen hseen => ?_, fun received hreceived => ?_⟩
  · cases hseen
    exact hclock
  · cases hreceived
    exact hclock

lemma renews_storable {newRecord : DeviceRecord} {input : RegistryInput}
    (hrenews : Renews record newRecord input) (hbrings : Brings t devices input)
    (h : record.Storable) : newRecord.Storable := by
  cases input with
  | registration registration receivedAt =>
      obtain ⟨-, change, -, rfl⟩ := hrenews
      exact registered_storable h hbrings.1 hbrings.2 change
  | telemetry deviceId telemetry receivedAt =>
      obtain ⟨-, change, -, rfl⟩ := hrenews
      exact reported_storable h hbrings change telemetry
  | expireInactive now timeout =>
      rw [show newRecord = DeviceRegistry.expired record from hrenews]
      exact ⟨h.capabilities, h.product, h.version, h.lastSeenAt, h.telemetryReceivedAt⟩
  | _ => exact hrenews.elim

lemma Brings.not_load {input : RegistryInput} (h : Brings t devices input) :
    ∀ records, input ≠ .load records := by
  rintro records rfl
  exact h

/-- What has been read from the rows can be stored. -/
lemma DeviceTables.Holds.storable (h : t.Holds record) : record.Storable := by
  obtain ⟨columns, -, hread⟩ := h
  exact (deviceFromRow_readAs hread).storable

lemma DeviceTables.Holds.row (h : t.Holds record) :
    (t.devices.lookup record.deviceId).isSome = true := by
  obtain ⟨columns, hselect, -⟩ := h
  rw [(select_rows hselect).1]
  rfl

lemma Brings.keeps {input : RegistryInput} (h : Brings t devices input) :
    Keeps (fun record => record.Storable ∧ (t.devices.lookup record.deviceId).isSome = true)
      devices input where
  not_load := h.not_load
  added record hadded hnone := by
    subst hadded
    exact ⟨(h hnone).storable, (h hnone).row⟩
  renewed old record hrenews hold :=
    ⟨renews_storable hrenews h hold.1, by rw [hrenews.next.deviceId]; exact hold.2⟩

lemma recordsStored_iff (hkeys : RolesIndexed devices) :
    RecordsStored t devices ↔ ∀ deviceId record, devices.find deviceId = some record →
      record.Storable ∧ (t.devices.lookup record.deviceId).isSome = true := by
  refine forall₃_congr fun deviceId record hrecord => ?_
  rw [hkeys.ids deviceId record hrecord]

lemma foldl_recordsStored (h : RecordsStored t devices) (hkeys : RolesIndexed devices)
    {inputs : List RegistryInput} (hbrings : ∀ input ∈ inputs, Brings t devices input) :
    RecordsStored t (inputs.foldl DeviceRegistry.next devices) := by
  rw [recordsStored_iff (foldl_rolesIndexed hkeys inputs)]
  exact foldl_records (fun input hinput => (hbrings input hinput).keeps) hkeys
    ((recordsStored_iff hkeys).mp h)

end

/-! ### The invariant -/

/-- All rows read, what is on its way can be stored, and a provisioned record is read from
its rows until it is let in. -/
structure StoredDevices (s : DeviceSystem) : Prop where
  reads : s.tables.Reads
  records : RecordsStored s.tables s.registry
  registrations : s.runtime.exchange.Registrations fun registration receivedAt =>
    registration.Storable ∧ InClockRange receivedAt
  writes : ∀ write, s.side.Pending write →
    (s.registry.find write.deviceId).isSome = true ∧ write.record.Storable
  answers : ∀ answer ∈ s.answers, ∀ record ∈ answer.provisioned,
    s.registry.find record.deviceId = none → s.tables.Holds record

section

variable {wcfg : WorkerConfig} {cfg : DeviceServiceConfig} {s : DeviceSystem}

/-! ### The transactions -/

/-- What a transaction keeps: the rows read, those that are there stay, and the columns of
a device that is not in the directory stay. -/
structure Kept (s : DeviceSystem) (t : DeviceTables) : Prop where
  reads : t.Reads
  rows : ∀ deviceId, (s.tables.devices.lookup deviceId).isSome = true →
    (t.devices.lookup deviceId).isSome = true
  columns : ∀ deviceId columns, s.registry.find deviceId = none →
    s.tables.select deviceId = some columns → t.select deviceId = some columns

lemma Kept.refl (h : StoredDevices s) : Kept s s.tables :=
  ⟨h.reads, fun _ => id, fun _ _ _ => id⟩

lemma provision_kept (h : StoredDevices s) {task : ProvisionTask} {t : DeviceTables}
    {record : DeviceRecord} (hhand : s.runtime.worker.hand = .provision task)
    (hprovisioned : s.tables.provisionDevice task.registration task.receivedAt =
      .ok (record, t)) : Kept s t := by
  have hspec := DeviceTables.provisionDevice_ok hprovisioned
  have htask := h.registrations.hand task (congrArg Hand.device hhand)
  exact ⟨provision_reads h.reads hspec htask.1 htask.2, fun _ => provisioned_isSome hspec,
    fun _ _ _ => select_provisioned hspec⟩

lemma write_kept (h : StoredDevices s) {desired : DesiredDeviceWrite} {t : DeviceTables}
    (hhand : s.runtime.worker.hand = .write desired)
    (hwritten : s.tables.writeDeviceState desired = .ok t) : Kept s t := by
  have hspec := DeviceTables.writeDeviceState_ok hwritten
  obtain ⟨hknown, hstorable⟩ := h.writes desired (.inl (congrArg Hand.device hhand))
  refine ⟨write_reads h.reads hspec hstorable, fun deviceId hrow => ?_,
    fun deviceId columns hnone hselect => ?_⟩
  · rw [written_isSome hspec]
    exact hrow
  · rw [select_written hspec]
    · exact hselect
    · -- the device of the write is in the directory
      rintro rfl
      rw [show s.registry.find desired.deviceId = none from hnone] at hknown
      cases hknown

/-- **The transactions**: whatever is committed keeps the rows readable. -/
lemma transaction_kept (h : StoredDevices s) {input : RuntimeInput} {committed : Bool}
    (henabled : (SystemInput.runtime input committed).Enabled cfg s) :
    Kept s ((SystemInput.runtime input committed).apply wcfg cfg s).tables := by
  simp only [SystemInput.apply]
  cases committed with
  | false => exact .refl h
  | true =>
      rw [if_pos rfl]
      rcases committed_cases henabled with
        hnone | ⟨task, outcome, now, -, hhand, hends⟩ | ⟨desired, outcome, now, -, hhand, hends⟩
      · cases hnone
      · obtain ⟨record, hrecord⟩ := hends.ok
        obtain ⟨⟨found, t⟩, hprovisioned, -⟩ := map_ok hrecord
        rw [transaction_provision hhand hprovisioned]
        exact provision_kept h hhand hprovisioned
      · obtain ⟨done, hdone⟩ := hends.ok
        obtain ⟨t, hwritten, -⟩ := map_ok hdone
        rw [transaction_write hhand hwritten]
        exact write_kept h hhand hwritten

/-! ### The steps of the runtime -/

/-- The state of the exchange after a step. -/
lemma exchange_apply {input : RuntimeInput} {committed : Bool}
    (henabled : (SystemInput.runtime input committed).Enabled cfg s) :
    ((SystemInput.runtime input committed).apply wcfg cfg s).runtime.exchange =
      s.runtime.exchange.next (input.exchangeInput cfg s.runtime) :=
  exchange_next henabled.1

/-- What a message asks of the directory can be stored. -/
lemma message_brings {inbound : InboundMessage} (hclock : InClockRange inbound.receivedAt)
    (service : DeviceService) :
    ∀ op ∈ service.messageRegistryInputs cfg inbound, Brings s.tables s.registry op := by
  intro op hop
  rw [messageRegistryInputs] at hop
  split at hop
  · cases hop
  · split at hop
    · cases hop
    · next registration hparsed =>
        split at hop
        · rw [List.mem_singleton.mp hop]
          exact ⟨parseRegistration_storable hparsed, hclock⟩
        · cases hop
  · split at hop
    · cases hop
    · rw [List.mem_singleton.mp hop]
      exact hclock

/-- What a result asks of the directory can be stored. -/
lemma result_brings (h : StoredDevices s) {answer : DatabaseResult}
    (hanswer : answer ∈ s.answers) :
    ∀ op ∈ s.runtime.service.resultRegistryInputs answer, Brings s.tables s.registry op := by
  intro op hop
  rw [resultRegistryInputs] at hop
  split at hop
  · next record candidate _ hrecord hcandidate =>
      split at hop
      · rcases List.mem_cons.mp hop with rfl | hop
        · exact h.answers answer hanswer record hrecord
        · rw [List.mem_singleton.mp hop]
          exact h.registrations.pending _ candidate hcandidate
      · cases hop
  · cases hop

lemma service_brings (h : StoredDevices s) {input : DeviceInput} {committed : Bool}
    (henabled : (SystemInput.runtime (.service input) committed).Enabled cfg s) :
    ∀ op ∈ input.registryInputs cfg s.runtime.service, Brings s.tables s.registry op := by
  cases input with
  | result answer writes now =>
      refine result_brings h (List.mem_append_left _ ?_)
      exact List.mem_of_mem_head? (henabled.1.2.1 answer rfl)
  | message inbound now => exact message_brings henabled.2.1 s.runtime.service
  | scan now systemNow mutations markedAt =>
      intro op hop
      simp only [DeviceInput.registryInputs] at hop
      split at hop
      · rw [List.mem_singleton.mp hop]
        trivial
      · cases hop
  | _ => exact fun op hop => by cases hop

/-- What a step asks of the directory. -/
def SystemInput.registryInputs (cfg : DeviceServiceConfig) (s : DeviceSystem) :
    SystemInput → List RegistryInput
  | .runtime (.service input) _ => input.registryInputs cfg s.runtime.service
  | _ => []

lemma registry_apply {input : RuntimeInput} {committed : Bool} :
    ((SystemInput.runtime input committed).apply wcfg cfg s).registry =
      ((SystemInput.runtime input committed).registryInputs cfg s).foldl DeviceRegistry.next
        s.registry := by
  cases input with
  | worker input => rfl
  | deliver => rfl
  | service input => exact registry_next input

lemma system_brings (h : StoredDevices s) {input : RuntimeInput} {committed : Bool}
    (henabled : (SystemInput.runtime input committed).Enabled cfg s) :
    ∀ op ∈ (SystemInput.runtime input committed).registryInputs cfg s,
      Brings s.tables s.registry op := by
  cases input with
  | worker input => exact fun op hop => by cases hop
  | deliver => exact fun op hop => by cases hop
  | service input => exact service_brings h henabled

/-- A provisioned record is the one the transaction read. -/
lemma provisionEnded_holds {input : RuntimeInput} {committed : Bool} {task : ProvisionTask}
    {record : DeviceRecord} (henabled : (SystemInput.runtime input committed).Enabled cfg s)
    (h : input.exchangeInput cfg s.runtime = .side (.provisionEnded task (.ok record))) :
    ((SystemInput.runtime input committed).apply wcfg cfg s).tables.Holds record := by
  obtain ⟨hhand, now, rfl⟩ := exchangeInput_provisionEnded h
  obtain ⟨rfl, hresult⟩ := henabled.2 task hhand
  obtain ⟨⟨found, t⟩, hprovisioned, rfl⟩ := map_ok hresult
  have hspec := DeviceTables.provisionDevice_ok hprovisioned
  simp only [SystemInput.apply, if_true, transaction_provision hhand hprovisioned]
  obtain ⟨columns, hselect, hread⟩ := hspec.read
  refine ⟨columns, ?_, hread⟩
  rw [(deviceFromRow_readAs hread).deviceId, (select_some hselect).1]
  exact hselect

/-- **A step of the runtime.** -/
lemma runtime_stored (h : StoredDevices s) (hcurrent : CurrentRecords s.runtime.service)
    (hkeys : RolesIndexed s.registry) {input : RuntimeInput} {committed : Bool}
    (henabled : (SystemInput.runtime input committed).Enabled cfg s) :
    StoredDevices ((SystemInput.runtime input committed).apply wcfg cfg s) := by
  have hkept := @transaction_kept wcfg cfg s h input committed henabled
  have hbrings := system_brings h henabled
  have hexchange := @exchange_apply wcfg cfg s input committed henabled
  have hknown : ∀ deviceId,
      ((SystemInput.runtime input committed).apply wcfg cfg s).registry.find deviceId = none →
        s.registry.find deviceId = none := by
    intro deviceId hnone
    rw [registry_apply] at hnone
    exact foldl_find_none (fun input hinput => (hbrings input hinput).not_load) hkeys hnone
  refine ⟨hkept.reads, fun deviceId record hrecord => ?_, ?_, fun write hwrite => ?_,
    fun answer hanswer record hrecord hnone => ?_⟩
  · rw [registry_apply] at hrecord
    obtain ⟨hstorable, hrow⟩ := foldl_recordsStored h.records hkeys hbrings deviceId record hrecord
    exact ⟨hstorable, hkept.rows deviceId hrow⟩
  · rw [hexchange]
    refine registrations_next h.registrations (exchange_enabled henabled.1)
      fun deviceId registration receivedAt hawaits => ?_
    obtain ⟨inbound, now, rfl, hreceived, hparsed⟩ := exchangeInput_awaits hawaits
    exact ⟨parseRegistration_storable hparsed, hreceived ▸ henabled.2.1⟩
  · have hpending : (s.runtime.exchange.next
        (input.exchangeInput cfg s.runtime)).side.Pending write := by
      rw [← hexchange]
      exact hwrite
    obtain ⟨old, hold, hrecord, -⟩ := pending_exchange (exchange_enabled henabled.1) hpending
    have hbefore : (s.registry.find old.deviceId).isSome = true ∧ old.record.Storable := by
      rcases hold with hold | ⟨outcome, hsubmit⟩
      · exact h.writes old hold
      · -- what the service submits is current
        obtain ⟨now, -, hphase⟩ := exchangeInput_submitWrite hsubmit
        have hstaged : old ∈ s.runtime.service.phase.writes := by
          rcases hphase with ⟨writes, hphase⟩ | ⟨batch, writes, accepted, hphase⟩
          · rw [hphase]
            exact List.mem_cons_self
          · rw [hphase]
            exact List.mem_cons_self
        have hholds := hcurrent.staged old hstaged
        exact ⟨Option.isSome_iff_exists.mpr ⟨_, hholds.1⟩, (h.records _ _ hholds.1).1⟩
    rw [DesiredDeviceWrite.deviceId, hrecord]
    refine ⟨?_, hbefore.2⟩
    cases hfind : ((SystemInput.runtime input committed).apply wcfg cfg s).registry.find
        old.record.deviceId with
    | some record => rfl
    | none =>
        have hgone := hknown _ hfind
        rw [show s.registry.find old.deviceId = none from hgone] at hbefore
        exact absurd hbefore.1 Bool.false_ne_true
  · have hmem : answer ∈ (s.runtime.exchange.next (input.exchangeInput cfg s.runtime)).inbox ++
        (s.runtime.exchange.next (input.exchangeInput cfg s.runtime)).side.results := by
      rw [← hexchange]
      exact hanswer
    rcases answers_exchange hmem hrecord with hbefore | ⟨task, hended⟩
    · obtain ⟨columns, hselect, hread⟩ :=
        h.answers answer hbefore record hrecord (hknown _ hnone)
      exact ⟨columns, hkept.columns _ columns (hknown _ hnone) hselect, hread⟩
    · exact provisionEnded_holds henabled hended

/-! ### A start of the service -/

/-- What the directory loads is of the list. -/
lemma load_find_mem {records : List DeviceRecord} {deviceId : String} {record : DeviceRecord}
    (h : (DeviceRegistry.empty.load records).2.find deviceId = some record) :
    record ∈ records ∧ record.deviceId = deviceId := by
  rcases load_find .empty records with hsame | hloaded
  · rw [hsame] at h
    cases h
  · exact hloaded deviceId record h

/-- The startup writes are queued. -/
lemma foldl_submitWrite_pending {writes : List DesiredDeviceWrite} {w : WorkerLoop}
    {pending : DesiredDeviceWrite}
    (h : (writes.foldl WorkerLoop.submitWrite w).deviceSide.Pending pending) :
    ∃ old, (w.deviceSide.Pending old ∨ old ∈ writes) ∧ SameVersion pending old := by
  induction writes generalizing w with
  | nil => exact ⟨pending, .inl h, rfl, rfl⟩
  | cons write writes ih =>
      obtain ⟨old, hold, hversion⟩ := ih h
      rcases hold with hold | hmem
      · have hside : (w.submitWrite write).deviceSide = w.deviceSide.next (.submitWrite write) :=
          @deviceSide_next {} w (.submitWrite write) trivial
        rw [hside] at hold
        obtain ⟨before, hbefore, hsame⟩ :=
          @pending_next w.deviceSide (.submitWrite write) old trivial hold
        rcases hbefore with hbefore | hsubmitted
        · exact ⟨before, .inl hbefore, hversion.trans hsame⟩
        · cases hsubmitted
          exact ⟨write, .inr List.mem_cons_self, hversion.trans hsame⟩
      · exact ⟨old, .inr (List.mem_cons_of_mem _ hmem), hversion⟩

/-- **A start of the service**, with the tables that it loads. -/
lemma restart_stored {t : DeviceTables} (hreads : t.Reads) {records : List DeviceRecord}
    (hrecords : t.loadDevices = .ok records) (systemNow : TimePoint) (now : Option TimePoint) :
    StoredDevices ⟨.fresh cfg records systemNow now, t⟩ := by
  have hkeys : RolesIndexed (DeviceRegistry.empty.load records).2 :=
    load_rolesIndexed empty_rolesIndexed records
  have hloaded : RecordsStored t (DeviceRegistry.empty.load records).2 := by
    intro deviceId record hrecord
    obtain ⟨hmem, rfl⟩ := load_find_mem hrecord
    have hholds : t.Holds record := loadDevices_mem hrecords hmem
    exact ⟨hholds.storable, hholds.row⟩
  have hstored : RecordsStored t (loadDeviceSnapshot records systemNow cfg.offlineTimeout) :=
    @foldl_recordsStored _ _ hloaded hkeys [.expireInactive systemNow cfg.offlineTimeout]
    (by simp [Brings])
  refine ⟨hreads, hstored, ?_, fun write hwrite => ?_, fun answer hanswer => ?_⟩
  · rw [fresh_exchange]
    refine ⟨fun deviceId candidate h => ?_, fun deviceId task h => ?_, fun task h => ?_⟩
    · cases h
    · cases h
    · cases h
  · obtain ⟨old, hold, hrecord, -⟩ := foldl_submitWrite_pending hwrite
    rcases hold with hold | hmem
    · rcases hold with hhand | ⟨deviceId, hlookup⟩
      · cases hhand
      · cases hlookup
    · -- a startup write is the one of a device that has expired
      obtain ⟨mutation, hmutation, rfl⟩ := List.mem_map.mp hmem
      have hfind := expireInactive_changed hkeys hmutation
      rw [DesiredDeviceWrite.deviceId, hrecord]
      exact ⟨Option.isSome_iff_exists.mpr ⟨_, hfind⟩, (hstored _ _ hfind).1⟩
  · have hresults : (DeviceSystem.mk (.fresh cfg records systemNow now) t).answers = [] :=
      congrArg (fun e : DeviceExchange => e.inbox ++ e.side.results)
        (@fresh_exchange cfg records systemNow now)
    rw [hresults] at hanswer
    cases hanswer

/-- **In every run** the directory holds what the tables do: over any number of starts,
and whatever the store answers. -/
theorem stored_of_reachable (h : (deviceSystem wcfg cfg).Reachable s) : StoredDevices s := by
  refine h.invariant (fun s h0 => ?_) fun s input hreach hs henabled => ?_
  · obtain ⟨systemNow, now, rfl⟩ := h0
    exact restart_stored empty_reads rfl systemNow now
  · cases input with
    | runtime input committed =>
        have hservice := service_of_reachable hreach
        exact runtime_stored hs (currentRecords_of_reachable hservice)
          (reachable_rolesIndexed (registry_of_reachable hservice)) henabled
    | restart systemNow now =>
        obtain ⟨records, hrecords, -⟩ := henabled
        simp only [deviceSystem, SystemInput.apply, hrecords]
        exact restart_stored hs.reads hrecords systemNow now

end

end CnsServer
