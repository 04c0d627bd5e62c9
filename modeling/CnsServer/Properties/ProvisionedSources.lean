/-
Provisioned devices as command sources: the catalogue against the tables.

A provision writes the device and its source in one transaction, but the catalogue of
the command path is filled once, when the service starts.

* `SourcesPaired`: the devices and the device rows of `command_sources` belong together;
* `Sourced`: so they do now, and so they did when the catalogue was filled;
* `sourced_of_reachable`: this holds in every run;
* `handleRequest_unregistered_iff`: the one request that is refused as not registered;
* `device_source_found_iff`: **whose requests are taken**: those of the devices that
  were there when the service started;
* `provisioned_unregistered`: a device is provisioned and online, its source row is
  enabled, and its requests are refused.
-/
import CnsServer.Invariants.StoredDevices
import CnsServer.Runtime.Effects
import CnsServer.Runtime.Scenario
import CnsServer.Runtime.SourceSystem

namespace CnsServer

open DeviceService

/-! ### The invariant -/

/-- Every device has a source, and a source that is a device has its device. -/
structure SourcesPaired (t : DeviceTables) (sources : SourceTable) : Prop where
  source : ∀ deviceId, (t.devices.lookup deviceId).isSome = true →
    (sources.rows.lookup deviceId).isSome = true
  device : ∀ deviceId source, sources.rows.lookup deviceId = some source →
    source.kind = .device → (t.devices.lookup deviceId).isSome = true

/-- The tables are paired, now and when the catalogue was filled. -/
structure Sourced (s : SourceSystem) : Prop where
  now : SourcesPaired s.devices.tables s.sources
  start : SourcesPaired s.startTables s.startSources
  catalog : ∀ sourceId, s.catalog.find sourceId = s.startSources.rows.lookup sourceId

/-- The device was there when the service started, or a fixed source has its id. -/
def SourceSystem.KnownAtStart (s : SourceSystem) (deviceId : String) : Prop :=
  (s.startTables.devices.lookup deviceId).isSome = true ∨
    ∃ source, s.startSources.rows.lookup deviceId = some source ∧ source.kind ≠ .device

section

variable {wcfg : WorkerConfig} {cfg : DeviceServiceConfig} {s : SourceSystem}
  {t t' : DeviceTables} {sources sources' : SourceTable}

lemma empty_paired : SourcesPaired .empty .empty := by
  refine ⟨fun deviceId h => ?_, fun deviceId source h => ?_⟩
  · cases h
  · cases h

/-- The fixed sources change nothing about the devices. -/
lemma SourcesPaired.extends (h : SourcesPaired t sources) (hextends : sources.Extends sources') :
    SourcesPaired t sources' := by
  refine ⟨fun deviceId hdevice => hextends.kept deviceId (h.source deviceId hdevice), ?_⟩
  intro deviceId source hsource hkind
  obtain ⟨before, hbefore, hkind'⟩ := hextends.device deviceId source hsource hkind
  exact h.device deviceId before hbefore hkind'

/-- A provision writes the device with its source. -/
lemma SourcesPaired.provision (h : SourcesPaired t sources) {registration : Registration}
    {receivedAt : TimePoint} {record : DeviceRecord}
    (hprovisioned : t.provisionDevice registration receivedAt = .ok (record, t'))
    (hinserted : sources.insertDevice registration.deviceId = some sources') :
    SourcesPaired t' sources' := by
  have hspec := DeviceTables.provisionDevice_ok hprovisioned
  obtain ⟨hself, hkept, hold⟩ := SourceTable.insertDevice_some hinserted
  refine ⟨fun deviceId hdevice => ?_, fun deviceId source hsource hkind => ?_⟩
  · by_cases hid : deviceId = registration.deviceId
    · rw [hid]
      exact hself
    · rw [(hspec.others deviceId hid).1] at hdevice
      exact hkept deviceId (h.source deviceId hdevice)
  · rcases hold deviceId source hsource with rfl | hbefore
    · rcases hspec.row with ⟨row, -, hrow⟩ | ⟨-, schoolId, hrow, -⟩
      · rw [hrow]
        rfl
      · rw [hrow]
        rfl
    · exact provisioned_isSome hspec (h.device deviceId source hbefore hkind)

/-- A write neither adds nor removes a device. -/
lemma SourcesPaired.write (h : SourcesPaired t sources) {desired : DesiredDeviceWrite}
    (hwritten : t.writeDeviceState desired = .ok t') : SourcesPaired t' sources := by
  have hsame := written_isSome (DeviceTables.writeDeviceState_ok hwritten)
  refine ⟨fun deviceId hdevice => h.source deviceId ?_, fun deviceId source hsource hkind => ?_⟩
  · rw [← hsame deviceId]
    exact hdevice
  · rw [hsame deviceId]
    exact h.device deviceId source hsource hkind

/-- **A step of the runtime**: whatever is committed keeps the tables paired. -/
lemma runtime_paired (h : SourcesPaired s.devices.tables s.sources) {input : RuntimeInput}
    {committed : Bool} (henabled : (SourceInput.runtime input committed).Enabled cfg s) :
    SourcesPaired ((SourceInput.runtime input committed).apply wcfg cfg s).devices.tables
      ((SourceInput.runtime input committed).apply wcfg cfg s).sources := by
  simp only [SourceInput.apply, SourceInput.system, SystemInput.apply]
  cases committed with
  | false => exact h
  | true =>
      simp only [if_true]
      rcases committed_cases henabled.1 with
        hnone | ⟨task, outcome, now, -, hhand, hends⟩ | ⟨desired, outcome, now, -, hhand, hends⟩
      · cases hnone
      · obtain ⟨record, hrecord⟩ := hends.ok
        obtain ⟨⟨found, t⟩, hprovisioned, -⟩ := map_ok hrecord
        obtain ⟨sources', hsources⟩ := Option.isSome_iff_exists.mp (henabled.2 rfl)
        rw [transaction_provision hhand hprovisioned, hsources]
        rw [WorkerLoop.sourceTransaction, hhand] at hsources
        exact h.provision hprovisioned hsources
      · obtain ⟨done, hdone⟩ := hends.ok
        obtain ⟨t, hwritten, -⟩ := map_ok hdone
        rw [transaction_write hhand hwritten, WorkerLoop.sourceTransaction, hhand]
        exact h.write hwritten

/-- **A start**: the catalogue finds what the table has then. -/
lemma start_sourced {devices : DeviceSystem} (h : SourcesPaired devices.tables sources)
    {configured : List FixedSource} (hsync : sources.sync configured = .ok sources') :
    Sourced (.start devices sources') := by
  have hpaired := h.extends (SourceTable.sync_extends hsync)
  exact ⟨hpaired, hpaired, start_find devices sources'⟩

lemma sourced_of_reachable (h : (sourceSystem wcfg cfg).Reachable s) : Sourced s := by
  refine h.invariant (fun s h0 => ?_) fun s input _ hs henabled => ?_
  · obtain ⟨configured, systemNow, now, synced, hsync, rfl⟩ := h0
    exact start_sourced empty_paired hsync
  · cases input with
    | runtime input committed => exact ⟨runtime_paired hs.now henabled, hs.start, hs.catalog⟩
    | restart configured systemNow now =>
        obtain ⟨⟨records, hrecords, -⟩, synced, hsync⟩ := henabled
        simp only [sourceSystem, SourceInput.apply, hsync, SourceInput.system, SystemInput.apply,
          hrecords]
        exact start_sourced hs.now hsync

/-- The catalogue finds the devices that were known when the service started. -/
lemma Sourced.find_iff (h : Sourced s) (deviceId : String) :
    (s.catalog.find deviceId).isSome = true ↔ s.KnownAtStart deviceId := by
  rw [h.catalog]
  constructor
  · intro hsome
    obtain ⟨source, hsource⟩ := Option.isSome_iff_exists.mp hsome
    by_cases hkind : source.kind = .device
    · exact .inl (h.start.device deviceId source hsource hkind)
    · exact .inr ⟨source, hsource, hkind⟩
  · rintro (hdevice | ⟨source, hsource, -⟩)
    · exact h.start.source deviceId hdevice
    · rw [hsource]
      rfl

end

/-! ### Requests -/

/-- The error of a request of nobody. -/
def sourceNotRegistered : ProtocolError := ⟨"source_not_registered", "命令来源未登记"⟩

/-- What a function adds to the trace refuses nobody as not registered. -/
def KnowsSource (b b' : RuntimeBundle) : Prop :=
  ∃ events, b'.log = events ++ b.log ∧
    ∀ topic ack cause, .acked topic ack cause ∈ events →
      ack.requestId.isSome = true ∨
        ∀ message, ack.error ≠ some ("source_not_registered", message)

namespace RuntimeBundle

variable {cfg : CommandServiceConfig} {b : RuntimeBundle}

/-- Another error is another refusal. -/
lemma reject_knows (sourceId : String) {requestId : Option String} {error : ProtocolError}
    (h : requestId.isSome = true ∨ error.code ≠ "source_not_registered") (now : TimePoint)
    (type : CommandType) :
    KnowsSource b (b.reject cfg none sourceId requestId error now type) := by
  refine ⟨[_], rfl, fun topic ack cause hmem => ?_⟩
  cases List.mem_singleton.mp hmem
  refine h.imp id fun hcode message herror => hcode ?_
  exact congrArg Prod.fst (Option.some.inj herror)

lemma submitFind_knows (source : CommandSource) (parsed : ParsedSourceRequest)
    (sourceId requestId : String) (type : CommandType) (receivedAt now : TimePoint) :
    KnowsSource b (b.submitFind cfg source parsed sourceId requestId type receivedAt now) := by
  rw [submitFind]
  dsimp only
  split
  · exact reject_knows sourceId (.inl rfl) now type
  · split
    · exact reject_knows sourceId (.inl rfl) now type
    · split
      · exact reject_knows sourceId (.inl rfl) now type
      · split
        · next b' hsubmit =>
            rcases submit_cases cfg b .find _ _ with heq | heq
            · rw [heq] at hsubmit
              cases hsubmit
              refine ⟨[_], rfl, fun topic ack cause hmem => ?_⟩
              cases List.mem_singleton.mp hmem
            · rw [heq] at hsubmit
              cases hsubmit
        · next b' hsubmit =>
            rcases submit_cases cfg b .find _ _ with heq | heq
            · rw [heq] at hsubmit
              cases hsubmit
            · rw [heq] at hsubmit
              cases hsubmit
              refine ⟨[_, _], rfl, fun topic ack cause hmem => ?_⟩
              rcases List.mem_cons.mp hmem with hack | hmem
              · cases hack
                exact .inl rfl
              · cases List.mem_singleton.mp hmem

/-- **The one request that is refused as not registered**: that of a source which the
catalogue does not find. -/
lemma handleRequest_unregistered_iff (sourceId : String) (type : CommandType)
    (message : InboundMessage) (now : TimePoint) :
    b.handleRequest cfg sourceId type message now =
        b.reject cfg none sourceId none sourceNotRegistered now type ↔
      b.sources.find sourceId = none := by
  constructor
  · intro hrefused
    by_contra hfound
    obtain ⟨source, hsource⟩ := Option.ne_none_iff_exists'.mp hfound
    have hknows : KnowsSource b (b.handleRequest cfg sourceId type message now) := by
      simp only [handleRequest, hsource]
      split
      · exact reject_knows sourceId (.inr (by decide)) now type
      · split
        · exact reject_knows sourceId (.inr (by decide)) now type
        · split
          · next rejected hrejected =>
              refine reject_knows sourceId (.inr fun hcode => ?_) now type
              have hcodes := parseSourceRequest_error_code hrejected
              rw [hcode] at hcodes
              exact absurd hcodes (by decide)
          · exact ⟨[], rfl, fun topic ack cause hmem => by cases hmem⟩
          · exact submitFind_knows _ _ _ _ _ _ _
    obtain ⟨events, hlog, hothers⟩ := hknows
    rw [hrefused, reject, emit, ← List.singleton_append] at hlog
    rw [← List.append_cancel_right hlog] at hothers
    rcases hothers _ _ _ (List.mem_singleton_self _) with hrequest | herror
    · cases hrequest
    · exact herror _ rfl
  · intro hnone
    simp only [handleRequest, hnone]
    rfl

end RuntimeBundle

/-! ### Whose requests are taken -/

/-- **Provisioned devices as sources**: a device of the directory has its source in
`command_sources`, the catalogue finds it if and only if the device was there when the
service started, and its requests are refused as not registered if and only if it was
not. -/
theorem device_source_found_iff {wcfg : WorkerConfig} {cfg : DeviceServiceConfig}
    {s : SourceSystem} (h : (sourceSystem wcfg cfg).Reachable s) {deviceId : String}
    {record : DeviceRecord} (hrecord : s.devices.registry.find deviceId = some record) :
    (s.sources.rows.lookup deviceId).isSome = true ∧
      ((s.catalog.find deviceId).isSome = true ↔ s.KnownAtStart deviceId) ∧
      ∀ (ccfg : CommandServiceConfig) (b : RuntimeBundle), b.sources = s.catalog →
        ∀ type message now,
          (b.handleRequest ccfg deviceId type message now =
            b.reject ccfg none deviceId none sourceNotRegistered now type) ↔
              ¬ s.KnownAtStart deviceId := by
  have hsourced := sourced_of_reachable h
  have hstored := (stored_of_reachable (devices_of_reachable h)).records deviceId record hrecord
  refine ⟨hsourced.now.source deviceId hstored.2, hsourced.find_iff deviceId, ?_⟩
  intro ccfg b hsources type message now
  rw [RuntimeBundle.handleRequest_unregistered_iff, hsources, ← hsourced.find_iff deviceId,
    Bool.not_eq_true, Option.isSome_eq_false_iff, Option.isNone_iff_eq_none]

/-! ### A device that is provisioned -/

namespace Sample

/-- The first start, on empty tables and without fixed sources. -/
def sourcesStarted : SourceSystem :=
  .start ⟨.fresh sampleDeviceConfig [] 0 (some 0), .empty⟩ (SourceTable.empty.disable [])

/-- Device `a` registers, its provision is committed, and the result is handled. -/
def provisionCues : List SourceCue :=
  [.service .go, .service .go, .service (.receive (sampleRegistration "a" "a1")),
    .service .go, .service .go, .thread, .thread, .thread] ++ List.replicate 7 (.service .go)

def provisioned : SourceSystem := performSources sampleDeviceConfig sourcesStarted provisionCues

lemma reachable_provisioned (cues : List SourceCue) :
    (sourceSystem {} sampleDeviceConfig).Reachable
      (performSources sampleDeviceConfig sourcesStarted (provisionCues ++ cues)) :=
  reachable_performSources (.start ⟨[], 0, some 0, _, rfl, rfl⟩) _

end Sample

/-- After a restart the device is found. -/
theorem device_source_found_restarted :
    ((performSources sampleDeviceConfig Sample.sourcesStarted
      (Sample.provisionCues ++ [.restart])).catalog.find "a").isSome = true := by
  have hfound : ((performSources sampleDeviceConfig Sample.sourcesStarted
      (Sample.provisionCues ++ [.restart])).devices.registry.find "a").isSome = true := by
    decide +kernel
  obtain ⟨record, hrecord⟩ := Option.isSome_iff_exists.mp hfound
  have hknown : ((performSources sampleDeviceConfig Sample.sourcesStarted
      (Sample.provisionCues ++ [.restart])).startTables.devices.lookup "a").isSome = true := by
    decide +kernel
  exact (device_source_found_iff (Sample.reachable_provisioned [.restart]) hrecord).2.1.mpr
    (.inl hknown)

/-- Before it, the device is provisioned and online and its source row is enabled, but
the catalogue does not find it, and its requests are refused as not registered. -/
theorem provisioned_unregistered :
    (sourceSystem {} sampleDeviceConfig).Reachable Sample.provisioned ∧
      (Sample.provisioned.devices.registry.find "a").map DeviceRecord.status = some .online ∧
      Sample.provisioned.sources.rows.lookup "a" = some (deviceSource "a") ∧
      Sample.provisioned.catalog.find "a" = none ∧
      ∀ (b : RuntimeBundle), b.sources = Sample.provisioned.catalog → ∀ message now,
        b.handleRequest Sample.config "a" .config message now =
          b.reject Sample.config none "a" none sourceNotRegistered now .config := by
  have hnone : Sample.provisioned.catalog.find "a" = none := by decide +kernel
  refine ⟨Sample.reachable_provisioned [], by decide +kernel, by decide +kernel, hnone, ?_⟩
  intro b hsources message now
  rw [RuntimeBundle.handleRequest_unregistered_iff, hsources]
  exact hnone

end CnsServer
