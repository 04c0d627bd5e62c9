/-
Which event of a device the pages show.

* `ShownState`, `QueryCache.Carries`: the cached responses show the state of an event;
* `Realtime.receive`: the events of published states, one after the other;
* `kept_event`: the listener keeps an event until one of a later millisecond comes, as a
  stamped register does;
* `last_event_shown`: **the last event is shown** just when the first one of its
  millisecond has the same state.
-/
import CnsServer.Frontend.Realtime
import CnsServer.Library.StampedRegister
import CnsServer.Properties.InstantTexts
import CnsServer.Runtime.Scenario

namespace CnsServer

/-! ### What is shown -/

/-- What a page shows of a device. -/
structure ShownState where
  status : JsValue
  lastSeenAt : JsValue
  telemetryReceivedAt : JsValue
  dcdwLabel : JsValue
  capabilities : JsValue
  degraded : JsValue

def DeviceSummary.shown (item : DeviceSummary) : ShownState :=
  ⟨item.status, item.lastSeenAt, item.telemetryReceivedAt, item.dcdwLabel, item.capabilities,
    item.degraded⟩

def DeviceStateEvent.shown (event : DeviceStateEvent) : ShownState :=
  ⟨event.status, event.lastSeenAt, event.telemetryReceivedAt, event.dcdwLabel,
    event.capabilities, event.degraded⟩

/-- The responses show the state of the event, wherever they have its device; that of the
device itself shows its telemetry too. -/
def QueryCache.Carries (cache : QueryCache) (event : DeviceStateEvent) : Prop :=
  (∀ items ∈ cache.lists, ∀ item ∈ items,
    item.deviceId = event.deviceId → item.shown = event.shown) ∧
  ∀ item, cache.details.lookup event.deviceId = some item →
    item.shown = event.shown ∧ item.latestTelemetry = event.latestTelemetry

/-- Both events have the same state. -/
def DeviceStateEvent.SameState (event other : DeviceStateEvent) : Prop :=
  event.shown = other.shown ∧ event.latestTelemetry = other.latestTelemetry

/-! ### One event -/

lemma merge_shown (item : DeviceSummary) (event : DeviceStateEvent) :
    (item.merge event).shown = event.shown := rfl

/-- A response for the device is there after the merge, if it was before. -/
lemma merge_details (cache : QueryCache) (event : DeviceStateEvent) :
    (cache.merge event).details.lookup event.deviceId =
      (cache.details.lookup event.deviceId).map fun item => mergeDeviceDetailState item event := by
  rw [QueryCache.merge]
  dsimp only
  split
  · next hnone => rw [hnone, Option.map_none]
  · next item hitem => rw [hitem, Option.map_some, AList.lookup_insert]

/-- **A merge** shows the event. -/
lemma merge_carries (cache : QueryCache) (event : DeviceStateEvent) :
    (cache.merge event).Carries event := by
  constructor
  · intro items hitems item hitem hid
    obtain ⟨old, -, rfl⟩ := List.mem_map.mp hitems
    obtain ⟨before, -, rfl⟩ := List.mem_map.mp hitem
    split at hid
    · next hsame => rw [if_pos hsame, merge_shown]
    · next hother => exact absurd hid hother
  · intro item hitem
    rw [merge_details] at hitem
    obtain ⟨before, -, rfl⟩ := Option.map_eq_some_iff.mp hitem
    exact ⟨merge_shown _ event, rfl⟩

lemma QueryCache.Carries.congr {cache : QueryCache} {event other : DeviceStateEvent}
    (h : cache.Carries event) (hid : event.deviceId = other.deviceId)
    (hsame : event.SameState other) : cache.Carries other := by
  rw [QueryCache.Carries, ← hid, ← hsame.1, ← hsame.2]
  exact h

/-! ### All events -/

section

variable (enrich : JsValue → JsValue)

/-- The events of published states, one after the other. -/
def Realtime.receive (realtime : Realtime) (published : List (PublishedState × TimePoint)) :
    Realtime :=
  (published.filterMap fun state => toDeviceStateEvent enrich (.parsed (buildStateEvent
    (snapshotFor state.1) state.1.reason state.2))).foldl Realtime.onDeviceState realtime

/-- The millisecond of a published state. -/
def millisecond (state : PublishedState × TimePoint) : ℤ := state.2 / 1000000

/-- The first of the states that are published in the millisecond of the last. -/
def firstOfMillisecond (published : List (PublishedState × TimePoint))
    (last : PublishedState × TimePoint) : Option (PublishedState × TimePoint) :=
  StampedRegister.firstOfLast millisecond published last

variable {enrich}

lemma receive_append (realtime : Realtime) (published : List (PublishedState × TimePoint))
    (state : PublishedState × TimePoint) :
    realtime.receive enrich (published ++ [state]) =
      (realtime.receive enrich published).onDeviceState (stateEventOf enrich state) := by
  rw [Realtime.receive, Realtime.receive, List.filterMap_append, List.foldl_append]
  simp [toDeviceStateEvent_published]

/-- The text of an instant is not empty. -/
lemma format_isEmpty (value : TimePoint) : (formatUtcRfc3339Millis value).isEmpty = false := by
  rw [← Bool.not_eq_true, String.isEmpty_iff, ← String.toList_inj]
  simp [formatUtcRfc3339Millis]

/-- An event of the millisecond of the one before, or of an earlier one, is dropped. -/
lemma onDeviceState_known {realtime : Realtime} {old state : PublishedState × TimePoint}
    (hold : InClockRange old.2) (hstate : InClockRange state.2)
    (hlatest : realtime.latestDeviceEventAt.lookup state.1.record.deviceId =
      some (formatUtcRfc3339Millis old.2)) :
    realtime.onDeviceState (stateEventOf enrich state) =
      if millisecond old < millisecond state then
        { latestDeviceEventAt := realtime.latestDeviceEventAt.insert state.1.record.deviceId
            (formatUtcRfc3339Millis state.2)
          cache := realtime.cache.merge (stateEventOf enrich state) }
      else realtime := by
  have hid : (stateEventOf enrich state).deviceId = state.1.record.deviceId := rfl
  have hat : (stateEventOf enrich state).eventAt = formatUtcRfc3339Millis state.2 := rfl
  have hempty := format_isEmpty old.2
  have hcompare := format_lt_iff hold hstate
  rw [Realtime.onDeviceState, hid, hlatest, hat]
  generalize formatUtcRfc3339Millis old.2 = previous at *
  generalize formatUtcRfc3339Millis state.2 = current at *
  dsimp only
  by_cases hlater : millisecond old < millisecond state
  · rw [if_pos hlater, if_neg]
    rw [hempty, Bool.not_false, Bool.true_and, decide_eq_true_eq, not_le]
    exact hcompare.mpr hlater
  · rw [if_neg hlater, if_pos]
    rw [hempty, Bool.not_false, Bool.true_and, decide_eq_true_eq, ← not_lt]
    exact fun hless => hlater (hcompare.mp hless)

/-- **The listener keeps an event** until one of a later millisecond comes. -/
lemma kept_event {deviceId : String} (cache : QueryCache)
    {published : List (PublishedState × TimePoint)}
    (hdevice : ∀ state ∈ published, state.1.record.deviceId = deviceId)
    (hrange : ∀ state ∈ published, InClockRange state.2) :
    let kept := published.foldl (StampedRegister.receive millisecond) none
    let realtime := Realtime.receive enrich { cache } published
    (∀ state ∈ kept, state ∈ published) ∧
      realtime.latestDeviceEventAt.lookup deviceId =
        kept.map (fun state => formatUtcRfc3339Millis state.2) ∧
      ∃ before : QueryCache,
        ((before.details.lookup deviceId).isSome = (cache.details.lookup deviceId).isSome) ∧
        realtime.cache = (kept.map (stateEventOf enrich)).elim before before.merge := by
  induction published using List.reverseRecOn with
  | nil => exact ⟨by simp, AList.lookup_empty _, cache, rfl, rfl⟩
  | append_singleton published state ih =>
      rw [List.forall_mem_append, List.forall_mem_singleton] at hdevice hrange
      obtain ⟨hpublished, rfl⟩ := hdevice
      obtain ⟨hmem, hlatest, before, hbefore, hcache⟩ := ih hpublished hrange.1
      dsimp only
      rw [receive_append, List.foldl_append, List.foldl_cons, List.foldl_nil]
      generalize published.foldl (StampedRegister.receive millisecond) none = kept at *
      generalize Realtime.receive enrich { cache } published = realtime at *
      cases kept with
      | none =>
          have hid : (stateEventOf enrich state).deviceId = state.1.record.deviceId := rfl
          rw [Realtime.onDeviceState, hid, hlatest]
          refine ⟨?_, AList.lookup_insert _, before, hbefore, ?_⟩
          · rintro other ⟨⟩
            exact List.mem_append_right _ List.mem_cons_self
          · exact congrArg (QueryCache.merge · (stateEventOf enrich state)) hcache
      | some old =>
          have hold := hmem old rfl
          rw [onDeviceState_known (hrange.1 old hold) hrange.2 hlatest, StampedRegister.receive]
          by_cases hlater : millisecond old < millisecond state
          · rw [if_pos hlater, if_pos hlater]
            refine ⟨?_, AList.lookup_insert _, before.merge (stateEventOf enrich old), ?_, ?_⟩
            · rintro other ⟨⟩
              exact List.mem_append_right _ List.mem_cons_self
            · have hdetails := merge_details before (stateEventOf enrich old)
              rw [show (stateEventOf enrich old).deviceId = state.1.record.deviceId from
                hpublished old hold] at hdetails
              rw [hdetails, Option.isSome_map, hbefore]
            · exact congrArg (QueryCache.merge · (stateEventOf enrich state)) hcache
          · rw [if_neg hlater, if_neg hlater]
            refine ⟨?_, hlatest, before, hbefore, hcache⟩
            rintro other ⟨⟩
            exact List.mem_append_left _ hold

end

/-- A response for a device of which nothing is known. -/
def unknownDetail (deviceId : String) : DeviceDetail where
  deviceId := deviceId
  deviceType := .null
  schoolName := .null
  dcdwLabel := .null
  modelVersion := .null
  capabilities := .null
  product := .null
  version := .null
  status := .null
  lastSeenAt := .null
  telemetryReceivedAt := .null
  degraded := .null
  provisionedAt := .null
  latestTelemetry := .null

section

variable {enrich : JsValue → JsValue} {published : List (PublishedState × TimePoint)}
  {last first : PublishedState × TimePoint}

/-- **What the pages show** is the first event of the millisecond of the last one. -/
lemma carries_iff
    (hdevice : ∀ state ∈ published ++ [last], state.1.record.deviceId = last.1.record.deviceId)
    (hrange : ∀ state ∈ published ++ [last], InClockRange state.2)
    (hclock : (published ++ [last]).Pairwise fun state other => state.2 ≤ other.2)
    (hfirst : firstOfMillisecond published last = some first) :
    (∀ cache : QueryCache,
      (Realtime.receive enrich { cache } (published ++ [last])).cache.Carries
        (stateEventOf enrich last)) ↔
    (stateEventOf enrich first).SameState (stateEventOf enrich last) := by
  have hmilliseconds : (published ++ [last]).Pairwise fun state other =>
      millisecond state ≤ millisecond other :=
    hclock.imp fun hle => Int.ediv_le_ediv (by decide) hle
  have hkept := StampedRegister.foldl_receive hmilliseconds
  rw [← firstOfMillisecond, hfirst] at hkept
  have hrun := fun cache => @kept_event enrich _ cache _ hdevice hrange
  simp only [hkept] at hrun
  have hid : (stateEventOf enrich first).deviceId = (stateEventOf enrich last).deviceId :=
    hdevice first (StampedRegister.firstOfLast_spec hfirst).1
  constructor
  · intro hclaim
    -- a page that has asked for the device shows the event that was kept
    obtain ⟨-, -, before, hbefore, hcache⟩ := hrun ⟨[], (∅ : Map String DeviceDetail).insert
      last.1.record.deviceId (unknownDetail last.1.record.deviceId)⟩
    rw [AList.lookup_insert, Option.isSome_some, Option.isSome_iff_exists] at hbefore
    obtain ⟨item, hitem⟩ := hbefore
    have hshown := (hclaim ⟨[], (∅ : Map String DeviceDetail).insert
      last.1.record.deviceId (unknownDetail last.1.record.deviceId)⟩).2
        (mergeDeviceDetailState item (stateEventOf enrich first))
    have hdetails := merge_details before (stateEventOf enrich first)
    rw [hid, show (stateEventOf enrich last).deviceId = last.1.record.deviceId from rfl, hitem]
      at hdetails
    rw [hcache] at hshown
    exact hshown hdetails
  · intro hsame cache
    obtain ⟨-, -, before, -, hcache⟩ := hrun cache
    rw [hcache]
    exact (merge_carries before _).congr hid hsame

end

/-- **The last event is shown**, in every list and in the response for its device, just when
the first event of its millisecond has the same state. -/
theorem last_event_shown (enrich : JsValue → JsValue)
    (published : List (PublishedState × TimePoint)) (last : PublishedState × TimePoint)
    (hdevice : ∀ state ∈ published ++ [last], state.1.record.deviceId = last.1.record.deviceId)
    (hrange : ∀ state ∈ published ++ [last], InClockRange state.2)
    (hclock : (published ++ [last]).Pairwise fun state other => state.2 ≤ other.2) :
    (∀ cache : QueryCache,
      (Realtime.receive enrich { cache } (published ++ [last])).cache.Carries
        (stateEventOf enrich last)) ↔
    ∃ first, firstOfMillisecond published last = some first ∧
      (stateEventOf enrich first).SameState (stateEventOf enrich last) := by
  obtain ⟨first, hfirst⟩ := @StampedRegister.firstOfLast_exists _ _ _ millisecond published last
  rw [carries_iff hdevice hrange hclock hfirst]
  constructor
  · intro hsame
    exact ⟨first, hfirst, hsame⟩
  · rintro ⟨other, hother, hsame⟩
    cases hfirst.symm.trans hother
    exact hsame

namespace Sample

/-- The device reports its telemetry, and then that it goes offline. -/
def reportsTelemetry : PublishedState := ⟨device .online, .telemetry, false⟩

def goesOffline : PublishedState := ⟨device .offline, .registrationOffline, false⟩

end Sample

open Sample in
/-- Both come in one millisecond: the pages show the device online. -/
theorem last_event_dropped :
    ¬ ∀ cache : QueryCache,
      (Realtime.receive id { cache } [(reportsTelemetry, 1000), (goesOffline, 2000)]).cache.Carries
        (stateEventOf id (goesOffline, 2000)) := by
  intro hclaim
  have hstate := (@carries_iff id [(reportsTelemetry, 1000)] (goesOffline, 2000)
    (reportsTelemetry, 1000) (by decide) (by simp [InClockRange]) (by decide) rfl).mp hclaim
  have hstatus := congrArg ShownState.status hstate.1
  simp [DeviceStateEvent.shown, stateEventOf, snapshotFor, reportsTelemetry, goesOffline, device,
    statusText] at hstatus

open Sample in
/-- In the next millisecond, a page that has asked for the device shows the last event. -/
theorem last_event_shown_later :
    (Realtime.receive id
      { cache := ⟨[], (∅ : Map String DeviceDetail).insert goesOffline.record.deviceId
          (unknownDetail goesOffline.record.deviceId)⟩ }
      ([(reportsTelemetry, 1000)] ++ [(goesOffline, 1000000)])).cache.Carries
        (stateEventOf id (goesOffline, 1000000)) :=
  (last_event_shown id [(reportsTelemetry, 1000)] (goesOffline, 1000000) (by decide)
    (by simp [InClockRange]) (by decide)).mpr ⟨(goesOffline, 1000000), rfl, rfl, rfl⟩ _

end CnsServer
