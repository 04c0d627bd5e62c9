/-
What the helpers of the device service leave alone.

* `SameWork`: pending registrations, submitted writes, the counter of outstanding
  work and the state of the thread are as before, and nothing has been adjusted;
* `mark_sameWork`, `degrade_sameWork` and so on: marking, publishing and logging
  are such steps, and so is every report of a known device.
-/
import CnsServer.Runtime.DeviceService

namespace CnsServer

namespace DeviceService

/-- The service has the same database work as before, and the same phase. -/
structure SameWork (s s' : DeviceService) : Prop where
  pending : s'.pending = s.pending
  submitted : s'.submitted = s.submitted
  outstanding : s'.outstanding = s.outstanding
  databaseUnavailable : s'.databaseUnavailable = s.databaseUnavailable
  cancelRequested : s'.cancelRequested = s.cancelRequested
  drainDispatchPending : s'.drainDispatchPending = s.drainDispatchPending
  processingReady : s'.processingReady = s.processingReady
  phase : s'.phase = s.phase
  events : ∃ new, s'.events = s.events ++ new ∧
    ∀ before delta, DeviceEvent.adjusted before delta ∉ new

variable {s s' s'' : DeviceService}

namespace SameWork

lemma refl (s : DeviceService) : SameWork s s :=
  ⟨rfl, rfl, rfl, rfl, rfl, rfl, rfl, rfl, [], (List.append_nil _).symm,
    fun _ _ h => (List.not_mem_nil h).elim⟩

lemma trans (h : SameWork s s') (h' : SameWork s' s'') : SameWork s s'' := by
  obtain ⟨new, hevents, hnew⟩ := h.events
  obtain ⟨new', hevents', hnew'⟩ := h'.events
  refine ⟨h'.pending.trans h.pending, h'.submitted.trans h.submitted,
    h'.outstanding.trans h.outstanding, h'.databaseUnavailable.trans h.databaseUnavailable,
    h'.cancelRequested.trans h.cancelRequested,
    h'.drainDispatchPending.trans h.drainDispatchPending,
    h'.processingReady.trans h.processingReady, h'.phase.trans h.phase, new ++ new', ?_, ?_⟩
  · rw [hevents', hevents, List.append_assoc]
  · intro before delta hmem
    rcases List.mem_append.mp hmem with hmem | hmem
    · exact hnew before delta hmem
    · exact hnew' before delta hmem

end SameWork

/-- An entry of the trace that is not an adjustment. -/
lemma note_sameWork {event : DeviceEvent} (h : ∀ before delta, event ≠ .adjusted before delta)
    (s : DeviceService) : SameWork s (s.note event) := by
  refine ⟨rfl, rfl, rfl, rfl, rfl, rfl, rfl, rfl, [event], rfl, fun before delta hmem => ?_⟩
  exact h before delta (List.mem_singleton.mp hmem).symm

/-- Publishing and logging are no work, and neither is a mark. -/
lemma publish_sameWork (s : DeviceService) (state : PublishedState) :
    SameWork s (s.publish state) :=
  note_sameWork (fun _ _ h => by cases h) s

lemma diagnose_sameWork (s : DeviceService) (message : String) :
    SameWork s (s.diagnose message) :=
  note_sameWork (fun _ _ h => by cases h) s

lemma inform_sameWork (s : DeviceService) (message : String) : SameWork s (s.inform message) :=
  note_sameWork (fun _ _ h => by cases h) s

lemma publishCurrentSnapshot_sameWork (s : DeviceService) :
    SameWork s s.publishCurrentSnapshot :=
  note_sameWork (fun _ _ h => by cases h) s

/-- The members that no work depends on. -/
lemma members_sameWork (s : DeviceService) (registry : DeviceRegistry) (dirty : DirtyState)
    (degraded : Map String ℕ) (lastReason : Map String ChangeReason)
    (logs : Map String DesiredDeviceWrite) :
    SameWork s { s with
      registry := registry
      dirty := dirty
      degraded := degraded
      lastReason := lastReason
      pendingStatusLogs := logs } :=
  ⟨rfl, rfl, rfl, rfl, rfl, rfl, rfl, rfl, [], (List.append_nil _).symm,
    fun _ _ h => (List.not_mem_nil h).elim⟩

lemma degrade_sameWork (s : DeviceService) (deviceId : String) (revision : DeviceRecord → ℕ) :
    SameWork s (s.degrade deviceId revision) := by
  rw [degrade]
  split
  · exact .refl s
  · exact (members_sameWork s s.registry s.dirty _ s.lastReason s.pendingStatusLogs).trans
      (publish_sameWork _ _)

lemma mark_sameWork (s : DeviceService) (mutation : Mutation) (now : TimePoint) :
    SameWork s (s.mark mutation now) :=
  (members_sameWork s s.registry _ _ _ _).trans (publish_sameWork _ _)

/-- A report of a known device asks the database for nothing at once. -/
lemma applyReport_sameWork (s : DeviceService) (report : Except String Mutation × DeviceRegistry)
    (now : TimePoint) : SameWork s (s.applyReport report now) := by
  simp only [applyReport]
  split
  · exact (members_sameWork s _ s.dirty s.degraded s.lastReason s.pendingStatusLogs).trans
      (mark_sameWork _ _ _)
  · exact .refl s

lemma applyPending_sameWork (s : DeviceService) (candidate : PendingRegistration)
    (now : TimePoint) : SameWork s (s.applyPending candidate now) := by
  rw [applyPending]
  split
  · exact (members_sameWork s _ s.dirty s.degraded s.lastReason s.pendingStatusLogs).trans
      (mark_sameWork _ _ _)
  · exact .refl s

/-- What follows a completed write is told, not asked for. -/
lemma reportStatus_sameWork (s : DeviceService) (deviceId : String) (revision : ℕ)
    (write : DesiredDeviceWrite) : SameWork s (s.reportStatus deviceId revision write) := by
  rw [reportStatus]
  split
  · exact .refl s
  · split
    · exact (inform_sameWork s _).trans
        (members_sameWork _ s.registry s.dirty s.degraded s.lastReason _)
    · exact .refl s

lemma recoverDevice_sameWork (s : DeviceService) (deviceId : String) (revision : ℕ) :
    SameWork s (s.recoverDevice deviceId revision) := by
  rw [recoverDevice]
  split
  · exact .refl s
  · split
    · dsimp only
      split
      · exact (members_sameWork s s.registry s.dirty _ s.lastReason s.pendingStatusLogs).trans
          (publish_sameWork _ _)
      · exact members_sameWork s s.registry s.dirty _ s.lastReason s.pendingStatusLogs
    · exact .refl s

/-- Nor are all marks of an expiry. -/
lemma foldl_mark_sameWork (markedAt : Mutation → TimePoint) (mutations : List Mutation)
    (s : DeviceService) :
    SameWork s (mutations.foldl (fun s mutation => s.mark mutation (markedAt mutation)) s) := by
  induction mutations generalizing s with
  | nil => exact .refl s
  | cons mutation mutations ih => exact (mark_sameWork s mutation _).trans (ih _)

end DeviceService

end CnsServer
