/-
What a submission that fails leaves of the tracker.

* `TimersAgree`: **the invariant**, the armed timers are the ones of the map, and all of
  them are older than the next; `TimersAgree.call`, each call keeps it;
* `TrackedAsBefore`: what the tracker says of a request has not changed;
* `failed_submission_tracks`: this is so after a failure just where nothing was said of the
  request before; the ACKs of an earlier command with its number are ignored.
-/
import CnsServer.Backend.CommandTracker

namespace CnsServer

namespace CommandTracker

variable {s : CommandTracker}

/-! ### The timers -/

/-- The armed timers are the ones of the map. -/
structure TimersAgree (s : CommandTracker) : Prop where
  inverse : Map.Inverse s.cleanupTimers s.armed
  older : ∀ timer requestId, s.armed.lookup timer = some requestId → timer < s.nextTimer

lemma timersAgree_fresh : fresh.TimersAgree where
  inverse := Map.Inverse.empty
  older _ _ := by rintro ⟨⟩

/-- A request loses its timer, in both maps. -/
lemma TimersAgree.clear (h : s.TimersAgree) (requestId : String) :
    Map.Inverse (s.cleanupTimers.erase requestId) (s.clearTimer requestId).armed ∧
      ∀ timer id, (s.clearTimer requestId).armed.lookup timer = some id → timer < s.nextTimer := by
  rw [clearTimer]
  cases htimer : s.cleanupTimers.lookup requestId with
  | none =>
      rw [Map.erase_of_lookup_none htimer]
      exact ⟨h.inverse, h.older⟩
  | some timer =>
      refine ⟨h.inverse.erase htimer, fun other id hother => ?_⟩
      exact h.older other id (Map.lookup_erase_some.mp hother).2

@[simp] lemma clearTimer_cleanupTimers (s : CommandTracker) (requestId : String) :
    (s.clearTimer requestId).cleanupTimers = s.cleanupTimers := by
  rw [clearTimer]
  split <;> rfl

@[simp] lemma clearTimer_commands (s : CommandTracker) (requestId : String) :
    (s.clearTimer requestId).commands = s.commands := by
  rw [clearTimer]
  split <;> rfl

@[simp] lemma clearTimer_nextTimer (s : CommandTracker) (requestId : String) :
    (s.clearTimer requestId).nextTimer = s.nextTimer := by
  rw [clearTimer]
  split <;> rfl

lemma TimersAgree.register (h : s.TimersAgree) (requestId : String) (command : TrackedCommand) :
    (s.register requestId command).TimersAgree := by
  obtain ⟨hinverse, holder⟩ := h.clear requestId
  constructor
  · simpa [CommandTracker.register] using hinverse
  · simpa [CommandTracker.register] using holder

lemma TimersAgree.forget (h : s.TimersAgree) (requestId : String) :
    (s.forget requestId).TimersAgree := by
  obtain ⟨hinverse, holder⟩ := h.clear requestId
  constructor
  · simpa [CommandTracker.forget] using hinverse
  · simpa [CommandTracker.forget] using holder

lemma TimersAgree.complete (h : s.TimersAgree) (requestId : String) :
    (s.complete requestId).TimersAgree := by
  obtain ⟨hinverse, holder⟩ := h.clear requestId
  have hnew : (s.clearTimer requestId).armed.lookup s.nextTimer = none := by
    cases hlookup : (s.clearTimer requestId).armed.lookup s.nextTimer with
    | none => rfl
    | some id => exact absurd (holder _ _ hlookup) (Nat.lt_irrefl _)
  have hinserted := hinverse.insert (AList.lookup_erase requestId s.cleanupTimers) hnew
  refine ⟨fun id timer => ?_, fun timer id => ?_⟩
  · simp only [CommandTracker.complete, clearTimer_cleanupTimers, clearTimer_nextTimer]
    rw [← hinserted id timer, Map.lookup_insert_ite, Map.lookup_insert_ite, Map.lookup_erase_ite]
    by_cases hid : id = requestId
    · rw [if_pos hid, if_pos hid]
    · rw [if_neg hid, if_neg hid, if_neg hid]
  · simp only [CommandTracker.complete, clearTimer_nextTimer, Map.lookup_insert_some]
    rintro (⟨rfl, -⟩ | ⟨-, hlookup⟩)
    · exact Nat.lt_succ_self _
    · exact Nat.lt_succ_of_lt (holder timer id hlookup)

lemma TimersAgree.expire (h : s.TimersAgree) (timer : ℕ) : (s.expire timer).TimersAgree := by
  rw [CommandTracker.expire]
  cases hlookup : s.armed.lookup timer with
  | none => exact h
  | some requestId =>
      refine ⟨h.inverse.erase ((h.inverse requestId timer).mpr hlookup), fun other id hother => ?_⟩
      exact h.older other id (Map.lookup_erase_some.mp hother).2

lemma lookup_eraseAll {timers : List ℕ} {armed : Map ℕ String} {timer : ℕ} {requestId : String} :
    (timers.foldl (fun armed timer => armed.erase timer) armed).lookup timer = some requestId ↔
      timer ∉ timers ∧ armed.lookup timer = some requestId := by
  induction timers generalizing armed with
  | nil => simp
  | cons first timers ih =>
      rw [List.foldl_cons, ih, Map.lookup_erase_some, List.mem_cons]
      tauto

/-- Every armed timer is in the map, so that none is left. -/
lemma TimersAgree.close (h : s.TimersAgree) : s.close.TimersAgree := by
  have hnone : ∀ timer requestId, s.close.armed.lookup timer ≠ some requestId := by
    intro timer requestId hlookup
    obtain ⟨hnotin, harmed⟩ := lookup_eraseAll.mp hlookup
    exact hnotin (Map.mem_values.mpr ⟨requestId, (h.inverse requestId timer).mpr harmed⟩)
  refine ⟨fun requestId timer => ⟨?_, fun hlookup => absurd hlookup (hnone _ _)⟩,
    fun timer requestId hlookup => absurd hlookup (hnone _ _)⟩
  rintro ⟨⟩

/-- **A call of the tracker, or a timer that fires, keeps the invariant.** -/
lemma TimersAgree.call (h : s.TimersAgree) (c : TrackerCall) : (s.call c).TimersAgree := by
  cases c with
  | register requestId command => exact h.register requestId command
  | forget requestId => exact h.forget requestId
  | complete requestId => exact h.complete requestId
  | close => exact h.close
  | expire timer => exact h.expire timer

lemma TimersAgree.foldl (h : s.TimersAgree) (calls : List TrackerCall) :
    (calls.foldl CommandTracker.call s).TimersAgree := by
  induction calls generalizing s with
  | nil => exact h
  | cons c calls ih => exact ih (h.call c)

/-! ### A submission that fails -/

/-- What the tracker says of a request: the command, and the timer that forgets it. -/
structure TrackedAsBefore (s s' : CommandTracker) (requestId : String) : Prop where
  get : s'.get requestId = s.get requestId
  timer : s'.cleanupTimers.lookup requestId = s.cleanupTimers.lookup requestId
  armed : ∀ timer, s'.armed.lookup timer = some requestId ↔ s.armed.lookup timer = some requestId

/-- Nothing is left of a request that is forgotten. -/
lemma get_forget (s : CommandTracker) (requestId : String) :
    (s.forget requestId).get requestId = none ∧
      (s.forget requestId).cleanupTimers.lookup requestId = none := by
  simp [forget, get]

/-- The tracker knows nothing of a request just when forgetting it changes nothing. -/
lemma TimersAgree.trackedAsBefore_forget {s' : CommandTracker} (h : s.TimersAgree)
    (h' : s'.TimersAgree) (requestId : String) :
    TrackedAsBefore s (s'.forget requestId) requestId ↔
      s.get requestId = none ∧ s.cleanupTimers.lookup requestId = none := by
  obtain ⟨hget, htimer⟩ := get_forget s' requestId
  have hforgotten := h'.forget requestId
  constructor
  · intro hsame
    exact ⟨hsame.get.symm.trans hget, hsame.timer.symm.trans htimer⟩
  · rintro ⟨hgetNone, htimerNone⟩
    refine ⟨hget.trans hgetNone.symm, htimer.trans htimerNone.symm, fun timer => ?_⟩
    rw [← h.inverse, ← hforgotten.inverse, htimer, htimerNone]

end CommandTracker

/-- An ACK of a request that is not tracked goes to no session. -/
lemma onCommandAck_untracked {s : CommandTracker} {requestId : String} {message : JsValue}
    (hget : s.get requestId = none)
    (hmessage : message.get "request_id" = some (.string requestId)) :
    onCommandAck s message = (s, none) := by
  rw [onCommandAck, hmessage]
  simp only [hget, ite_self]

open CommandTracker in
/-- **A submission that fails leaves the tracker as it was just where it said nothing of the
request**: whatever was called before it, and whatever other requests, ACKs and timers call
while it is published.  Where a command was tracked, its ACKs are ignored after the failure. -/
theorem failed_submission_tracks (before during : List TrackerCall) (requestId : String)
    (command : TrackedCommand) (error : PublishError) :
    (TrackedAsBefore (before.foldl call fresh)
        (finishCommand (during.foldl call ((before.foldl call fresh).register requestId command))
          requestId (.error error)).1 requestId ↔
      (before.foldl call fresh).get requestId = none ∧
        (before.foldl call fresh).cleanupTimers.lookup requestId = none) ∧
    ∀ message : JsValue, message.get "request_id" = some (.string requestId) →
      (onCommandAck
        (finishCommand (during.foldl call ((before.foldl call fresh).register requestId command))
          requestId (.error error)).1 message).2 = none := by
  have h := timersAgree_fresh.foldl before
  have hduring := (h.register requestId command).foldl during
  refine ⟨h.trackedAsBefore_forget hduring requestId, fun message hmessage => ?_⟩
  have hignored := onCommandAck_untracked (get_forget (during.foldl call
    ((before.foldl call fresh).register requestId command)) requestId).1 hmessage
  exact congrArg Prod.snd hignored

namespace Sample

def trackedId : String := "00000000-0000-4000-8000-0000000000ab"

/-- A takeoff request of the browser. -/
def trackedBody : JsValue :=
  .object
    [("session_id", .string "session-1"), ("client_request_id", .string trackedId),
      ("type", .string "control"), ("command", .string "takeoff"), ("parameters", .object [])]

def onlineDevice : CommandDependencies where
  get _ := .ok (some ⟨.cnsBox, .online⟩)
  hasSession _ := true
  dependencyStatus := .ready

/-- The ACK of the route service when the command has been sent to the device. -/
def dispatchedAck : JsValue :=
  .object
    [("schema_version", .number 1), ("request_id", .string trackedId),
      ("command_id", .string "00000000-0000-4000-8000-000000000001"),
      ("command_type", .string "control"), ("status", .string "dispatched"),
      ("business_status", .null), ("occurred_at", .string "2026-08-05T00:00:00Z"),
      ("error", .null)]

end Sample

open CommandTracker Sample in
/-- A request is published; the browser sends it again, and this time the publication times
out.  The ACK that the first one would have brought to the session is ignored. -/
theorem failed_retry_orphans :
    acceptCommand onlineDevice "dev1" (some trackedBody) =
        .ok (trackedId, trackedCommand "dev1" trackedBody) ∧
      routeCommandAckSchema (some dispatchedAck) = true ∧
      (onCommandAck (fresh.register trackedId (trackedCommand "dev1" trackedBody))
        dispatchedAck).2.isSome = true ∧
      ¬ TrackedAsBefore (fresh.register trackedId (trackedCommand "dev1" trackedBody))
        (finishCommand ((fresh.register trackedId (trackedCommand "dev1" trackedBody)).register
          trackedId (trackedCommand "dev1" trackedBody)) trackedId
          (.error (.unavailable "MQTT publish timed out"))).1 trackedId ∧
      (onCommandAck
        (finishCommand ((fresh.register trackedId (trackedCommand "dev1" trackedBody)).register
          trackedId (trackedCommand "dev1" trackedBody)) trackedId
          (.error (.unavailable "MQTT publish timed out"))).1 dispatchedAck).2.isNone = true := by
  refine ⟨rfl, by decide +kernel, by decide +kernel, fun hsame => ?_, by decide +kernel⟩
  have hget := hsame.get
  cases hget

open CommandTracker Sample in
/-- The first submission of a request fails, and leaves nothing. -/
theorem failed_first_submission :
    TrackedAsBefore fresh
      (finishCommand (fresh.register trackedId (trackedCommand "dev1" trackedBody)) trackedId
        (.error .other)).1 trackedId :=
  (failed_submission_tracks [] [] trackedId (trackedCommand "dev1" trackedBody) .other).1.mpr
    ⟨rfl, rfl⟩

end CnsServer
