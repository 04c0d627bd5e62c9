/-
The counts of the interest registry.

* `interestedSessions`: the sessions that are interested in a device, and `sessionsOf`
  their number over the entries of the map (`length_interestedSessions`);
* `replay`, `RealChanges`: the set that the notifications lead to, each of which changes it;
* `Counted`: **the invariant**, while some devices are still to be decremented;
* `Counted.decrementDevice`: a decrement takes one of these devices off;
* `Counted.call`: a call keeps the invariant with no device left to decrement;
* `isInterested_subscribe` and its siblings: the interests after a call, and
  `isInterested_calls` after any calls.
-/
import CnsServer.Backend.TelemetryInterestRegistry
import Mathlib.Data.Finset.Erase
import Mathlib.Data.Finset.Insert
import Mathlib.Tactic.Tauto

namespace CnsServer

/-! ### Counts and notifications -/

/-- The set that notifications, latest first, lead to from the empty set. -/
def replay : List (String × Bool) → Finset String
  | [] => ∅
  | (deviceId, interested) :: earlier =>
      if interested then insert deviceId (replay earlier) else (replay earlier).erase deviceId

/-- Each notification changes the set that the earlier ones lead to. -/
def RealChanges : List (String × Bool) → Prop
  | [] => True
  | (deviceId, interested) :: earlier =>
      (deviceId ∈ replay earlier ↔ interested = false) ∧ RealChanges earlier

lemma mem_replay_cons {deviceId other : String} {interested : Bool}
    {earlier : List (String × Bool)} :
    other ∈ replay ((deviceId, interested) :: earlier) ↔
      if other = deviceId then interested = true else other ∈ replay earlier := by
  rw [replay]
  by_cases h : other = deviceId <;> cases interested <;> simp [h]

namespace TelemetryInterestRegistry

variable {s : TelemetryInterestRegistry} {pending rest : List String}

/-- The sessions that are interested in a device. -/
def interestedSessions (s : TelemetryInterestRegistry) (deviceId : String) : List String :=
  s.devicesBySession.keys.filter fun sessionId => s.isInterested sessionId deviceId

def hasDevice (deviceId : String) (devices : List String) : Bool := decide (deviceId ∈ devices)

/-- The number of entries of the map that have the device. -/
def sessionsOf (s : TelemetryInterestRegistry) (deviceId : String) : ℕ :=
  s.devicesBySession.countP (hasDevice deviceId)

lemma isInterested_iff {sessionId deviceId : String} : s.isInterested sessionId deviceId = true ↔
    ∃ devices, s.devicesBySession.lookup sessionId = some devices ∧ deviceId ∈ devices := by
  rw [isInterested]
  cases s.devicesBySession.lookup sessionId <;> simp

lemma mem_interestedSessions {sessionId deviceId : String} :
    sessionId ∈ s.interestedSessions deviceId ↔ s.isInterested sessionId deviceId = true := by
  rw [interestedSessions, List.mem_filter, Map.mem_keys_iff, and_iff_right_iff_imp,
    isInterested_iff]
  rintro ⟨devices, h, -⟩
  exact ⟨devices, h⟩

/-- A session has one entry, so the sessions are as many as the entries. -/
lemma length_interestedSessions (s : TelemetryInterestRegistry) (deviceId : String) :
    (s.interestedSessions deviceId).length = s.sessionsOf deviceId := by
  have hkeys : s.devicesBySession.keys = s.devicesBySession.entries.map Sigma.fst := rfl
  rw [interestedSessions, ← List.countP_eq_length_filter, hkeys, List.countP_map]
  refine List.countP_congr fun entry hentry => ?_
  have hlookup : s.devicesBySession.lookup entry.1 = some entry.2 := Map.mem_entries_iff.mp hentry
  rw [Function.comp_apply, isInterested, hlookup]
  rfl

/-- The sets of one session are replaced, or taken away. -/
lemma sessionsOf_replace {s' : TelemetryInterestRegistry} {sessionId : String}
    {replaced : Option (List String)}
    (h : ∀ other, s'.devicesBySession.lookup other =
      if other = sessionId then replaced else s.devicesBySession.lookup other) (deviceId : String) :
    s'.sessionsOf deviceId +
        (if deviceId ∈ (s.devicesBySession.lookup sessionId).getD [] then 1 else 0) =
      s.sessionsOf deviceId + if deviceId ∈ replaced.getD [] then 1 else 0 := by
  rw [sessionsOf, sessionsOf]
  cases replaced with
  | some devices =>
      have hcongr := Map.countP_congr (hasDevice deviceId) fun other =>
        (h other).trans (Map.lookup_insert_ite s.devicesBySession sessionId other devices).symm
      rw [hcongr]
      cases hold : s.devicesBySession.lookup sessionId with
      | none => simpa [hasDevice] using Map.countP_insert (p := hasDevice deviceId) devices hold
      | some old =>
          simpa [hasDevice] using Map.countP_replace (p := hasDevice deviceId) devices hold
  | none =>
      have hcongr := Map.countP_congr (hasDevice deviceId) fun other =>
        (h other).trans (Map.lookup_erase_ite s.devicesBySession sessionId other).symm
      rw [hcongr]
      cases hold : s.devicesBySession.lookup sessionId with
      | none => simp [Map.erase_of_lookup_none hold]
      | some old => simpa [hasDevice] using Map.countP_erase (p := hasDevice deviceId) hold

/-! ### The invariant -/

/-- The two maps and the notifications agree, but for some devices whose session is gone
and whose count is still to be decremented. -/
structure Counted (s : TelemetryInterestRegistry) (pending : List String) : Prop where
  count : ∀ deviceId, (s.sessionCountsByDevice.lookup deviceId).getD 0 =
    (s.sessionsOf deviceId + pending.count deviceId : ℕ)
  positive : ∀ deviceId n, s.sessionCountsByDevice.lookup deviceId = some n → 0 < n
  sets : ∀ sessionId devices, s.devicesBySession.lookup sessionId = some devices →
    devices ≠ [] ∧ devices.Nodup
  replayed : ∀ deviceId, deviceId ∈ replay s.notified ↔
    (s.sessionCountsByDevice.lookup deviceId).isSome = true
  real : RealChanges s.notified

lemma counted_fresh : fresh.Counted [] where
  count _ := rfl
  positive _ _ := by rintro ⟨⟩
  sets _ _ := by rintro ⟨⟩
  replayed deviceId := by
    show deviceId ∈ (∅ : Finset String) ↔ false = true
    simp
  real := trivial

/-- The count of one device becomes `c`, which is notified if a count comes or goes. -/
lemma Counted.recount {s' : TelemetryInterestRegistry} (deviceId : String) (c : Option ℤ)
    (h : s.Counted pending)
    (hcounts : ∀ other, s'.sessionCountsByDevice.lookup other =
      if other = deviceId then c else s.sessionCountsByDevice.lookup other)
    (hothers : ∀ other, other ≠ deviceId →
      s'.sessionsOf other + rest.count other = s.sessionsOf other + pending.count other)
    (hcount : c.getD 0 = (s'.sessionsOf deviceId + rest.count deviceId : ℕ))
    (hpositive : ∀ n, c = some n → 0 < n)
    (hsets : ∀ sessionId devices, s'.devicesBySession.lookup sessionId = some devices →
      devices ≠ [] ∧ devices.Nodup)
    (hnotified : s'.notified =
      if c.isSome = (s.sessionCountsByDevice.lookup deviceId).isSome then s.notified
      else (deviceId, c.isSome) :: s.notified) : s'.Counted rest := by
  refine ⟨fun other => ?_, fun other n => ?_, hsets, fun other => ?_, ?_⟩
  · rw [hcounts]
    split
    · next heq => rw [heq, hcount]
    · next hne => rw [hothers other hne, h.count]
  · rw [hcounts]
    split
    · exact hpositive n
    · exact h.positive other n
  · rw [hcounts, hnotified]
    split
    · next hsame =>
        rw [h.replayed]
        split
        · next heq => rw [heq, hsame]
        · rfl
    · rw [mem_replay_cons, h.replayed]
      split <;> rfl
  · rw [hnotified]
    split
    · exact h.real
    · next hchange =>
        refine ⟨?_, h.real⟩
        rw [h.replayed]
        revert hchange
        cases c <;> cases s.sessionCountsByDevice.lookup deviceId <;> simp

/-- One device less to decrement. -/
lemma Counted.decrementDevice {deviceId : String} (h : s.Counted (deviceId :: rest)) :
    (s.decrementDevice deviceId).Counted rest := by
  have hothers : ∀ other, other ≠ deviceId →
      s.sessionsOf other + rest.count other =
        s.sessionsOf other + (deviceId :: rest).count other := by
    intro other hne
    rw [List.count_cons_of_ne hne.symm]
  have hcount := h.count deviceId
  rw [List.count_cons_self] at hcount
  cases hlookup : s.sessionCountsByDevice.lookup deviceId with
  | none =>
      rw [hlookup, Option.getD_none] at hcount
      omega
  | some previous =>
      have hpos : 0 < previous := h.positive deviceId previous hlookup
      rw [hlookup, Option.getD_some] at hcount
      rw [TelemetryInterestRegistry.decrementDevice, hlookup]
      simp only [hpos.ne', if_false]
      split
      · next hmore =>
          refine h.recount deviceId (some (previous - 1))
            (fun other => Map.lookup_insert_ite _ _ _ _) hothers ?_ ?_ h.sets ?_
          · show previous - 1 = (s.sessionsOf deviceId + rest.count deviceId : ℕ)
            omega
          · rintro n ⟨⟩
            omega
          · rw [hlookup]
            rfl
      · next hlast =>
          refine h.recount deviceId none
            (fun other => Map.lookup_erase_ite _ _ _) hothers ?_ ?_ h.sets ?_
          · show (0 : ℤ) = (s.sessionsOf deviceId + rest.count deviceId : ℕ)
            omega
          · rintro n ⟨⟩
          · rw [hlookup]
            rfl

lemma Counted.decrementAll (devices : List String) : ∀ {s : TelemetryInterestRegistry},
    s.Counted devices → (devices.foldl TelemetryInterestRegistry.decrementDevice s).Counted [] := by
  induction devices with
  | nil => exact fun h => h
  | cons deviceId devices ih => exact fun h => ih h.decrementDevice

/-! ### The calls -/

/-- The devices of a session, none where the session is not known. -/
def devicesOf (s : TelemetryInterestRegistry) (sessionId : String) : List String :=
  (s.devicesBySession.lookup sessionId).getD []

lemma Counted.nodup_devicesOf (h : s.Counted pending) (sessionId : String) :
    (s.devicesOf sessionId).Nodup := by
  rw [devicesOf]
  cases hlookup : s.devicesBySession.lookup sessionId with
  | none => exact List.nodup_nil
  | some devices => exact (h.sets sessionId devices hlookup).2

/-- A device that the session has already. -/
lemma subscribe_again {sessionId deviceId : String} (h : deviceId ∈ s.devicesOf sessionId) :
    s.subscribe sessionId deviceId = s := by
  rw [devicesOf] at h
  rw [subscribe, openSession]
  cases hlookup : s.devicesBySession.lookup sessionId with
  | none =>
      rw [hlookup] at h
      cases h
  | some devices =>
      rw [hlookup, Option.getD_some] at h
      exact if_pos h

/-- A device that is new to the session. -/
lemma subscribe_new {sessionId deviceId : String} (h : deviceId ∉ s.devicesOf sessionId) :
    (∀ other, (s.subscribe sessionId deviceId).devicesBySession.lookup other =
      if other = sessionId then some (s.devicesOf sessionId ++ [deviceId])
      else s.devicesBySession.lookup other) ∧
    (s.subscribe sessionId deviceId).sessionCountsByDevice =
      s.sessionCountsByDevice.insert deviceId
        ((s.sessionCountsByDevice.lookup deviceId).getD 0 + 1) ∧
    (s.subscribe sessionId deviceId).notified =
      if (s.sessionCountsByDevice.lookup deviceId).getD 0 = 0 then (deviceId, true) :: s.notified
      else s.notified := by
  rw [devicesOf] at h ⊢
  rw [subscribe, openSession]
  cases hlookup : s.devicesBySession.lookup sessionId with
  | none =>
      simp only [addDevice, List.not_mem_nil, if_false]
      refine ⟨fun other => ?_, ?_, ?_⟩
      · split
        all_goals
          show ((s.devicesBySession.insert sessionId []).insert sessionId _).lookup other = _
          rw [Map.lookup_insert_ite, Map.lookup_insert_ite]
          split <;> rfl
      · split <;> rfl
      · split <;> rfl
  | some devices =>
      rw [hlookup, Option.getD_some] at h
      simp only [addDevice, h, if_false]
      refine ⟨fun other => ?_, ?_, ?_⟩
      · split
        all_goals exact Map.lookup_insert_ite _ _ _ _
      · split <;> rfl
      · split <;> rfl

lemma Counted.subscribe (h : s.Counted []) (sessionId deviceId : String) :
    (s.subscribe sessionId deviceId).Counted [] := by
  by_cases hmem : deviceId ∈ s.devicesOf sessionId
  · rw [subscribe_again hmem]
    exact h
  · obtain ⟨hlookups, hcounts, hnotified⟩ := subscribe_new hmem
    have hsessions := sessionsOf_replace hlookups
    have hcount := h.count deviceId
    refine h.recount deviceId (some ((s.sessionCountsByDevice.lookup deviceId).getD 0 + 1))
      (fun other => ?_) (fun other hne => ?_) ?_ ?_ ?_ ?_
    · rw [hcounts, Map.lookup_insert_ite]
    · have hother := hsessions other
      simp only [Option.getD_some, List.mem_append, List.mem_singleton, hne, or_false] at hother
      rw [devicesOf] at hother
      omega
    · have hdevice := hsessions deviceId
      rw [← devicesOf, if_neg hmem, if_pos (by simp)] at hdevice
      rw [Option.getD_some, hcount]
      push_cast
      omega
    · rintro n ⟨⟩
      omega
    · intro session devices hfound
      rw [hlookups] at hfound
      split at hfound
      · cases hfound
        refine ⟨by simp, ?_⟩
        rw [← List.concat_eq_append]
        exact (h.nodup_devicesOf sessionId).concat hmem
      · exact h.sets session devices hfound
    · rw [hnotified]
      cases hlookup : s.sessionCountsByDevice.lookup deviceId with
      | none => rfl
      | some n =>
          have hpos : 0 < n := h.positive deviceId n hlookup
          simp [hpos.ne']

/-- The sets of a session are replaced by a part of them; the devices that go are still to
be decremented. -/
lemma Counted.release {s' : TelemetryInterestRegistry} (sessionId : String)
    (kept : Option (List String)) (h : s.Counted [])
    (hlookups : ∀ other, s'.devicesBySession.lookup other =
      if other = sessionId then kept else s.devicesBySession.lookup other)
    (hcounts : s'.sessionCountsByDevice = s.sessionCountsByDevice)
    (hnotified : s'.notified = s.notified)
    (hkept : ∀ devices, kept = some devices → devices ≠ [] ∧ devices.Nodup)
    (hgone : ∀ deviceId, (if deviceId ∈ s.devicesOf sessionId then 1 else 0) =
      (if deviceId ∈ kept.getD [] then 1 else 0) + pending.count deviceId) :
    s'.Counted pending := by
  refine ⟨fun deviceId => ?_, ?_, fun session devices hfound => ?_, ?_, ?_⟩
  · have hsessions := sessionsOf_replace hlookups deviceId
    have hdevice := hgone deviceId
    have hcount := h.count deviceId
    rw [devicesOf] at hdevice
    rw [hcounts, hcount, List.count_nil]
    congr 1
    omega
  · rw [hcounts]
    exact h.positive
  · rw [hlookups] at hfound
    split at hfound
    · exact hkept devices hfound
    · exact h.sets session devices hfound
  · rw [hcounts, hnotified]
    exact h.replayed
  · rw [hnotified]
    exact h.real

lemma Counted.unsubscribe (h : s.Counted []) (sessionId deviceId : String) :
    (s.unsubscribe sessionId deviceId).Counted [] := by
  rw [TelemetryInterestRegistry.unsubscribe]
  cases hlookup : s.devicesBySession.lookup sessionId with
  | none => exact h
  | some devices =>
      have hdevices : s.devicesOf sessionId = devices := by rw [devicesOf, hlookup]; rfl
      have hnodup : devices.Nodup := (h.sets sessionId devices hlookup).2
      simp only
      split
      · next hmem =>
          refine Counted.decrementDevice (h.release sessionId
            (if devices.erase deviceId = [] then none else some (devices.erase deviceId))
            (fun other => ?_) rfl rfl (fun remaining hremaining => ?_) fun other => ?_)
          · rw [dropDevice]
            split
            · exact Map.lookup_erase_ite _ _ _
            · exact Map.lookup_insert_ite _ _ _ _
          · split at hremaining
            · cases hremaining
            · next hleft =>
                cases hremaining
                exact ⟨hleft, hnodup.erase deviceId⟩
          · have hkept : ((if devices.erase deviceId = [] then none
                else some (devices.erase deviceId)).getD []) = devices.erase deviceId := by
              split
              · next hempty => exact hempty.symm
              · rfl
            rw [hdevices, hkept, List.count_singleton]
            by_cases heq : other = deviceId
            · simp [heq, hmem, hnodup.mem_erase_iff]
            · simp [heq, Ne.symm heq, hnodup.mem_erase_iff]
      · exact h

lemma Counted.removeSession (h : s.Counted []) (sessionId : String) :
    (s.removeSession sessionId).Counted [] := by
  rw [TelemetryInterestRegistry.removeSession]
  cases hlookup : s.devicesBySession.lookup sessionId with
  | none => exact h
  | some devices =>
      have hdevices : s.devicesOf sessionId = devices := by rw [devicesOf, hlookup]; rfl
      have hnodup : devices.Nodup := (h.sets sessionId devices hlookup).2
      refine Counted.decrementAll devices (h.release sessionId none
        (fun other => Map.lookup_erase_ite _ _ _) rfl rfl (fun _ => by rintro ⟨⟩) fun other => ?_)
      rw [hdevices, Option.getD_none, hnodup.count]
      simp

/-- **A call keeps the invariant.** -/
lemma Counted.call (h : s.Counted []) (c : InterestCall) : (s.call c).Counted [] := by
  cases c with
  | subscribe sessionId deviceId => exact h.subscribe sessionId deviceId
  | unsubscribe sessionId deviceId => exact h.unsubscribe sessionId deviceId
  | removeSession sessionId => exact h.removeSession sessionId

lemma counted_calls (calls : List InterestCall) : (calls.foldl call fresh).Counted [] := by
  induction calls using List.reverseRecOn with
  | nil => exact counted_fresh
  | append_singleton calls c ih =>
      rw [List.foldl_append]
      exact ih.call c

/-! ### The interests after a call -/

lemma isInterested_eq (s : TelemetryInterestRegistry) (sessionId deviceId : String) :
    s.isInterested sessionId deviceId = true ↔ deviceId ∈ s.devicesOf sessionId := by
  rw [isInterested, devicesOf]
  cases s.devicesBySession.lookup sessionId with
  | none => simp
  | some devices => simp

lemma isInterested_subscribe (sessionId deviceId other device : String) :
    (s.subscribe sessionId deviceId).isInterested other device = true ↔
      (other = sessionId ∧ device = deviceId) ∨ s.isInterested other device = true := by
  by_cases hmem : deviceId ∈ s.devicesOf sessionId
  · rw [subscribe_again hmem]
    refine ⟨.inr, fun h => h.elim ?_ id⟩
    rintro ⟨rfl, rfl⟩
    exact (isInterested_eq _ _ _).mpr hmem
  · rw [isInterested_eq, isInterested_eq, devicesOf, (subscribe_new hmem).1 other]
    by_cases hother : other = sessionId
    · subst hother
      rw [if_pos rfl, Option.getD_some, List.mem_append, List.mem_singleton]
      tauto
    · rw [if_neg hother, devicesOf]
      tauto

lemma decrementDevice_sessions (s : TelemetryInterestRegistry) (deviceId : String) :
    (s.decrementDevice deviceId).devicesBySession = s.devicesBySession := by
  rw [decrementDevice]
  split
  · rfl
  · split
    · rfl
    · split
      · rfl
      · rfl

lemma decrementAll_sessions (devices : List String) (s : TelemetryInterestRegistry) :
    (devices.foldl decrementDevice s).devicesBySession = s.devicesBySession := by
  induction devices generalizing s with
  | nil => rfl
  | cons deviceId devices ih => exact (ih _).trans (decrementDevice_sessions s deviceId)

lemma isInterested_unsubscribe (h : s.Counted []) (sessionId deviceId other device : String) :
    (s.unsubscribe sessionId deviceId).isInterested other device = true ↔
      ¬ (other = sessionId ∧ device = deviceId) ∧ s.isInterested other device = true := by
  have hnodup := h.nodup_devicesOf sessionId
  rw [isInterested_eq, isInterested_eq]
  rw [devicesOf] at hnodup ⊢
  rw [unsubscribe]
  cases hlookup : s.devicesBySession.lookup sessionId with
  | none =>
      have hnone : other = sessionId → device ∉ s.devicesOf other := by
        rintro rfl
        rw [devicesOf, hlookup]
        exact List.not_mem_nil
      simp only
      rw [← devicesOf]
      tauto
  | some devices =>
      rw [hlookup, Option.getD_some] at hnodup
      simp only
      split
      · next hmem =>
          rw [decrementDevice_sessions, dropDevice]
          have hdropped : ((if devices.erase deviceId = [] then s.devicesBySession.erase sessionId
              else s.devicesBySession.insert sessionId (devices.erase deviceId)).lookup other).getD
                [] = if other = sessionId then devices.erase deviceId else s.devicesOf other := by
            split
            · next hempty =>
                rw [Map.lookup_erase_ite]
                split
                · exact hempty.symm
                · rfl
            · rw [Map.lookup_insert_ite]
              split
              · rfl
              · rfl
          rw [hdropped]
          split
          · next heq =>
              subst heq
              rw [hnodup.mem_erase_iff, devicesOf, hlookup, Option.getD_some]
              tauto
          · tauto
      · next hmem =>
          rw [← devicesOf]
          refine ⟨fun hdevice => ⟨?_, hdevice⟩, And.right⟩
          rintro ⟨rfl, rfl⟩
          rw [devicesOf, hlookup] at hdevice
          exact hmem hdevice

lemma isInterested_removeSession (sessionId other device : String) :
    (s.removeSession sessionId).isInterested other device = true ↔
      other ≠ sessionId ∧ s.isInterested other device = true := by
  rw [isInterested_eq, isInterested_eq, devicesOf, removeSession]
  cases hlookup : s.devicesBySession.lookup sessionId with
  | none =>
      refine ⟨fun hdevice => ⟨?_, hdevice⟩, And.right⟩
      rintro rfl
      rw [hlookup] at hdevice
      exact List.not_mem_nil hdevice
  | some devices =>
      simp only
      rw [decrementAll_sessions, Map.lookup_erase_ite]
      split
      · next heq => simp [heq]
      · next hne => simp [hne, devicesOf]

/-- A call only adds notifications. -/
lemma decrementDevice_notified (s : TelemetryInterestRegistry) (deviceId : String) :
    s.notified <:+ (s.decrementDevice deviceId).notified := by
  rw [decrementDevice]
  split
  · exact List.suffix_rfl
  · split
    · exact List.suffix_rfl
    · split
      · exact List.suffix_rfl
      · exact List.suffix_cons _ _

lemma decrementAll_notified (devices : List String) (s : TelemetryInterestRegistry) :
    s.notified <:+ (devices.foldl decrementDevice s).notified := by
  induction devices generalizing s with
  | nil => exact List.suffix_rfl
  | cons deviceId devices ih => exact (decrementDevice_notified s deviceId).trans (ih _)

lemma call_notified (s : TelemetryInterestRegistry) (c : InterestCall) :
    s.notified <:+ (s.call c).notified := by
  cases c with
  | subscribe sessionId deviceId =>
      by_cases hmem : deviceId ∈ s.devicesOf sessionId
      · rw [call, subscribe_again hmem]
      · rw [call, (subscribe_new hmem).2.2]
        split
        · exact List.suffix_cons _ _
        · exact List.suffix_rfl
  | unsubscribe sessionId deviceId =>
      rw [call, unsubscribe]
      split
      · exact List.suffix_rfl
      · next devices _ =>
          split
          · exact decrementDevice_notified (s.dropDevice sessionId deviceId devices) deviceId
          · exact List.suffix_rfl
  | removeSession sessionId =>
      rw [call, removeSession]
      split
      · exact List.suffix_rfl
      · next devices _ =>
          exact decrementAll_notified devices
            { s with devicesBySession := s.devicesBySession.erase sessionId }

/-- Whether a session is interested in a device after a call, if it was before. -/
def interestAfter (sessionId deviceId : String) (interested : Bool) : InterestCall → Bool
  | .subscribe other device => interested || (other = sessionId && device = deviceId)
  | .unsubscribe other device => interested && !(other = sessionId && device = deviceId)
  | .removeSession other => interested && other ≠ sessionId

lemma isInterested_call (h : s.Counted []) (c : InterestCall) (sessionId deviceId : String) :
    (s.call c).isInterested sessionId deviceId =
      interestAfter sessionId deviceId (s.isInterested sessionId deviceId) c := by
  have hpair (other device : String) :
      sessionId = other ∧ deviceId = device ↔ other = sessionId ∧ device = deviceId :=
    and_congr eq_comm eq_comm
  rw [Bool.eq_iff_iff]
  cases c with
  | subscribe other device =>
      rw [call, isInterested_subscribe, hpair, or_comm]
      simp [interestAfter]
  | unsubscribe other device =>
      rw [call, isInterested_unsubscribe h, hpair, and_comm, not_and_or]
      simp [interestAfter]
  | removeSession other =>
      rw [call, isInterested_removeSession, ne_comm, and_comm]
      simp [interestAfter]

/-- The interests follow the calls. -/
lemma isInterested_calls (calls : List InterestCall) (sessionId deviceId : String) :
    (calls.foldl call fresh).isInterested sessionId deviceId =
      calls.foldl (interestAfter sessionId deviceId) false := by
  induction calls using List.reverseRecOn with
  | nil => rfl
  | append_singleton calls c ih =>
      rw [List.foldl_append, List.foldl_append, ← ih]
      exact isInterested_call (counted_calls calls) c sessionId deviceId

end TelemetryInterestRegistry

open TelemetryInterestRegistry in
/-- **The interest registry counts exactly**: after any calls, the count of a device is the
number of sessions interested in it, which is never zero or negative while it stands there;
no session has an empty set; the notifications lead to the devices with a session, and each
of them changed the set; and a session is interested in what it has subscribed to, and
neither unsubscribed from since nor been removed. -/
theorem interests_counted (calls : List InterestCall) :
    (∀ deviceId, ((calls.foldl call fresh).sessionCountsByDevice.lookup deviceId).getD 0 =
      ((calls.foldl call fresh).interestedSessions deviceId).length) ∧
    (∀ deviceId n, (calls.foldl call fresh).sessionCountsByDevice.lookup deviceId = some n →
      0 < n) ∧
    (∀ sessionId devices,
      (calls.foldl call fresh).devicesBySession.lookup sessionId = some devices → devices ≠ []) ∧
    (∀ deviceId, deviceId ∈ replay (calls.foldl call fresh).notified ↔
      ∃ sessionId, (calls.foldl call fresh).isInterested sessionId deviceId = true) ∧
    RealChanges (calls.foldl call fresh).notified ∧
    ∀ sessionId deviceId, (calls.foldl call fresh).isInterested sessionId deviceId =
      calls.foldl (interestAfter sessionId deviceId) false := by
  have h := counted_calls calls
  have hcount : ∀ deviceId,
      ((calls.foldl call fresh).sessionCountsByDevice.lookup deviceId).getD 0 =
        ((calls.foldl call fresh).interestedSessions deviceId).length := by
    intro deviceId
    rw [h.count, length_interestedSessions, List.count_nil, Nat.add_zero]
  refine ⟨hcount, h.positive, fun sessionId devices hfound => (h.sets sessionId devices hfound).1,
    fun deviceId => ?_, h.real, isInterested_calls calls⟩
  have hdevice := hcount deviceId
  rw [h.replayed]
  constructor
  · intro hsome
    obtain ⟨n, hn⟩ := Option.isSome_iff_exists.mp hsome
    have hpos : 0 < n := h.positive deviceId n hn
    rw [hn, Option.getD_some] at hdevice
    have hlength : 0 < ((calls.foldl call fresh).interestedSessions deviceId).length := by omega
    obtain ⟨sessionId, hmem⟩ := List.exists_mem_of_length_pos hlength
    exact ⟨sessionId, mem_interestedSessions.mp hmem⟩
  · rintro ⟨sessionId, hinterested⟩
    have hlength : 0 < ((calls.foldl call fresh).interestedSessions deviceId).length :=
      List.length_pos_of_mem (mem_interestedSessions.mpr hinterested)
    cases hlookup : (calls.foldl call fresh).sessionCountsByDevice.lookup deviceId with
    | none =>
        rw [hlookup, Option.getD_none] at hdevice
        omega
    | some n => rfl

/-- Only the first session that comes and the last one that goes are notified. -/
example : ([.subscribe "s1" "d", .subscribe "s1" "d", .subscribe "s2" "d", .unsubscribe "s1" "d",
      .removeSession "s2"].foldl TelemetryInterestRegistry.call .fresh).notified =
    [("d", false), ("d", true)] := by
  decide +kernel

end CnsServer
