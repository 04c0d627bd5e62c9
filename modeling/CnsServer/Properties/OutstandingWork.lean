/-
The counter of outstanding database work.

* `Counts`: the value of the counter, in a history in which it was never taken below
  zero; `WorkBalanced`: it counts the submitted registrations and the submitted writes;
* `AcceptsProvisioned`: the directory accepts the record that a submitted
  registration is answered with;
* `balanced_of_accepting`: **the counter is balanced**, and never taken below zero, in
  every run in which it does;
* `unbalanced_refused`: a refused record is counted off while its registration stays
  submitted, and the next loss of the connection counts it off again.
-/
import CnsServer.Runtime.DeviceEffects
import CnsServer.Runtime.DeviceScenario

namespace CnsServer

open DeviceService

/-- No adjustment takes the counter below zero. -/
def NeverBelowZero (events : List DeviceEvent) : Prop :=
  ∀ before delta, DeviceEvent.adjusted before delta ∈ events → 0 ≤ (before : ℤ) + delta

/-- The counter stands at `n`, and has never been taken below zero. -/
structure Counts (s : DeviceService) (n : ℕ) : Prop where
  outstanding : s.outstanding = n
  safe : NeverBelowZero s.events

/-- The submitted registrations and the submitted writes. -/
def DeviceService.submittedWork (s : DeviceService) : ℕ :=
  s.submittedRegistrations + s.submitted.keys.length

/-- The counter counts what has been submitted. -/
def WorkBalanced (s : DeviceService) : Prop := Counts s s.submittedWork

/-- A record that answers a submitted registration is accepted by the directory. -/
def AcceptsProvisioned (s : DeviceService) (input : DeviceInput) : Prop :=
  ∀ answer ∈ input.answer?, answer.kind = .provisioned → ∀ record ∈ answer.provisioned,
    ∀ candidate ∈ s.pending.lookup answer.deviceId, candidate.submitted = true →
      (s.registry.addProvisioned record).1.isOk = true

instance (s : DeviceService) (input : DeviceInput) : Decidable (AcceptsProvisioned s input) :=
  inferInstanceAs (Decidable (∀ answer ∈ input.answer?, answer.kind = .provisioned →
    ∀ record ∈ answer.provisioned, ∀ candidate ∈ s.pending.lookup answer.deviceId,
      candidate.submitted = true → (s.registry.addProvisioned record).1.isOk = true))

section

variable {cfg : DeviceServiceConfig} {s s' : DeviceService} {n : ℕ}

/-! ### The counter -/

lemma Counts.sameWork (h : Counts s n) (hsame : SameWork s s') : Counts s' n := by
  refine ⟨hsame.outstanding.trans h.outstanding, fun before delta hmem => ?_⟩
  obtain ⟨new, hevents, hnew⟩ := hsame.events
  rw [hevents] at hmem
  rcases List.mem_append.mp hmem with hmem | hmem
  · exact h.safe before delta hmem
  · exact absurd hmem (hnew before delta)

lemma Counts.adjust (h : Counts s n) {delta : ℤ} {n' : ℕ} (hn : (n : ℤ) + delta = n') :
    Counts (s.adjustOutstandingDatabaseWork delta) n' := by
  have hzero : 0 ≤ (s.outstanding : ℤ) + delta := by
    rw [h.outstanding, hn]
    exact Int.natCast_nonneg n'
  refine ⟨?_, fun before delta' hmem => ?_⟩
  · change wrappingAdd s.outstanding delta = n'
    rw [wrappingAdd, if_pos hzero, h.outstanding, hn, Int.toNat_natCast]
  · rcases List.mem_append.mp hmem with hmem | hmem
    · exact h.safe before delta' hmem
    · cases List.mem_singleton.mp hmem
      exact hzero

lemma Counts.frame (h : Counts s n) (houtstanding : s'.outstanding = s.outstanding)
    (hevents : s'.events = s.events) : Counts s' n := by
  refine ⟨houtstanding.trans h.outstanding, ?_⟩
  rw [hevents]
  exact h.safe

/-- What is completed comes off the counter, unless it is nothing. -/
lemma Counts.complete (h : Counts s n) {completed rest : ℕ} (hn : n = completed + rest) :
    Counts (if completed ≠ 0 then s.adjustOutstandingDatabaseWork (-completed) else s) rest := by
  split
  · exact h.adjust (by omega)
  · next hzero =>
      have hrest : n = rest := by omega
      exact hrest ▸ h

/-- One piece of work comes off the counter, if it was outstanding. -/
lemma Counts.completeOne (h : Counts s n) (outstanding : Bool) {rest : ℕ}
    (hn : n = rest + if outstanding then 1 else 0) :
    Counts (if outstanding then s.adjustOutstandingDatabaseWork (-1) else s) rest := by
  cases outstanding with
  | false =>
      have hrest : n = rest := hn
      exact hrest ▸ h
  | true =>
      have hone : n = rest + 1 := hn
      exact h.adjust (by omega)

lemma submittedWork_congr (hpending : s'.pending = s.pending)
    (hsubmitted : s'.submitted = s.submitted) : s'.submittedWork = s.submittedWork := by
  simp only [DeviceService.submittedWork, submittedRegistrations]
  rw [hpending, hsubmitted]

lemma WorkBalanced.of_counts (h : Counts s n) (hwork : s.submittedWork = n) : WorkBalanced s := by
  rw [WorkBalanced]
  rw [hwork]
  exact h

lemma WorkBalanced.sameWork (h : WorkBalanced s) (hsame : SameWork s s') : WorkBalanced s' :=
  .of_counts (Counts.sameWork h hsame) (submittedWork_congr hsame.pending hsame.submitted)

/-- A step of the thread, or a request, that touches no work. -/
lemma WorkBalanced.frame (h : WorkBalanced s) (hpending : s'.pending = s.pending)
    (hsubmitted : s'.submitted = s.submitted) (houtstanding : s'.outstanding = s.outstanding)
    (hevents : s'.events = s.events) : WorkBalanced s' :=
  .of_counts (Counts.frame h houtstanding hevents) (submittedWork_congr hpending hsubmitted)

/-! ### Database results -/

/-- All submitted registrations are completed at once. -/
lemma clearPending_balanced (h : WorkBalanced s) :
    WorkBalanced (if s.submittedRegistrations ≠ 0 then
      { s with pending := ∅ }.adjustOutstandingDatabaseWork (-s.submittedRegistrations)
      else { s with pending := ∅ }) := by
  have hcounts : Counts { s with pending := ∅ } s.submittedWork := ⟨h.outstanding, h.safe⟩
  refine .of_counts (hcounts.complete rfl) ?_
  split
  · exact Nat.zero_add _
  · exact Nat.zero_add _

lemma handleUnavailable_balanced (h : WorkBalanced s) (result : DatabaseResult) :
    WorkBalanced (s.handleUnavailable result) := by
  have hdegraded := degrade_sameWork { s with databaseUnavailable := true } result.deviceId
    fun record => max record.revision result.revision
  have hbefore : WorkBalanced { s with databaseUnavailable := true } := h.frame rfl rfl rfl rfl
  exact (clearPending_balanced (hbefore.sameWork hdegraded)).sameWork (diagnose_sameWork _ _)

/-- A registration leaves, with its part of the count. -/
lemma submittedWork_erase {deviceId : String} {candidate : PendingRegistration}
    (hcandidate : s.pending.lookup deviceId = some candidate) :
    s.submittedWork = { s with pending := s.pending.erase deviceId }.submittedWork +
      if candidate.submitted then 1 else 0 := by
  have herased := Map.countP_erase (p := PendingRegistration.submitted) hcandidate
  unfold DeviceService.submittedWork submittedRegistrations
  dsimp only
  omega

lemma dropPending_balanced (h : WorkBalanced s) (deviceId : String) :
    WorkBalanced (s.dropPending deviceId) := by
  rw [dropPending]
  split
  · exact h
  · next candidate hcandidate =>
      have hone := Counts.completeOne h candidate.submitted (submittedWork_erase hcandidate)
      refine .of_counts (hone.frame rfl rfl) (submittedWork_congr ?_ ?_)
      · split <;> rfl
      · split <;> rfl

lemma dropAll_balanced (h : WorkBalanced s) : WorkBalanced s.dropAll := by
  have hcounts : Counts { s with pending := ∅, submitted := ∅, pendingStatusLogs := ∅ }
      s.submittedWork := ⟨h.outstanding, h.safe⟩
  refine .of_counts (hcounts.complete (Nat.add_zero _).symm) ?_
  unfold dropAll
  dsimp only
  split
  · rfl
  · rfl

/-- A submitted write leaves. -/
lemma length_submitted_erase {deviceId : String} {write : DesiredDeviceWrite}
    (hwrite : s.submitted.lookup deviceId = some write) :
    s.submitted.keys.length = (s.submitted.erase deviceId).keys.length + 1 := by
  have hmem : deviceId ∈ s.submitted.keys := Map.mem_keys_iff.mpr ⟨write, hwrite⟩
  have hpos : 0 < s.submitted.keys.length := List.length_pos_of_mem hmem
  rw [Map.length_keys_erase, if_pos hmem]
  omega

/-- The count once a submitted write is complete. -/
lemma eraseSubmitted_balanced (h : WorkBalanced s) {deviceId : String} {write : DesiredDeviceWrite}
    (hwrite : s.submitted.lookup deviceId = some write) :
    WorkBalanced ({ s with
      submitted := s.submitted.erase deviceId }.adjustOutstandingDatabaseWork (-1)) := by
  have hcounts : Counts { s with submitted := s.submitted.erase deviceId } s.submittedWork :=
    ⟨h.outstanding, h.safe⟩
  have hlength := length_submitted_erase hwrite
  refine .of_counts (hcounts.adjust ?_) rfl
  change ((s.submittedRegistrations + s.submitted.keys.length : ℕ) : ℤ) + -1 =
    ((s.submittedRegistrations + (s.submitted.erase deviceId).keys.length : ℕ) : ℤ)
  omega

lemma dropSubmitted_balanced (h : WorkBalanced s) (deviceId : String) :
    WorkBalanced (s.dropSubmitted deviceId) := by
  unfold dropSubmitted
  dsimp only
  split
  · next hsome =>
      obtain ⟨write, hwrite⟩ := Option.isSome_iff_exists.mp hsome
      exact (eraseSubmitted_balanced h hwrite).frame rfl rfl rfl rfl
  · exact h.frame rfl rfl rfl rfl

lemma handlePermanentFailure_balanced (h : WorkBalanced s) (result : DatabaseResult) :
    WorkBalanced (s.handlePermanentFailure result) := by
  have hpending := dropPending_balanced h result.deviceId
  have hdropped : WorkBalanced (if result.deviceId.isEmpty then
      (s.dropPending result.deviceId).dropAll
      else (s.dropPending result.deviceId).dropSubmitted result.deviceId) := by
    split
    · exact dropAll_balanced hpending
    · exact dropSubmitted_balanced hpending result.deviceId
  exact (hdropped.sameWork (degrade_sameWork _ _ _)).sameWork (diagnose_sameWork _ _)

/-- The counter goes down after the registration has been applied. -/
lemma handleProvisioned_balanced (h : WorkBalanced s) (deviceId : String) (record : DeviceRecord)
    (now : TimePoint)
    (haccepts : ∀ candidate ∈ s.pending.lookup deviceId, candidate.submitted = true →
      (s.registry.addProvisioned record).1.isOk = true) :
    WorkBalanced (s.handleProvisioned deviceId record now) := by
  rw [handleProvisioned]
  split
  · exact h
  next candidate hcandidate =>
  split
  · next message registry hrefused =>
      have hunsubmitted : candidate.submitted = false := by
        by_contra hsubmitted
        have haccepted := haccepts candidate hcandidate (Bool.eq_true_of_not_eq_false hsubmitted)
        rw [hrefused] at haccepted
        cases haccepted
      rw [hunsubmitted]
      exact h
  · next registry _ =>
      -- the registration is gone from the map, and the counter follows at the end
      have hcounts : Counts { s with
          registry := registry
          pending := s.pending.erase deviceId } s.submittedWork := ⟨h.outstanding, h.safe⟩
      have happlied := applyPending_sameWork { s with
        registry := registry
        pending := s.pending.erase deviceId } candidate now
      have hone := (hcounts.sameWork happlied).completeOne candidate.submitted
        (submittedWork_erase hcandidate)
      refine .of_counts hone ?_
      dsimp only
      split
      · exact submittedWork_congr happlied.pending happlied.submitted
      · exact submittedWork_congr happlied.pending happlied.submitted

lemma handleWriteCompleted_balanced (h : WorkBalanced s) (result : DatabaseResult) :
    WorkBalanced (s.handleWriteCompleted result) := by
  refine WorkBalanced.sameWork ?_ (recoverDevice_sameWork _ _ _)
  rw [completeSubmitted]
  split
  · exact h
  · next write hwrite =>
      split
      · have hreported := reportStatus_sameWork s result.deviceId result.revision write
        have hbefore := h.sameWork hreported
        rw [← hreported.submitted] at hwrite
        exact (eraseSubmitted_balanced hbefore hwrite).frame rfl rfl rfl rfl
      · exact h

lemma handleResult_balanced (h : WorkBalanced s) {answer : DatabaseResult}
    {writes : List DesiredDeviceWrite} {now : TimePoint}
    (haccepts : AcceptsProvisioned s (.result answer writes now)) :
    WorkBalanced (s.handleResult answer writes now) := by
  rw [handleResult]
  cases hkind : answer.kind with
  | unavailable => exact handleUnavailable_balanced h answer
  | permanentFailure => exact handlePermanentFailure_balanced h answer
  | recovered => exact h.frame rfl rfl rfl rfl
  | provisioned =>
      dsimp only
      split
      · next record hrecord =>
          exact handleProvisioned_balanced h answer.deviceId record now
            (haccepts answer rfl hkind record hrecord)
      · exact h
  | writeCompleted => exact handleWriteCompleted_balanced h answer

/-! ### Messages and submissions -/

lemma awaitProvision_balanced (h : WorkBalanced s) (deviceId : String)
    (registration : Registration) (receivedAt : TimePoint) :
    WorkBalanced (s.awaitProvision deviceId registration receivedAt) := by
  rw [awaitProvision]
  split
  · exact h
  split
  · next hnew =>
      have hcount := Map.countP_insert (p := PendingRegistration.submitted)
        ⟨registration, receivedAt, false⟩ hnew
      refine .of_counts (Counts.frame h rfl rfl) ?_
      simp only [DeviceService.submittedWork, submittedRegistrations]
      simpa using hcount
  · next candidate hcandidate =>
      have hcount := Map.countP_replace (p := PendingRegistration.submitted)
        { candidate with
          registration := registration
          receivedAt := receivedAt } hcandidate
      refine .of_counts (Counts.frame h rfl rfl) ?_
      simp only [DeviceService.submittedWork, submittedRegistrations]
      simpa using hcount

lemma handleMessage_balanced (h : WorkBalanced s) (inbound : InboundMessage) (now : TimePoint) :
    WorkBalanced (s.handleMessage cfg inbound now) := by
  rw [handleMessage]
  split
  · exact h
  · split
    · exact h
    · next registration _ =>
        rw [handleRegistration]
        split
        · exact awaitProvision_balanced h _ registration _
        · exact h.sameWork (applyReport_sameWork _ _ _)
  · split
    · exact h
    · exact h.sameWork (applyReport_sameWork _ _ _)

lemma submitProvision_balanced (h : WorkBalanced s) {deviceId : String}
    {candidate : PendingRegistration} (hcandidate : s.pending.lookup deviceId = some candidate)
    (hunsubmitted : candidate.submitted = false) (outcome : SubmitOutcome) :
    WorkBalanced (s.submitProvision deviceId outcome) := by
  rw [submitProvision]
  rw [hcandidate]
  dsimp only
  split
  · have hcount := Map.countP_replace (p := PendingRegistration.submitted)
      { candidate with submitted := true } hcandidate
    rw [hunsubmitted] at hcount
    have hcounts : Counts { s with
        pending := s.pending.insert deviceId { candidate with submitted := true } }
        s.submittedWork := ⟨h.outstanding, h.safe⟩
    have hadjusted : Counts ({ s with
        pending := s.pending.insert deviceId
          { candidate with submitted := true } }.adjustOutstandingDatabaseWork 1)
        (s.submittedWork + 1) := hcounts.adjust (by omega)
    refine .of_counts hadjusted ?_
    simp only [DeviceService.submittedWork, submittedRegistrations]
    simp only [adjustOutstandingDatabaseWork, note]
    simp only [if_true, Bool.false_eq_true, if_false] at hcount
    omega
  · exact h.sameWork (diagnose_sameWork _ _)

lemma submitWrite_balanced (h : WorkBalanced s) (write : DesiredDeviceWrite)
    (outcome : SubmitOutcome) (now : TimePoint) :
    WorkBalanced (s.submitWrite write outcome now) := by
  unfold submitWrite
  split
  · dsimp only
    split
    · next hsome =>
        have hmem : write.record.deviceId ∈ s.submitted.keys :=
          Map.mem_keys_iff.mpr (Option.isSome_iff_exists.mp hsome)
        refine .of_counts (Counts.frame h rfl rfl) ?_
        unfold DeviceService.submittedWork submittedRegistrations
        dsimp only
        rw [Map.length_keys_insert, if_pos hmem]
    · next hnone =>
        have hnotMem : write.record.deviceId ∉ s.submitted.keys := fun hmem =>
          hnone (Option.isSome_iff_exists.mpr (Map.mem_keys_iff.mp hmem))
        have hadjusted : Counts (s.adjustOutstandingDatabaseWork 1) (s.submittedWork + 1) :=
          Counts.adjust h (by omega)
        refine .of_counts (hadjusted.frame rfl rfl) ?_
        simp only [DeviceService.submittedWork, submittedRegistrations]
        simp only [adjustOutstandingDatabaseWork, note]
        rw [Map.length_keys_insert, if_neg hnotMem]
        omega
  · refine WorkBalanced.sameWork ?_ (diagnose_sameWork _ _)
    exact (h.sameWork (members_sameWork s s.registry _ s.degraded s.lastReason
      s.pendingStatusLogs)).sameWork (degrade_sameWork _ _ _)

/-! ### The turn -/

/-- The loop over `pending_` meets registrations that have not been submitted. -/
def LoopsUnsubmitted (s : DeviceService) : Prop :=
  ∀ deviceIds, s.phase = .provisions deviceIds → deviceIds.Nodup ∧ ∀ deviceId ∈ deviceIds,
    ∃ candidate, s.pending.lookup deviceId = some candidate ∧ candidate.submitted = false

lemma consumeCancel_balanced (h : WorkBalanced s) : WorkBalanced s.consumeCancel := by
  rw [consumeCancel]
  split
  · refine ⟨?_, h.safe⟩
    rw [DeviceService.submittedWork, submittedRegistrations]
    dsimp only
    rw [Map.countP_mapValues_eq_zero fun _ => rfl]
    rfl
  · exact h

lemma scan_balanced (h : WorkBalanced s) (now systemNow : TimePoint) (mutations : List Mutation)
    (markedAt : String → TimePoint) :
    WorkBalanced (s.scan cfg now systemNow mutations markedAt) := by
  rw [scan]
  dsimp only
  split
  · refine WorkBalanced.sameWork ?_ (foldl_mark_sameWork _ _ _)
    exact h.frame rfl rfl rfl rfl
  · exact h.frame rfl rfl rfl rfl

lemma finishReady_balanced (h : WorkBalanced s) : WorkBalanced s.finishReady := by
  unfold finishReady
  dsimp only
  split
  · have hconsumed : WorkBalanced { s with snapshotRequested := false } := h.frame rfl rfl rfl rfl
    exact (hconsumed.sameWork (publishCurrentSnapshot_sameWork _)).frame rfl rfl rfl rfl
  · exact h.frame rfl rfl rfl rfl

/-! ### The phase of the thread -/

lemma handleUnavailable_phase (result : DatabaseResult) :
    (s.handleUnavailable result).phase = s.phase := by
  have hdegraded := degrade_sameWork { s with databaseUnavailable := true } result.deviceId
    fun record => max record.revision result.revision
  unfold handleUnavailable
  dsimp only
  split
  · exact hdegraded.phase
  · exact hdegraded.phase

lemma handlePermanentFailure_phase (result : DatabaseResult) :
    (s.handlePermanentFailure result).phase = s.phase := by
  have hpending : (s.dropPending result.deviceId).phase = s.phase := by
    rw [dropPending]
    split
    · rfl
    · dsimp only
      split <;> rfl
  have hdropped : (if result.deviceId.isEmpty then (s.dropPending result.deviceId).dropAll
      else (s.dropPending result.deviceId).dropSubmitted result.deviceId).phase = s.phase := by
    split
    · refine Eq.trans ?_ hpending
      unfold dropAll
      dsimp only
      split <;> rfl
    · refine Eq.trans ?_ hpending
      rw [dropSubmitted]
      dsimp only
      split <;> rfl
  exact (degrade_sameWork _ _ _).phase.trans hdropped

lemma handleProvisioned_phase (deviceId : String) (record : DeviceRecord) (now : TimePoint) :
    (s.handleProvisioned deviceId record now).phase = s.phase := by
  rw [handleProvisioned]
  split
  · rfl
  split
  · split <;> rfl
  · dsimp only
    split
    · exact (applyPending_sameWork _ _ _).phase
    · exact (applyPending_sameWork _ _ _).phase

lemma handleWriteCompleted_phase (result : DatabaseResult) :
    (s.handleWriteCompleted result).phase = s.phase := by
  refine (recoverDevice_sameWork _ _ _).phase.trans ?_
  rw [completeSubmitted]
  split
  · rfl
  · split
    · exact (reportStatus_sameWork _ _ _ _).phase
    · rfl

/-- A result leaves the thread in the loop over the results, or sends it into the
one over the degraded devices. -/
lemma handleResult_phase (answer : DatabaseResult) (writes : List DesiredDeviceWrite)
    (now : TimePoint) :
    (s.handleResult answer writes now).phase = s.phase ∨
      (s.handleResult answer writes now).phase = .results ∨
      (s.handleResult answer writes now).phase = .replaying writes := by
  rw [handleResult]
  cases answer.kind with
  | unavailable => exact .inl (handleUnavailable_phase answer)
  | permanentFailure => exact .inl (handlePermanentFailure_phase answer)
  | recovered =>
      refine .inr ?_
      simp only [handleRecovered]
      split
      · exact .inl rfl
      · exact .inr rfl
  | provisioned =>
      dsimp only
      split
      · exact .inl (handleProvisioned_phase _ _ _)
      · exact .inl rfl
  | writeCompleted => exact .inl (handleWriteCompleted_phase answer)

lemma handleMessage_phase (inbound : InboundMessage) (now : TimePoint) :
    (s.handleMessage cfg inbound now).phase = s.phase := by
  rw [handleMessage]
  split
  · rfl
  · split
    · rfl
    · rw [handleRegistration]
      split
      · rw [awaitProvision]
        split
        · rfl
        · split <;> rfl
      · exact (applyReport_sameWork _ _ _).phase
  · split
    · rfl
    · exact (applyReport_sameWork _ _ _).phase

lemma scan_phase (now systemNow : TimePoint) (mutations : List Mutation)
    (markedAt : String → TimePoint) :
    (s.scan cfg now systemNow mutations markedAt).phase = .dispatch := by
  rw [scan]
  dsimp only
  split
  · exact (foldl_mark_sameWork _ _ _).phase
  · rfl

lemma LoopsUnsubmitted.of_phase (h : ∀ deviceIds, s.phase ≠ .provisions deviceIds) :
    LoopsUnsubmitted s :=
  fun deviceIds hphase => absurd hphase (h deviceIds)

/-- The loop begins with the registrations that have not been submitted. -/
lemma messagesDone_loops {deviceIds : List String} (h : deviceIds.Perm s.unsubmitted) :
    LoopsUnsubmitted (DeviceInput.apply cfg s (.messagesDone deviceIds)) := by
  intro loop hloop
  have hsame : loop = deviceIds := by
    simp only [DeviceInput.apply] at hloop
    split at hloop
    · cases hloop
    · exact (DevicePhase.provisions.inj hloop).symm
  subst hsame
  have hunsubmitted : ∀ deviceId ∈ s.unsubmitted, ∃ candidate,
      s.pending.lookup deviceId = some candidate ∧ candidate.submitted = false := by
    intro deviceId hmem
    unfold unsubmitted at hmem
    split at hmem
    · cases hmem
    · obtain ⟨-, hcandidate⟩ := List.mem_filter.mp hmem
      split at hcandidate
      · next candidate hlookup =>
          exact ⟨candidate, hlookup, by simpa using hcandidate⟩
      · cases hcandidate
  have hnodup : s.unsubmitted.Nodup := by
    unfold unsubmitted
    split
    · exact List.nodup_nil
    · exact s.pending.nodupKeys.filter _
  exact ⟨h.nodup_iff.mpr hnodup, fun deviceId hmem => hunsubmitted deviceId (h.mem_iff.mp hmem)⟩

/-- A round of the loop submits the first registration and leaves the others. -/
lemma provision_loops (h : LoopsUnsubmitted s) {deviceId : String} {deviceIds : List String}
    (hphase : s.phase = .provisions (deviceId :: deviceIds)) (outcome : SubmitOutcome) :
    LoopsUnsubmitted (DeviceInput.apply cfg s (.provision outcome)) := by
  intro loop hloop
  simp only [DeviceInput.apply, hphase] at hloop ⊢
  obtain ⟨hnodup, hunsubmitted⟩ := h _ hphase
  obtain ⟨hfirst, hrest⟩ := List.nodup_cons.mp hnodup
  have hsame : loop = deviceIds := by
    split at hloop
    · cases hloop
    · exact (DevicePhase.provisions.inj hloop).symm
  subst hsame
  refine ⟨hrest, fun other hother => ?_⟩
  obtain ⟨candidate, hcandidate, hnot⟩ := hunsubmitted other (List.mem_cons_of_mem _ hother)
  have hne : other ≠ deviceId := by
    rintro rfl
    exact hfirst hother
  refine ⟨candidate, ?_, hnot⟩
  rw [submitProvision]
  split
  · exact hcandidate
  · split
    · exact (AList.lookup_insert_ne hne).trans hcandidate
    · exact hcandidate

/-! ### Every run -/

/-- What holds of the counter between two steps. -/
structure WorkCounted (s : DeviceService) : Prop where
  balanced : WorkBalanced s
  loops : LoopsUnsubmitted s

lemma begin_counted (h : WorkCounted s) : WorkCounted (DeviceInput.apply cfg s .begin) := by
  refine ⟨h.balanced.frame rfl rfl rfl rfl, .of_phase fun deviceIds hphase => ?_⟩
  cases hphase

lemma write_counted (h : WorkCounted s) (outcome : SubmitOutcome) (now : TimePoint)
    (henabled : DeviceInput.Enabled cfg s (.write outcome now)) :
    WorkCounted (DeviceInput.apply cfg s (.write outcome now)) := by
  obtain ⟨desired, writes, hphase | ⟨batch, accepted, hphase⟩⟩ := henabled
  · simp only [DeviceInput.apply, hphase]
    refine ⟨(submitWrite_balanced h.balanced desired outcome now).frame rfl rfl rfl rfl,
      .of_phase fun deviceIds hloop => ?_⟩
    dsimp only at hloop
    split at hloop <;> cases hloop
  · simp only [DeviceInput.apply, hphase]
    refine ⟨(submitWrite_balanced h.balanced desired outcome now).frame rfl rfl rfl rfl,
      .of_phase fun deviceIds hloop => ?_⟩
    cases hloop

lemma dispatch_counted (h : WorkCounted s) (writes : List DesiredDeviceWrite) :
    WorkCounted (DeviceInput.apply cfg s (.dispatch writes)) := by
  simp only [DeviceInput.apply, beginDispatch]
  split
  · exact ⟨h.balanced.frame rfl rfl rfl rfl, .of_phase fun _ hphase => by cases hphase⟩
  split
  · split
    · exact ⟨h.balanced.frame rfl rfl rfl rfl, .of_phase fun _ hphase => by cases hphase⟩
    · exact ⟨h.balanced.frame rfl rfl rfl rfl, .of_phase fun _ hphase => by cases hphase⟩
  · exact ⟨h.balanced.frame rfl rfl rfl rfl, .of_phase fun _ hphase => by cases hphase⟩

lemma endBatch_counted (h : WorkCounted s) (now : TimePoint) (writes : List DesiredDeviceWrite)
    (henabled : DeviceInput.Enabled cfg s (.endBatch now writes)) :
    WorkCounted (DeviceInput.apply cfg s (.endBatch now writes)) := by
  obtain ⟨batch, accepted, hphase, -⟩ := henabled
  simp only [DeviceInput.apply, hphase, endBatch]
  cases batch with
  | immediate =>
      exact ⟨h.balanced.frame rfl rfl rfl rfl, .of_phase fun _ hphase => by cases hphase⟩
  | telemetry =>
      exact ⟨h.balanced.frame rfl rfl rfl rfl, .of_phase fun _ hphase => by cases hphase⟩
  | all =>
      exact ⟨h.balanced.frame rfl rfl rfl rfl, .of_phase fun _ hphase => by cases hphase⟩

/-- A call of another thread leaves the loop where it is. -/
lemma WorkCounted.call (h : WorkCounted s) (hpending : s'.pending = s.pending)
    (hsubmitted : s'.submitted = s.submitted) (houtstanding : s'.outstanding = s.outstanding)
    (hevents : s'.events = s.events) (hphase : s'.phase = s.phase) : WorkCounted s' := by
  refine ⟨h.balanced.frame hpending hsubmitted houtstanding hevents, fun deviceIds hloop => ?_⟩
  rw [hphase] at hloop
  rw [hpending]
  exact h.loops deviceIds hloop

lemma next_counted (h : WorkCounted s) {input : DeviceInput} (henabled : input.Enabled cfg s)
    (haccepts : AcceptsProvisioned s input) : WorkCounted (input.apply cfg s) := by
  cases input with
  | begin => exact begin_counted h
  | result answer writes now =>
      refine ⟨handleResult_balanced h.balanced haccepts, .of_phase fun deviceIds hphase => ?_⟩
      rcases handleResult_phase answer writes now with hsame | hresults | hreplaying
      · rw [DeviceInput.apply, hsame, henabled.1] at hphase
        cases hphase
      · rw [DeviceInput.apply, hresults] at hphase
        cases hphase
      · rw [DeviceInput.apply, hreplaying] at hphase
        cases hphase
  | resultsDone =>
      exact ⟨(consumeCancel_balanced h.balanced).frame rfl rfl rfl rfl,
        .of_phase fun deviceIds hphase => by cases hphase⟩
  | message inbound now =>
      refine ⟨handleMessage_balanced h.balanced inbound now, .of_phase fun deviceIds hphase => ?_⟩
      rw [DeviceInput.apply, handleMessage_phase, henabled] at hphase
      cases hphase
  | messagesDone deviceIds =>
      exact ⟨h.balanced.frame rfl rfl rfl rfl, messagesDone_loops henabled.2⟩
  | provision outcome =>
      obtain ⟨deviceId, deviceIds, hphase⟩ := henabled
      obtain ⟨candidate, hcandidate, hnot⟩ := (h.loops _ hphase).2 deviceId List.mem_cons_self
      refine ⟨?_, provision_loops h.loops hphase outcome⟩
      simp only [DeviceInput.apply, hphase]
      exact (submitProvision_balanced h.balanced hcandidate hnot outcome).frame rfl rfl rfl rfl
  | scan now systemNow mutations markedAt =>
      refine ⟨scan_balanced h.balanced now systemNow mutations markedAt,
        .of_phase fun deviceIds hphase => ?_⟩
      rw [DeviceInput.apply, scan_phase] at hphase
      cases hphase
  | dispatch writes => exact dispatch_counted h writes
  | write outcome now => exact write_counted h outcome now henabled
  | endBatch now writes => exact endBatch_counted h now writes henabled
  | finish =>
      refine ⟨finishReady_balanced h.balanced, .of_phase fun deviceIds hphase => ?_⟩
      cases hphase
  | close => exact h.call rfl rfl rfl rfl rfl
  | drained => exact h.call rfl rfl rfl rfl rfl
  | cancel => exact h.call rfl rfl rfl rfl rfl
  | requestSnapshot =>
      simp only [DeviceInput.apply, requestExternalSnapshot]
      split
      · exact h
      · exact h.call rfl rfl rfl rfl rfl

lemma reachable_counted (h : ((deviceService cfg).restrict AcceptsProvisioned).Reachable s) :
    WorkCounted s := by
  refine Machine.Reachable.invariant (fun s h0 => ?_) (fun s input _ hcounted henabled => ?_) h
  · obtain ⟨records, systemNow, now, rfl⟩ := h0
    refine ⟨⟨rfl, fun before delta hmem => ?_⟩, .of_phase fun deviceIds hphase => ?_⟩
    · cases hmem
    · cases hphase
  · exact next_counted hcounted henabled.1 henabled.2

/-- **The counter is balanced**, and never taken below zero, in every run in which the
directory accepts the records that submitted registrations are answered with. -/
theorem balanced_of_accepting (h : ((deviceService cfg).restrict AcceptsProvisioned).Reachable s) :
    s.outstanding = s.submittedRegistrations + s.submitted.keys.length ∧
      ∀ before delta, DeviceEvent.adjusted before delta ∈ s.events →
        0 ≤ (before : ℤ) + delta :=
  ⟨(reachable_counted h).balanced.outstanding, (reachable_counted h).balanced.safe⟩

end

/-- Device `a` is provisioned, and its first write is on its way. -/
def provisionedCues : List Cue :=
  [.go, .go, .receive (sampleRegistration "a" "a1"), .go, .go, .go, .go, .go, .go, .go, .go,
    .answer
      { kind := .provisioned
        deviceId := "a"
        revision := 1
        provisioned := some (flightController "a" none) },
    .go, .go, .go, .go, .go, .go, .go, .go]

def provisionedSample : DeviceService :=
  perform sampleDeviceConfig sampleStart provisionedCues

theorem balanced_provisioned :
    provisionedSample.outstanding = 1 ∧ provisionedSample.submittedRegistrations +
      provisionedSample.submitted.keys.length = 1 := by
  have hmeets : Meets sampleDeviceConfig AcceptsProvisioned sampleStart
      provisionedCues := by decide +kernel
  have hone : provisionedSample.outstanding = 1 := by decide +kernel
  have hbalanced := (balanced_of_accepting (s := provisionedSample)
    (reachable_perform reachable_sampleStart hmeets)).1
  exact ⟨hone, hbalanced.symm.trans hone⟩

/-- Device `b` takes the label `1` while the database provisions device `a` with it. -/
def refusedCues : List Cue :=
  [.go, .go, .receive (sampleRegistration "b" "b1"), .receive (sampleRegistration "a" "a1"),
    .go, .go, .go, .go, .go, .go, .go, .go, .go,
    .answer
      { kind := .provisioned
        deviceId := "a"
        revision := 1
        provisioned := some (flightController "a" (some "1")) },
    .answer
      { kind := .writeCompleted
        deviceId := "b"
        revision := 2 },
    .answer
      { kind := .unavailable
        deviceId := "b"
        revision := 3 }]

def refused : DeviceService :=
  perform sampleDeviceConfig sampleStart refusedCues

/-- The registration of `a` is counted off when its record is refused, and again when
the connection is lost. -/
theorem unbalanced_refused :
    (deviceService sampleDeviceConfig).Reachable refused ∧
      ∃ before delta, DeviceEvent.adjusted before delta ∈ refused.events ∧
        (before : ℤ) + delta < 0 := by
  have hmeets : Meets sampleDeviceConfig (fun _ _ => True)
      sampleStart refusedCues := by decide +kernel
  have hreach : (deviceService sampleDeviceConfig).Reachable refused :=
    (reachable_perform reachable_sampleStart hmeets).of_restrict
  have hbelow : refused.events.any (fun event =>
      match event with
      | .adjusted before delta => (before : ℤ) + delta < 0
      | _ => false) = true := by decide +kernel
  obtain ⟨event, hmem, hevent⟩ := List.any_eq_true.mp hbelow
  cases event with
  | adjusted before delta => exact ⟨hreach, before, delta, hmem, of_decide_eq_true hevent⟩
  | published state => cases hevent
  | snapshot states => cases hevent
  | informed message => cases hevent
  | diagnosed message => cases hevent

end CnsServer
