/-
What becomes of a registration that has been submitted.

* `Underway`: the provision of the device is queued, in hand, or answered by a result
  on its way;
* `ProvisionsTracked`: it is, for every pending registration that has been submitted;
  one lemma for each kind of step;
* `ProvisionsKept`: no command finds that the connection is lost while the provision of
  such a registration is queued, and the directory lets the provisioned devices in;
* `provision_underway`: **no submitted registration is forgotten**, in every run in
  which this is so;
* `provision_forgotten`: the loss of the connection under a command clears the queue,
  and the registration stays submitted for ever.
-/
import CnsServer.Invariants.DeviceKeys
import CnsServer.Properties.Availability
import CnsServer.Properties.OutstandingWork

namespace CnsServer

open DeviceService

/-- The result concerns the registration of a device: it is for the device, or for all
of them. -/
def ConcernsPending (deviceId : String) (answer : DatabaseResult) : Prop :=
  answer.kind = .unavailable ∨
    (answer.kind = .permanentFailure ∧ (answer.deviceId = deviceId ∨ answer.deviceId = "")) ∨
    (answer.kind = .provisioned ∧ answer.deviceId = deviceId ∧ answer.provisioned.isSome = true)

instance (deviceId : String) (answer : DatabaseResult) :
    Decidable (ConcernsPending deviceId answer) :=
  inferInstanceAs (Decidable (_ ∨ _))

/-- The provision of the device is queued, in hand, or answered. -/
def Underway (e : DeviceExchange) (deviceId : String) : Prop :=
  (e.side.provisions.lookup deviceId).isSome = true ∨
    (∃ task, e.side.hand = .provision task ∧ task.registration.deviceId = deviceId) ∨
    ∃ answer ∈ e.inbox ++ e.side.results, ConcernsPending deviceId answer

/-- The provisions stand under the devices they are for, and every submitted
registration has one underway. -/
structure ProvisionsTracked (e : DeviceExchange) : Prop where
  keyed : PendingKeyed e.work.pending
  queued : ∀ deviceId task, e.side.provisions.lookup deviceId = some task →
    task.registration.deviceId = deviceId
  underway : ∀ deviceId candidate, e.work.pending.lookup deviceId = some candidate →
    candidate.submitted = true → Underway e deviceId

/-- The queue keeps what it has, unless a result is on its way: a command that finds
the connection lost discards no provision that somebody waits for. -/
def DiscardsNothing (r : DeviceRuntime) (input : RuntimeInput) : Prop :=
  input.losesCommand = true → ∀ deviceId ∈ r.worker.provisions.keys,
    ∀ candidate ∈ r.service.pending.lookup deviceId, candidate.submitted = true →
      ∃ answer ∈ r.inbox ++ r.worker.results, ConcernsPending deviceId answer

/-- The step of the service, if it is one. -/
def RuntimeInput.serviceInput? : RuntimeInput → Option DeviceInput
  | .service input => some input
  | _ => none

/-- A step of the service lets in the device that has been provisioned. -/
def LetsProvisionedIn (r : DeviceRuntime) (input : RuntimeInput) : Prop :=
  ∀ step ∈ input.serviceInput?, AcceptsProvisioned r.service step

/-- The queued provisions are kept, and the provisioned devices are let in. -/
def ProvisionsKept (r : DeviceRuntime) (input : RuntimeInput) : Prop :=
  DiscardsNothing r input ∧ LetsProvisionedIn r input

instance (r : DeviceRuntime) (input : RuntimeInput) : Decidable (ProvisionsKept r input) :=
  inferInstanceAs (Decidable ((input.losesCommand = true → ∀ deviceId ∈ r.worker.provisions.keys,
    ∀ candidate ∈ r.service.pending.lookup deviceId, candidate.submitted = true →
      ∃ answer ∈ r.inbox ++ r.worker.results, ConcernsPending deviceId answer) ∧
    ∀ step ∈ input.serviceInput?, AcceptsProvisioned r.service step))

section

variable {wcfg : WorkerConfig} {cfg : DeviceServiceConfig} {r : DeviceRuntime}
  {e e' : DeviceExchange}

/-! ### The side of the thread -/

lemma Underway.of_results {deviceId : String} (h : Underway e deviceId)
    (hprovisions : (e.side.provisions.lookup deviceId).isSome = true →
      Underway e' deviceId)
    (hhand : ∀ task, e.side.hand = .provision task → task.registration.deviceId = deviceId →
      Underway e' deviceId)
    (hresults : ∀ answer ∈ e.inbox ++ e.side.results,
      answer ∈ e'.inbox ++ e'.side.results) : Underway e' deviceId := by
  rcases h with hqueued | ⟨task, htask, hid⟩ | ⟨answer, hmem, hanswer⟩
  · exact hprovisions hqueued
  · exact hhand task htask hid
  · exact .inr (.inr ⟨answer, hresults answer hmem, hanswer⟩)

/-- A result that concerns all registrations. -/
lemma underway_all {answer : DatabaseResult} (hmem : answer ∈ e.inbox ++ e.side.results)
    (h : answer.kind = .unavailable ∨ answer.kind = .permanentFailure ∧ answer.deviceId = "")
    (deviceId : String) : Underway e deviceId := by
  refine .inr (.inr ⟨answer, hmem, ?_⟩)
  rcases h with hkind | ⟨hkind, hall⟩
  · exact .inl hkind
  · exact .inr (.inl ⟨hkind, .inr hall⟩)

lemma mem_emit {d : DeviceSide} {inbox : List DatabaseResult} {answer new : DatabaseResult}
    (h : answer ∈ inbox ++ d.results) : answer ∈ inbox ++ (d.emit new).results := by
  rcases List.mem_append.mp h with h | h
  · exact List.mem_append_left _ h
  · exact List.mem_append_right _ (List.mem_append_left _ h)

lemma mem_emit_self (d : DeviceSide) (inbox : List DatabaseResult) (new : DatabaseResult) :
    new ∈ inbox ++ (d.emit new).results :=
  List.mem_append_right _ (List.mem_append_right _ (List.mem_singleton_self new))

/-- The task in hand ends with a result for its device. -/
lemma endProvision_underway {task : ProvisionTask} (hhand : e.side.hand = .provision task)
    (result : Except DatabaseError DeviceRecord) {deviceId : String}
    (h : Underway e deviceId) :
    Underway { e with side := e.side.next (.provisionEnded task result) } deviceId := by
  have hself : ∀ other, e.side.hand = .provision other → other = task := by
    intro other hother
    rw [hhand] at hother
    exact (DeviceHand.provision.inj hother).symm
  -- a queued provision of another device stays in the queue, unless all are cleared
  have herased : (e.side.provisions.lookup deviceId).isSome = true →
      deviceId ≠ task.registration.deviceId →
      ((e.side.provisions.erase task.registration.deviceId).lookup deviceId).isSome = true := by
    intro hqueued hne
    rw [AList.lookup_erase_ne hne]
    exact hqueued
  simp only [DeviceSide.next, DeviceSide.endProvision]
  cases result with
  | ok record =>
      dsimp only
      have hanswer : deviceId = task.registration.deviceId → Underway
          { e with
            side := DeviceSide.emit { e.side with
              provisioning := e.side.provisioning.erase task.registration.deviceId
              provisions := e.side.provisions.erase task.registration.deviceId
              hand := .free }
              { kind := .provisioned
                deviceId := task.registration.deviceId
                revision := record.revision
                provisioned := some record } } deviceId := by
        intro hid
        exact .inr (.inr ⟨_, mem_emit_self _ _ _, .inr (.inr ⟨rfl, hid.symm, rfl⟩)⟩)
      by_cases hid : deviceId = task.registration.deviceId
      · exact hanswer hid
      · refine h.of_results (fun hqueued => .inl (herased hqueued hid)) ?_ fun _ => mem_emit
        intro other hother hdevice
        rw [hself other hother] at hdevice
        exact absurd hdevice.symm hid
  | error error =>
      dsimp only
      split
      · exact underway_all (mem_emit_self _ _ _) (.inl rfl) deviceId
      · by_cases hid : deviceId = task.registration.deviceId
        · exact .inr (.inr ⟨_, mem_emit_self _ _ _, .inr (.inl ⟨rfl, .inl hid.symm⟩)⟩)
        · refine h.of_results (fun hqueued => .inl (herased hqueued hid)) ?_ fun _ => mem_emit
          intro other hother hdevice
          rw [hself other hother] at hdevice
          exact absurd hdevice.symm hid

lemma endWrite_underway {write : DesiredDeviceWrite} (hhand : e.side.hand = .write write)
    (result : Except DatabaseError Unit) {deviceId : String} (h : Underway e deviceId) :
    Underway { e with side := e.side.next (.writeEnded write result) } deviceId := by
  have hnot : ∀ task, e.side.hand ≠ .provision task := by
    intro task htask
    rw [hhand] at htask
    cases htask
  simp only [DeviceSide.next, DeviceSide.endWrite]
  cases result with
  | ok _ =>
      exact h.of_results .inl (fun task htask => absurd htask (hnot task)) fun _ => mem_emit
  | error error =>
      dsimp only
      split
      · exact underway_all (mem_emit_self _ _ _) (.inl rfl) deviceId
      · exact h.of_results .inl (fun task htask => absurd htask (hnot task)) fun _ => mem_emit

/-- What the thread does leaves every provision underway, unless a command finds that the
connection is lost. -/
lemma side_underway (hqueued : ∀ deviceId task, e.side.provisions.lookup deviceId = some task →
      task.registration.deviceId = deviceId) {input : DeviceSideInput}
    (henabled : e.side.Enabled input) {deviceId : String}
    (hlost : input = .lost → (e.side.provisions.lookup deviceId).isSome = true →
      ∃ answer ∈ e.inbox ++ e.side.results, ConcernsPending deviceId answer)
    (h : Underway e deviceId) : Underway { e with side := e.side.next input } deviceId := by
  have hfree : ∀ {d : DeviceSide}, d.hand = .free → ∀ task, d.hand ≠ .provision task := by
    intro d hhand task htask
    rw [hhand] at htask
    cases htask
  cases input with
  | skip => exact h
  | submitProvision registration receivedAt =>
      simp only [DeviceSide.next]
      split
      · exact h
      · refine h.of_results (fun hsome => .inl ?_)
          (fun task htask hid => .inr (.inl ⟨task, htask, hid⟩))
          fun _ => id
        dsimp only
        rw [Map.lookup_insert_ite]
        split
        · rfl
        · exact hsome
  | submitWrite write =>
      simp only [DeviceSide.next]
      split
      · exact h
      · exact h
  | close => exact h
  | takeProvision deviceId' task =>
      obtain ⟨-, hhand, htask⟩ := henabled
      refine h.of_results (fun hsome => ?_) (fun other hother => absurd hother (hfree hhand other))
        fun _ => id
      by_cases hid : deviceId = deviceId'
      · exact .inr (.inl ⟨task, rfl, hid ▸ hqueued deviceId' task htask⟩)
      · refine .inl ?_
        simp only [DeviceSide.next]
        rw [AList.lookup_erase_ne hid]
        exact hsome
  | takeWrite deviceId' write =>
      exact h.of_results .inl (fun other hother => absurd hother (hfree henabled.2.1 other))
        fun _ => id
  | stop => exact h
  | recovered =>
      exact h.of_results .inl (fun task htask hid => .inr (.inl ⟨task, htask, hid⟩))
        fun _ => mem_emit
  | validationFailed =>
      exact underway_all (mem_emit_self e.side _ _) (.inr ⟨rfl, rfl⟩) deviceId
  | lost =>
      rcases h with hsome | ⟨task, htask, -⟩ | hanswer
      · exact .inr (.inr (hlost rfl hsome))
      · exact absurd htask (hfree henabled.2 task)
      · exact .inr (.inr hanswer)
  | provisionEnded task result => exact endProvision_underway henabled.2 result h
  | writeEnded write result => exact endWrite_underway henabled.2 result h
  | crash => exact underway_all (mem_emit_self e.side _ _) (.inr ⟨rfl, rfl⟩) deviceId

/-- A provision is queued under the device it is for. -/
lemma side_queued {d : DeviceSide} (h : ∀ deviceId task, d.provisions.lookup deviceId = some task →
      task.registration.deviceId = deviceId) (input : DeviceSideInput) :
    ∀ deviceId task, (d.next input).provisions.lookup deviceId = some task →
      task.registration.deviceId = deviceId := by
  have herase : ∀ key, ∀ deviceId task, (d.provisions.erase key).lookup deviceId = some task →
      task.registration.deviceId = deviceId :=
    fun key deviceId task htask => h deviceId task (Map.lookup_erase_some.mp htask).2
  have hempty : ∀ deviceId (task : ProvisionTask), (∅ : Map String ProvisionTask).lookup deviceId =
      some task → task.registration.deviceId = deviceId := fun deviceId task hnone => by cases hnone
  cases input with
  | submitProvision registration receivedAt =>
      simp only [DeviceSide.next]
      split
      · exact h
      · intro deviceId task htask
        rcases Map.lookup_insert_some.mp htask with ⟨rfl, rfl⟩ | ⟨-, htask⟩
        · rfl
        · exact h deviceId task htask
  | submitWrite write =>
      simp only [DeviceSide.next]
      split
      · exact h
      · exact h
  | takeProvision deviceId task => exact herase deviceId
  | validationFailed => exact hempty
  | lost => exact hempty
  | provisionEnded task result =>
      simp only [DeviceSide.next, DeviceSide.endProvision]
      split
      · exact herase task.registration.deviceId
      · split
        · exact hempty
        · exact herase task.registration.deviceId
  | writeEnded write result =>
      simp only [DeviceSide.next, DeviceSide.endWrite]
      split
      · exact h
      · split
        · exact hempty
        · exact h
  | _ => exact h

/-! ### The side of the service -/

/-- The results that do not concern a registration may go. -/
lemma Underway.tail {answer : DatabaseResult} {rest : List DatabaseResult} {deviceId : String}
    (hinbox : e.inbox = answer :: rest) (h : Underway e deviceId)
    (hanswer : ¬ ConcernsPending deviceId answer) (work : DeviceWork) :
    Underway { e with inbox := e.inbox.tail, work := work } deviceId := by
  rcases h with hqueued | hhand | ⟨other, hmem, hother⟩
  · exact .inl hqueued
  · exact .inr (.inl hhand)
  · refine .inr (.inr ⟨other, ?_, hother⟩)
    rw [hinbox, List.cons_append, List.mem_cons] at hmem
    rcases hmem with rfl | hmem
    · exact absurd hother hanswer
    · dsimp only
      rw [hinbox]
      exact hmem

/-- A registration that is still there after a result is not one that the result
concerns. -/
lemma handled_concerns {v : DeviceWork} {answer : DatabaseResult} {added : Bool}
    (hadded : answer.kind = .provisioned → answer.provisioned.isSome = true →
      ∀ candidate ∈ v.pending.lookup answer.deviceId, candidate.submitted = true → added = true)
    {deviceId : String} {candidate : PendingRegistration}
    (hcandidate : (v.next (answer.workInput v.pending added)).pending.lookup deviceId =
      some candidate) (hsubmitted : candidate.submitted = true) :
    v.pending.lookup deviceId = some candidate ∧ ¬ ConcernsPending deviceId answer := by
  unfold DatabaseResult.workInput at hcandidate
  unfold ConcernsPending
  cases hkind : answer.kind with
  | unavailable =>
      rw [hkind] at hcandidate
      cases hcandidate
  | recovered =>
      rw [hkind] at hcandidate
      exact ⟨hcandidate, by simp⟩
  | writeCompleted =>
      rw [hkind] at hcandidate
      simp only [DeviceWork.next] at hcandidate
      refine ⟨?_, by simp⟩
      split at hcandidate
      · exact hcandidate
      · split at hcandidate
        · exact hcandidate
        · exact hcandidate
  | permanentFailure =>
      rw [hkind] at hcandidate
      simp only [DeviceWork.next] at hcandidate
      split at hcandidate
      · cases hcandidate
      · next hid =>
          obtain ⟨hne, hbefore⟩ := Map.lookup_erase_some.mp hcandidate
          refine ⟨hbefore, ?_⟩
          rintro (hunavailable | ⟨-, hdevice | hall⟩ | ⟨hprovisioned, -⟩)
          · cases hunavailable
          · exact hne hdevice.symm
          · exact hid (String.isEmpty_iff.mpr hall)
          · cases hprovisioned
  | provisioned =>
      rw [hkind] at hcandidate
      dsimp only at hcandidate
      have hnot : v.pending.lookup deviceId = some candidate →
          (answer.deviceId = deviceId → answer.provisioned.isSome = true → False) →
            v.pending.lookup deviceId = some candidate ∧
              ¬ (DatabaseResultKind.provisioned = .unavailable ∨
                (DatabaseResultKind.provisioned = .permanentFailure ∧
                  (answer.deviceId = deviceId ∨ answer.deviceId = "")) ∨
                DatabaseResultKind.provisioned = .provisioned ∧ answer.deviceId = deviceId ∧
                  answer.provisioned.isSome = true) := by
        intro hbefore himpossible
        refine ⟨hbefore, ?_⟩
        rintro (hunavailable | ⟨hfailed, -⟩ | ⟨-, hdevice, hrecord⟩)
        · cases hunavailable
        · cases hfailed
        · exact himpossible hdevice hrecord
      split at hcandidate
      · next hpresent =>
          simp only [DeviceWork.next] at hcandidate
          split at hcandidate
          · obtain ⟨hne, hbefore⟩ := Map.lookup_erase_some.mp hcandidate
            exact hnot hbefore fun hdevice _ => hne hdevice.symm
          · next hrefused =>
              refine hnot hcandidate fun hdevice hrecord => ?_
              exact hrefused (hadded hkind hrecord candidate (hdevice ▸ hcandidate) hsubmitted)
      · next hmissing =>
          refine hnot hcandidate fun hdevice hrecord => hmissing ?_
          have hbefore : v.pending.lookup deviceId = some candidate := hcandidate
          rw [hrecord, hdevice, hbefore]
          rfl

lemma handle_provisionsTracked (h : ProvisionsTracked e) {answer : DatabaseResult} {added : Bool}
    (henabled : e.Enabled (.handle answer added))
    (hadded : answer.kind = .provisioned → answer.provisioned.isSome = true →
      ∀ candidate ∈ e.work.pending.lookup answer.deviceId, candidate.submitted = true →
        added = true) :
    ProvisionsTracked (e.next (.handle answer added)) := by
  obtain ⟨rest, hinbox⟩ := henabled
  refine ⟨?_, h.queued, fun deviceId candidate hcandidate hsubmitted => ?_⟩
  · refine next_pendingKeyed h.keyed ?_
    unfold DatabaseResult.workInput
    split
    · trivial
    · trivial
    · trivial
    · split
      · trivial
      · trivial
    · trivial
  · obtain ⟨hbefore, hconcerns⟩ := handled_concerns hadded hcandidate hsubmitted
    exact (h.underway deviceId candidate hbefore hsubmitted).tail hinbox hconcerns _

/-- A registration that is submitted after a step of the service was so before, or has
just been accepted by the thread. -/
lemma own_submitted {v : DeviceWork} {input : DeviceWorkInput} (hown : input.IsOwn)
    {deviceId : String} {candidate : PendingRegistration}
    (hcandidate : (v.next input).pending.lookup deviceId = some candidate)
    (hsubmitted : candidate.submitted = true) :
    (∃ before, v.pending.lookup deviceId = some before ∧ before.submitted = true) ∨
      (input = .submitProvision deviceId .accepted ∧
        (v.pending.lookup deviceId).isSome = true) := by
  cases input with
  | lost => exact hown.elim
  | recovered => exact hown.elim
  | failed deviceId => exact hown.elim
  | provisioned deviceId added => exact hown.elim
  | completed deviceId revision => exact hown.elim
  | skip => exact .inl ⟨candidate, hcandidate, hsubmitted⟩
  | cancelled =>
      rw [show (v.next .cancelled).pending = v.pending.mapValues _ from rfl,
        Map.lookup_mapValues, Option.map_eq_some_iff] at hcandidate
      obtain ⟨before, -, rfl⟩ := hcandidate
      cases hsubmitted
  | awaits other registration receivedAt =>
      simp only [DeviceWork.next] at hcandidate
      split at hcandidate
      · exact .inl ⟨candidate, hcandidate, hsubmitted⟩
      · rcases Map.lookup_insert_some.mp hcandidate with ⟨rfl, rfl⟩ | ⟨-, hbefore⟩
        · cases hbefore : v.pending.lookup deviceId with
          | none =>
              rw [hbefore] at hsubmitted
              cases hsubmitted
          | some before =>
              rw [hbefore] at hsubmitted
              exact .inl ⟨before, rfl, hsubmitted⟩
        · exact .inl ⟨candidate, hbefore, hsubmitted⟩
  | submitProvision other outcome =>
      simp only [DeviceWork.next] at hcandidate
      split at hcandidate
      · exact .inl ⟨candidate, hcandidate, hsubmitted⟩
      · next before hbefore =>
          split at hcandidate
          · next haccepted =>
              rcases Map.lookup_insert_some.mp hcandidate with ⟨rfl, rfl⟩ | ⟨-, hother⟩
              · rw [haccepted]
                exact .inr ⟨rfl, by rw [hbefore]; rfl⟩
              · exact .inl ⟨candidate, hother, hsubmitted⟩
          · exact .inl ⟨candidate, hcandidate, hsubmitted⟩
  | submitWrite write outcome =>
      simp only [DeviceWork.next] at hcandidate
      split at hcandidate
      · exact .inl ⟨candidate, hcandidate, hsubmitted⟩
      · exact .inl ⟨candidate, hcandidate, hsubmitted⟩

/-- A provision the thread accepts is queued. -/
lemma submitProvision_queued {d : DeviceSide} {registration : Registration}
    {receivedAt : TimePoint} (h : d.accepts (.submitProvision registration receivedAt) = true) :
    ((d.next (.submitProvision registration receivedAt)).provisions.lookup
      registration.deviceId).isSome = true := by
  simp only [DeviceSide.accepts, Bool.not_eq_true'] at h
  simp only [DeviceSide.next]
  rw [h, if_neg Bool.false_ne_true, AList.lookup_insert]
  rfl

lemma work_provisionsTracked (h : ProvisionsTracked e) {input : DeviceWorkInput}
    (henabled : e.Enabled (.work input)) : ProvisionsTracked (e.next (.work input)) := by
  obtain ⟨hown, hkeyed, hanswered⟩ := henabled
  have hcall : e.side.Enabled (input.sideInput e.work) ∧ input.sideInput e.work ≠ .lost := by
    unfold DeviceWorkInput.sideInput
    split
    · split
      · exact ⟨trivial, nofun⟩
      · exact ⟨trivial, nofun⟩
    · exact ⟨trivial, nofun⟩
    · exact ⟨trivial, nofun⟩
  refine ⟨next_pendingKeyed h.keyed hkeyed, side_queued h.queued _,
    fun deviceId candidate hcandidate hsubmitted => ?_⟩
  rcases own_submitted hown hcandidate hsubmitted with ⟨before, hbefore, hwas⟩ | ⟨rfl, hsome⟩
  · exact side_underway h.queued hcall.1 (fun hlost => absurd hlost hcall.2)
      (h.underway deviceId before hbefore hwas)
  · obtain ⟨before, hbefore⟩ := Option.isSome_iff_exists.mp hsome
    have haccepts := (hanswered hsome).mp rfl
    have hdevice : before.registration.deviceId = deviceId := h.keyed deviceId before hbefore
    simp only [DeviceWorkInput.sideInput, hbefore] at haccepts
    have hqueued := submitProvision_queued haccepts
    rw [hdevice] at hqueued
    refine .inl ?_
    simp only [DeviceExchange.next, DeviceWorkInput.sideInput, hbefore]
    exact hqueued

/-! ### Every run -/

lemma next_provisionsTracked {input : RuntimeInput} (h : ProvisionsTracked r.exchange)
    (henabled : r.exchange.Enabled (input.exchangeInput cfg r)) (hok : ProvisionsKept r input) :
    ProvisionsTracked (r.exchange.next (input.exchangeInput cfg r)) := by
  cases input with
  | worker input =>
      refine ⟨h.keyed, side_queued h.queued _, fun deviceId candidate hcandidate hsubmitted => ?_⟩
      refine side_underway h.queued henabled.1 (fun hlost hqueued => ?_)
        (h.underway deviceId candidate hcandidate hsubmitted)
      have hloses : (RuntimeInput.worker input).losesCommand = true := by
        by_contra hconnected
        exact @exchangeInput_lost cfg r _ (Bool.eq_false_iff.mpr hconnected)
          (congrArg ExchangeInput.side hlost)
      obtain ⟨task, htask⟩ := Option.isSome_iff_exists.mp hqueued
      exact hok.1 hloses deviceId (Map.mem_keys_iff.mpr ⟨task, htask⟩) candidate hcandidate
        hsubmitted
  | deliver =>
      refine ⟨h.keyed, h.queued, fun deviceId candidate hcandidate hsubmitted => ?_⟩
      refine (h.underway deviceId candidate hcandidate hsubmitted).of_results .inl
        (fun task htask hid => .inr (.inl ⟨task, htask, hid⟩)) fun answer hmem => ?_
      have hsame : r.exchange.inbox ++ r.exchange.side.results.take 1 ++
          r.exchange.side.results.tail = r.exchange.inbox ++ r.exchange.side.results := by
        rw [List.append_assoc, ← List.drop_one, List.take_append_drop]
      rw [← hsame] at hmem
      exact hmem
  | service input =>
      simp only [RuntimeInput.exchangeInput] at henabled ⊢
      split at henabled
      · next answer hanswer =>
          refine handle_provisionsTracked h henabled fun hkind hrecord candidate hcandidate
            hsubmitted => ?_
          obtain ⟨record, hsome⟩ := Option.isSome_iff_exists.mp hrecord
          simp only [DeviceService.letsIn, hsome]
          exact hok.2 input rfl answer hanswer hkind record hsome candidate hcandidate hsubmitted
      · exact work_provisionsTracked h henabled

lemma reachable_provisionsTracked
    (h : ((deviceRuntime wcfg cfg).restrict ProvisionsKept).Reachable r) :
    ProvisionsTracked r.exchange := by
  refine exchange_invariant (fun writes => ⟨?_, ?_, ?_⟩)
    (fun r input hr henabled hok => next_provisionsTracked hr henabled hok) h
  · intro deviceId candidate hnone
    cases hnone
  · intro deviceId task hnone
    cases hnone
  · intro deviceId candidate hnone
    cases hnone

/-- **No submitted registration is forgotten**: its provision is queued or in hand, or a
result that concerns it is on its way, in every run in which no command that finds the
connection lost discards it and the directory lets the provisioned devices in. -/
theorem provision_underway (h : ((deviceRuntime wcfg cfg).restrict ProvisionsKept).Reachable r)
    {deviceId : String} {candidate : PendingRegistration}
    (hcandidate : r.service.pending.lookup deviceId = some candidate)
    (hsubmitted : candidate.submitted = true) :
    (r.worker.provisions.lookup deviceId).isSome = true ∨
      (∃ task, r.worker.hand = .provision task ∧ task.registration.deviceId = deviceId) ∨
      ∃ answer ∈ r.inbox ++ r.worker.results, ConcernsPending deviceId answer := by
  rcases (reachable_provisionsTracked h).underway deviceId candidate hcandidate hsubmitted with
    hqueued | ⟨task, htask, hid⟩ | hanswer
  · exact .inl hqueued
  · refine .inr (.inl ⟨task, ?_, hid⟩)
    have hdevice : r.worker.hand.device = .provision task := htask
    cases hhand : r.worker.hand with
    | provision other =>
        rw [hhand] at hdevice
        rw [DeviceHand.provision.inj hdevice]
    | _ =>
        rw [hhand] at hdevice
        cases hdevice
  · exact .inr (.inr hanswer)

end

/-- Device `a` registers. -/
def submittedCues : List RuntimeCue :=
  [.service .go, .service .go, .service (.receive (sampleRegistration "a" "a1")), .service .go,
    .service .go]

def submittedSample : DeviceRuntime :=
  performRuntime sampleDeviceConfig sampleRuntime submittedCues

theorem provision_underway_submitted :
    ∃ candidate, submittedSample.service.pending.lookup "a" = some candidate ∧
      candidate.submitted = true ∧
      ((submittedSample.worker.provisions.lookup "a").isSome = true ∨
        (∃ task, submittedSample.worker.hand = .provision task ∧
          task.registration.deviceId = "a") ∨
        ∃ answer ∈ submittedSample.inbox ++ submittedSample.worker.results,
          ConcernsPending "a" answer) := by
  have hmeets : RuntimeMeets sampleDeviceConfig ProvisionsKept sampleRuntime submittedCues := by
    decide +kernel
  have hsubmitted : (submittedSample.service.pending.lookup "a").map PendingRegistration.submitted =
      some true := by decide +kernel
  obtain ⟨candidate, hcandidate, hflag⟩ := Option.map_eq_some_iff.mp hsubmitted
  exact ⟨candidate, hcandidate, hflag,
    provision_underway (r := submittedSample)
      (reachable_performRuntime reachable_sampleRuntime hmeets) hcandidate hflag⟩

/-- Device `a` registers, and the connection is lost under a command. -/
def forgottenCues : List RuntimeCue :=
  submittedCues ++ [.command, .thread .works, .thread .breaks]

def forgotten : DeviceRuntime := performRuntime sampleDeviceConfig sampleRuntime forgottenCues

/-- The registration is submitted, and nothing will ever come of it. -/
theorem provision_forgotten :
    (deviceRuntime {} sampleDeviceConfig).Reachable forgotten ∧
      (∃ candidate, forgotten.service.pending.lookup "a" = some candidate ∧
        candidate.submitted = true) ∧
      forgotten.worker.provisions.lookup "a" = none ∧ forgotten.worker.hand = .free ∧
      forgotten.inbox ++ forgotten.worker.results = [] := by
  have hmeets : RuntimeMeets sampleDeviceConfig (fun _ _ => True) sampleRuntime forgottenCues := by
    decide +kernel
  have hsubmitted : (forgotten.service.pending.lookup "a").map PendingRegistration.submitted =
      some true := by decide +kernel
  have hqueue : (forgotten.worker.provisions.lookup "a").isNone = true := by decide +kernel
  have hhand : (match forgotten.worker.hand with
      | .free => true
      | _ => false) = true := by decide +kernel
  have hresults : (forgotten.inbox ++ forgotten.worker.results).isEmpty = true := by
    decide +kernel
  obtain ⟨candidate, hcandidate, hflag⟩ := Option.map_eq_some_iff.mp hsubmitted
  refine ⟨(reachable_performRuntime reachable_sampleRuntime hmeets).of_restrict,
    ⟨candidate, hcandidate, hflag⟩, Option.isNone_iff_eq_none.mp hqueue, ?_,
    List.isEmpty_iff.mp hresults⟩
  split at hhand
  · assumption
  · cases hhand

end CnsServer
