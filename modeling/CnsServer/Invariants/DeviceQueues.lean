/-
Where the contents of the queues between the service and the database thread come from.

* `provision_next`, `hand_next`: a queued provision, and the one in hand;
* `SameVersion`, `pending_next`: a queued write, and the one in hand;
* `results_next`: a result that carries a record;
* `Registrations`, `registrations_next`: what holds of every registration that comes in
  holds of all on their way to the database.
-/
import CnsServer.Properties.WriteMerging
import CnsServer.Runtime.DeviceRuntime

namespace CnsServer

open DeviceSide

section

variable {d : DeviceSide} {e : DeviceExchange} {input : DeviceSideInput}

/-! ### The side of the thread -/

/-- A queued provision was there, or has just been submitted. -/
lemma provision_next {deviceId : String} {task : ProvisionTask}
    (h : (d.next input).provisions.lookup deviceId = some task) :
    d.provisions.lookup deviceId = some task ∨ deviceId = task.registration.deviceId ∧
      input = .submitProvision task.registration task.receivedAt := by
  cases input with
  | submitProvision registration receivedAt =>
      simp only [DeviceSide.next] at h
      split at h
      · exact .inl h
      · rcases Map.lookup_insert_some.mp h with ⟨rfl, rfl⟩ | ⟨-, hbefore⟩
        · exact .inr ⟨rfl, rfl⟩
        · exact .inl hbefore
  | submitWrite write =>
      simp only [DeviceSide.next] at h
      split at h
      · exact .inl h
      · exact .inl h
  | takeProvision taken task => exact .inl (Map.lookup_erase_some.mp h).2
  | validationFailed => cases h
  | lost => cases h
  | provisionEnded ended result =>
      simp only [DeviceSide.next, endProvision] at h
      split at h
      · exact .inl (Map.lookup_erase_some.mp h).2
      · split at h
        · cases h
        · exact .inl (Map.lookup_erase_some.mp h).2
  | writeEnded write result =>
      simp only [DeviceSide.next, endWrite] at h
      split at h
      · exact .inl h
      · split at h
        · cases h
        · exact .inl h
  | _ => exact .inl h

/-- The provision in hand was there, or in the queue. -/
lemma hand_next {task : ProvisionTask} (henabled : d.Enabled input)
    (h : (d.next input).hand = .provision task) :
    d.hand = .provision task ∨ ∃ deviceId, d.provisions.lookup deviceId = some task := by
  cases input with
  | submitProvision registration receivedAt =>
      simp only [DeviceSide.next] at h
      split at h
      · exact .inl h
      · exact .inl h
  | submitWrite write =>
      simp only [DeviceSide.next] at h
      split at h
      · exact .inl h
      · exact .inl h
  | takeProvision deviceId taken =>
      cases h
      exact .inr ⟨deviceId, henabled.2.2⟩
  | takeWrite deviceId write => cases h
  | provisionEnded ended result =>
      simp only [DeviceSide.next, endProvision] at h
      split at h
      · cases h
      · split at h
        · cases h
        · cases h
  | writeEnded write result =>
      simp only [DeviceSide.next, endWrite] at h
      split at h
      · cases h
      · split at h
        · cases h
        · cases h
  | _ => exact .inl h

/-- The two writes have the same record, under the same revision. -/
def SameVersion (write old : DesiredDeviceWrite) : Prop :=
  write.record = old.record ∧ write.revision = old.revision

lemma SameVersion.trans {write old older : DesiredDeviceWrite} (h : SameVersion write old)
    (h' : SameVersion old older) : SameVersion write older :=
  ⟨h.1.trans h'.1, h.2.trans h'.2⟩

/-- A merged write has the record of one of the two. -/
lemma joined_version (current : Option DesiredDeviceWrite) (write : DesiredDeviceWrite) :
    SameVersion (joined current write) write ∨
      ∃ queued ∈ current, SameVersion (joined current write) queued := by
  cases current with
  | none => exact .inl ⟨rfl, rfl⟩
  | some queued =>
      simp only [SameVersion, joined, WorkerLoop.mergedWrite, Option.mem_def, Option.some_inj]
      split
      · exact .inl ⟨rfl, rfl⟩
      · exact .inr ⟨queued, rfl, rfl, rfl⟩

lemma pending_merge {write pending : DesiredDeviceWrite}
    (h : (d.mergeWrite write).Pending pending) :
    ∃ old, (d.Pending old ∨ old = write) ∧ SameVersion pending old := by
  rcases h with hhand | ⟨deviceId, hlookup⟩
  · exact ⟨pending, .inl (.inl hhand), rfl, rfl⟩
  · rcases lookup_mergeWrite hlookup with ⟨-, rfl⟩ | ⟨-, hbefore⟩
    · rcases joined_version (d.writes.lookup write.deviceId) write with hnew |
        ⟨queued, hqueued, hold⟩
      · exact ⟨write, .inr rfl, hnew⟩
      · exact ⟨queued, .inl (.inr ⟨_, hqueued⟩), hold⟩
    · exact ⟨pending, .inl (.inr ⟨deviceId, hbefore⟩), rfl, rfl⟩

/-- A write that is queued or in hand has the record of one that was, or that has just
been submitted. -/
lemma pending_next {pending : DesiredDeviceWrite} (henabled : d.Enabled input)
    (h : (d.next input).Pending pending) :
    ∃ old, (d.Pending old ∨ input = .submitWrite old) ∧ SameVersion pending old := by
  have hsame : ∀ {d' : DeviceSide}, d'.writes = d.writes → d'.hand = d.hand →
      d'.Pending pending → d.Pending pending := by
    intro d' hwrites hhand hpending
    rcases hpending with hinhand | ⟨deviceId, hlookup⟩
    · exact .inl (hhand ▸ hinhand)
    · exact .inr ⟨deviceId, hwrites ▸ hlookup⟩
  have hfree : ∀ write, DeviceHand.free ≠ .write write := by
    intro write hfree
    cases hfree
  cases input with
  | submitProvision registration receivedAt =>
      refine ⟨pending, .inl (hsame ?_ ?_ h), rfl, rfl⟩
      · simp only [DeviceSide.next]
        split
        · rfl
        · rfl
      · simp only [DeviceSide.next]
        split
        · rfl
        · rfl
  | submitWrite write =>
      simp only [DeviceSide.next] at h
      split at h
      · exact ⟨pending, .inl h, rfl, rfl⟩
      · obtain ⟨old, hold | rfl, hversion⟩ := pending_merge h
        · exact ⟨old, .inl hold, hversion⟩
        · exact ⟨old, .inr rfl, hversion⟩
  | takeProvision deviceId task =>
      rcases h with hhand | ⟨key, hlookup⟩
      · cases hhand
      · exact ⟨pending, .inl (.inr ⟨key, hlookup⟩), rfl, rfl⟩
  | takeWrite deviceId write =>
      rcases h with hhand | ⟨key, hlookup⟩
      · cases hhand
        exact ⟨pending, .inl (.inr ⟨deviceId, henabled.2.2⟩), rfl, rfl⟩
      · exact ⟨pending, .inl (.inr ⟨key, (Map.lookup_erase_some.mp hlookup).2⟩), rfl, rfl⟩
  | validationFailed =>
      rcases h with hhand | ⟨key, hlookup⟩
      · exact ⟨pending, .inl (.inl hhand), rfl, rfl⟩
      · cases hlookup
  | provisionEnded task result =>
      have hqueued : ∃ key, d.writes.lookup key = some pending := by
        simp only [DeviceSide.next, endProvision] at h
        split at h
        · exact h.resolve_left (hfree _)
        · split at h
          · exact h.resolve_left (hfree _)
          · exact h.resolve_left (hfree _)
      exact ⟨pending, .inl (.inr hqueued), rfl, rfl⟩
  | writeEnded write result =>
      simp only [DeviceSide.next, endWrite] at h
      split at h
      · exact ⟨pending, .inl (.inr (h.resolve_left (hfree _))), rfl, rfl⟩
      · split at h
        · -- the connection is lost: the write in hand goes back to the queue
          have hmerged : (mergeWrite { d with hand := .free }.disconnect write).Pending pending := h
          obtain ⟨old, hold | rfl, hversion⟩ := pending_merge hmerged
          · exact ⟨old, .inl (.inr (hold.resolve_left (hfree _))), hversion⟩
          · exact ⟨old, .inl (.inl henabled.2), hversion⟩
        · exact ⟨pending, .inl (.inr (h.resolve_left (hfree _))), rfl, rfl⟩
  | _ => exact ⟨pending, .inl (hsame rfl rfl h), rfl, rfl⟩

/-- A result with a record was there, or ends a provision. -/
lemma results_next {answer : DatabaseResult} {record : DeviceRecord}
    (h : answer ∈ (d.next input).results) (hrecord : answer.provisioned = some record) :
    answer ∈ d.results ∨ ∃ task, input = .provisionEnded task (.ok record) := by
  have hemitted : ∀ {new : DatabaseResult}, new.provisioned = none →
      answer ∈ d.results ++ [new] → answer ∈ d.results := by
    intro new hnone hmem
    rcases List.mem_append.mp hmem with hbefore | hself
    · exact hbefore
    · rw [List.mem_singleton.mp hself, hnone] at hrecord
      cases hrecord
  cases input with
  | submitProvision registration receivedAt =>
      simp only [DeviceSide.next] at h
      split at h
      · exact .inl h
      · exact .inl h
  | submitWrite write =>
      simp only [DeviceSide.next] at h
      split at h
      · exact .inl h
      · exact .inl h
  | recovered => exact .inl (hemitted rfl h)
  | validationFailed => exact .inl (hemitted rfl h)
  | crash => exact .inl (hemitted rfl h)
  | provisionEnded task result =>
      simp only [DeviceSide.next, endProvision] at h
      split at h
      · next found =>
          rcases List.mem_append.mp h with hbefore | hself
          · exact .inl hbefore
          · rw [List.mem_singleton.mp hself] at hrecord
            cases hrecord
            exact .inr ⟨task, rfl⟩
      · split at h
        · exact .inl (hemitted rfl h)
        · exact .inl (hemitted rfl h)
  | writeEnded write result =>
      simp only [DeviceSide.next, endWrite] at h
      split at h
      · exact .inl (hemitted rfl h)
      · split at h
        · exact .inl (hemitted rfl h)
        · exact .inl (hemitted rfl h)
  | _ => exact .inl h

/-! ### Between the two -/

/-- The registrations on the way to the database. -/
structure DeviceExchange.Registrations (Q : Registration → TimePoint → Prop)
    (e : DeviceExchange) : Prop where
  pending : ∀ deviceId candidate, e.work.pending.lookup deviceId = some candidate →
    Q candidate.registration candidate.receivedAt
  queued : ∀ deviceId task, e.side.provisions.lookup deviceId = some task →
    Q task.registration task.receivedAt
  hand : ∀ task, e.side.hand = .provision task → Q task.registration task.receivedAt

/-- A pending registration was there, or has just come in. -/
lemma pending_work {v : DeviceWork} {input : DeviceWorkInput} {deviceId : String}
    {candidate : PendingRegistration}
    (h : (v.next input).pending.lookup deviceId = some candidate) :
    (∃ before, v.pending.lookup deviceId = some before ∧
        candidate.registration = before.registration ∧ candidate.receivedAt = before.receivedAt) ∨
      input = .awaits deviceId candidate.registration candidate.receivedAt := by
  cases input with
  | lost => cases h
  | failed failedId =>
      simp only [DeviceWork.next] at h
      split at h
      · cases h
      · exact .inl ⟨candidate, (Map.lookup_erase_some.mp h).2, rfl, rfl⟩
  | provisioned provisionedId added =>
      simp only [DeviceWork.next] at h
      split at h
      · exact .inl ⟨candidate, (Map.lookup_erase_some.mp h).2, rfl, rfl⟩
      · exact .inl ⟨candidate, h, rfl, rfl⟩
  | completed completedId revision =>
      simp only [DeviceWork.next] at h
      split at h
      · exact .inl ⟨candidate, h, rfl, rfl⟩
      · split at h
        · exact .inl ⟨candidate, h, rfl, rfl⟩
        · exact .inl ⟨candidate, h, rfl, rfl⟩
  | cancelled =>
      obtain ⟨before, hbefore, rfl⟩ := Option.map_eq_some_iff.mp
        ((Map.lookup_mapValues _ v.pending deviceId).symm.trans h)
      exact .inl ⟨before, hbefore, rfl, rfl⟩
  | awaits awaitedId registration receivedAt =>
      simp only [DeviceWork.next] at h
      split at h
      · exact .inl ⟨candidate, h, rfl, rfl⟩
      · rcases Map.lookup_insert_some.mp h with ⟨rfl, rfl⟩ | ⟨-, hbefore⟩
        · exact .inr rfl
        · exact .inl ⟨candidate, hbefore, rfl, rfl⟩
  | submitProvision submittedId outcome =>
      simp only [DeviceWork.next] at h
      split at h
      · exact .inl ⟨candidate, h, rfl, rfl⟩
      · next before hbefore =>
          split at h
          · rcases Map.lookup_insert_some.mp h with ⟨rfl, rfl⟩ | ⟨-, hold⟩
            · exact .inl ⟨before, hbefore, rfl, rfl⟩
            · exact .inl ⟨candidate, hold, rfl, rfl⟩
          · exact .inl ⟨candidate, h, rfl, rfl⟩
  | submitWrite write outcome =>
      simp only [DeviceWork.next] at h
      split at h
      · exact .inl ⟨candidate, h, rfl, rfl⟩
      · exact .inl ⟨candidate, h, rfl, rfl⟩
  | _ => exact .inl ⟨candidate, h, rfl, rfl⟩

lemma sideInput_enabled {v : DeviceWork} (d : DeviceSide) (input : DeviceWorkInput) :
    d.Enabled (input.sideInput v) := by
  rw [DeviceWorkInput.sideInput.eq_def]
  split
  · split
    · trivial
    · trivial
  · trivial
  · trivial

lemma registrations_side {Q : Registration → TimePoint → Prop} (h : e.Registrations Q)
    (henabled : e.side.Enabled input)
    (hsubmitted : ∀ registration receivedAt, input = .submitProvision registration receivedAt →
      Q registration receivedAt) {work : DeviceWork}
    (hwork : ∀ deviceId candidate, work.pending.lookup deviceId = some candidate →
      Q candidate.registration candidate.receivedAt) :
    DeviceExchange.Registrations Q { e with side := e.side.next input, work := work } := by
  refine ⟨hwork, fun deviceId task htask => ?_, fun task htask => ?_⟩
  · rcases provision_next htask with hbefore | ⟨-, hnew⟩
    · exact h.queued deviceId task hbefore
    · exact hsubmitted _ _ hnew
  · rcases hand_next henabled htask with hbefore | ⟨deviceId, hqueued⟩
    · exact h.hand task hbefore
    · exact h.queued deviceId task hqueued

/-- What holds of every registration that comes in holds of all on the way. -/
lemma registrations_next {Q : Registration → TimePoint → Prop} (h : e.Registrations Q)
    {input : ExchangeInput} (henabled : e.Enabled input)
    (hnew : ∀ deviceId registration receivedAt,
      input = .work (.awaits deviceId registration receivedAt) → Q registration receivedAt) :
    (e.next input).Registrations Q := by
  cases input with
  | side input =>
      refine registrations_side h henabled.1 (fun registration receivedAt hcall => ?_) h.pending
      subst hcall
      exact absurd trivial henabled.2
  | deliver => exact ⟨h.pending, h.queued, h.hand⟩
  | handle answer added =>
      refine ⟨fun deviceId candidate hcandidate => ?_, h.queued, h.hand⟩
      rcases pending_work hcandidate with ⟨before, hbefore, hregistration, hreceived⟩ | hawaits
      · rw [hregistration, hreceived]
        exact h.pending deviceId before hbefore
      · simp only [DatabaseResult.workInput] at hawaits
        split at hawaits
        · cases hawaits
        · cases hawaits
        · cases hawaits
        · split at hawaits
          · cases hawaits
          · cases hawaits
        · cases hawaits
  | work input =>
      refine registrations_side h (sideInput_enabled e.side input)
        (fun registration receivedAt hsubmit => ?_)
        fun deviceId candidate hcandidate => ?_
      · -- the service submits what is pending
        rw [DeviceWorkInput.sideInput.eq_def] at hsubmit
        split at hsubmit
        · split at hsubmit
          · next candidate hcandidate =>
              cases hsubmit
              exact h.pending _ candidate hcandidate
          · cases hsubmit
        · cases hsubmit
        · cases hsubmit
      · rcases pending_work hcandidate with ⟨before, hbefore, hregistration, hreceived⟩ | hawaits
        · rw [hregistration, hreceived]
          exact h.pending deviceId before hbefore
        · exact hnew _ _ _ (congrArg ExchangeInput.work hawaits)

lemma sideInput_submitWrite {v : DeviceWork} {input : DeviceWorkInput} {write : DesiredDeviceWrite}
    (h : input.sideInput v = .submitWrite write) :
    ∃ outcome, input = .submitWrite write outcome := by
  cases input with
  | submitWrite submitted outcome =>
      cases h
      exact ⟨outcome, rfl⟩
  | submitProvision deviceId outcome =>
      simp only [DeviceWorkInput.sideInput] at h
      split at h
      · cases h
      · cases h
  | _ => cases h

/-- A write that is queued or in hand has the record of one that was, or that the service
has just submitted. -/
lemma pending_exchange {input : ExchangeInput} {pending : DesiredDeviceWrite}
    (henabled : e.Enabled input) (h : (e.next input).side.Pending pending) :
    ∃ old, (e.side.Pending old ∨ ∃ outcome, input = .work (.submitWrite old outcome)) ∧
      SameVersion pending old := by
  cases input with
  | side input =>
      obtain ⟨old, hold | rfl, hversion⟩ := pending_next henabled.1 h
      · exact ⟨old, .inl hold, hversion⟩
      · exact absurd trivial henabled.2
  | deliver => exact ⟨pending, .inl h, rfl, rfl⟩
  | handle answer added => exact ⟨pending, .inl h, rfl, rfl⟩
  | work input =>
      obtain ⟨old, hold | hcall, hversion⟩ := pending_next (sideInput_enabled e.side input) h
      · exact ⟨old, .inl hold, hversion⟩
      · obtain ⟨outcome, rfl⟩ := sideInput_submitWrite hcall
        exact ⟨old, .inr ⟨outcome, rfl⟩, hversion⟩

/-- A result with a record was on its way, or ends a provision. -/
lemma answers_exchange {input : ExchangeInput} {answer : DatabaseResult} {record : DeviceRecord}
    (h : answer ∈ (e.next input).inbox ++ (e.next input).side.results)
    (hrecord : answer.provisioned = some record) :
    answer ∈ e.inbox ++ e.side.results ∨
      ∃ task, input = .side (.provisionEnded task (.ok record)) := by
  have hside : ∀ {input : DeviceSideInput}, answer ∈ e.inbox ++ (e.side.next input).results →
      answer ∈ e.inbox ++ e.side.results ∨ ∃ task, input = .provisionEnded task (.ok record) := by
    intro input hmem
    rcases List.mem_append.mp hmem with hinbox | hresults
    · exact .inl (List.mem_append_left _ hinbox)
    · rcases results_next hresults hrecord with hbefore | hnew
      · exact .inl (List.mem_append_right _ hbefore)
      · exact .inr hnew
  cases input with
  | side input =>
      rcases hside h with hbefore | ⟨task, rfl⟩
      · exact .inl hbefore
      · exact .inr ⟨task, rfl⟩
  | deliver =>
      refine .inl ?_
      simp only [DeviceExchange.next] at h
      rw [List.append_assoc, ← List.drop_one, List.take_append_drop] at h
      exact h
  | handle answered added =>
      rcases List.mem_append.mp h with hinbox | hresults
      · exact .inl (List.mem_append_left _ (List.mem_of_mem_tail hinbox))
      · exact .inl (List.mem_append_right _ hresults)
  | work input =>
      rcases hside h with hbefore | ⟨task, hcall⟩
      · exact .inl hbefore
      · exfalso
        cases input with
        | submitProvision deviceId outcome =>
            simp only [DeviceWorkInput.sideInput] at hcall
            split at hcall
            · cases hcall
            · cases hcall
        | _ => cases hcall

/-! ### What the steps of the runtime put into them -/

variable {cfg : DeviceServiceConfig} {r : DeviceRuntime}

/-- The end of a provision with a record is a call of the store that returned it. -/
lemma exchangeInput_provisionEnded {input : RuntimeInput} {task : ProvisionTask}
    {record : DeviceRecord}
    (h : input.exchangeInput cfg r = .side (.provisionEnded task (.ok record))) :
    r.worker.hand = .provision task ∧
      ∃ now, input = .worker (.provisioned (.returned (.ok record)) now) := by
  cases input with
  | worker input =>
      have hside := ExchangeInput.side.inj h
      cases input with
      | provisioned outcome now =>
          simp only [WorkerInput.deviceInput] at hside
          split at hside
          · next held hhand =>
              obtain ⟨rfl, hresult⟩ := DeviceSideInput.provisionEnded.inj hside
              refine ⟨hhand, now, ?_⟩
              cases outcome with
              | returned answer =>
                  rw [show answer = .ok record from hresult]
              | threw standard => cases hresult
          · cases hside
      | select stopRequested first now =>
          simp only [WorkerInput.deviceInput, WorkerLoop.selected] at hside
          repeat' split at hside
          all_goals cases hside
      | reconnected outcome now =>
          simp only [WorkerInput.deviceInput, reconnectionInput] at hside
          repeat' split at hside
          all_goals cases hside
      | executed outcome now =>
          simp only [WorkerInput.deviceInput, commandInput] at hside
          repeat' split at hside
          all_goals cases hside
      | written outcome now =>
          simp only [WorkerInput.deviceInput] at hside
          split at hside
          · cases hside
          · cases hside
      | _ => cases hside
  | deliver => cases h
  | service input =>
      simp only [RuntimeInput.exchangeInput] at h
      split at h
      · cases h
      · cases h

/-- The service submits a write that it is about to submit. -/
lemma exchangeInput_submitWrite {input : RuntimeInput} {write : DesiredDeviceWrite}
    {outcome : SubmitOutcome} (h : input.exchangeInput cfg r = .work (.submitWrite write outcome)) :
    ∃ now, input = .service (.write outcome now) ∧
      ((∃ writes, r.service.phase = .replaying (write :: writes)) ∨
        ∃ batch writes accepted,
          r.service.phase = .dispatching batch (write :: writes) accepted) := by
  cases input with
  | worker input => cases h
  | deliver => cases h
  | service input =>
      simp only [RuntimeInput.exchangeInput] at h
      split at h
      · cases h
      · have hwork := ExchangeInput.work.inj h
        cases input with
        | write submitted now =>
            simp only [DeviceInput.workInput] at hwork
            split at hwork
            · next desired writes hphase =>
                cases hwork
                exact ⟨now, rfl, .inl ⟨writes, hphase⟩⟩
            · next batch desired writes accepted hphase =>
                cases hwork
                exact ⟨now, rfl, .inr ⟨batch, writes, accepted, hphase⟩⟩
            · cases hwork
        | result answer writes now => next hnone => cases hnone
        | resultsDone =>
            simp only [DeviceInput.workInput] at hwork
            split at hwork
            · cases hwork
            · cases hwork
        | message inbound now =>
            simp only [DeviceInput.workInput, DeviceService.messageInput] at hwork
            repeat' split at hwork
            all_goals cases hwork
        | provision submitted =>
            simp only [DeviceInput.workInput] at hwork
            split at hwork
            · cases hwork
            · cases hwork
        | _ => cases hwork

/-- A registration comes in by a message. -/
lemma exchangeInput_awaits {input : RuntimeInput} {deviceId : String} {registration : Registration}
    {receivedAt : TimePoint}
    (h : input.exchangeInput cfg r = .work (.awaits deviceId registration receivedAt)) :
    ∃ inbound now, input = .service (.message inbound now) ∧ inbound.receivedAt = receivedAt ∧
      parseRegistration (cfg.parseJson inbound.payload) deviceId = .ok registration := by
  cases input with
  | worker input => cases h
  | deliver => cases h
  | service input =>
      simp only [RuntimeInput.exchangeInput] at h
      split at h
      · cases h
      · have hwork := ExchangeInput.work.inj h
        cases input with
        | message inbound now =>
            simp only [DeviceInput.workInput, DeviceService.messageInput] at hwork
            split at hwork
            · split at hwork
              · next parsed hparsed =>
                  split at hwork
                  · cases hwork
                  · cases hwork
                    exact ⟨inbound, now, rfl, rfl, hparsed⟩
              · cases hwork
            · cases hwork
        | result answer writes now => next hnone => cases hnone
        | resultsDone =>
            simp only [DeviceInput.workInput] at hwork
            split at hwork
            · cases hwork
            · cases hwork
        | provision submitted =>
            simp only [DeviceInput.workInput] at hwork
            split at hwork
            · cases hwork
            · cases hwork
        | write submitted now =>
            simp only [DeviceInput.workInput] at hwork
            repeat' split at hwork
            all_goals cases hwork
        | _ => cases hwork

end

end CnsServer
