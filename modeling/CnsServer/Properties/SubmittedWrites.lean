/-
The device writes that the service waits for.

* `outstanding`: the revisions of the writes of a device that are answered, executing or
  queued, in this order, which is the one they will be handled in;
* `WriteLedger`: the runtime with the devices the service has submitted a write of, and
  those with a performed write that no `Complete` has followed;
* `DeviceAccount`: a device with outstanding writes is in `submitted_`, under a write
  that the last of them completes and the others do not; one lemma for each kind of step;
* `WritesAnswered`: nothing fails for good while another write of its device is
  outstanding, and no write is submitted again while one of its revision is under way;
* `writes_accounted`: **every outstanding write is accounted for**, in every run in
  which this is so;
* `writes_unaccounted`: an older write fails for good while a newer one is queued, and
  the service takes itself to be idle.
-/
import CnsServer.Properties.PendingProvisions
import CnsServer.Properties.WriteMerging

namespace CnsServer

open DeviceService DeviceSide

/-! ### Outstanding writes -/

/-- The result ends a write of the device. -/
def DatabaseResult.answersWrite (deviceId : String) (answer : DatabaseResult) : Bool :=
  answer.deviceId = deviceId && (answer.kind = .writeCompleted ||
    (answer.kind = .permanentFailure && answer.error = "数据库写入永久失败"))

/-- The revisions of the writes of a device among the results. -/
def answered (deviceId : String) (results : List DatabaseResult) : List ℕ :=
  (results.filter (DatabaseResult.answersWrite deviceId)).map DatabaseResult.revision

/-- The revision of the write of a device that the thread has in hand. -/
def DeviceHand.executing (deviceId : String) : DeviceHand → List ℕ
  | .write desired => if desired.deviceId = deviceId then [desired.revision] else []
  | _ => []

/-- The revision of the queued write of a device. -/
def DeviceSide.waiting (d : DeviceSide) (deviceId : String) : List ℕ :=
  ((d.writes.lookup deviceId).map DesiredDeviceWrite.revision).toList

/-- The writes of a device that have been taken out of the queue and not been handled. -/
def underWay (e : DeviceExchange) (deviceId : String) : List ℕ :=
  answered deviceId (e.inbox ++ e.side.results) ++ e.side.hand.executing deviceId

/-- All writes of a device that have not been handled. -/
def outstanding (e : DeviceExchange) (deviceId : String) : List ℕ :=
  underWay e deviceId ++ e.side.waiting deviceId

/-! ### The ledger -/

/-- The result completes the submitted write of its device. -/
def DeviceWork.completes (v : DeviceWork) (deviceId : String) (revision : ℕ) : Bool :=
  match v.submitted.lookup deviceId with
  | some write => write.revision ≤ revision
  | none => false

/-- A runtime, the devices the service has submitted a write of, and those with a
performed write that has been handled and that no `Complete` has followed. -/
structure WriteLedger where
  runtime : DeviceRuntime
  requested : Finset String
  unmatched : Finset String

/-- The devices with a submitted write after an input. -/
def requestedAfter (requested : Finset String) : ExchangeInput → Finset String
  | .work (.submitWrite write .accepted) => insert write.deviceId requested
  | _ => requested

/-- The devices with an unmatched write after an input. -/
def unmatchedAfter (v : DeviceWork) (requested unmatched : Finset String) :
    ExchangeInput → Finset String
  | .handle answer _ =>
      if answer.kind = .writeCompleted then
        if v.completes answer.deviceId answer.revision then unmatched.erase answer.deviceId
        else if answer.deviceId ∈ requested then insert answer.deviceId unmatched
        else unmatched
      else unmatched
  | _ => unmatched

/-- The runtime with its ledger. -/
def writeLedger (wcfg : WorkerConfig) (cfg : DeviceServiceConfig) :
    Machine WriteLedger RuntimeInput where
  init s := ∃ records systemNow now, s = ⟨.fresh cfg records systemNow now, ∅, ∅⟩
  enabled s := RuntimeInput.Enabled cfg s.runtime
  next s input :=
    { runtime := input.apply wcfg cfg s.runtime
      requested := requestedAfter s.requested (input.exchangeInput cfg s.runtime)
      unmatched := unmatchedAfter s.runtime.service.work s.requested s.unmatched
        (input.exchangeInput cfg s.runtime) }

/-- What must not happen: a failure for good while another write of its device is
outstanding or a performed one unmatched, a write that is submitted while one of its
revision or a newer one is under way, and a request to cancel. -/
def InTurn (e : DeviceExchange) (unmatched : Finset String) : ExchangeInput → Prop
  | .handle answer _ => answer.kind = .permanentFailure → e.side.stopped = false →
      ∀ deviceId ∈ e.work.submitted.keys,
        (answer.deviceId = deviceId ∨ answer.deviceId.isEmpty = true) →
          outstanding { e with inbox := e.inbox.tail } deviceId = [] ∧ deviceId ∉ unmatched
  | .work (.submitWrite write .accepted) =>
      ∀ revision ∈ underWay e write.deviceId, revision < write.revision
  | .work .cancelled => False
  | _ => True

/-- A step of the runtime in turn, which lets in the devices that have been
provisioned. -/
def WritesAnswered (cfg : DeviceServiceConfig) (s : WriteLedger) (input : RuntimeInput) : Prop :=
  InTurn s.runtime.exchange s.unmatched (input.exchangeInput cfg s.runtime) ∧
    LetsProvisionedIn s.runtime input

instance decidableInTurn (e : DeviceExchange) (unmatched : Finset String) :
    ∀ input, Decidable (InTurn e unmatched input)
  | .side _ => .isTrue trivial
  | .deliver => .isTrue trivial
  | .handle answer _ => inferInstanceAs (Decidable (answer.kind = .permanentFailure →
      e.side.stopped = false → ∀ deviceId ∈ e.work.submitted.keys,
        (answer.deviceId = deviceId ∨ answer.deviceId.isEmpty = true) →
          outstanding { e with inbox := e.inbox.tail } deviceId = [] ∧ deviceId ∉ unmatched))
  | .work (.submitWrite write .accepted) =>
      inferInstanceAs (Decidable
        (∀ revision ∈ underWay e write.deviceId, revision < write.revision))
  | .work .cancelled => .isFalse id
  | .work (.submitWrite _ .refused) => .isTrue trivial
  | .work (.submitWrite _ (.threw _)) => .isTrue trivial
  | .work .skip => .isTrue trivial
  | .work .lost => .isTrue trivial
  | .work .recovered => .isTrue trivial
  | .work (.failed _) => .isTrue trivial
  | .work (.provisioned _ _) => .isTrue trivial
  | .work (.completed _ _) => .isTrue trivial
  | .work (.awaits _ _ _) => .isTrue trivial
  | .work (.submitProvision _ _) => .isTrue trivial

instance (cfg : DeviceServiceConfig) (s : WriteLedger) (input : RuntimeInput) :
    Decidable (WritesAnswered cfg s input) :=
  inferInstanceAs (Decidable (InTurn s.runtime.exchange s.unmatched
    (input.exchangeInput cfg s.runtime) ∧
      ∀ step ∈ input.serviceInput?, AcceptsProvisioned s.runtime.service step))

/-- What holds of a device: without outstanding writes the service waits for none and
all performed ones are matched; with outstanding ones it waits for a write that the last
of them completes and no other. -/
structure DeviceAccount (e : DeviceExchange) (requested unmatched : Finset String)
    (deviceId : String) : Prop where
  idle : deviceId ∉ requested ∨ outstanding e deviceId = [] →
    e.work.submitted.lookup deviceId = none ∧ deviceId ∉ unmatched
  busy : deviceId ∈ requested → outstanding e deviceId ≠ [] →
    ∃ write, e.work.submitted.lookup deviceId = some write ∧
      (∀ last ∈ (outstanding e deviceId).getLast?, write.revision ≤ last) ∧
      ∀ revision ∈ (outstanding e deviceId).dropLast, revision < write.revision

section

variable {wcfg : WorkerConfig} {cfg : DeviceServiceConfig} {r : DeviceRuntime}
  {e e' : DeviceExchange} {requested unmatched : Finset String} {deviceId : String}

/-! ### The side of the thread -/

lemma answered_append (results more : List DatabaseResult) :
    answered deviceId (results ++ more) = answered deviceId results ++ answered deviceId more := by
  rw [answered, List.filter_append, List.map_append]
  rfl

lemma answered_other {answer : DatabaseResult} (h : answer.answersWrite deviceId = false) :
    answered deviceId [answer] = [] := by
  rw [answered, List.filter_cons, h]
  rfl

lemma answered_self {answer : DatabaseResult} (h : answer.answersWrite deviceId = true) :
    answered deviceId [answer] = [answer.revision] := by
  rw [answered, List.filter_cons, h]
  rfl

/-- A step that hands results over, or moves them on, changes nothing. -/
lemma outstanding_congr (hresults : answered deviceId (e'.inbox ++ e'.side.results) =
      answered deviceId (e.inbox ++ e.side.results))
    (hhand : e'.side.hand.executing deviceId = e.side.hand.executing deviceId)
    (hwrites : e'.side.writes = e.side.writes) :
    outstanding e' deviceId = outstanding e deviceId := by
  simp only [outstanding, underWay, waiting]
  rw [hresults, hhand, hwrites]

lemma DeviceAccount.congr {requested' unmatched' : Finset String}
    (h : DeviceAccount e requested unmatched deviceId)
    (houtstanding : outstanding e' deviceId = outstanding e deviceId)
    (hsubmitted : e'.work.submitted.lookup deviceId = e.work.submitted.lookup deviceId)
    (hrequested : deviceId ∈ requested' ↔ deviceId ∈ requested)
    (hunmatched : deviceId ∈ unmatched' ↔ deviceId ∈ unmatched) :
    DeviceAccount e' requested' unmatched' deviceId := by
  refine ⟨?_, ?_⟩
  · rw [houtstanding, hsubmitted, hrequested, hunmatched]
    exact h.idle
  · rw [houtstanding, hsubmitted, hrequested]
    exact h.busy

/-- Other results on their way. -/
lemma emit_outstanding {d : DeviceSide} {answer : DatabaseResult}
    (hanswer : answer.answersWrite deviceId = false)
    (hhand : d.hand.executing deviceId = e.side.hand.executing deviceId)
    (hwrites : d.writes = e.side.writes) (hresults : d.results = e.side.results) :
    outstanding { e with side := d.emit answer } deviceId = outstanding e deviceId := by
  refine outstanding_congr ?_ hhand hwrites
  change answered deviceId (e.inbox ++ (d.results ++ [answer])) = _
  rw [← List.append_assoc, answered_append, answered_other hanswer, List.append_nil, hresults]

/-- A queued write is taken. -/
lemma takeWrite_outstanding (hkeyed : e.side.Keyed) {taken : String} {write : DesiredDeviceWrite}
    (hhand : e.side.hand = .free) (hwrite : e.side.writes.lookup taken = some write) :
    outstanding { e with side := e.side.next (.takeWrite taken write) } deviceId =
      outstanding e deviceId := by
  have hid : write.deviceId = taken := hkeyed taken write hwrite
  simp only [outstanding, underWay, waiting]
  simp only [DeviceSide.next, DeviceHand.executing, hhand]
  by_cases hdevice : write.deviceId = deviceId
  · have htaken : deviceId = taken := hdevice.symm.trans hid
    rw [if_pos hdevice, htaken, AList.lookup_erase, hwrite]
    simp
  · have htaken : deviceId ≠ taken := fun h => hdevice (hid.trans h.symm)
    rw [if_neg hdevice, AList.lookup_erase_ne htaken]

/-- The write in hand ends: its revision moves on to the results. -/
lemma ended_outstanding {write : DesiredDeviceWrite} {answer : DatabaseResult}
    (hhand : e.side.hand = .write write) (hdevice : answer.deviceId = write.deviceId)
    (hrevision : answer.revision = write.revision)
    (hanswer : answer.answersWrite answer.deviceId = true) :
    outstanding { e with side := DeviceSide.emit { e.side with hand := .free } answer } deviceId =
      outstanding e deviceId := by
  simp only [outstanding, underWay, waiting]
  simp only [DeviceSide.emit, DeviceHand.executing, hhand]
  rw [← List.append_assoc, answered_append]
  by_cases hid : write.deviceId = deviceId
  · rw [if_pos hid, answered_self (by rw [← hid, ← hdevice]; exact hanswer), hrevision]
    simp
  · rw [if_neg hid, answered_other]
    · simp
    · rw [DatabaseResult.answersWrite]
      rw [hdevice, decide_eq_false hid, Bool.false_and]

/-- The revision that is queued once a write has been merged. -/
lemma waiting_mergeWrite (d : DeviceSide) (write : DesiredDeviceWrite) :
    (d.mergeWrite write).waiting deviceId =
      if deviceId = write.deviceId then
        [(d.waiting deviceId).foldl max write.revision]
      else d.waiting deviceId := by
  unfold waiting mergeWrite
  dsimp only
  rw [Map.lookup_insert_ite]
  by_cases hid : deviceId = write.deviceId
  · subst hid
    rw [if_pos rfl, if_pos rfl]
    cases hcurrent : d.writes.lookup write.record.deviceId with
    | none => simp [joined]
    | some current =>
        simp only [joined, WorkerLoop.mergedWrite, Option.map_some, Option.toList_some,
          List.foldl_cons, List.foldl_nil]
        split
        · next hle => rw [max_eq_left hle]
        · next hlt => rw [max_eq_right (Nat.lt_of_not_le hlt).le]
  · rw [if_neg hid, if_neg hid]

/-- The write in hand is given back: it joins the queue. -/
lemma givenBack_outstanding {write : DesiredDeviceWrite} {answer : DatabaseResult}
    (hhand : e.side.hand = .write write)
    (hanswer : ∀ deviceId, answer.answersWrite deviceId = false) :
    outstanding { e with
      side := (DeviceSide.mergeWrite (DeviceSide.disconnect { e.side with hand := .free })
        write).emit answer } deviceId = outstanding e deviceId ∨
      ∃ before given, outstanding e deviceId = before ++ given :: e.side.waiting deviceId ∧
        outstanding { e with
          side := (DeviceSide.mergeWrite (DeviceSide.disconnect { e.side with hand := .free })
            write).emit answer } deviceId =
          before ++ [(e.side.waiting deviceId).foldl max given] := by
  have hwaiting := @waiting_mergeWrite deviceId
    (DeviceSide.disconnect { e.side with hand := .free }) write
  have hafter : outstanding { e with
      side := (DeviceSide.mergeWrite (DeviceSide.disconnect { e.side with hand := .free })
        write).emit answer } deviceId =
      answered deviceId (e.inbox ++ e.side.results) ++
        if deviceId = write.deviceId then [(e.side.waiting deviceId).foldl max write.revision]
        else e.side.waiting deviceId := by
    refine Eq.trans ?_ (congrArg (answered deviceId (e.inbox ++ e.side.results) ++ ·) hwaiting)
    rw [outstanding, underWay]
    simp only [DeviceSide.emit, DeviceSide.mergeWrite, DeviceSide.disconnect,
      DeviceHand.executing, waiting]
    rw [← List.append_assoc e.inbox, answered_append, answered_other (hanswer deviceId),
      List.append_nil, List.append_nil]
  by_cases hid : deviceId = write.deviceId
  · rw [if_pos hid] at hafter
    refine .inr ⟨_, write.revision, ?_, hafter⟩
    rw [outstanding, underWay]
    rw [hhand]
    simp only [DeviceHand.executing, if_pos hid.symm, List.append_assoc, List.cons_append,
      List.nil_append]
  · rw [if_neg hid] at hafter
    refine .inl (hafter.trans ?_)
    rw [outstanding, underWay]
    rw [hhand]
    simp only [DeviceHand.executing, if_neg fun h : write.deviceId = deviceId => hid h.symm,
      List.append_nil]

/-- A step of the thread leaves the outstanding writes of a device as they are, unless it
gives the one in hand back. -/
lemma side_outstanding (hkeyed : e.side.Keyed) {input : DeviceSideInput}
    (henabled : e.side.Enabled input) (hcall : ¬ input.IsDeviceCall)
    (hrunning : (e.side.next input).stopped = false) :
    outstanding { e with side := e.side.next input } deviceId = outstanding e deviceId ∨
      ∃ before given, outstanding e deviceId = before ++ given :: e.side.waiting deviceId ∧
        outstanding { e with side := e.side.next input } deviceId =
          before ++ [(e.side.waiting deviceId).foldl max given] := by
  cases input with
  | skip => exact .inl rfl
  | submitProvision registration receivedAt => exact absurd trivial hcall
  | submitWrite write => exact absurd trivial hcall
  | close => exact .inl rfl
  | takeProvision taken task =>
      refine .inl (outstanding_congr rfl ?_ rfl)
      rw [henabled.2.1]
      rfl
  | takeWrite taken write => exact .inl (takeWrite_outstanding hkeyed henabled.2.1 henabled.2.2)
  | stop => cases hrunning
  | recovered => exact .inl (emit_outstanding (by simp [DatabaseResult.answersWrite]) rfl rfl rfl)
  | validationFailed => cases hrunning
  | lost => exact .inl rfl
  | provisionEnded task result =>
      refine .inl ?_
      have hhand : DeviceHand.executing deviceId .free = e.side.hand.executing deviceId := by
        rw [henabled.2]
        rfl
      simp only [DeviceSide.next, DeviceSide.endProvision]
      cases result with
      | ok record => exact emit_outstanding (by simp [DatabaseResult.answersWrite]) hhand rfl rfl
      | error error =>
          dsimp only
          split
          · exact emit_outstanding (by simp [DatabaseResult.answersWrite]) hhand rfl rfl
          · exact emit_outstanding (by simp [DatabaseResult.answersWrite]) hhand rfl rfl
  | writeEnded write result =>
      simp only [DeviceSide.next, DeviceSide.endWrite]
      cases result with
      | ok _ =>
          exact .inl (ended_outstanding henabled.2 rfl rfl (by simp [DatabaseResult.answersWrite]))
      | error error =>
          dsimp only
          split
          · exact givenBack_outstanding henabled.2 fun _ => by simp [DatabaseResult.answersWrite]
          · exact .inl (ended_outstanding henabled.2 rfl rfl
              (by simp [DatabaseResult.answersWrite]))
  | crash => cases hrunning

/-- A write that is given back is not newer than the one queued since, if the service
waits for that one. -/
lemma DeviceAccount.give_back (h : DeviceAccount e requested unmatched deviceId)
    (hsubmitted : e'.work.submitted = e.work.submitted) {before : List ℕ} {given : ℕ}
    {queued : Option ℕ} (hbefore : outstanding e deviceId = before ++ given :: queued.toList)
    (hafter : outstanding e' deviceId = before ++ [queued.toList.foldl max given]) :
    DeviceAccount e' requested unmatched deviceId := by
  cases queued with
  | none => exact h.congr (hafter.trans hbefore.symm) (by rw [hsubmitted]) .rfl .rfl
  | some revision =>
      have hfilled : outstanding e deviceId ≠ [] := by
        rw [hbefore]
        simp
      have hleft : outstanding e' deviceId ≠ [] := by
        rw [hafter]
        simp
      refine ⟨fun hidle => ?_, fun hrequested _ => ?_⟩
      · rw [hsubmitted]
        exact h.idle (.inl (hidle.resolve_right hleft))
      · obtain ⟨write, hwrite, hlast, hothers⟩ := h.busy hrequested hfilled
        rw [hbefore] at hlast hothers
        have hnewest : write.revision ≤ revision := hlast revision (by simp)
        have hgiven : given < write.revision := hothers given (by simp)
        have hmax : max given revision = revision := max_eq_right (hgiven.le.trans hnewest)
        rw [hsubmitted, hafter]
        refine ⟨write, hwrite, fun last hmem => ?_, fun older hmem => hothers older ?_⟩
        · simp only [Option.toList_some, List.foldl_cons, List.foldl_nil, hmax,
            List.getLast?_append, List.getLast?_singleton, Option.some_or, Option.mem_def,
            Option.some_inj] at hmem
          exact hmem ▸ hnewest
        · rw [List.dropLast_append_cons, List.dropLast_singleton, List.append_nil] at hmem
          rw [List.dropLast_append_cons]
          exact List.mem_append_left _ hmem

/-! ### The side of the service -/

/-- The writes of a device that are outstanding before the first result is handled. -/
lemma outstanding_cons {answer : DatabaseResult} {rest : List DatabaseResult}
    (hinbox : e.inbox = answer :: rest) (work : DeviceWork) :
    outstanding e deviceId = answered deviceId [answer] ++
      outstanding { e with inbox := e.inbox.tail, work := work } deviceId := by
  simp only [outstanding, underWay]
  rw [hinbox, List.tail_cons, ← List.append_assoc, ← List.append_assoc, ← answered_append]
  rfl

/-- What a result leaves of the submitted writes. -/
lemma handled_submitted {v : DeviceWork} {answer : DatabaseResult} (added : Bool)
    (hcompleted : answer.kind ≠ .writeCompleted) (hfailed : answer.kind ≠ .permanentFailure) :
    (v.next (answer.workInput v.pending added)).submitted = v.submitted := by
  rw [DatabaseResult.workInput]
  cases hkind : answer.kind with
  | unavailable => rfl
  | recovered => rfl
  | permanentFailure => exact absurd hkind hfailed
  | writeCompleted => exact absurd hkind hcompleted
  | provisioned =>
      dsimp only
      split
      · simp only [DeviceWork.next]
        split
        · rfl
        · rfl
      · rfl

lemma next_completed {v : DeviceWork} {write : DesiredDeviceWrite}
    (hwrite : v.submitted.lookup deviceId = some write) (revision : ℕ) :
    v.next (.completed deviceId revision) =
      if write.revision ≤ revision then { v with submitted := v.submitted.erase deviceId }
      else v := by
  simp only [DeviceWork.next]
  rw [hwrite]

lemma next_completed_none {v : DeviceWork} (hnone : v.submitted.lookup deviceId = none)
    (revision : ℕ) : v.next (.completed deviceId revision) = v := by
  simp only [DeviceWork.next]
  rw [hnone]

lemma completes_some {v : DeviceWork} {write : DesiredDeviceWrite}
    (hwrite : v.submitted.lookup deviceId = some write) (revision : ℕ) :
    v.completes deviceId revision = true ↔ write.revision ≤ revision := by
  rw [DeviceWork.completes]
  rw [hwrite]
  exact decide_eq_true_iff

lemma completes_none {v : DeviceWork} (hnone : v.submitted.lookup deviceId = none)
    (revision : ℕ) : v.completes deviceId revision = false := by
  rw [DeviceWork.completes]
  rw [hnone]

/-- A performed write of another device. -/
lemma completed_other {answer : DatabaseResult} (hid : answer.deviceId ≠ deviceId)
    {e' : DeviceExchange} (h : DeviceAccount e requested unmatched deviceId)
    (houtstanding : outstanding e' deviceId = outstanding e deviceId)
    (hwork : e'.work = e.work.next (.completed answer.deviceId answer.revision))
    {unmatched' : Finset String}
    (hunmatched : unmatched' = if e.work.completes answer.deviceId answer.revision then
        unmatched.erase answer.deviceId
      else if answer.deviceId ∈ requested then insert answer.deviceId unmatched else unmatched) :
    DeviceAccount e' requested unmatched' deviceId := by
  refine h.congr houtstanding ?_ .rfl ?_
  · rw [hwork]
    simp only [DeviceWork.next]
    split
    · rfl
    · split
      · exact AList.lookup_erase_ne hid.symm
      · rfl
  · rw [hunmatched]
    split
    · exact Finset.mem_erase.trans (and_iff_right hid.symm)
    · split
      · exact Finset.mem_insert.trans (or_iff_right hid.symm)
      · exact .rfl

/-- A performed write of a device is handled: it completes the submitted one if it is
the last. -/
lemma completed_account (h : DeviceAccount e requested unmatched deviceId)
    {answer : DatabaseResult} {rest : List DatabaseResult} (added : Bool)
    (hinbox : e.inbox = answer :: rest) (hkind : answer.kind = .writeCompleted) :
    DeviceAccount (e.next (.handle answer added)) requested
      (unmatchedAfter e.work requested unmatched (.handle answer added)) deviceId := by
  have hcons := @outstanding_cons e deviceId answer rest hinbox
    (e.work.next (answer.workInput e.work.pending added))
  have hwork : (e.next (.handle answer added)).work =
      e.work.next (.completed answer.deviceId answer.revision) := by
    simp only [DeviceExchange.next, DatabaseResult.workInput, hkind]
  change outstanding e deviceId = _ ++ outstanding (e.next (.handle answer added)) deviceId at hcons
  simp only [unmatchedAfter, if_pos hkind]
  by_cases hid : answer.deviceId = deviceId
  · subst hid
    rw [answered_self (by simp [DatabaseResult.answersWrite, hkind]), List.singleton_append]
      at hcons
    by_cases hrequested : answer.deviceId ∈ requested
    · obtain ⟨write, hwrite, hlast, hothers⟩ := h.busy hrequested (by rw [hcons]; simp)
      rw [hcons] at hlast hothers
      rw [next_completed hwrite] at hwork
      cases hleft : outstanding (e.next (.handle answer added)) answer.deviceId with
      | nil =>
          -- the last one: its revision is one the service waits for
          rw [hleft] at hlast
          have hdone : write.revision ≤ answer.revision := hlast _ rfl
          rw [if_pos ((completes_some hwrite _).mpr hdone)]
          refine ⟨fun _ => ⟨?_, Finset.notMem_erase _ _⟩, fun _ hfilled => absurd hleft hfilled⟩
          rw [hwork, if_pos hdone, AList.lookup_erase]
      | cons next later =>
          -- an older one: the service goes on waiting
          rw [hleft] at hlast hothers
          have holder : ¬ write.revision ≤ answer.revision :=
            Nat.not_le_of_lt (hothers _ List.mem_cons_self)
          rw [if_neg holder] at hwork
          refine ⟨fun hidle => ?_, fun _ _ => ?_⟩
          · rw [hleft] at hidle
            exact absurd (hidle.resolve_left fun hnot => hnot hrequested) (List.cons_ne_nil _ _)
          · rw [hwork, hleft]
            exact ⟨write, hwrite, hlast, fun revision hmem => hothers revision
              (List.mem_cons_of_mem _ hmem)⟩
    · -- a startup write of a device that the service has not submitted
      obtain ⟨hnone, hunmatched⟩ := h.idle (.inl hrequested)
      rw [next_completed_none hnone] at hwork
      rw [completes_none hnone, if_neg Bool.false_ne_true, if_neg hrequested]
      refine ⟨fun _ => ⟨?_, hunmatched⟩, fun hmem => absurd hmem hrequested⟩
      rw [hwork, hnone]
  · rw [answered_other (by simp [DatabaseResult.answersWrite, hid])] at hcons
    exact completed_other hid h hcons.symm hwork rfl

/-- A failure for good is handled: nothing else of its device is outstanding. -/
lemma failed_account (h : DeviceAccount e requested unmatched deviceId)
    {answer : DatabaseResult} {rest : List DatabaseResult} (added : Bool)
    (hinbox : e.inbox = answer :: rest) (hkind : answer.kind = .permanentFailure)
    (hturn : deviceId ∈ e.work.submitted.keys →
      (answer.deviceId = deviceId ∨ answer.deviceId.isEmpty = true) →
        outstanding { e with inbox := e.inbox.tail } deviceId = [] ∧ deviceId ∉ unmatched) :
    DeviceAccount (e.next (.handle answer added)) requested unmatched deviceId := by
  have hcons := @outstanding_cons e deviceId answer rest hinbox
    (e.work.next (answer.workInput e.work.pending added))
  have hwork : (e.next (.handle answer added)).work = e.work.next (.failed answer.deviceId) := by
    simp only [DeviceExchange.next, DatabaseResult.workInput, hkind]
  change outstanding e deviceId = _ ++ outstanding (e.next (.handle answer added)) deviceId at hcons
  by_cases hconcerns : answer.deviceId = deviceId ∨ answer.deviceId.isEmpty = true
  · have hnone : (e.next (.handle answer added)).work.submitted.lookup deviceId = none := by
      rw [hwork]
      simp only [DeviceWork.next]
      split
      · rfl
      · next hnot =>
          rw [hconcerns.resolve_right hnot]
          rw [AList.lookup_erase]
    by_cases hsubmitted : deviceId ∈ e.work.submitted.keys
    · obtain ⟨hempty, hunmatched⟩ := hturn hsubmitted hconcerns
      exact ⟨fun _ => ⟨hnone, hunmatched⟩, fun _ hfilled => absurd hempty hfilled⟩
    · have hunknown : e.work.submitted.lookup deviceId = none :=
        AList.lookup_eq_none.mpr fun hmem => hsubmitted (AList.mem_keys.mp hmem)
      -- the service did not wait for the device before
      have hidle : deviceId ∉ requested ∨ outstanding e deviceId = [] := by
        by_contra hbusy
        obtain ⟨hrequested, hfilled⟩ := not_or.mp hbusy
        obtain ⟨write, hwrite, -⟩ := h.busy (not_not.mp hrequested) hfilled
        rw [hunknown] at hwrite
        cases hwrite
      refine ⟨fun _ => ⟨hnone, (h.idle hidle).2⟩, fun hrequested hfilled => ?_⟩
      have hempty := hidle.resolve_left fun hnot => hnot hrequested
      rw [hcons] at hempty
      exact absurd (List.append_eq_nil_iff.mp hempty).2 hfilled
  · obtain ⟨hid, hnot⟩ := not_or.mp hconcerns
    rw [answered_other (by simp [DatabaseResult.answersWrite, hid])] at hcons
    refine h.congr hcons.symm ?_ .rfl .rfl
    rw [hwork]
    simp only [DeviceWork.next, if_neg hnot]
    exact AList.lookup_erase_ne fun heq => hid heq.symm

lemma handle_account (h : DeviceAccount e requested unmatched deviceId)
    {answer : DatabaseResult} {added : Bool} (henabled : e.Enabled (.handle answer added))
    (hrunning : e.side.stopped = false) (hturn : InTurn e unmatched (.handle answer added)) :
    DeviceAccount (e.next (.handle answer added)) requested
      (unmatchedAfter e.work requested unmatched (.handle answer added)) deviceId := by
  obtain ⟨rest, hinbox⟩ := henabled
  by_cases hcompleted : answer.kind = .writeCompleted
  · exact completed_account h added hinbox hcompleted
  simp only [unmatchedAfter, if_neg hcompleted]
  by_cases hfailed : answer.kind = .permanentFailure
  · exact failed_account h added hinbox hfailed (hturn hfailed hrunning deviceId)
  have hcons := @outstanding_cons e deviceId answer rest hinbox
    (e.work.next (answer.workInput e.work.pending added))
  rw [answered_other (by simp [DatabaseResult.answersWrite, hcompleted, hfailed])] at hcons
  refine h.congr hcons.symm ?_ .rfl .rfl
  simp only [DeviceExchange.next, handled_submitted added hcompleted hfailed]

/-- A write is submitted: the service waits for it, and it is the last one of its
device. -/
lemma submitWrite_account (h : DeviceAccount e requested unmatched deviceId)
    {write : DesiredDeviceWrite} (haccepting : e.side.accepting = true)
    (hturn : ∀ revision ∈ underWay e write.deviceId, revision < write.revision) :
    DeviceAccount (e.next (.work (.submitWrite write .accepted))) (insert write.deviceId requested)
      unmatched deviceId := by
  have hside : (e.next (.work (.submitWrite write .accepted))).side = e.side.mergeWrite write := by
    simp only [DeviceExchange.next, DeviceWorkInput.sideInput, DeviceSide.next, haccepting,
      Bool.not_true, Bool.false_eq_true, if_false]
  have hwork : (e.next (.work (.submitWrite write .accepted))).work.submitted =
      e.work.submitted.insert write.deviceId write := rfl
  have hafter : outstanding (e.next (.work (.submitWrite write .accepted))) deviceId =
      underWay e deviceId ++
        if deviceId = write.deviceId then [(e.side.waiting deviceId).foldl max write.revision]
        else e.side.waiting deviceId := by
    rw [← waiting_mergeWrite]
    rw [outstanding, underWay]
    rw [hside]
    rfl
  by_cases hid : deviceId = write.deviceId
  · subst hid
    rw [if_pos rfl] at hafter
    refine ⟨fun hidle => ?_, fun _ _ => ⟨write, ?_, ?_, ?_⟩⟩
    · rcases hidle with hnot | hempty
      · exact absurd (Finset.mem_insert_self _ _) hnot
      · rw [hafter] at hempty
        simp at hempty
    · rw [hwork, AList.lookup_insert]
    · intro last hlast
      rw [hafter, List.getLast?_append, List.getLast?_singleton, Option.some_or, Option.mem_def,
        Option.some_inj] at hlast
      rw [← hlast]
      rw [waiting]
      cases e.side.writes.lookup write.deviceId with
      | none => exact le_rfl
      | some current => exact le_max_left write.revision current.revision
    · intro revision hmem
      rw [hafter, List.dropLast_concat] at hmem
      exact hturn revision hmem
  · rw [if_neg hid] at hafter
    refine h.congr hafter ?_ ?_ .rfl
    · rw [hwork, AList.lookup_insert_ne hid]
    · exact Finset.mem_insert.trans (or_iff_right hid)

/-- What the service does by itself. -/
lemma work_account (h : DeviceAccount e requested unmatched deviceId) {input : DeviceWorkInput}
    (henabled : e.Enabled (.work input)) (hturn : InTurn e unmatched (.work input)) :
    DeviceAccount (e.next (.work input)) (requestedAfter requested (.work input)) unmatched
      deviceId := by
  obtain ⟨hown, -, hanswered⟩ := henabled
  cases input with
  | lost => exact hown.elim
  | recovered => exact hown.elim
  | failed other => exact hown.elim
  | provisioned other added => exact hown.elim
  | completed other revision => exact hown.elim
  | skip => exact h
  | cancelled => exact hturn.elim
  | awaits other registration receivedAt =>
      refine h.congr rfl ?_ .rfl .rfl
      simp only [DeviceExchange.next, DeviceWork.next]
      split
      · rfl
      · rfl
  | submitProvision other outcome =>
      refine h.congr ?_ ?_ .rfl .rfl
      · simp only [DeviceExchange.next, DeviceWorkInput.sideInput]
        split
        · simp only [DeviceSide.next]
          split
          · rfl
          · rfl
        · rfl
      · simp only [DeviceExchange.next, DeviceWork.next]
        split
        · rfl
        · split
          · rfl
          · rfl
  | submitWrite write outcome =>
      by_cases haccepted : outcome = .accepted
      · subst haccepted
        exact submitWrite_account h (hanswered.mp rfl) hturn
      · -- a write that is refused reaches neither side
        have hclosed : e.side.accepting = false :=
          Bool.not_eq_true _ ▸ fun haccepts => haccepted (hanswered.mpr haccepts)
        have hsame : requestedAfter requested (.work (.submitWrite write outcome)) = requested := by
          cases outcome with
          | accepted => exact absurd rfl haccepted
          | _ => rfl
        rw [hsame]
        refine h.congr ?_ ?_ .rfl .rfl
        · simp only [DeviceExchange.next, DeviceWorkInput.sideInput, DeviceSide.next, hclosed]
          rfl
        · simp only [DeviceExchange.next, DeviceWork.next, if_neg haccepted]

/-! ### Every run -/

/-- A thread that has stopped stays stopped. -/
lemma next_stopped {d : DeviceSide} (h : d.stopped = true) (input : DeviceSideInput) :
    (d.next input).stopped = true := by
  cases input with
  | stop => rfl
  | validationFailed => rfl
  | crash => rfl
  | submitProvision registration receivedAt =>
      simp only [DeviceSide.next]
      split
      · exact h
      · exact h
  | submitWrite write =>
      simp only [DeviceSide.next]
      split
      · exact h
      · exact h
  | provisionEnded task result =>
      simp only [DeviceSide.next, DeviceSide.endProvision]
      split
      · exact h
      · split
        · exact h
        · exact h
  | writeEnded write result =>
      simp only [DeviceSide.next, DeviceSide.endWrite]
      split
      · exact h
      · split
        · exact h
        · exact h
  | _ => exact h

/-- Writes stay queued under their device. -/
lemma next_keyed {d : DeviceSide} (h : d.Keyed) (input : DeviceSideInput) :
    (d.next input).Keyed := by
  cases input with
  | submitProvision registration receivedAt =>
      simp only [DeviceSide.next]
      split
      · exact h
      · exact h
  | submitWrite write =>
      simp only [DeviceSide.next]
      split
      · exact h
      · exact keyed_mergeWrite h write
  | takeWrite taken write =>
      intro deviceId queued hqueued
      exact h deviceId queued (Map.lookup_erase_some.mp hqueued).2
  | validationFailed =>
      intro deviceId queued hqueued
      cases hqueued
  | provisionEnded task result =>
      simp only [DeviceSide.next, DeviceSide.endProvision]
      split
      · exact h
      · split
        · exact h
        · exact h
  | writeEnded write result =>
      simp only [DeviceSide.next, DeviceSide.endWrite]
      split
      · exact h
      · split
        · exact keyed_mergeWrite (d := DeviceSide.disconnect { d with hand := .free }) h write
        · exact h
  | _ => exact h

lemma exchange_next_keyed (h : e.side.Keyed) (input : ExchangeInput) :
    (e.next input).side.Keyed := by
  cases input with
  | side input => exact next_keyed h input
  | deliver => exact h
  | handle answer added => exact h
  | work input => exact next_keyed h _

lemma exchange_next_stopped (h : e.side.stopped = true) (input : ExchangeInput) :
    (e.next input).side.stopped = true := by
  cases input with
  | side input => exact next_stopped h input
  | deliver => exact h
  | handle answer added => exact h
  | work input => exact next_stopped h _

/-- The startup writes are queued under their devices. -/
lemma foldl_submitWrite_keyed (writes : List DesiredDeviceWrite) {w : WorkerLoop}
    (h : w.deviceSide.Keyed) : (writes.foldl WorkerLoop.submitWrite w).deviceSide.Keyed := by
  induction writes generalizing w with
  | nil => exact h
  | cons write writes ih =>
      refine ih ?_
      have hnext : (w.submitWrite write).deviceSide = w.deviceSide.next (.submitWrite write) :=
        @deviceSide_next {} w (.submitWrite write) trivial
      rw [hnext]
      exact next_keyed h _

/-- One step keeps the accounts, unless the thread stops in it. -/
lemma next_account {input : ExchangeInput} (hkeyed : e.side.Keyed)
    (h : DeviceAccount e requested unmatched deviceId) (henabled : e.Enabled input)
    (hturn : InTurn e unmatched input) (hrunning : (e.next input).side.stopped = false) :
    DeviceAccount (e.next input) (requestedAfter requested input)
      (unmatchedAfter e.work requested unmatched input) deviceId := by
  cases input with
  | side input =>
      rcases @side_outstanding e deviceId hkeyed input henabled.1 henabled.2 hrunning with
        hsame | ⟨before, given, hbefore, hafter⟩
      · exact h.congr hsame rfl .rfl .rfl
      · exact h.give_back rfl hbefore hafter
  | deliver =>
      refine h.congr (outstanding_congr ?_ rfl rfl) rfl .rfl .rfl
      simp only [DeviceExchange.next]
      rw [List.append_assoc, ← List.drop_one, List.take_append_drop]
  | handle answer added => exact handle_account h henabled hrunning hturn
  | work input => exact work_account h henabled hturn

/-- What holds of the writes between two steps. -/
structure WritesTracked (s : WriteLedger) : Prop where
  keyed : s.runtime.worker.deviceSide.Keyed
  account : s.runtime.worker.workerStopped = false →
    ∀ deviceId, DeviceAccount s.runtime.exchange s.requested s.unmatched deviceId

lemma reachable_writesTracked {s : WriteLedger}
    (h : ((writeLedger wcfg cfg).restrict (WritesAnswered cfg)).Reachable s) : WritesTracked s := by
  refine h.invariant (fun s h0 => ?_) fun s input _ htracked henabled => ?_
  · obtain ⟨records, systemNow, now, rfl⟩ := h0
    refine ⟨foldl_submitWrite_keyed _ ?_, fun _ deviceId => ⟨fun _ => ⟨rfl, Finset.notMem_empty _⟩,
      fun hnone => absurd hnone (Finset.notMem_empty _)⟩⟩
    intro deviceId write hnone
    cases hnone
  · obtain ⟨henabled, hturn, -⟩ := henabled
    have hexchange : (input.apply wcfg cfg s.runtime).exchange =
        s.runtime.exchange.next (input.exchangeInput cfg s.runtime) := exchange_next henabled
    refine ⟨?_, fun hrunning deviceId => ?_⟩
    · have hkeyed : (input.apply wcfg cfg s.runtime).exchange.side.Keyed := by
        rw [hexchange]
        exact exchange_next_keyed htracked.keyed _
      exact hkeyed
    · have hnext : (s.runtime.exchange.next (input.exchangeInput cfg s.runtime)).side.stopped =
          false := by
        rw [← hexchange]
        exact hrunning
      have hbefore : s.runtime.worker.workerStopped = false := by
        refine Bool.eq_false_iff.mpr fun hstopped => ?_
        rw [exchange_next_stopped hstopped] at hnext
        cases hnext
      have haccount := next_account htracked.keyed (htracked.account hbefore deviceId)
        (exchange_enabled henabled) hturn hnext
      rw [← hexchange] at haccount
      exact haccount

/-- A run of the ledger is a run of the runtime. -/
lemma ledger_runtime {s : WriteLedger}
    (h : ((writeLedger wcfg cfg).restrict (WritesAnswered cfg)).Reachable s) :
    ((deviceRuntime wcfg cfg).restrict LetsProvisionedIn).Reachable s.runtime := by
  refine Machine.Reachable.invariant (P := fun s : WriteLedger =>
    ((deviceRuntime wcfg cfg).restrict LetsProvisionedIn).Reachable s.runtime)
    (fun s h0 => ?_) (fun s input _ hr henabled => ?_) h
  · obtain ⟨records, systemNow, now, rfl⟩ := h0
    exact .start ⟨records, systemNow, now, rfl⟩
  · exact .step (m := (deviceRuntime wcfg cfg).restrict LetsProvisionedIn) (i := input) hr
      ⟨henabled.1, henabled.2.2⟩

/-- An idle service has submitted nothing. -/
lemma submitted_of_idle {s : DeviceService}
    (h : ((deviceService cfg).restrict AcceptsProvisioned).Reachable s)
    (hidle : s.isDatabaseIdle = true) (deviceId : String) : s.submitted.lookup deviceId = none := by
  have hcounted := (reachable_counted h).balanced.outstanding
  simp only [isDatabaseIdle, Bool.and_eq_true, decide_eq_true_eq] at hidle
  obtain ⟨⟨hzero, -⟩, -⟩ := hidle
  rw [hzero] at hcounted
  have hempty : s.submitted.keys = [] :=
    List.length_eq_zero_iff.mp (Nat.eq_zero_of_add_eq_zero_left hcounted.symm)
  refine AList.lookup_eq_none.mpr fun hmem => ?_
  rw [AList.mem_keys, hempty] at hmem
  cases hmem

/-- **Every outstanding write is accounted for**: the service waits for the writes it has
submitted, is not idle before they have been handled, and each performed one is completed
with the one it still waits for; in every run in which nothing fails for good while
another write of its device is outstanding and no write is submitted again while one of
its revision is under way. -/
theorem writes_accounted {s : WriteLedger}
    (h : ((writeLedger wcfg cfg).restrict (WritesAnswered cfg)).Reachable s)
    (hrunning : s.runtime.worker.workerStopped = false) :
    (∀ deviceId ∈ s.requested, outstanding s.runtime.exchange deviceId ≠ [] →
      (s.runtime.service.submitted.lookup deviceId).isSome = true) ∧
    (s.runtime.service.isDatabaseIdle = true →
      ∀ deviceId ∈ s.requested, outstanding s.runtime.exchange deviceId = []) ∧
    ∀ deviceId ∈ s.unmatched, ∃ write, s.runtime.service.submitted.lookup deviceId = some write ∧
      ∃ last ∈ (outstanding s.runtime.exchange deviceId).getLast?, write.revision ≤ last := by
  have htracked := (reachable_writesTracked h).account hrunning
  have hwaited : ∀ deviceId ∈ s.requested, outstanding s.runtime.exchange deviceId ≠ [] →
      (s.runtime.service.submitted.lookup deviceId).isSome = true := by
    intro deviceId hrequested hfilled
    obtain ⟨write, hwrite, -⟩ := (htracked deviceId).busy hrequested hfilled
    exact Option.isSome_iff_exists.mpr ⟨write, hwrite⟩
  refine ⟨hwaited, fun hidle deviceId hrequested => ?_, fun deviceId hunmatched => ?_⟩
  · have hservice := service_reachable (fun r input hok => hok input rfl) (ledger_runtime h)
    by_contra hfilled
    have hsome := hwaited deviceId hrequested hfilled
    rw [submitted_of_idle hservice hidle] at hsome
    cases hsome
  · -- a performed write is unmatched only while a newer one is outstanding
    have hbusy : deviceId ∈ s.requested ∧ outstanding s.runtime.exchange deviceId ≠ [] := by
      by_contra hidle
      rw [not_and_or, not_not] at hidle
      exact ((htracked deviceId).idle hidle).2 hunmatched
    obtain ⟨write, hwrite, hlast, -⟩ := (htracked deviceId).busy hbusy.1 hbusy.2
    exact ⟨write, hwrite, _, List.getLast?_eq_some_getLast hbusy.2,
      hlast _ (List.getLast?_eq_some_getLast hbusy.2)⟩

end

/-! ### Two writes of one device -/

/-- Device `b` reports, and reports again while its first write is executing. -/
def queuedCues : List RuntimeCue :=
  List.replicate 2 (.service .go) ++ [.service (.receive (sampleRegistration "b" "b1"))] ++
    List.replicate 6 (.service .go) ++ [.thread .works] ++ List.replicate 3 (.service .go) ++
    [.service (.receive (sampleRegistration "b" "b1"))] ++ List.replicate 5 (.service .go)

/-- The ledger after a list of cues. -/
def performWrites (cues : List RuntimeCue) : WriteLedger :=
  (writeLedger {} sampleDeviceConfig).follow (fun s cue => cue.input sampleDeviceConfig s.runtime)
    ⟨sampleRuntime, ∅, ∅⟩ cues

lemma reachable_performWrites {ok : WriteLedger → RuntimeInput → Prop} {cues : List RuntimeCue}
    (hok : (writeLedger {} sampleDeviceConfig).Meets
      (fun s cue => cue.input sampleDeviceConfig s.runtime) ok ⟨sampleRuntime, ∅, ∅⟩ cues) :
    ((writeLedger {} sampleDeviceConfig).restrict ok).Reachable (performWrites cues) := by
  have hstart : ((writeLedger {} sampleDeviceConfig).restrict ok).Reachable
      ⟨sampleRuntime, ∅, ∅⟩ := .start ⟨[flightController "b" none], 0, some 0, rfl⟩
  exact hstart.follow (fun _ cue => cue.input_enabled) hok

def queuedSample : WriteLedger := performWrites queuedCues

theorem writes_accounted_queued :
    outstanding queuedSample.runtime.exchange "b" = [2, 3] ∧
      (queuedSample.runtime.service.submitted.lookup "b").isSome = true := by
  have hmeets : (writeLedger {} sampleDeviceConfig).Meets
      (fun s cue => cue.input sampleDeviceConfig s.runtime) (WritesAnswered sampleDeviceConfig)
      ⟨sampleRuntime, ∅, ∅⟩ queuedCues := by decide +kernel
  have hrunning : queuedSample.runtime.worker.workerStopped = false := by decide +kernel
  have hrequested : "b" ∈ queuedSample.requested := by decide +kernel
  have houtstanding : outstanding queuedSample.runtime.exchange "b" = [2, 3] := by decide +kernel
  refine ⟨houtstanding, (writes_accounted (s := queuedSample)
    (reachable_performWrites hmeets) hrunning).1 "b" hrequested ?_⟩
  rw [houtstanding]
  exact List.cons_ne_nil _ _

/-- The first of the two writes fails for good. -/
def unaccountedCues : List RuntimeCue :=
  queuedCues ++ [.thread .fails, .thread .works] ++ List.replicate 11 (.service .go)

def unaccounted : WriteLedger := performWrites unaccountedCues

/-- The service asks for the outstanding work to be cancelled. -/
def RuntimeInput.cancels : RuntimeInput → Bool
  | .service .cancel => true
  | _ => false

/-- The second write is still queued, and the service waits for nothing. -/
theorem writes_unaccounted :
    ((writeLedger {} sampleDeviceConfig).restrict
      fun _ input => input.cancels = false).Reachable unaccounted ∧
      unaccounted.runtime.worker.workerStopped = false ∧ "b" ∈ unaccounted.requested ∧
      (unaccounted.runtime.worker.writes.lookup "b").isSome = true ∧
      outstanding unaccounted.runtime.exchange "b" = [3] ∧
      unaccounted.runtime.service.submitted.lookup "b" = none ∧
      unaccounted.runtime.service.isDatabaseIdle = true := by
  have hmeets : (writeLedger {} sampleDeviceConfig).Meets
      (fun s cue => cue.input sampleDeviceConfig s.runtime) (fun _ input => input.cancels = false)
      ⟨sampleRuntime, ∅, ∅⟩ unaccountedCues := by decide +kernel
  have hnone : (unaccounted.runtime.service.submitted.lookup "b").isNone = true := by
    decide +kernel
  refine ⟨reachable_performWrites hmeets, by decide +kernel, by decide +kernel, by decide +kernel,
    by decide +kernel, Option.isNone_iff_eq_none.mp hnone, by decide +kernel⟩

end CnsServer
