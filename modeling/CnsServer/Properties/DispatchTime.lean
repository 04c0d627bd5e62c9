/-
The column `dispatched_at`.

`TransitionCommand` writes what the update carries.  The update of a dispatch
carries the time, that of a timeout the time of the remembered record, and the
recovery statement leaves the column alone.  The updates of device ACKs and of
failed publications carry nothing, and neither does that of a timeout whose
command is remembered as pending.

* `Event.dropsDispatch`: the events that lead to such an update;
* `KeepsDispatch`: a version of a row has the time of an earlier one;
* `dispatchedAt_kept`: the time is kept for every command that is never
  dispatched or has none of these events.
-/
import CnsServer.Invariants.Provenance
import CnsServer.Runtime.Scenario

namespace CnsServer

open RuntimeBundle CommandStatus

/-- The event leads to an update of the command without a dispatch time: a device
ACK is applied, a publication fails, or a deadline passes while the command is
remembered as pending. -/
def Event.dropsDispatch (c : String) : Event → Bool
  | .deviceAcked _ _ ack memory =>
      ack.commandId = c && (memory = some .dispatched || memory = some .inProgress)
  | .completed record result => record.commandId = c && !result
  | .published _ _ _ record accepted => record.commandId = c && !accepted
  | .formed task _ => task.commandId = c && task.expected = .pending && task.desired = .timeout
  | _ => false

/-- The event dispatches the command. -/
def Event.dispatches (c : String) : Event → Bool
  | .completed record result => record.commandId = c && result
  | _ => false

/-- The later version of a row has the dispatch time of the earlier one, if that
had one. -/
def KeepsDispatch (later earlier : CommandRecord) : Prop :=
  later.commandId = earlier.commandId → ∀ t, earlier.dispatchedAt = some t →
    later.dispatchedAt = some t

/-! ### Commands that are never dispatched -/

/-- The record a cause asks for has the dispatch time of the remembered one, or a
new one. -/
lemma dispatchedAt_desired (m : CommandRecord) (cause : Cause) :
    (cause.desired m).dispatchedAt = m.dispatchedAt ∨
      ∃ now, cause = .completed true now := by
  cases cause with
  | refused now => exact .inl rfl
  | completed result now =>
      cases result with
      | true => exact .inr ⟨now, rfl⟩
      | false =>
          refine .inl ?_
          simp only [Cause.desired, publishCompleted, Bool.false_eq_true, reduceIte]
          split <;> rfl
  | acknowledged ack now =>
      refine .inl ?_
      simp only [Cause.desired, acknowledged]
      split
      · rfl
      · split <;> rfl
  | expired now => exact .inl rfl

/-- A transition writes no time that the remembered record does not have. -/
lemma dispatchedAt_task (m : CommandRecord) (cause : Cause) :
    (cause.task m).update.dispatchedAt = none ∨
      (cause.task m).update.dispatchedAt = m.dispatchedAt ∨
      ∃ now, cause = .completed true now := by
  cases cause with
  | refused now => exact .inl rfl
  | completed result now =>
      cases result with
      | true => exact .inr (.inr ⟨now, rfl⟩)
      | false => exact .inl rfl
  | acknowledged ack now => exact .inl rfl
  | expired now => exact .inr (.inl rfl)

/-- Without a dispatch, no version of the row has a dispatch time. -/
lemma dispatchedAt_none {events : List Event} {c : String} (horigin : RowsHaveOrigin events)
    (hcreated : ∀ i command, .created i command ∈ events → IsNew command)
    (hnever : ∀ e ∈ events, e.dispatches c = false) :
    ∀ r ∈ committedRows events, r.commandId = c → r.dispatchedAt = none := by
  refine horigin.forall_rows fun l r hl hr ih hid => ?_
  cases hr with
  | @recovered row now hlatest _ _ => exact ih row hlatest.committed hid
  | written hr =>
      cases hr with
      | @inserted i command hmem _ =>
          have hnone := (hcreated i command (hl hmem)).dispatchedAt
          exact (congrArg (Option.map storedTime) hnone)
      | @moved row d task _ htask _ _ hasked =>
          obtain ⟨m, cause, hdesire, hwhich⟩ := hasked
          have hm : m.commandId = c := by
            have hd := (show Asked l d task from ⟨m, cause, hdesire, hwhich⟩).commandId
            rw [← hdesire.commandId, ← hd, ← htask]
            exact hid
          have hnone := ih m hdesire.row hm
          have hno : ∀ now, cause ≠ .completed true now := by
            rintro now rfl
            have := hnever _ (hl hdesire.evidence.1)
            simp [Event.dispatches, hm] at this
          have hupdate : task.update.dispatchedAt = none := by
            rcases hwhich with rfl | ⟨current, _, _, _, _, _, rfl⟩
            · rcases dispatchedAt_task m cause with h | h | ⟨now, h⟩
              · exact h
              · exact h.trans hnone
              · exact absurd h (hno now)
            · rcases dispatchedAt_desired m cause with h | ⟨now, h⟩
              · exact (congrArg _ hdesire.record).trans (h.trans hnone)
              · exact absurd h (hno now)
          exact congrArg (Option.map storedTime) hupdate

/-! ### Commands without a dropped time -/

lemma storedTime_storedTime (t : TimePoint) : storedTime (storedTime t) = storedTime t := by
  simp only [storedTime]
  rw [Int.mul_tdiv_cancel _ (by decide)]

/-- The dispatch time of a version is as the column stores it. -/
lemma dispatchedAt_stored {events : List Event} (horigin : RowsHaveOrigin events) :
    ∀ r ∈ committedRows events, r.dispatchedAt.map storedTime = r.dispatchedAt := by
  have hmap : ∀ o : Option TimePoint, (o.map storedTime).map storedTime = o.map storedTime := by
    intro o
    cases o with
    | none => rfl
    | some t => exact congrArg some (storedTime_storedTime t)
  refine horigin.forall_rows fun l r _ hr ih => ?_
  cases hr with
  | @recovered row now hlatest _ _ => exact ih row hlatest.committed
  | written hr =>
      cases hr with
      | @inserted i command _ _ => exact hmap command.dispatchedAt
      | @moved row d task _ _ _ _ _ => exact hmap task.update.dispatchedAt

/-- Only a pending row is dispatched. -/
lemma eq_pending_of_canTransition {s : CommandStatus} (h : s.canTransition .dispatched = true) :
    s = .pending := by
  cases s <;> first | rfl | cases h

/-- A command has one dispatched version. -/
lemma dispatched_unique {events : List Event} (horigin : RowsHaveOrigin events) :
    ∀ r ∈ committedRows events, ∀ s ∈ committedRows events, r.commandId = s.commandId →
      r.status = .dispatched → s.status = .dispatched → r = s := by
  have hpairs : (committedRows events).Pairwise fun r s => r.commandId = s.commandId →
      r.status = .dispatched → s.status = .dispatched → r = s := by
    refine horigin.pairwise fun l r hl hr s hs hid hdispatched hs' => ?_
    cases hr with
    | recovered _ _ _ => cases hdispatched
    | written hr =>
        cases hr with
        | @inserted i command hmem hnew => exact absurd hid.symm (hnew s hs)
        | @moved row d task hlatest _ _ hcan _ =>
            -- the version before it is pending, and so are all earlier ones
            have hdesired : task.desired = .dispatched := hdispatched
            rw [hdesired] at hcan
            have hle := hlatest.last s hs hid.symm
            rw [eq_pending_of_canTransition hcan, hs'] at hle
            cases eq_pending_of_le hle
  intro r hr s hs
  have : Std.Symm fun r s : CommandRecord => r.commandId = s.commandId →
      r.status = .dispatched → s.status = .dispatched → r = s :=
    ⟨fun x y h hid hy hx => (h hid.symm hx hy).symm⟩
  exact hpairs.forall_of_forall (fun x _ _ _ _ => rfl) hr hs

/-- The facts about the versions of an undisturbed command: it is never in
progress, and pending only without a time. -/
def Undisturbed (c : String) (r : CommandRecord) : Prop :=
  r.commandId = c → r.status ≠ .inProgress ∧ (r.status = .pending → r.dispatchedAt = none)

section Undisturbed

variable {events : List Event} {c : String}
  (hcreated : ∀ i command, .created i command ∈ events → IsNew command)
  (hundisturbed : ∀ e ∈ events, e.dropsDispatch c = false)

include hundisturbed in
/-- **The transitions of an undisturbed command**: the dispatch, and a timeout of
the dispatched version. -/
lemma undisturbed_task {l : List Event} (hl : l ⊆ events) {d : CommandRecord}
    {task : TransitionCommandTask} (hasked : Asked l d task) (hid : task.commandId = c)
    (ih : ∀ s ∈ committedRows l, Undisturbed c s) :
    task.desired = .dispatched ∨ ∃ m ∈ committedRows l, m.commandId = c ∧
      m.status = .dispatched ∧ ∃ type now, task = timeoutTask m type now := by
  obtain ⟨m, cause, hdesire, hwhich⟩ := id hasked
  have hm : m.commandId = c := by rw [← hdesire.commandId, ← hasked.commandId, hid]
  have hno : ∀ e ∈ l, e.dropsDispatch c = false := fun e he => hundisturbed e (hl he)
  cases cause with
  | refused now =>
      obtain ⟨token, topic, payload, hmem⟩ := hdesire.evidence
      simpa [Event.dropsDispatch, hm] using hno _ hmem
  | completed result now =>
      cases result with
      | false => simpa [Event.dropsDispatch, hm] using hno _ hdesire.evidence.1
      | true =>
          refine .inl ?_
          rcases hwhich with rfl | ⟨current, _, _, _, _, _, rfl⟩
          · rfl
          · rw [hdesire.record]
            rfl
  | acknowledged ack now =>
      obtain ⟨deviceId, json, hmem, _, hack, hstatus, _⟩ := hdesire.evidence
      have hdrops := hno _ hmem
      rcases hstatus with h | h <;> simp [Event.dropsDispatch, hack, hm, h] at hdrops
  | expired now =>
      have hpending : m.status ≠ .pending := by
        intro h
        obtain ⟨replaced, hmem⟩ := hdesire.formed
        simpa [Event.dropsDispatch, Cause.task, timeoutTask, hm, h] using hno _ hmem
      have hdispatched : m.status = .dispatched := by
        have hprogress := (ih m hdesire.row hm).1
        have hopen := hdesire.isOpen
        cases hstatus : m.status with
        | dispatched => rfl
        | pending => exact absurd hstatus hpending
        | inProgress => exact absurd hstatus hprogress
        | _ => rw [hstatus] at hopen; cases hopen
      rcases hwhich with rfl | ⟨current, hcurrent, hcid, hopen, hlt, _, rfl⟩
      · exact .inr ⟨m, hdesire.row, hm, hdispatched, _, now, rfl⟩
      · -- what follows `dispatched` and is open is in progress
        have hprogress := (ih current hcurrent (hcid.trans hm)).1
        rw [hdispatched] at hlt
        have hrank := hlt.1.rank_le
        cases hstatus : current.status with
        | inProgress => exact absurd hstatus hprogress
        | dispatched => exact absurd hstatus.symm hlt.2
        | pending => rw [hstatus] at hrank; cases hrank
        | _ => rw [hstatus] at hopen; cases hopen

include hcreated hundisturbed in
lemma undisturbed_rows (horigin : RowsHaveOrigin events) :
    ∀ r ∈ committedRows events, Undisturbed c r := by
  refine horigin.forall_rows fun l r hl hr ih hid => ?_
  cases hr with
  | recovered _ _ _ => exact ⟨by rintro ⟨⟩, by rintro ⟨⟩⟩
  | written hr =>
      cases hr with
      | @inserted i command hmem _ =>
          have hnew := hcreated i command (hl hmem)
          refine ⟨fun h => ?_, fun _ => congrArg (Option.map storedTime) hnew.dispatchedAt⟩
          have hstatus : command.status = .inProgress := h
          rcases hnew.status with hpending | ⟨hfailed, _⟩
          · rw [hpending] at hstatus; cases hstatus
          · rw [hfailed] at hstatus; cases hstatus
      | @moved row d task _ htask _ hcan hasked =>
          rcases undisturbed_task hundisturbed hl hasked (htask.symm.trans hid) ih with
            hdispatched | ⟨m, _, _, _, type, now, rfl⟩
          · refine ⟨fun h => ?_, fun h => ?_⟩
            · exact absurd (hdispatched.symm.trans h) (by simp)
            · exact absurd (hdispatched.symm.trans h) (by simp)
          · exact ⟨by rintro ⟨⟩, by rintro ⟨⟩⟩

include hcreated hundisturbed in
/-- Of the versions up to an open one, only this one can have a time. -/
lemma eq_of_dispatchedAt (horigin : RowsHaveOrigin events) {row s : CommandRecord}
    (hrow : row ∈ committedRows events) (hs : s ∈ committedRows events) (hid : s.commandId = c)
    (hsid : s.commandId = row.commandId) (hle : StatusLe s.status row.status)
    (hopen : row.status.isTerminal = false) {t : TimePoint} (ht : s.dispatchedAt = some t) :
    s = row := by
  have hrows := undisturbed_rows hcreated hundisturbed horigin
  have hpending : s.status ≠ .pending := by
    intro h
    rw [(hrows s hs hid).2 h] at ht
    cases ht
  cases hstatus : row.status with
  | pending =>
      rw [hstatus] at hle
      exact absurd (eq_pending_of_le hle) hpending
  | inProgress => exact absurd hstatus (hrows row hrow (hsid.symm.trans hid)).1
  | dispatched =>
      have hsstatus : s.status = .dispatched := by
        have hrank := hle.rank_le
        rw [hstatus] at hrank
        cases h : s.status with
        | dispatched => rfl
        | pending => exact absurd h hpending
        | inProgress => exact absurd h (hrows s hs hid).1
        | _ => rw [h] at hrank; cases hrank with | step h' => cases h'
      exact dispatched_unique horigin s hs row hrow hsid hsstatus hstatus
  | _ => rw [hstatus] at hopen; cases hopen

include hcreated hundisturbed in
/-- **No version of an undisturbed command loses the time.** -/
lemma keepsDispatch_of_undisturbed (horigin : RowsHaveOrigin events) :
    (committedRows events).Pairwise fun r s => r.commandId = c → KeepsDispatch r s := by
  have hrows := undisturbed_rows hcreated hundisturbed horigin
  refine horigin.pairwise fun l r hl hr s hs hid hsid t ht => ?_
  have hlift : ∀ x ∈ committedRows l, x ∈ committedRows events := fun x hx =>
    committedRows_mono (fun e he => hl he) hx
  have hsc : s.commandId = c := hsid.symm.trans hid
  -- the version that `r` follows is the one with the time
  have heq : ∀ {row : CommandRecord}, Latest l row → s.commandId = row.commandId →
      row.status.isTerminal = false → s = row := fun hlatest hsid hopen =>
    eq_of_dispatchedAt hcreated hundisturbed horigin (hlift _ hlatest.committed) (hlift s hs) hsc
      hsid (hlatest.last s hs hsid) hopen ht
  cases hr with
  | @recovered row now hlatest _ hopen =>
      rw [heq hlatest hsid.symm hopen] at ht
      exact ht
  | written hr =>
      cases hr with
      | @inserted i command hmem hnew => exact absurd hsid.symm (hnew s hs)
      | @moved row d task hlatest htask hexpected hcan hasked =>
          have hopen : row.status.isTerminal = false := by
            by_contra hterm
            rw [not_canTransition_of_isTerminal (by simpa using hterm)] at hcan
            cases hcan
          have hsrow := heq hlatest hsid.symm hopen
          rcases undisturbed_task hundisturbed hl hasked (htask.symm.trans hid)
            (fun x hx => hrows x (hlift x hx)) with
            hdispatched | ⟨m, hm, hmc, hmstatus, type, now, rfl⟩
          · rw [hdispatched] at hcan
            have hpending := eq_pending_of_canTransition hcan
            rw [← hsrow] at hpending
            rw [(hrows s (hlift s hs) hsc).2 hpending] at ht
            cases ht
          · have hsstatus : s.status = .dispatched := by
              rw [hsrow]
              exact hexpected.trans hmstatus
            have hsm := dispatched_unique horigin s (hlift s hs) m (hlift m hm)
              (hsc.trans hmc.symm) hsstatus hmstatus
            subst hsm
            exact (dispatchedAt_stored horigin s (hlift s hs)).trans ht

end Undisturbed

/-! ### Runs -/

/-- **The dispatch time is kept** for every command that is never dispatched, or
to which no device ACK is applied, none of whose publications fails, and no
deadline of which passes while it is remembered as pending. -/
theorem dispatchedAt_kept {cfg : CommandServiceConfig} {b : RuntimeBundle}
    (hb : (routeService cfg).Reachable b) {c : String}
    (h : (∀ e ∈ b.trace, e.dispatches c = false) ∨ ∀ e ∈ b.trace, e.dropsDispatch c = false) :
    (committedRows b.trace).Pairwise fun later earlier =>
      later.commandId = c → KeepsDispatch later earlier := by
  have ht := traced_of_reachable hb
  rcases h with hnever | hundisturbed
  · have hnone := dispatchedAt_none ht.provenance.rows ht.created hnever
    refine List.Pairwise.imp_of_mem ?_ (List.pairwise_of_forall (R := fun _ _ => True)
      fun _ _ => trivial)
    intro later earlier _ hearlier _ hid hsame t hdispatched
    rw [hnone earlier hearlier (hsame.symm.trans hid)] at hdispatched
    cases hdispatched
  · exact keepsDispatch_of_undisturbed ht.created hundisturbed ht.provenance.rows

/-- The versions of the rows, latest first: command, status and dispatch time. -/
def dispatchTimes (events : List Event) : List (String × CommandStatus × Option TimePoint) :=
  (committedRows events).map fun r => (r.commandId, r.status, r.dispatchedAt)

lemma pairwise_keepsDispatch_iff {events : List Event} {c : String} :
    ((committedRows events).Pairwise fun later earlier =>
      later.commandId = c → KeepsDispatch later earlier) ↔
    (dispatchTimes events).Pairwise fun later earlier => later.1 = c → later.1 = earlier.1 →
      ∀ t, earlier.2.2 = some t → later.2.2 = some t := by
  rw [dispatchTimes]
  rw [List.pairwise_map]
  rfl

/-- A control command is dispatched and found by the next process. -/
def Sample.found : List PlainInput := Sample.dispatched .control true ++ [.restart 8]

/-- The time is in all its versions from the dispatch on. -/
theorem dispatchedAt_kept_found :
    dispatchTimes (play Sample.config Sample.started Sample.found).trace =
        [(Sample.commandId, .deliveryUncertain, some 0), (Sample.commandId, .dispatched, some 0),
          (Sample.commandId, .pending, none)] ∧
      (committedRows (play Sample.config Sample.started Sample.found).trace).Pairwise
        fun later earlier => later.commandId = Sample.commandId → KeepsDispatch later earlier := by
  have hb : (routeService Sample.config).Reachable
      (play Sample.config Sample.started Sample.found) :=
    reachable_of_played (reachable_firstStart Sample.config (fun _ _ => True) Sample.sources
      (DeviceRegistry.empty.put (Sample.device .online))).of_restrict (by decide +kernel)
  have hdrops : (play Sample.config Sample.started Sample.found).trace.all
      (fun e => !e.dropsDispatch Sample.commandId) = true := by decide +kernel
  refine ⟨by decide +kernel, dispatchedAt_kept hb (.inr fun e he => ?_)⟩
  simpa using List.all_eq_true.mp hdrops e he

/-- A configuration is dispatched, and the device reports that it is applied. -/
def Sample.applied : List PlainInput :=
  Sample.dispatched .config true ++
    [.tryPush ⟨"cns/dev1/config/ack", Sample.appliedAck.1, 7⟩,
      .processNext PlainInput.unusedUuid true 7, .worker (.runCommand .completed)]

/-- **The usual course loses the time**: the ACK of the device erases it. -/
theorem dispatchedAt_lost_applied :
    (routeService Sample.config).Reachable (play Sample.config Sample.started Sample.applied) ∧
      dispatchTimes (play Sample.config Sample.started Sample.applied).trace =
        [(Sample.commandId, .succeeded, none), (Sample.commandId, .dispatched, some 0),
          (Sample.commandId, .pending, none)] ∧
      ¬ (committedRows (play Sample.config Sample.started Sample.applied).trace).Pairwise
        fun later earlier => later.commandId = Sample.commandId → KeepsDispatch later earlier := by
  have htimes : dispatchTimes (play Sample.config Sample.started Sample.applied).trace =
      [(Sample.commandId, .succeeded, none), (Sample.commandId, .dispatched, some 0),
        (Sample.commandId, .pending, none)] := by decide +kernel
  refine ⟨reachable_of_played (reachable_firstStart Sample.config (fun _ _ => True) Sample.sources
    (DeviceRegistry.empty.put (Sample.device .online))).of_restrict (by decide +kernel), htimes,
    fun hkept => ?_⟩
  rw [pairwise_keepsDispatch_iff, htimes] at hkept
  have hfirst := (List.pairwise_cons.mp hkept).1 _ List.mem_cons_self rfl rfl 0 rfl
  cases hfirst

end CnsServer
