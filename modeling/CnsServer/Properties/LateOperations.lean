/-
What the broker has subscribed when operations take effect after they were given up.

* `RealtimeSession.eventual`: the topics that will be subscribed when everything that was
  issued is executed;
* `Agrees`: they are the topics of `applied`, except for a device whose last operation is
  awaited or was rejected: there they are what the operation was for;
* `Due`: the loop issues what `applied` calls for, and nothing twice;
* `agrees_issue`: the next operation is one such exception more;
* `KeepsInterest`: no call and no rejection makes a device wanted as `applied` has it,
  while its last operation is rejected; and a call does not come between the end of the
  loop and the clearing of its promise, unless it leaves nothing to do;
* `inStep_of_reachable`, `late_operations_converge`: **in runs of such steps** the broker
  ends with the topics that are wanted.
-/
import CnsServer.Backend.RealtimeSession
import CnsServer.Properties.RealtimeReconciliation

namespace CnsServer

open RealtimeTopicSubscriptions

/-! ### The topics to come -/

/-- The topics that will be subscribed when everything that was issued is executed. -/
def RealtimeSession.eventual (s : RealtimeSession) : List String :=
  s.issued.foldl RealtimeSession.executed s.subscribed

lemma mem_addTo {set : List String} {deviceId other : String} :
    other ∈ addTo set deviceId ↔ other ∈ set ∨ other = deviceId := by
  rw [addTo]
  split
  · next hmem => exact ⟨.inl, fun h => h.elim id fun heq => heq ▸ hmem⟩
  · simp

lemma mem_executed {subscribed : List String} {operation : RealtimeSubscriptionOperation}
    {topic other : String} :
    other ∈ RealtimeSession.executed subscribed (operation, topic) ↔
      if other = topic then operation = .subscribe else other ∈ subscribed := by
  cases operation with
  | subscribe =>
      rw [RealtimeSession.executed, mem_addTo]
      split
      · next heq => simp [heq]
      · next hne => simp [hne]
  | unsubscribe =>
      rw [RealtimeSession.executed, List.mem_filter]
      split
      · next heq => simp [heq]
      · next hne => simp [hne]

/-- The last operation on the device is awaited, or was rejected. -/
def Unsure (rejected : List String) (awaited : Option (RealtimeSubscriptionOperation × String))
    (deviceId : String) : Prop :=
  deviceId ∈ rejected ∨ ∃ operation, awaited = some (operation, deviceId)

lemma unsure_none {rejected : List String} {deviceId : String} :
    Unsure rejected none deviceId ↔ deviceId ∈ rejected := by simp [Unsure]

lemma unsure_some {rejected : List String} {operation : RealtimeSubscriptionOperation}
    {deviceId other : String} :
    Unsure rejected (some (operation, deviceId)) other ↔ other ∈ rejected ∨ deviceId = other := by
  simp [Unsure]

/-- The topics to come are those of `applied`, and the other way round where that is not
sure. -/
def Agrees (topicFor : String → String) (applied rejected : List String)
    (awaited : Option (RealtimeSubscriptionOperation × String)) (topics : List String) : Prop :=
  ∀ deviceId, topicFor deviceId ∈ topics ↔
    (deviceId ∈ applied ↔ ¬ Unsure rejected awaited deviceId)

/-- Every topic is the topic of a device. -/
def KnownTopics (topicFor : String → String) (topics : List String) : Prop :=
  ∀ topic ∈ topics, ∃ deviceId, topicFor deviceId = topic

section

variable {topicFor : String → String}

lemma known_executed {topics : List String} (h : KnownTopics topicFor topics)
    (operation : RealtimeSubscriptionOperation) (deviceId : String) :
    KnownTopics topicFor (RealtimeSession.executed topics (operation, topicFor deviceId)) := by
  intro topic htopic
  rw [mem_executed] at htopic
  split at htopic
  · next heq => exact ⟨deviceId, heq.symm⟩
  · exact h topic htopic

/-! ### The loop -/

/-- The operation that is awaited is one that `applied` calls for. -/
def Due (s : RealtimeTopicSubscriptions) : Reconciliation → Prop
  | .awaiting .subscribe deviceId generation _ =>
      s.connected = true ∧ generation = s.connectionGeneration ∧ deviceId ∉ s.applied
  | .awaiting .unsubscribe deviceId generation rest =>
      s.connected = true ∧ generation = s.connectionGeneration ∧ deviceId ∈ s.applied ∧
        (deviceId :: rest).Nodup ∧ rest ⊆ s.applied
  | _ => True

section

variable {s : RealtimeTopicSubscriptions}

lemma subscribeAll_due (hconnected : s.connected = true) (devices : List String) :
    Due s (s.subscribeAll devices) := by
  induction devices with
  | nil => trivial
  | cons deviceId rest ih =>
      rw [subscribeAll]
      split
      · exact ih
      · next hnew => exact ⟨hconnected, rfl, hnew⟩

lemma unsubscribeAll_due (hconnected : s.connected = true) {devices : List String}
    (hnodup : devices.Nodup) (happlied : devices ⊆ s.applied) :
    Due s (s.unsubscribeAll devices) := by
  induction devices with
  | nil => exact subscribeAll_due hconnected s.desired
  | cons deviceId rest ih =>
      rw [unsubscribeAll]
      split
      · exact ih (List.nodup_cons.mp hnodup).2 fun other hother =>
          happlied (List.mem_cons_of_mem _ hother)
      · exact ⟨hconnected, rfl, happlied List.mem_cons_self, hnodup, fun other hother =>
          happlied (List.mem_cons_of_mem _ hother)⟩

/-- A round issues what is due. -/
lemma reconcileOnce_due (hsets : AreSets s) : Due s s.reconcileOnce := by
  rw [reconcileOnce]
  split
  · trivial
  · next hconnected =>
      refine unsubscribeAll_due (by simpa using hconnected) hsets.applied fun _ h => h

/-- After an operation the loop goes on with what is due. -/
lemma applyOperation_due {operation : RealtimeSubscriptionOperation} {deviceId : String}
    {generation : ℕ} {rest : List String}
    (hdue : Due s (.awaiting operation deviceId generation rest)) :
    Due (s.applyOperation operation deviceId rest)
      (s.applyOperation operation deviceId rest).reconciliation := by
  cases operation with
  | subscribe =>
      obtain ⟨hconnected, -, -⟩ := hdue
      rw [applyOperation, if_neg (by simp [hconnected])]
      exact @subscribeAll_due { s with applied := addTo s.applied deviceId } hconnected rest
  | unsubscribe =>
      obtain ⟨hconnected, -, -, hnodup, hrest⟩ := hdue
      obtain ⟨hnew, hnodup⟩ := List.nodup_cons.mp hnodup
      rw [applyOperation, if_neg (by simp [hconnected])]
      refine @unsubscribeAll_due { s with applied := s.applied.erase deviceId } hconnected rest
        hnodup fun other hother => ?_
      have hne : other ≠ deviceId := fun heq => hnew (heq ▸ hother)
      exact (List.mem_erase_of_ne hne).mpr (hrest hother)

lemma mem_applyOperation (hsets : AreSets s) {operation : RealtimeSubscriptionOperation}
    {deviceId other : String} {rest : List String} :
    other ∈ (s.applyOperation operation deviceId rest).applied ↔
      if other = deviceId then operation = .subscribe else other ∈ s.applied := by
  cases operation with
  | subscribe =>
      rw [applyOperation, mem_addTo]
      split
      · next heq => simp [heq]
      · next hne => simp [hne]
  | unsubscribe =>
      rw [applyOperation, hsets.applied.mem_erase_iff]
      split
      · next heq => simp [heq]
      · next hne => simp [hne]

/-- What is due turns round what `applied` says. -/
lemma Due.operation {reconciliation : Reconciliation} (h : Due s reconciliation)
    {operation : RealtimeSubscriptionOperation} {deviceId : String}
    (hoperation : reconciliation.operation = some (operation, deviceId)) :
    operation = .subscribe ↔ deviceId ∉ s.applied := by
  cases reconciliation with
  | awaiting awaited device generation rest =>
      cases hoperation
      cases operation with
      | subscribe => exact ⟨fun _ => h.2.2, fun _ => rfl⟩
      | unsubscribe => exact ⟨fun heq => (by cases heq), fun hnot => absurd h.2.2.1 hnot⟩
  | _ => cases hoperation

/-- **The next operation** is one more exception. -/
lemma agrees_issue (hdistinct : Function.Injective topicFor) {rejected topics : List String}
    {reconciliation : Reconciliation} (hdue : Due s reconciliation)
    (h : Agrees topicFor s.applied rejected none topics) :
    Agrees topicFor s.applied rejected reconciliation.operation
      ((reconciliation.operation.map (Prod.map id topicFor)).toList.foldl
        RealtimeSession.executed topics) := by
  cases hoperation : reconciliation.operation with
  | none => exact h
  | some awaited =>
      obtain ⟨operation, deviceId⟩ := awaited
      intro other
      rw [Option.map_some, Option.toList_some, List.foldl_cons, List.foldl_nil, Prod.map, id,
        mem_executed, unsure_some]
      by_cases heq : other = deviceId
      · subst heq
        rw [if_pos rfl, hdue.operation hoperation]
        simp
      · rw [if_neg fun htopic => heq (hdistinct htopic), h other, unsure_none]
        simp [Ne.symm heq]

lemma known_issue {topics : List String} (h : KnownTopics topicFor topics)
    (awaited : Option (RealtimeSubscriptionOperation × String)) :
    KnownTopics topicFor ((awaited.map (Prod.map id topicFor)).toList.foldl
      RealtimeSession.executed topics) := by
  cases awaited with
  | none => exact h
  | some awaited => exact known_executed h awaited.1 awaited.2

end

/-! ### The invariant -/

/-- The topics to come follow the controller. -/
structure Attuned (topicFor : String → String) (controller : RealtimeTopicSubscriptions)
    (rejected : List String) (failed : Bool) (topics : List String) : Prop where
  sets : AreSets controller
  closed : controller.connected = false → controller.applied = []
  due : Due controller controller.reconciliation
  known : KnownTopics topicFor topics
  agrees : Agrees topicFor controller.applied rejected controller.reconciliation.operation topics
  wanted : ∀ deviceId ∈ rejected, (deviceId ∈ controller.desired ↔ deviceId ∉ controller.applied)
  reported : controller.reconciliation = .returned false → failed = true
  quiet : controller.reconciliation = .idle ∨ controller.reconciliation = .over →
    failed = false → controller.needsReconcile = false

/-- The broker follows the controller. -/
def InStep (topicFor : String → String) (s : RealtimeSession) : Prop :=
  Attuned topicFor s.controller s.rejected s.failed s.eventual

namespace RealtimeSession

/-- A call is heard: it does not find the loop over, without an error, and its promise
still there, unless it leaves nothing to do. -/
def Heard (s : RealtimeSession) (members : RealtimeTopicSubscriptions) : Prop :=
  s.controller.reconciliation = .over → s.failed = false → members.needsReconcile = false

/-- A call is heard, and the interest in a device stays what its last operation was for,
from when it is rejected until it succeeds. -/
def KeepsInterest (s : RealtimeSession) : SessionInput → Prop
  | .client (.setConnected connected) => s.Heard (s.controller.setConnection connected)
  | .client (.setDesired deviceId interested) =>
      s.Heard (s.controller.setInterest deviceId interested) ∧
        (deviceId ∈ s.rejected → (interested = true ↔ deviceId ∉ s.controller.applied))
  | .client (.complete outcome) => outcome ≠ .succeeded → ∀ operation deviceId,
      s.controller.reconciliation.operation = some (operation, deviceId) →
        (deviceId ∈ s.controller.desired ↔ operation = .subscribe)
  | _ => True

end RealtimeSession

variable {s : RealtimeSession}

/-- What a step of the controller issues comes last. -/
lemma client_eventual (input : SubscriptionInput) : (s.client topicFor input).eventual =
    (RealtimeSession.issue topicFor s.controller (s.controller.next topicFor input) input).foldl
      RealtimeSession.executed s.eventual := by
  rw [RealtimeSession.eventual, RealtimeSession.client, List.foldl_append]
  rfl

/-- **A round begins**, and issues its first operation. -/
lemma startRound_attuned (hdistinct : Function.Injective topicFor)
    {members : RealtimeTopicSubscriptions} {rejected topics : List String} {failed : Bool}
    (hsets : AreSets members) (hclosed : members.connected = false → members.applied = [])
    (hknown : KnownTopics topicFor topics)
    (hagrees : Agrees topicFor members.applied rejected none topics)
    (hwanted : ∀ deviceId ∈ rejected, (deviceId ∈ members.desired ↔ deviceId ∉ members.applied))
    (hreported : members.startRound.reconciliation = .returned false → failed = true) :
    Attuned topicFor members.startRound rejected failed
      ((members.startRound.reconciliation.operation.map (Prod.map id topicFor)).toList.foldl
        RealtimeSession.executed topics) := by
  have hround : Due members.startRound members.startRound.reconciliation :=
    @reconcileOnce_due { members with rerun := false } ⟨hsets.desired, hsets.applied⟩
  exact
    { sets := ⟨hsets.desired, hsets.applied⟩
      closed := hclosed
      due := hround
      known := known_issue hknown _
      agrees := @agrees_issue _ members.startRound hdistinct _ _ _ hround hagrees
      wanted := hwanted
      reported := hreported
      quiet := fun hquiet => absurd (hquiet.elim .inr fun hover => .inl (.inr hover))
        startRound_loud }

/-- **A call**: the loop hears of it, or a round begins. -/
lemma schedule_inStep (hdistinct : Function.Injective topicFor) (h : InStep topicFor s)
    {members : RealtimeTopicSubscriptions} (hsets : AreSets members)
    (hsame : members.reconciliation = s.controller.reconciliation)
    (happlied : members.applied = s.controller.applied)
    (hclosed : members.connected = false → members.applied = [])
    (hdue : Due members members.reconciliation)
    (hwanted : ∀ deviceId ∈ s.rejected,
      (deviceId ∈ members.desired ↔ deviceId ∉ members.applied))
    (hheard : s.Heard members) {input : SubscriptionInput}
    (hinput : ∀ outcome, input ≠ .complete outcome)
    (hafter : s.controller.next topicFor input = members.schedule) :
    InStep topicFor (s.client topicFor input) := by
  have hrejected : s.rejects input = s.rejected := by
    cases input with
    | complete outcome => exact absurd rfl (hinput outcome)
    | _ => rfl
  have hissue : RealtimeSession.issue topicFor s.controller members.schedule input =
      if s.controller.reconciliation.operation.isSome then []
      else (members.schedule.reconciliation.operation.map (Prod.map id topicFor)).toList := by
    cases input with
    | complete outcome => exact absurd rfl (hinput outcome)
    | _ => rfl
  rw [InStep, client_eventual, RealtimeSession.client, hafter, hissue, hrejected]
  have hagrees := h.agrees
  rw [← happlied, ← hsame] at hagrees
  rw [← hsame]
  by_cases hidle : members.reconciliation = .idle
  · -- a round begins
    rw [show members.schedule = members.startRound from if_pos hidle]
    rw [hidle] at hagrees ⊢
    exact startRound_attuned hdistinct hsets hclosed h.known hagrees hwanted
      fun hreturned => if_pos hreturned
  · -- the loop is told to run once more
    rw [show members.schedule = { members with rerun := true } from if_neg hidle]
    have hnothing : (if members.reconciliation.operation.isSome then []
        else (members.reconciliation.operation.map (Prod.map id topicFor)).toList) = [] := by
      cases members.reconciliation.operation with
      | none => rfl
      | some awaited => rfl
    dsimp only
    rw [hnothing]
    exact
      { sets := ⟨hsets.desired, hsets.applied⟩
        closed := hclosed
        due := hdue
        known := h.known
        agrees := hagrees
        wanted := hwanted
        reported := fun hreturned => if_pos hreturned
        quiet := fun hquiet hfalse => by
          have hover : members.reconciliation = .over := hquiet.resolve_left hidle
          refine hheard (hsame.symm.trans hover) ?_
          rw [RealtimeSession.reports, if_neg (by simp [hover]), if_neg (by simp [← hsame, hover])]
            at hfalse
          exact hfalse }

/-- **The end of an operation**: it is settled by a success, and otherwise counts as
rejected. -/
lemma complete_inStep (hdistinct : Function.Injective topicFor) (h : InStep topicFor s)
    {outcome : OperationOutcome} (henabled : s.Enabled (.client (.complete outcome)))
    (hkeeps : s.KeepsInterest (.client (.complete outcome))) :
    InStep topicFor (s.client topicFor (.complete outcome)) := by
  obtain ⟨⟨operation, deviceId, generation, rest, hawaiting⟩, -⟩ := henabled
  have hdue := h.due
  rw [hawaiting] at hdue
  have hoperation : s.controller.reconciliation.operation = some (operation, deviceId) := by
    rw [hawaiting]
    rfl
  have hturn : operation = .subscribe ↔ deviceId ∉ s.controller.applied := hdue.operation rfl
  have hcurrent :
      ¬ (!s.controller.connected || generation ≠ s.controller.connectionGeneration) := by
    cases operation with
    | subscribe => simp [hdue.1, hdue.2.1]
    | unsubscribe => simp [hdue.1, hdue.2.1]
  have hagrees := h.agrees
  rw [hoperation] at hagrees
  by_cases hsucceeded : outcome = .succeeded
  · subst hsucceeded
    have hcomplete : s.controller.next topicFor (.complete .succeeded) =
        s.controller.applyOperation operation deviceId rest := by
      simp only [RealtimeTopicSubscriptions.next, complete, hawaiting]
      rw [if_neg hcurrent]
    have hrejected : s.rejects (.complete .succeeded) = s.rejected.filter (· ≠ deviceId) := by
      simp only [RealtimeSession.rejects, hoperation, if_true]
    have hnext := applyOperation_due hdue
    have hsettled : Agrees topicFor (s.controller.applyOperation operation deviceId rest).applied
        (s.rejected.filter (· ≠ deviceId)) none s.eventual := by
      intro other
      rw [hagrees other, unsure_some, unsure_none, mem_applyOperation h.sets]
      by_cases heq : other = deviceId
      · simp [heq, hturn]
      · simp [heq, Ne.symm heq]
    rw [InStep, client_eventual, RealtimeSession.client, hcomplete, hrejected]
    exact
      { sets := by
          have hsets := @next_sets topicFor s.controller h.sets (.complete .succeeded)
          rw [hcomplete] at hsets
          exact hsets
        closed := fun hclosed => by
          cases operation <;> simp_all [applyOperation]
        due := hnext
        known := known_issue h.known _
        agrees := agrees_issue hdistinct hnext hsettled
        wanted := fun other hother => by
          obtain ⟨hbefore, hne⟩ := List.mem_filter.mp hother
          rw [mem_applyOperation h.sets, if_neg (of_decide_eq_true hne)]
          cases operation with
          | subscribe => exact h.wanted other hbefore
          | unsubscribe => exact h.wanted other hbefore
        reported := fun hreturned => if_pos hreturned
        quiet := fun hquiet => absurd (hquiet.elim .inr fun hover => .inl (.inr hover))
          (applyOperation_loud operation deviceId rest) }
  · have hcomplete : s.controller.next topicFor (.complete outcome) =
        { s.controller with
          reconciliation := .returned false
          events := .error s.controller.connectionGeneration operation (topicFor deviceId) ::
            s.controller.events } := by
      simp only [RealtimeTopicSubscriptions.next, complete, hawaiting]
      rw [if_neg hcurrent]
      cases outcome with
      | succeeded => exact absurd rfl hsucceeded
      | failed => rfl
      | timedOut => rfl
    have hrejected : s.rejects (.complete outcome) = addTo s.rejected deviceId := by
      simp only [RealtimeSession.rejects, hoperation, if_neg hsucceeded]
    rw [InStep, client_eventual, RealtimeSession.client, hcomplete, hrejected]
    exact
      { sets := ⟨h.sets.desired, h.sets.applied⟩
        closed := h.closed
        due := trivial
        known := h.known
        agrees := fun other => by
          have hsame : Unsure s.rejected (some (operation, deviceId)) other ↔
              Unsure (addTo s.rejected deviceId) none other := by
            rw [unsure_some, unsure_none, mem_addTo, @eq_comm _ other]
          exact (hagrees other).trans (iff_congr Iff.rfl (not_congr hsame))
        wanted := fun other hother => by
          rcases mem_addTo.mp hother with hbefore | rfl
          · exact h.wanted other hbefore
          · exact (hkeeps hsucceeded operation other hoperation).trans hturn
        reported := fun _ => rfl
        quiet := fun hquiet => by rcases hquiet with hquiet | hquiet <;> cases hquiet }

/-- **After a round**: the next one, or the last check found nothing to do, or an error was
reported. -/
lemma resume_inStep (hdistinct : Function.Injective topicFor) (h : InStep topicFor s)
    (henabled : s.Enabled (.client .resume)) : InStep topicFor (s.client topicFor .resume) := by
  obtain ⟨result, hreturned⟩ := henabled
  have hoperation : s.controller.reconciliation.operation = none := by
    rw [hreturned]
    rfl
  have hagrees := h.agrees
  rw [hoperation] at hagrees
  have hissue : RealtimeSession.issue topicFor s.controller s.controller.resume .resume =
      (s.controller.resume.reconciliation.operation.map (Prod.map id topicFor)).toList := by
    simp only [RealtimeSession.issue, hoperation, Option.isSome_none, Bool.false_eq_true, if_false]
  rw [InStep, client_eventual, RealtimeSession.client, RealtimeTopicSubscriptions.next, hissue]
  have hend : (s.failed = false → s.controller.needsReconcile = false) →
      Attuned topicFor { s.controller with reconciliation := .over } s.rejected
        (s.reports { s.controller with reconciliation := .over }) s.eventual := fun hquiet =>
    { sets := ⟨h.sets.desired, h.sets.applied⟩
      closed := h.closed
      due := trivial
      known := h.known
      agrees := hagrees
      wanted := h.wanted
      reported := fun hreturned => by cases hreturned
      quiet := fun _ hfalse => by
        rw [RealtimeSession.reports, if_neg (by simp), if_neg (by simp [hreturned])] at hfalse
        exact hquiet hfalse }
  rw [RealtimeTopicSubscriptions.resume, hreturned]
  cases result with
  | false =>
      refine hend fun hfalse => ?_
      rw [h.reported hreturned] at hfalse
      cases hfalse
  | true =>
      dsimp only
      split
      · exact startRound_attuned hdistinct h.sets h.closed h.known hagrees h.wanted
          fun hreturned => if_pos hreturned
      · next hdone =>
          simp only [Bool.or_eq_true, not_or, Bool.not_eq_true] at hdone
          exact hend fun _ => hdone.2

/-- The promise is cleared. -/
lemma clear_inStep (h : InStep topicFor s) (henabled : s.Enabled (.client .clear)) :
    InStep topicFor (s.client topicFor .clear) := by
  have hover : s.controller.reconciliation = .over := henabled
  have hagrees := h.agrees
  rw [show s.controller.reconciliation.operation = none by rw [hover]; rfl] at hagrees
  have hissue : RealtimeSession.issue topicFor s.controller s.controller.clear .clear = [] := by
    simp only [RealtimeSession.issue, hover, Reconciliation.operation, Option.isSome_none,
      Bool.false_eq_true, if_false, clear, Option.map_none, Option.toList_none]
  rw [InStep, client_eventual, RealtimeSession.client, RealtimeTopicSubscriptions.next, hissue]
  exact
    { sets := ⟨h.sets.desired, h.sets.applied⟩
      closed := h.closed
      due := trivial
      known := h.known
      agrees := hagrees
      wanted := h.wanted
      reported := fun hreturned => by cases hreturned
      quiet := fun _ hfalse => by
        rw [RealtimeSession.reports, if_neg (by simp [clear]), if_neg (by simp [hover])] at hfalse
        exact h.quiet (.inr hover) hfalse }

lemma execute_inStep (h : InStep topicFor s) : InStep topicFor s.execute := by
  rw [RealtimeSession.execute]
  split
  · exact h
  · next operation issued hissued =>
      have heventual : RealtimeSession.eventual { s with
          issued := issued
          subscribed := RealtimeSession.executed s.subscribed operation } = s.eventual := by
        rw [RealtimeSession.eventual, RealtimeSession.eventual, hissued]
        rfl
      rw [InStep, heventual]
      exact h

lemma mem_setInterest {controller : RealtimeTopicSubscriptions} (hsets : AreSets controller)
    {deviceId other : String} {interested : Bool} :
    other ∈ (controller.setInterest deviceId interested).desired ↔
      if other = deviceId then interested = true else other ∈ controller.desired := by
  cases interested with
  | true =>
      rw [setInterest, if_pos rfl, mem_addTo]
      split
      · next heq => simp [heq]
      · next hne => simp [hne]
  | false =>
      rw [setInterest, if_neg Bool.false_ne_true, hsets.desired.mem_erase_iff]
      split
      · next heq => simp [heq]
      · next hne => simp [hne]

/-- **One step** keeps the broker in step. -/
lemma next_inStep (hdistinct : Function.Injective topicFor) (h : InStep topicFor s)
    {input : SessionInput} (henabled : s.Enabled input) (hkeeps : s.KeepsInterest input) :
    InStep topicFor (s.next topicFor input) := by
  cases input with
  | execute => exact execute_inStep h
  | client input =>
      cases input with
      | setConnected connected =>
          have hclosed : s.controller.connected = false := henabled
          have happlied := h.closed hclosed
          -- nothing is awaited before the connection is up
          have hdue : Due (s.controller.setConnection connected)
              (s.controller.setConnection connected).reconciliation := by
            have hbefore := h.due
            rw [show (s.controller.setConnection connected).reconciliation =
              s.controller.reconciliation from rfl]
            cases hloop : s.controller.reconciliation with
            | awaiting operation deviceId generation rest =>
                rw [hloop] at hbefore
                cases operation with
                | subscribe => exact absurd (hbefore.1.symm.trans hclosed) Bool.true_eq_false.mp
                | unsubscribe => exact absurd (hbefore.1.symm.trans hclosed) Bool.true_eq_false.mp
            | _ => trivial
          have hsets : AreSets (s.controller.setConnection connected) :=
            ⟨h.sets.desired, List.nodup_nil⟩
          refine schedule_inStep hdistinct h hsets rfl happlied.symm (fun _ => rfl) hdue
            (fun deviceId hmem => ?_) hkeeps (fun _ heq => by cases heq) rfl
          have hwanted := h.wanted deviceId hmem
          rw [happlied] at hwanted
          exact hwanted
      | setDesired deviceId interested =>
          refine schedule_inStep hdistinct h (setInterest_sets h.sets deviceId interested) rfl rfl
            h.closed h.due (fun other hmem => ?_) hkeeps.1 (fun _ heq => by cases heq) rfl
          rw [mem_setInterest h.sets]
          split
          · next heq =>
              subst heq
              exact hkeeps.2 hmem
          · exact h.wanted other hmem
      | settle =>
          exact schedule_inStep hdistinct h h.sets rfl rfl h.closed h.due h.wanted
            (fun hover hfalse => h.quiet (.inr hover) hfalse) (fun _ heq => by cases heq) rfl
      | complete outcome => exact complete_inStep hdistinct h henabled hkeeps
      | resume => exact resume_inStep hdistinct h henabled
      | clear => exact clear_inStep h henabled

lemma inStep_of_reachable (hdistinct : Function.Injective topicFor)
    (h : ((realtimeSession topicFor).restrict RealtimeSession.KeepsInterest).Reachable s) :
    InStep topicFor s := by
  refine h.invariant (P := InStep topicFor) (fun s h0 => ?_) fun s input _ hs henabled => ?_
  · cases h0
    exact
      { sets := ⟨List.nodup_nil, List.nodup_nil⟩
        closed := fun _ => rfl
        due := trivial
        known := fun topic hmem => by cases hmem
        agrees := fun deviceId => by
          simp [RealtimeSession.fresh, fresh, RealtimeSession.eventual, Unsure,
            Reconciliation.operation]
        wanted := fun deviceId hmem => by cases hmem
        reported := fun hreturned => by cases hreturned
        quiet := fun _ _ => rfl }
  · exact next_inStep hdistinct hs henabled.1 henabled.2

/-- **The broker ends with the topics that are wanted**, in runs on one connection in which
every call is heard and no device is wanted as `applied` has it while its last operation is
rejected: once everything issued is executed, where no reconciliation is running and the last
one reported no error. -/
theorem late_operations_converge (topicFor : String → String)
    (hdistinct : Function.Injective topicFor) (s : RealtimeSession)
    (h : ((realtimeSession topicFor).restrict RealtimeSession.KeepsInterest).Reachable s)
    (hconnected : s.controller.connected = true) (hissued : s.issued = [])
    (hidle : s.controller.reconciliation = .idle) (hfailed : s.failed = false) (topic : String) :
    topic ∈ s.subscribed ↔ topic ∈ s.controller.desired.map topicFor := by
  have hinv := inStep_of_reachable hdistinct h
  have heventual : s.eventual = s.subscribed := by rw [RealtimeSession.eventual, hissued]; rfl
  have hsame := (needsReconcile_iff hinv.sets hconnected).mp (hinv.quiet (.inl hidle) hfailed)
  -- what is wanted is applied, so that nothing is rejected
  have hrejected : ∀ deviceId, deviceId ∉ s.rejected := by
    intro deviceId hmem
    have hwanted := hinv.wanted deviceId hmem
    rw [hsame deviceId] at hwanted
    tauto
  have hagrees := hinv.agrees
  rw [heventual, hidle, show Reconciliation.idle.operation = none from rfl] at hagrees
  have hdevice : ∀ deviceId,
      topicFor deviceId ∈ s.subscribed ↔ deviceId ∈ s.controller.desired := by
    intro deviceId
    rw [hagrees deviceId, unsure_none, ← hsame deviceId]
    simp [hrejected deviceId]
  rw [List.mem_map]
  constructor
  · intro hmem
    obtain ⟨deviceId, rfl⟩ := hinv.known topic (heventual ▸ hmem)
    exact ⟨deviceId, (hdevice deviceId).mp hmem, rfl⟩
  · rintro ⟨deviceId, hmem, rfl⟩
    exact (hdevice deviceId).mpr hmem

end

/-- A subscription is given up, tried again and confirmed, after the broker has executed it
twice. -/
def sampleRetry : List SessionInput :=
  [.client (.setConnected true), .client .resume, .client .clear,
    .client (.setDesired "a" true), .client (.complete .timedOut), .client .resume,
    .client .clear, .client .settle, .execute, .execute, .client (.complete .succeeded),
    .client .resume, .client .clear]

theorem late_operations_converge_retry :
    let s := sampleRetry.foldl (RealtimeSession.next (realtimeTopic "cns_rpi")) .fresh
    s.controller.desired = ["a"] ∧ ∀ topic,
      topic ∈ s.subscribed ↔ topic ∈ s.controller.desired.map (realtimeTopic "cns_rpi") := by
  intro s
  have hrun : ((realtimeSession (realtimeTopic "cns_rpi")).restrict
      RealtimeSession.KeepsInterest).Run .fresh sampleRetry s := by
    refine .cons ⟨rfl, fun hover => (by cases hover)⟩ (.cons ⟨⟨_, rfl⟩, trivial⟩ ?_)
    refine .cons ⟨rfl, trivial⟩ (.cons ⟨trivial, fun hover => (by cases hover),
      fun hmem => (by cases hmem)⟩ ?_)
    refine .cons ⟨⟨⟨_, _, _, _, rfl⟩, fun heq => (by cases heq)⟩,
      fun _ operation deviceId heq => ?_⟩ ?_
    · cases heq
      decide
    refine .cons ⟨⟨_, rfl⟩, trivial⟩ (.cons ⟨rfl, trivial⟩ (.cons ⟨trivial, trivial⟩ ?_))
    refine .cons ⟨fun heq => (by cases heq), trivial⟩
      (.cons ⟨fun heq => (by cases heq), trivial⟩ ?_)
    refine .cons ⟨⟨⟨_, _, _, _, rfl⟩, fun _ => rfl⟩, fun hne => absurd rfl hne⟩ ?_
    exact .cons ⟨⟨_, rfl⟩, trivial⟩ (.cons ⟨rfl, trivial⟩ (.nil _))
  have hreached := Machine.Reachable.run (.start rfl) hrun
  exact ⟨rfl, late_operations_converge _ (realtimeTopic_injective "cns_rpi") s hreached rfl rfl rfl
    rfl⟩

/-- The interest is taken back after the subscription was given up: nothing is left to do,
and then the broker executes it. -/
theorem late_subscription_stays :
    ∃ s, (realtimeSession (realtimeTopic "cns_rpi")).Reachable s ∧ s.controller.connected = true ∧
      s.issued = [] ∧ s.controller.reconciliation = .idle ∧ s.failed = false ∧
      s.controller.desired = [] ∧ s.subscribed = [realtimeTopic "cns_rpi" "a"] ∧
      ¬ ∀ topic, topic ∈ s.subscribed ↔
        topic ∈ s.controller.desired.map (realtimeTopic "cns_rpi") := by
  let inputs : List SessionInput :=
    [.client (.setConnected true), .client .resume, .client .clear,
      .client (.setDesired "a" true), .client (.complete .timedOut), .client .resume,
      .client .clear, .client (.setDesired "a" false), .client .resume, .client .clear, .execute]
  let s := inputs.foldl (RealtimeSession.next (realtimeTopic "cns_rpi")) .fresh
  have hrun : (realtimeSession (realtimeTopic "cns_rpi")).Run .fresh inputs s := by
    refine .cons rfl (.cons ⟨_, rfl⟩ (.cons rfl (.cons trivial ?_)))
    refine .cons ⟨⟨_, _, _, _, rfl⟩, fun heq => (by cases heq)⟩ (.cons ⟨_, rfl⟩ (.cons rfl ?_))
    exact .cons trivial (.cons ⟨_, rfl⟩ (.cons rfl (.cons (fun heq => (by cases heq)) (.nil _))))
  refine ⟨s, Machine.Reachable.run (.start rfl) hrun, rfl, rfl, rfl, rfl, rfl, rfl, fun hsame => ?_⟩
  exact List.not_mem_nil ((hsame (realtimeTopic "cns_rpi" "a")).mp List.mem_cons_self)

end CnsServer
