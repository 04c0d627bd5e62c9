/-
What the reconciliation of the realtime subscriptions comes to.

* `Reconciled`: the sets agree, or an error of this connection came after the last call;
* `needsReconcile_iff`: what `needsReconcile` compares are sets;
* `complete_stale`: an operation of an earlier connection changes nothing;
* `Settled`: the invariant: a loop that is over has come to an end of this kind;
* `IsHeard`: a call does not find the loop over and its promise still there, unless it
  leaves nothing to do;
* `reconciliation_sound`: **no change is lost** in a run of such calls.
-/
import CnsServer.Backend.RealtimeTopicSubscriptions
import Mathlib.Data.List.Nodup
import Mathlib.Data.List.Perm.Subperm

namespace CnsServer

open RealtimeTopicSubscriptions

/-- An error of the current connection came after the last call. -/
def RealtimeTopicSubscriptions.ErrorReported (s : RealtimeTopicSubscriptions) : Prop :=
  ∃ operation topic, .error s.connectionGeneration operation topic ∈
    s.events.takeWhile fun event => event ≠ .called

/-- Nothing is left to do, or the attempt has been reported to fail. -/
def RealtimeTopicSubscriptions.Reconciled (s : RealtimeTopicSubscriptions) : Prop :=
  s.connected = true →
    (∀ deviceId, deviceId ∈ s.applied ↔ deviceId ∈ s.desired) ∨ s.ErrorReported

/-! ### The sets -/

structure AreSets (s : RealtimeTopicSubscriptions) : Prop where
  desired : s.desired.Nodup
  applied : s.applied.Nodup

lemma addTo_nodup {set : List String} (h : set.Nodup) (deviceId : String) :
    (addTo set deviceId).Nodup := by
  rw [addTo]
  split
  · exact h
  · next hnew => exact List.nodup_append.mpr ⟨h, List.nodup_singleton _, by grind⟩

lemma setInterest_sets {s : RealtimeTopicSubscriptions} (h : AreSets s) (deviceId : String)
    (interested : Bool) : AreSets (s.setInterest deviceId interested) := by
  refine ⟨?_, h.applied⟩
  simp only [setInterest]
  split
  · exact addTo_nodup h.desired deviceId
  · exact h.desired.erase deviceId

section

variable {topicFor : String → String} {s : RealtimeTopicSubscriptions}

/-- Sets of one size, one of which contains the other. -/
lemma needsReconcile_iff (hsets : AreSets s) (hconnected : s.connected = true) :
    s.needsReconcile = false ↔ ∀ deviceId, deviceId ∈ s.applied ↔ deviceId ∈ s.desired := by
  have hsubset : s.needsReconcile = false ↔
      s.desired.length = s.applied.length ∧ s.desired ⊆ s.applied := by
    simp [needsReconcile, hconnected, List.subset_def]
  rw [hsubset]
  constructor
  · rintro ⟨hlen, hsub⟩ deviceId
    have hperm := (List.subperm_of_subset hsets.desired hsub).perm_of_length_le
      (Nat.le_of_eq hlen.symm)
    exact hperm.mem_iff.symm
  · intro hmem
    have hperm := (List.perm_ext_iff_of_nodup hsets.desired hsets.applied).mpr
      fun deviceId => (hmem deviceId).symm
    exact ⟨hperm.length_eq, hperm.subset⟩

lemma next_sets (hsets : AreSets s) (input : SubscriptionInput) :
    AreSets (s.next topicFor input) := by
  have hschedule : ∀ s : RealtimeTopicSubscriptions, AreSets s → AreSets s.schedule := by
    intro s hsets
    rw [schedule]
    split
    · exact ⟨hsets.desired, hsets.applied⟩
    · exact ⟨hsets.desired, hsets.applied⟩
  cases input with
  | setConnected connected => exact hschedule _ ⟨hsets.desired, List.nodup_nil⟩
  | setDesired deviceId interested => exact hschedule _ (setInterest_sets hsets deviceId interested)
  | settle => exact hschedule s hsets
  | complete outcome =>
      simp only [RealtimeTopicSubscriptions.next, complete]
      split
      · split
        · exact ⟨hsets.desired, hsets.applied⟩
        · split
          · next operation deviceId generation rest _ _ _ =>
              cases operation with
              | subscribe => exact ⟨hsets.desired, addTo_nodup hsets.applied _⟩
              | unsubscribe => exact ⟨hsets.desired, hsets.applied.erase _⟩
          · exact ⟨hsets.desired, hsets.applied⟩
          · exact ⟨hsets.desired, hsets.applied⟩
      · exact hsets
  | resume =>
      simp only [RealtimeTopicSubscriptions.next, resume]
      split
      · exact ⟨hsets.desired, hsets.applied⟩
      · split
        · exact ⟨hsets.desired, hsets.applied⟩
        · exact ⟨hsets.desired, hsets.applied⟩
      · exact hsets
  | clear => exact ⟨hsets.desired, hsets.applied⟩

/-! ### Continuations -/

/-- An operation of an earlier connection changes nothing. -/
lemma complete_stale {operation : RealtimeSubscriptionOperation} {deviceId : String}
    {generation : ℕ} {rest : List String}
    (hawaiting : s.reconciliation = .awaiting operation deviceId generation rest)
    (hstale : generation ≠ s.connectionGeneration) (outcome : OperationOutcome) :
    s.complete topicFor outcome = { s with reconciliation := .returned true } := by
  simp only [complete, hawaiting]
  rw [if_pos (by simp [hstale])]

/-- The loop has failed or is over, and its promise is still there. -/
def IsLate (s : RealtimeTopicSubscriptions) : Prop :=
  s.reconciliation = .returned false ∨ s.reconciliation = .over

instance (s : RealtimeTopicSubscriptions) : Decidable (IsLate s) :=
  inferInstanceAs (Decidable (_ ∨ _))

/-- No round is under way, and none will be by itself. -/
def IsQuiet (s : RealtimeTopicSubscriptions) : Prop :=
  IsLate s ∨ s.reconciliation = .idle

/-- Where nothing goes on, the sets agree or an error was reported. -/
structure Settled (s : RealtimeTopicSubscriptions) : Prop where
  sets : AreSets s
  quiet : IsQuiet s → s.Reconciled

/-- A call comes before the loop is over, or after its promise is cleared, or it leaves
nothing to do. -/
def IsHeard (s : RealtimeTopicSubscriptions) : SubscriptionInput → Prop
  | .setConnected connected => IsLate s → (s.setConnection connected).needsReconcile = false
  | .setDesired deviceId interested =>
      IsLate s → (s.setInterest deviceId interested).needsReconcile = false
  | _ => True

/-- Where nothing is left to do, the sets agree. -/
lemma reconciled_of_needsReconcile (hsets : AreSets s) (h : s.needsReconcile = false) :
    s.Reconciled :=
  fun hconnected => .inl ((needsReconcile_iff hsets hconnected).mp h)

/-- The rounds of a loop stop nowhere but at an operation or at their end. -/
lemma subscribeAll_loud (devices : List String) :
    s.subscribeAll devices ≠ .returned false ∧ s.subscribeAll devices ≠ .over ∧
      s.subscribeAll devices ≠ .idle := by
  induction devices with
  | nil => simp [subscribeAll]
  | cons deviceId rest ih =>
      rw [subscribeAll]
      split
      · exact ih
      · simp

lemma unsubscribeAll_loud (devices : List String) :
    s.unsubscribeAll devices ≠ .returned false ∧ s.unsubscribeAll devices ≠ .over ∧
      s.unsubscribeAll devices ≠ .idle := by
  induction devices with
  | nil => exact subscribeAll_loud s.desired
  | cons deviceId rest ih =>
      rw [unsubscribeAll]
      split
      · exact ih
      · simp

lemma startRound_loud : ¬ IsQuiet s.startRound := by
  rintro (⟨h | h⟩ | h)
  all_goals
    simp only [startRound, reconcileOnce] at h
    split at h
    · cases h
    · have hloud := unsubscribeAll_loud (s := { s with rerun := false }) s.applied
      simp_all

/-- After an operation the round goes on. -/
lemma applyOperation_loud (operation : RealtimeSubscriptionOperation) (deviceId : String)
    (rest : List String) : ¬ IsQuiet (s.applyOperation operation deviceId rest) := by
  intro hquiet
  cases operation with
  | unsubscribe =>
      simp only [applyOperation, IsQuiet, IsLate] at hquiet
      split at hquiet
      · simp at hquiet
      · have hloud := unsubscribeAll_loud
          (s := { s with applied := s.applied.erase deviceId }) rest
        tauto
  | subscribe =>
      simp only [applyOperation, IsQuiet, IsLate] at hquiet
      split at hquiet
      · simp at hquiet
      · have hloud := subscribeAll_loud
          (s := { s with applied := addTo s.applied deviceId }) rest
        tauto

/-- A call: a round begins at once, or the loop hears of it, or nothing is left to do. -/
lemma schedule_settled (hsets : AreSets s)
    (hlate : IsLate s → s.Reconciled) : Settled s.schedule := by
  rw [schedule]
  split
  · exact ⟨⟨hsets.desired, hsets.applied⟩, fun hquiet => absurd hquiet startRound_loud⟩
  · next hbusy =>
      refine ⟨⟨hsets.desired, hsets.applied⟩, fun hquiet => ?_⟩
      rcases hquiet with hquiet | hidle
      · exact hlate hquiet
      · exact absurd hidle hbusy

/-- **After an operation**: the round goes on, or its error is the last event. -/
lemma complete_settled (h : Settled s) {operation : RealtimeSubscriptionOperation}
    {deviceId : String} {generation : ℕ} {rest : List String}
    (hawaiting : s.reconciliation = .awaiting operation deviceId generation rest)
    (outcome : OperationOutcome) : Settled (s.complete topicFor outcome) := by
  refine ⟨@next_sets topicFor s h.sets (.complete outcome), fun hquiet => ?_⟩
  simp only [complete, hawaiting] at hquiet ⊢
  split
  · next hstale =>
      rw [if_pos hstale] at hquiet
      rcases hquiet with ⟨hquiet | hquiet⟩ | hquiet <;> cases hquiet
  · next hcurrent =>
      rw [if_neg hcurrent] at hquiet
      have hreported : Reconciled { s with
          reconciliation := .returned false
          events := .error s.connectionGeneration operation (topicFor deviceId) :: s.events } := by
        refine fun _ => .inr ⟨operation, topicFor deviceId, ?_⟩
        rw [List.takeWhile_cons_of_pos (by simp)]
        exact List.mem_cons_self
      cases outcome with
      | succeeded => exact absurd hquiet (applyOperation_loud operation deviceId rest)
      | failed => exact hreported
      | timedOut => exact hreported

/-- **After a round**: another one, or the last check found nothing to do. -/
lemma resume_settled (h : Settled s) {result : Bool}
    (hreturned : s.reconciliation = .returned result) : Settled s.resume := by
  refine ⟨@next_sets id s h.sets .resume, fun hquiet => ?_⟩
  simp only [resume, hreturned] at hquiet ⊢
  cases result with
  | false => exact h.quiet (.inl (.inl hreturned))
  | true =>
      simp only at hquiet ⊢
      split
      · next hagain =>
          rw [if_pos hagain] at hquiet
          exact absurd hquiet startRound_loud
      · next hdone =>
          simp only [Bool.or_eq_true, not_or, Bool.not_eq_true] at hdone
          exact fun hconnected => .inl ((needsReconcile_iff h.sets hconnected).mp hdone.2)

lemma input_settled (h : Settled s) {input : SubscriptionInput} (henabled : s.Enabled input)
    (hheard : IsHeard s input) : Settled (s.next topicFor input) := by
  cases input with
  | setConnected connected =>
      have hsets : AreSets (s.setConnection connected) := ⟨h.sets.desired, List.nodup_nil⟩
      exact schedule_settled hsets fun hlate =>
        reconciled_of_needsReconcile hsets (hheard hlate)
  | setDesired deviceId interested =>
      have hsets := setInterest_sets h.sets deviceId interested
      exact schedule_settled hsets fun hlate =>
        reconciled_of_needsReconcile hsets (hheard hlate)
  | settle => exact schedule_settled h.sets fun hlate => h.quiet (.inl hlate)
  | complete outcome =>
      obtain ⟨operation, deviceId, generation, rest, hawaiting⟩ := henabled
      exact complete_settled h hawaiting outcome
  | resume =>
      obtain ⟨result, hreturned⟩ := henabled
      exact resume_settled h hreturned
  | clear =>
      exact ⟨⟨h.sets.desired, h.sets.applied⟩, fun _ => h.quiet (.inl (.inr henabled))⟩

lemma settled_of_reachable
    (h : ((realtimeSubscriptions topicFor).restrict IsHeard).Reachable s) : Settled s := by
  refine h.invariant (fun s h0 => ?_) fun s input _ hs henabled => ?_
  · cases h0
    exact ⟨⟨List.nodup_nil, List.nodup_nil⟩, fun _ hconnected => by cases hconnected⟩
  · exact input_settled hs henabled.1 henabled.2

/-- **No change is lost**: in a run in which no call that finds the loop over and its
promise not cleared leaves something to do, whenever no reconciliation is running and the
connection is up, the sets agree, or an error of this connection was reported after the
last call; and in every state an operation of an earlier connection leaves the set alone. -/
theorem reconciliation_sound (topicFor : String → String) (s : RealtimeTopicSubscriptions)
    (h : ((realtimeSubscriptions topicFor).restrict IsHeard).Reachable s) :
    (∀ operation deviceId generation rest,
      s.reconciliation = .awaiting operation deviceId generation rest →
      generation ≠ s.connectionGeneration →
      ∀ outcome, (s.next topicFor (.complete outcome)).applied = s.applied) ∧
    (s.reconciliation = .idle → s.connected = true →
      (∀ deviceId, deviceId ∈ s.applied ↔ deviceId ∈ s.desired) ∨ s.ErrorReported) := by
  refine ⟨fun operation deviceId generation rest hawaiting hstale outcome => ?_, fun hidle => ?_⟩
  · rw [RealtimeTopicSubscriptions.next, complete_stale hawaiting hstale]
  · exact (settled_of_reachable h).quiet (.inr hidle)

end

/-- A device is wanted while the connection comes up. -/
def sampleInterest : List SubscriptionInput :=
  [.setConnected true, .setDesired "a" true, .resume, .complete .succeeded, .resume, .clear]

theorem reconciliation_sound_run :
    let s := sampleInterest.foldl (RealtimeTopicSubscriptions.next id) .fresh
    s.reconciliation = .idle ∧ s.connected = true ∧ s.desired = ["a"] ∧
      ((∀ deviceId, deviceId ∈ s.applied ↔ deviceId ∈ s.desired) ∨ s.ErrorReported) := by
  intro s
  have hrun : ((realtimeSubscriptions id).restrict IsHeard).Run .fresh sampleInterest s := by
    refine .cons ⟨trivial, fun _ => by decide⟩
      (.cons ⟨trivial, fun hlate => absurd hlate (by decide +kernel)⟩ ?_)
    refine .cons ⟨⟨_, rfl⟩, trivial⟩ (.cons ⟨⟨_, _, _, _, rfl⟩, trivial⟩ ?_)
    exact .cons ⟨⟨_, rfl⟩, trivial⟩ (.cons ⟨rfl, trivial⟩ (.nil _))
  have hsound := reconciliation_sound id s (Machine.Reachable.run (.start rfl) hrun)
  exact ⟨rfl, rfl, rfl, hsound.2 rfl rfl⟩

/-- The loop has checked for the last time when the device becomes wanted, and its promise
is cleared afterwards. -/
theorem reconciliation_lost :
    ∃ s, (realtimeSubscriptions id).Reachable s ∧ s.reconciliation = .idle ∧
      s.connected = true ∧ s.desired = ["a"] ∧ s.applied = [] ∧ ¬ s.ErrorReported := by
  let inputs : List SubscriptionInput :=
    [.setConnected true, .resume, .setDesired "a" true, .clear]
  let s := inputs.foldl (RealtimeTopicSubscriptions.next id) .fresh
  have hrun : (realtimeSubscriptions id).Run .fresh inputs s :=
    .cons trivial (.cons ⟨_, rfl⟩ (.cons trivial (.cons rfl (.nil _))))
  refine ⟨s, Machine.Reachable.run (.start rfl) hrun, rfl, rfl, rfl, rfl, ?_⟩
  rintro ⟨operation, topic, hmem⟩
  cases hmem

end CnsServer
