/-
What the threads around a queue can rely on.

* `BoundedQueue.Sound`: the invariant; its field `awake` says that nobody sleeps over a value
  without a notification under way;
* `sound_of_reachable`: it holds in every interleaving;
* `queue_in_order`: **what is returned** is what was taken, in order;
* `queue_serves`: **who waits is served**, if the threads are scheduled fairly.
-/
import CnsServer.Library.Fairness
import CnsServer.Runtime.BoundedQueue
import Mathlib.Data.List.Nodup

namespace CnsServer

namespace BoundedQueue

variable {α κ : Type} {s : BoundedQueue α κ} {consumer : κ}

/-! ### The invariant -/

/-- What holds between the steps. -/
structure Sound (s : BoundedQueue α κ) : Prop where
  bound : s.queue.length ≤ s.capacity
  fifo : s.delivered ++ s.queue = s.pushed
  awake : s.waiting ≠ [] → s.queue.length ≤ s.notifying + s.checking.length
  closing : s.closed = true → s.waiting ≠ [] → 0 < s.closing
  ended : ∀ consumer, (consumer, none) ∈ s.returned → s.closed = true ∧ s.queue = []
  once : (s.checking ++ s.waiting).Nodup

lemma sound_create {capacity : ℕ} (h : create capacity = some s) : s.Sound := by
  rw [create] at h
  split at h
  · cases h
  · cases h
    constructor <;> simp [delivered]

lemma Sound.tryPush (h : s.Sound) (value : α) : (s.tryPush value).1.Sound := by
  rw [BoundedQueue.tryPush]
  split
  · exact h
  · next hroom =>
    rw [not_or, not_le] at hroom
    refine ⟨?_, ?_, fun hwaiting => ?_, h.closing, fun consumer hnone => ?_, h.once⟩
    · simp only [List.length_append, List.length_singleton]
      omega
    · rw [← h.fifo]
      simp [delivered]
    · have hawake := h.awake hwaiting
      simp only [List.length_append, List.length_singleton]
      omega
    · exact (hroom.1 (h.ended consumer hnone).1).elim

lemma Sound.close (h : s.Sound) : s.close.Sound where
  bound := h.bound
  fifo := h.fifo
  awake := h.awake
  closing _ _ := Nat.succ_pos _
  ended consumer hnone := ⟨rfl, (h.ended consumer hnone).2⟩
  once := h.once

lemma Sound.notifyAll (h : s.Sound) : s.notifyAll.Sound where
  bound := h.bound
  fifo := h.fifo
  awake hwaiting := (hwaiting rfl).elim
  closing _ hwaiting := (hwaiting rfl).elim
  ended := h.ended
  once := by simpa [BoundedQueue.notifyAll] using h.once

lemma Sound.waitPop (h : s.Sound) (houtside : ¬s.Inside consumer) : (s.waitPop consumer).Sound where
  bound := h.bound
  fifo := h.fifo
  awake hwaiting := by
    have hawake := h.awake hwaiting
    simp only [BoundedQueue.waitPop, List.length_append, List.length_singleton]
    omega
  closing := h.closing
  ended := h.ended
  once := by
    rw [BoundedQueue.waitPop, List.append_assoc, List.singleton_append, List.nodup_middle,
      List.nodup_cons, List.mem_append]
    exact ⟨houtside, h.once⟩

section

variable [DecidableEq κ]

/-- The consumers inside stay the same when one of them is woken up. -/
lemma perm_wake (hwaiting : consumer ∈ s.waiting) :
    ((s.wake consumer).checking ++ (s.wake consumer).waiting).Perm (s.checking ++ s.waiting) := by
  simp only [wake, List.append_assoc, List.singleton_append]
  exact (List.perm_cons_erase hwaiting).symm.append_left _

lemma Sound.wake (h : s.Sound) (hwaiting : consumer ∈ s.waiting) : (s.wake consumer).Sound where
  bound := h.bound
  fifo := h.fifo
  awake _ := by
    have hawake := h.awake (List.ne_nil_of_mem hwaiting)
    simp only [BoundedQueue.wake, List.length_append, List.length_singleton]
    omega
  closing hclosed _ := h.closing hclosed (List.ne_nil_of_mem hwaiting)
  ended := h.ended
  once := (perm_wake hwaiting).nodup_iff.mpr h.once

lemma Sound.notifyOne (h : s.Sound) {woken : Option κ} (henabled : s.Enabled (.notifyOne woken)) :
    (s.notifyOne woken).Sound := by
  cases woken with
  | none =>
      have hnobody : s.waiting = [] := henabled.2
      exact ⟨h.bound, h.fifo, fun hwaiting => (hwaiting hnobody).elim, h.closing, h.ended, h.once⟩
  | some consumer =>
      have hwaiting : consumer ∈ s.waiting := henabled.2
      have hwoken := h.wake hwaiting
      refine ⟨h.bound, h.fifo, fun _ => ?_, hwoken.closing, h.ended, hwoken.once⟩
      -- one notification less, one consumer more
      have hawake := h.awake (List.ne_nil_of_mem hwaiting)
      have hsome : 0 < s.notifying := henabled.1
      simp only [BoundedQueue.notifyOne, BoundedQueue.wake, List.length_append,
        List.length_singleton]
      omega

lemma Sound.check (h : s.Sound) (hchecking : consumer ∈ s.checking) : (s.check consumer).Sound := by
  have honce : (s.checking.erase consumer ++ s.waiting).Nodup :=
    h.once.sublist (List.erase_sublist.append_right _)
  have hlength := List.length_erase_of_mem hchecking
  have hpos := List.length_pos_of_mem hchecking
  rw [BoundedQueue.check]
  split
  · next value rest hqueue =>
    have hbound := h.bound
    have hfifo := h.fifo
    rw [hqueue] at hbound hfifo
    refine ⟨?_, ?_, fun hwaiting => ?_, h.closing, fun other hnone => ?_, honce⟩
    · exact (Nat.le_succ _).trans hbound
    · rw [← hfifo]
      simp [delivered]
    · have hawake := h.awake hwaiting
      rw [hqueue, List.length_cons] at hawake
      show rest.length ≤ s.notifying + (s.checking.erase consumer).length
      omega
    · have hempty : (other, none) ∈ s.returned := by simpa using hnone
      have := (h.ended other hempty).2
      rw [hqueue] at this
      cases this
  · next hqueue =>
    split
    · next hclosed =>
      refine ⟨h.bound, ?_, fun _ => ?_, h.closing, fun _ _ => ⟨hclosed, hqueue⟩, honce⟩
      · rw [← h.fifo]
        simp [delivered]
      · simp [hqueue]
    · next hopen =>
      refine ⟨h.bound, h.fifo, fun _ => ?_, fun hclosed => (hopen hclosed).elim, h.ended, ?_⟩
      · simp [hqueue]
      · have hperm : (s.checking.erase consumer ++ (s.waiting ++ [consumer])).Perm
            (s.checking ++ s.waiting) := by
          rw [← List.append_assoc]
          refine (List.perm_append_singleton _ _).trans ?_
          exact (List.perm_cons_erase hchecking).symm.append_right _
        exact hperm.nodup_iff.mpr h.once

/-- **In every interleaving**. -/
lemma sound_of_reachable (h : (boundedQueue α κ).Reachable s) : s.Sound := by
  refine h.invariant ?_ ?_
  · rintro s ⟨capacity, hcreate⟩
    exact sound_create hcreate
  · intro s input _ hsound henabled
    cases input with
    | tryPush value => exact hsound.tryPush value
    | notifyOne woken => exact hsound.notifyOne henabled
    | close => exact hsound.close
    | notifyAll => exact hsound.notifyAll
    | waitPop consumer => exact hsound.waitPop henabled
    | check consumer => exact hsound.check henabled
    | wake consumer => exact hsound.wake henabled

end

/-! ### Progress -/

/-- The threads that have to be scheduled. -/
inductive Scheduled (κ : Type) where
  | consumer (consumer : κ)
  | notifier
  | closer

/-- The steps of each of them. -/
def Scheduled.Steps : Scheduled κ → Input α κ → Prop
  | .consumer consumer, .check other => other = consumer
  | .notifier, .notifyOne _ => True
  | .closer, .notifyAll => True
  | _, _ => False

/-- Some consumer is in `WaitPop`. -/
def Engaged (s : BoundedQueue α κ) : Prop := s.checking ≠ [] ∨ s.waiting ≠ []

/-- A value is there, and somebody to take it. -/
structure Due (s : BoundedQueue α κ) (taken : ℕ) : Prop where
  queue : s.queue ≠ []
  engaged : s.Engaged
  taken : s.delivered.length = taken

/-- Nobody is awake. -/
def rank (s : BoundedQueue α κ) : ℕ := if s.checking = [] then 1 else 0

/-- Who is to bring a value nearer to a consumer. -/
def turn (s : BoundedQueue α κ) : Scheduled κ :=
  match s.checking with
  | [] => .notifier
  | consumer :: _ => .consumer consumer

variable {taken : ℕ} {input : Input α κ}

/-- It is not the turn of the notifications while somebody is awake. -/
lemma turn_of_awake (hawake : s.checking ≠ []) : ∃ consumer, s.turn = .consumer consumer := by
  rw [turn]
  split
  · next hnobody => exact (hawake hnobody).elim
  · next consumer others hchecking => exact ⟨consumer, rfl⟩

lemma due_enabled (hsound : s.Sound) (hdue : s.Due taken) :
    ∃ input : Input α κ, s.turn.Steps input ∧ s.Enabled input := by
  cases hawake : s.checking with
  | cons consumer others =>
      exact ⟨.check consumer, by rw [turn, hawake]; rfl, by
        rw [Enabled, hawake]
        exact List.mem_cons_self⟩
  | nil =>
      have hwaiting := hdue.engaged.resolve_left (not_not.mpr hawake)
      have hnotifying := hsound.awake hwaiting
      have hlength := List.length_pos_iff.mpr hdue.queue
      rw [hawake, List.length_nil] at hnotifying
      obtain ⟨consumer, hconsumer⟩ := List.exists_mem_of_ne_nil _ hwaiting
      exact ⟨.notifyOne (some consumer), by rw [turn, hawake]; trivial, by omega, hconsumer⟩

lemma append_single_ne_nil {β : Type} (items : List β) (item : β) : items ++ [item] ≠ [] :=
  List.append_ne_nil_of_right_ne_nil _ (List.cons_ne_nil _ _)

section

variable [DecidableEq κ]

/-- A step that only adds consumers that are awake. -/
lemma lowers_of_append {more : List κ} (hchecking : (s.next input).checking = s.checking ++ more)
    (hdue : (s.next input).Due taken)
    (hother : more = [] ∨ s.checking ≠ [] → ¬s.turn.Steps input) :
    Machine.Execution.Lowers (boundedQueue α κ) Scheduled.Steps (fun s => s.Due taken)
      (fun s => taken < s.delivered.length) rank turn s input := by
  refine .inr ⟨hdue, ?_⟩
  show (s.next input).rank < s.rank ∨ (s.next input).rank = s.rank ∧
    (s.next input).turn = s.turn ∧ ¬s.turn.Steps input
  cases hawake : s.checking with
  | cons consumer others =>
      have hfirst : (s.next input).checking = consumer :: (others ++ more) := by
        rw [hchecking, hawake, List.cons_append]
      refine .inr ⟨by simp [rank, hfirst, hawake], by simp [turn, hfirst, hawake], hother (.inr ?_)⟩
      simp [hawake]
  | nil =>
      rw [hawake, List.nil_append] at hchecking
      cases more with
      | nil =>
          exact .inr ⟨by simp [rank, hchecking, hawake], by simp [turn, hchecking, hawake],
            hother (.inl rfl)⟩
      | cons consumer others => exact .inl (by simp [rank, hchecking, hawake])

lemma lowers_of_same (hchecking : (s.next input).checking = s.checking)
    (hdue : (s.next input).Due taken) (hother : ¬s.turn.Steps input) :
    Machine.Execution.Lowers (boundedQueue α κ) Scheduled.Steps (fun s => s.Due taken)
      (fun s => taken < s.delivered.length) rank turn s input :=
  lowers_of_append (hchecking.trans (List.append_nil _).symm) hdue fun _ => hother

lemma due_lowers (hdue : s.Due taken) (henabled : s.Enabled input) :
    Machine.Execution.Lowers (boundedQueue α κ) Scheduled.Steps (fun s => s.Due taken)
      (fun s => taken < s.delivered.length) rank turn s input := by
  have hwoken {more : List κ} (hmore : more ≠ []) (hinput : ∀ consumer, ¬(Scheduled.consumer
      consumer).Steps input) : more = [] ∨ s.checking ≠ [] → ¬s.turn.Steps input := by
    rintro (hnone | hawake)
    · exact (hmore hnone).elim
    · obtain ⟨consumer, hturn⟩ := turn_of_awake hawake
      rw [hturn]
      exact hinput consumer
  cases input with
  | tryPush value =>
      refine lowers_of_same ?_ ⟨?_, ?_, ?_⟩ ?_
      · rw [next, BoundedQueue.tryPush]
        split <;> rfl
      · rw [next, BoundedQueue.tryPush]
        split
        · exact hdue.queue
        · simp
      · rw [next, BoundedQueue.tryPush]
        split <;> exact hdue.engaged
      · rw [next, BoundedQueue.tryPush]
        split <;> exact hdue.taken
      · cases s.turn <;> exact id
  | close =>
      refine lowers_of_same rfl ⟨hdue.queue, hdue.engaged, hdue.taken⟩ ?_
      cases s.turn <;> exact id
  | notifyOne woken =>
      cases woken with
      | none =>
          have hawake := hdue.engaged.resolve_right (not_not.mpr henabled.2)
          obtain ⟨consumer, hturn⟩ := turn_of_awake hawake
          refine lowers_of_same rfl ⟨hdue.queue, hdue.engaged, hdue.taken⟩ ?_
          rw [hturn]
          exact id
      | some consumer =>
          refine lowers_of_append rfl ⟨hdue.queue, .inl (append_single_ne_nil _ _), hdue.taken⟩
            (hwoken (List.cons_ne_nil _ _) fun _ => id)
  | notifyAll =>
      refine lowers_of_append rfl ⟨hdue.queue, ?_, hdue.taken⟩ ?_
      · refine .inl ?_
        rcases hdue.engaged with hawake | hasleep
        · simp [next, notifyAll, hawake]
        · simp [next, notifyAll, hasleep]
      · rintro (hnone | hawake)
        · obtain ⟨consumer, hturn⟩ := turn_of_awake (hdue.engaged.resolve_right (not_not.mpr hnone))
          rw [hturn]
          exact id
        · obtain ⟨consumer, hturn⟩ := turn_of_awake hawake
          rw [hturn]
          exact id
  | waitPop consumer =>
      exact lowers_of_append rfl ⟨hdue.queue, .inl (append_single_ne_nil _ _), hdue.taken⟩
        (hwoken (List.cons_ne_nil consumer []) fun _ => id)
  | check consumer =>
      left
      show taken < (s.check consumer).delivered.length
      obtain ⟨value, rest, hqueue⟩ := List.exists_cons_of_ne_nil hdue.queue
      rw [check, hqueue]
      simp only [delivered, List.filterMap_append, List.length_append]
      have htaken := hdue.taken
      rw [delivered] at htaken
      simp [htaken]
  | wake consumer =>
      exact lowers_of_append rfl ⟨hdue.queue, .inl (append_single_ne_nil _ _), hdue.taken⟩
        (hwoken (List.cons_ne_nil consumer []) fun _ => id)

/-! ### After the end -/

/-- The consumer sleeps. -/
def endRank (consumer : κ) (s : BoundedQueue α κ) : ℕ := if consumer ∈ s.checking then 0 else 1

/-- Who is to bring the consumer nearer to its return. -/
def endTurn (consumer : κ) (s : BoundedQueue α κ) : Scheduled κ :=
  if consumer ∈ s.checking then .consumer consumer else .closer

/-- The consumer is in `WaitPop` of a closed queue. -/
structure Leaving (consumer : κ) (s : BoundedQueue α κ) : Prop where
  closed : s.closed = true
  inside : s.Inside consumer

/-- A step of another thread. -/
lemma lowers_of_other (hleaving : (s.next input).Leaving consumer)
    (hchecking : consumer ∈ s.checking → consumer ∈ (s.next input).checking)
    (hother : (consumer ∈ s.checking ∨ consumer ∉ (s.next input).checking) →
      ¬(s.endTurn consumer).Steps input) :
    Machine.Execution.Lowers (boundedQueue α κ) Scheduled.Steps (Leaving consumer)
      (fun s => ¬s.Inside consumer) (endRank consumer) (endTurn consumer) s input := by
  refine .inr ⟨hleaving, ?_⟩
  show (s.next input).endRank consumer < s.endRank consumer ∨
    (s.next input).endRank consumer = s.endRank consumer ∧
      (s.next input).endTurn consumer = s.endTurn consumer ∧ ¬(s.endTurn consumer).Steps input
  by_cases hawake : consumer ∈ s.checking
  · have hstill := hchecking hawake
    exact .inr ⟨by simp [endRank, hawake, hstill], by simp [endTurn, hawake, hstill],
      hother (.inl hawake)⟩
  · by_cases hwoken : consumer ∈ (s.next input).checking
    · exact .inl (by simp [endRank, hawake, hwoken])
    · exact .inr ⟨by simp [endRank, hawake, hwoken], by simp [endTurn, hawake, hwoken],
        hother (.inr hwoken)⟩

lemma inside_wake {woken : κ} (h : s.Inside consumer) : (s.wake woken).Inside consumer := by
  by_cases hsame : consumer = woken
  · rw [hsame]
    exact .inl (List.mem_append_right _ List.mem_cons_self)
  · rcases h with hawake | hasleep
    · exact .inl (List.mem_append_left _ hawake)
    · exact .inr ((List.mem_erase_of_ne hsame).mpr hasleep)

/-- With the queue closed, a consumer that tests the condition returns. -/
lemma check_closed (hclosed : s.closed = true) (other : κ) :
    (s.check other).checking = s.checking.erase other ∧ (s.check other).waiting = s.waiting ∧
      (s.check other).closed = true := by
  rw [check]
  split
  · exact ⟨rfl, rfl, hclosed⟩
  · rw [if_pos hclosed]
    exact ⟨rfl, rfl, hclosed⟩

lemma leaving_lowers (hsound : s.Sound) (hleaving : s.Leaving consumer)
    (henabled : s.Enabled input) :
    Machine.Execution.Lowers (boundedQueue α κ) Scheduled.Steps (Leaving consumer)
      (fun s => ¬s.Inside consumer) (endRank consumer) (endTurn consumer) s input := by
  obtain ⟨hclosed, hinside⟩ := hleaving
  cases input with
  | tryPush value =>
      have hsame : s.next (.tryPush value) = s := by
        rw [next, BoundedQueue.tryPush, if_pos (.inl hclosed)]
      refine lowers_of_other ?_ ?_ fun _ => ?_
      · rw [hsame]
        exact ⟨hclosed, hinside⟩
      · rw [hsame]
        exact id
      · cases s.endTurn consumer <;> exact id
  | close =>
      refine lowers_of_other ⟨rfl, hinside⟩ id fun _ => ?_
      cases s.endTurn consumer <;> exact id
  | notifyOne woken =>
      have hturn : ¬(s.endTurn consumer).Steps (α := α) (.notifyOne woken) := by
        rw [endTurn]
        split <;> exact id
      cases woken with
      | none => exact lowers_of_other ⟨hclosed, hinside⟩ id fun _ => hturn
      | some other =>
          have hstill : (s.wake other).Inside consumer := inside_wake hinside
          exact lowers_of_other ⟨hclosed, hstill⟩ (List.mem_append_left _) fun _ => hturn
  | notifyAll =>
      have hawake : consumer ∈ (s.next .notifyAll).checking := List.mem_append.mpr hinside
      refine lowers_of_other ⟨hclosed, .inl hawake⟩ (fun _ => hawake) ?_
      rintro (hchecking | hasleep)
      · rw [endTurn, if_pos hchecking]
        exact id
      · exact (hasleep hawake).elim
  | waitPop other =>
      refine lowers_of_other ⟨hclosed, hinside.imp_left (List.mem_append_left _)⟩
        (List.mem_append_left _) fun _ => ?_
      cases s.endTurn consumer <;> exact id
  | check other =>
      obtain ⟨hchecking, hwaiting, hstillClosed⟩ := check_closed hclosed other
      by_cases hsame : other = consumer
      · subst hsame
        left
        show ¬((s.check other).Inside other)
        rw [Inside, hchecking, hwaiting, not_or]
        have honce := List.nodup_append'.mp hsound.once
        exact ⟨honce.1.not_mem_erase, honce.2.2 henabled⟩
      · have hmem : consumer ∈ (s.check other).checking ↔ consumer ∈ s.checking := by
          rw [hchecking, List.mem_erase_of_ne (Ne.symm hsame)]
        refine lowers_of_other ⟨hstillClosed, ?_⟩ hmem.mpr fun _ => ?_
        · rcases hinside with hawake | hasleep
          · exact .inl (hmem.mpr hawake)
          · exact .inr (hwaiting ▸ hasleep)
        · rw [endTurn]
          split
          · exact hsame
          · exact id
  | wake other =>
      have hstill : (s.wake other).Inside consumer := inside_wake hinside
      refine lowers_of_other ⟨hclosed, hstill⟩ (List.mem_append_left _) fun _ => ?_
      cases s.endTurn consumer <;> exact id

lemma leaving_enabled (hsound : s.Sound) (hleaving : s.Leaving consumer) :
    ∃ input : Input α κ, (s.endTurn consumer).Steps input ∧ s.Enabled input := by
  rw [endTurn]
  split
  · next hawake => exact ⟨.check consumer, rfl, hawake⟩
  · next hasleep =>
    have hwaiting := hleaving.inside.resolve_left hasleep
    exact ⟨.notifyAll, trivial, hsound.closing hleaving.closed (List.ne_nil_of_mem hwaiting)⟩

/-! ### Whole runs -/

lemma pushed_prefix (s : BoundedQueue α κ) (input : Input α κ) :
    s.pushed <+: (s.next input).pushed := by
  cases input with
  | tryPush value =>
      rw [next, BoundedQueue.tryPush]
      split
      · exact List.prefix_rfl
      · exact List.prefix_append _ _
  | notifyOne woken => cases woken <;> exact List.prefix_rfl
  | check consumer =>
      rw [next, check]
      split
      · exact List.prefix_rfl
      · split <;> exact List.prefix_rfl
  | close | notifyAll | waitPop _ | wake _ => exact List.prefix_rfl

variable {run : (boundedQueue α κ).Execution} {n : ℕ}

lemma pushed_mono (run : (boundedQueue α κ).Execution) {n k : ℕ} (h : n ≤ k) :
    (run.state n).pushed <+: (run.state k).pushed :=
  Machine.Execution.rel (R := fun s s' => s.pushed <+: s'.pushed) (fun _ => List.prefix_rfl)
    (fun _ _ _ => List.IsPrefix.trans) (fun s input _ => pushed_prefix s input) run h

/-- A value is taken out, while some consumer is there. -/
lemma taken_later (hfair : ∀ thread : Scheduled κ, run.Fair thread.Steps)
    (hqueue : (run.state n).queue ≠ []) (hengaged : (run.state n).Engaged) :
    ∃ k, n ≤ k ∧ (run.state n).delivered.length < (run.state k).delivered.length :=
  run.leadsTo hfair (fun _ _ _ hdue henabled => due_lowers hdue henabled)
    (fun _ hreachable hdue => due_enabled (sound_of_reachable hreachable) hdue)
    ⟨hqueue, hengaged, rfl⟩

/-- **Values are delivered**, one after the other, as long as there are consumers for them. -/
lemma delivered_later (hfair : ∀ thread : Scheduled κ, run.Fair thread.Steps)
    (hengaged : ∀ k, n ≤ k → (run.state k).queue ≠ [] → (run.state k).Engaged) {index : ℕ}
    (hindex : index < (run.state n).pushed.length) :
    ∃ k, n ≤ k ∧ index < (run.state k).delivered.length := by
  induction hleft : index + 1 - (run.state n).delivered.length using Nat.strongRecOn
    generalizing n with
  | ind left ih =>
      by_cases hdone : index < (run.state n).delivered.length
      · exact ⟨n, le_rfl, hdone⟩
      · have hfifo := congrArg List.length (sound_of_reachable (run.reachable n)).fifo
        rw [List.length_append] at hfifo
        have hqueue : (run.state n).queue ≠ [] := by
          intro hempty
          rw [hempty, List.length_nil] at hfifo
          omega
        obtain ⟨k, hk, hmore⟩ := taken_later hfair hqueue (hengaged n le_rfl hqueue)
        have hpushed := pushed_mono run hk
        obtain ⟨l, hl, hdelivered⟩ := ih _ (by omega)
          (fun l hl => hengaged l (hk.trans hl)) (hindex.trans_le hpushed.length_le) rfl
        exact ⟨l, hk.trans hl, hdelivered⟩

end

end BoundedQueue

variable {α κ : Type} [DecidableEq κ]

/-- **In every interleaving** of producers and consumers: the queue is never longer than its
capacity; what was returned, and then what is in the queue, are the values that were taken, in
their order and each once; a consumer is told the end only after the queue was closed, and
after every value; and nobody sleeps over a value, or over a closed queue, but a notification
is under way for each value that no consumer is about to find. -/
theorem queue_in_order (s : BoundedQueue α κ) (h : (boundedQueue α κ).Reachable s) :
    s.queue.length ≤ s.capacity ∧ s.delivered ++ s.queue = s.pushed ∧
    (∀ consumer, (consumer, none) ∈ s.returned → s.closed = true ∧ s.delivered = s.pushed) ∧
    (s.waiting ≠ [] → s.queue.length ≤ s.notifying + s.checking.length ∧
      (s.closed = true → 0 < s.closing)) := by
  have hsound := BoundedQueue.sound_of_reachable h
  refine ⟨hsound.bound, hsound.fifo, fun consumer hnone => ?_, fun hwaiting => ?_⟩
  · obtain ⟨hclosed, hempty⟩ := hsound.ended consumer hnone
    refine ⟨hclosed, ?_⟩
    rw [← hsound.fifo, hempty, List.append_nil]
  · exact ⟨hsound.awake hwaiting, fun hclosed => hsound.closing hclosed hwaiting⟩

namespace Sample

/-- A queue for two values. -/
def queue : BoundedQueue String ℕ where
  capacity := 2
  queue := []
  closed := false
  checking := []
  waiting := []
  notifying := 0
  closing := 0
  pushed := []
  returned := []

/-- Two consumers sleep, two values come, and one of the consumers comes back for the end. -/
def queueInputs : List (BoundedQueue.Input String ℕ) :=
  [.waitPop 1, .check 1, .waitPop 2, .check 2, .tryPush "a", .notifyOne (some 2), .tryPush "b",
    .check 2, .notifyOne (some 1), .check 1, .waitPop 1, .check 1, .close, .notifyAll, .check 1]

lemma queue_init : (boundedQueue String ℕ).init Sample.queue := ⟨2, rfl⟩

end Sample

theorem queue_in_order_sample :
    ((boundedQueue String ℕ).after Sample.queue Sample.queueInputs).delivered =
      ((boundedQueue String ℕ).after Sample.queue Sample.queueInputs).pushed := by
  have hreachable : (boundedQueue String ℕ).Reachable
      ((boundedQueue String ℕ).after Sample.queue Sample.queueInputs) :=
    Machine.Reachable.after (.start Sample.queue_init) (by decide +kernel)
  exact ((queue_in_order _ hreachable).2.2.1 1 (by decide +kernel)).2

/-- **Who waits is served**: a value that was taken is returned, if from then on some consumer
is in `WaitPop` whenever the queue is not empty; and once the queue is closed, every consumer
returns.  The consumers are scheduled fairly, and so are the notifications that are due. -/
theorem queue_serves (run : (boundedQueue α κ).Execution)
    (hfair : ∀ thread : BoundedQueue.Scheduled κ, run.Fair thread.Steps) (n : ℕ) :
    (∀ (index : ℕ) (value : α), (run.state n).pushed[index]? = some value →
      (∀ k, n ≤ k → (run.state k).queue ≠ [] → (run.state k).Engaged) →
      ∃ k, n ≤ k ∧ (run.state k).delivered[index]? = some value) ∧
    ∀ consumer, (run.state n).closed = true → (run.state n).Inside consumer →
      ∃ k, n ≤ k ∧ ¬(run.state k).Inside consumer := by
  constructor
  · intro index value hvalue hengaged
    obtain ⟨hindex, -⟩ := List.getElem?_eq_some_iff.mp hvalue
    obtain ⟨k, hk, hdelivered⟩ := BoundedQueue.delivered_later hfair hengaged hindex
    obtain ⟨more, hmore⟩ := BoundedQueue.pushed_mono run hk
    refine ⟨k, hk, ?_⟩
    have hfifo := (BoundedQueue.sound_of_reachable (run.reachable k)).fifo
    rw [← List.getElem?_append_left hdelivered, hfifo, ← hmore,
      List.getElem?_append_left hindex, hvalue]
  · intro consumer hclosed hinside
    exact run.leadsTo hfair
      (fun s input hreachable hleaving henabled =>
        BoundedQueue.leaving_lowers (BoundedQueue.sound_of_reachable hreachable) hleaving henabled)
      (fun s hreachable hleaving =>
        BoundedQueue.leaving_enabled (BoundedQueue.sound_of_reachable hreachable) hleaving)
      ⟨hclosed, hinside⟩

theorem queue_serves_sample : ∃ k, 13 ≤ k ∧
    ¬(((boundedQueue String ℕ).pad Sample.queue Sample.queue_init Sample.queueInputs
      (by decide +kernel)).state k).Inside 1 := by
  have hend : ((boundedQueue String ℕ).after Sample.queue Sample.queueInputs).checking = [] ∧
      ((boundedQueue String ℕ).after Sample.queue Sample.queueInputs).notifying = 0 ∧
      ((boundedQueue String ℕ).after Sample.queue Sample.queueInputs).closing = 0 := by
    decide +kernel
  have hstopped (thread : BoundedQueue.Scheduled ℕ) (input : BoundedQueue.Input String ℕ)
      (hsteps : thread.Steps input) : ¬(boundedQueue String ℕ).enabled
        ((boundedQueue String ℕ).after Sample.queue Sample.queueInputs) input := by
    intro henabled
    cases input with
    | check consumer =>
        have hchecking : consumer ∈
          ((boundedQueue String ℕ).after Sample.queue Sample.queueInputs).checking := henabled
        rw [hend.1] at hchecking
        cases hchecking
    | notifyOne woken =>
        cases woken <;> exact absurd henabled.1 (by rw [hend.2.1]; exact lt_irrefl 0)
    | notifyAll => exact absurd (show 0 < _ from henabled) (by rw [hend.2.2]; exact lt_irrefl 0)
    | tryPush | close | waitPop | wake => cases thread <;> exact hsteps
  exact (queue_serves ((boundedQueue String ℕ).pad Sample.queue Sample.queue_init Sample.queueInputs
    (by decide +kernel)) (fun thread => Machine.pad_fair (hstopped thread)) 13).2 1
    (by decide +kernel) (by decide +kernel)

end CnsServer
