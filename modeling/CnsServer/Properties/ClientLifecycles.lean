/-
How the MQTT client starts and stops.

* `backoff_succ`: the delays before the retries;
* `client_threads`: **at any time**, what the calls from outside have left;
* `rank`, `turn`: how much a call still has to do, and which thread has to do it;
* `calls_return`: **in every fair run** each call from outside returns.
-/
import CnsServer.Invariants.ClientThreads
import CnsServer.Library.Fairness

namespace CnsServer

namespace ClientLifecycle

variable {cfg : LifecycleConfig} {s : ClientLifecycle}

/-- The first delay is the configured one; it doubles with each retry, up to its maximum. -/
lemma backoff_succ (cfg : LifecycleConfig) (n : ℕ) :
    backoff cfg (n + 1) = min (cfg.reconnectDelay * 2 ^ (n + 1)) cfg.reconnectDelayMax := by
  induction n with
  | zero => rfl
  | succ n ih =>
      rw [backoff, ih, pow_succ 2 (n + 1), ← mul_assoc]
      omega

/-- The client is looked after: by its network thread, by the one that retries, or by the
process, which learns of the failure. -/
def Charged (s : ClientLifecycle) : Prop :=
  s.loopStarted = true ∧ s.network ≠ .absent ∨ s.retryState = .running ∧ s.Retrying ∨
    s.getRuntimeStatus = .terminalFailure ∧ s.retryError ≠ ""

lemma Sound.charged (h : s.Sound cfg) (hnone : s.owner = none)
    (hstarted : s.loopStarted = true ∨ s.retryState ≠ .idle) : s.Charged := by
  have howner {point : OwnerPoint} (hpoint : s.owner = some point) : False := by
    rw [hnone] at hpoint
    cases hpoint
  cases hstate : s.retryState with
  | idle =>
      have hloop := hstarted.resolve_right (not_not.mpr hstate)
      exact .inl ⟨hloop, fun habsent => howner (h.loop (.inl hloop) habsent).choose_spec⟩
  | running =>
      rcases h.running.mp hstate with hretrying | hspawn | ⟨_, hspawn⟩
      · exact .inr (.inl ⟨hstate, hretrying⟩)
      · exact (howner hspawn).elim
      · exact (howner hspawn).elim
  | failed =>
      refine .inr (.inr ⟨?_, h.failed hstate⟩)
      rw [getRuntimeStatus, if_pos hstate]

end ClientLifecycle

open ClientLifecycle

/-- **At any time**, in every interleaving of the threads and whatever the library answers: a
client that is destroyed, or that `Stop` has returned from with its loop stopped, has no
thread, is not connected and not asked to stop; one that is given up without being destroyed
has left its network thread behind, and no other; one that `Start` has returned from without
an error has its network thread, be it that this has ended, or one that retries, or reports a
terminal failure. -/
theorem client_threads (cfg : LifecycleConfig) (s : ClientLifecycle)
    (h : (clientLifecycle cfg).Reachable s) :
    (s.client = .destroyed → s.Quiet) ∧
    (s.client = .abandoned → s.LeftBehind) ∧
    (s.owner = none → s.log.head? = some (.stopReturned true) → s.Quiet) ∧
    (s.owner = none → s.client = .held → s.log.head? = some (.startReturned (.ok ())) →
      s.Charged) ∧
    ∀ delay, s.retryThread = some (.waiting delay) ∨ s.retryThread = some (.connecting delay) →
      delay = cfg.reconnectDelay ∨
        ∃ n, delay = min (cfg.reconnectDelay * 2 ^ (n + 1)) cfg.reconnectDelayMax := by
  have hsound := clientSound_of_reachable h
  have hquiet (hnone : s.owner = none) (hhead : s.log.head? = some (.stopReturned true)) :
      s.Quiet := by
    have hbetween := hsound.between hnone
    rw [hhead] at hbetween
    exact hbetween
  refine ⟨fun hdestroyed => ?_, leftBehind_of_reachable h, hquiet, fun hnone hheld hhead => ?_,
    fun delay hdelay => ?_⟩
  · exact hquiet (hsound.destroyed hdestroyed).1 (hsound.destroyed hdestroyed).2
  · have hbetween := hsound.between hnone
    rw [hhead] at hbetween
    exact hsound.charged hnone (hbetween hheld)
  · obtain ⟨n, rfl⟩ := hsound.delay delay hdelay
    cases n with
    | zero => exact .inl rfl
    | succ n => exact .inr ⟨n, backoff_succ cfg n⟩

namespace Sample

def lifecycleConfig : LifecycleConfig where
  reconnectDelay := 1
  reconnectDelayMax := 30
  strerror _ := "Unknown error"
  systemError _ := "Resource temporarily unavailable"

/-- The name of the server is not known at first; the client is stopped just when the retrying
thread has started the loop. -/
def lifecycleInputs : List Input :=
  [.start, .owner 0, .owner 0, .owner 0, .owner 0, .owner 0, .owner mosqErrEai, .owner 0,
    .owner 0, .retry 0, .retry mosqErrEai, .retry 0, .retry 0, .retry 0, .retry 0,
    .callback (.connect 0), .stop true, .owner 0, .retry 0, .retry 0, .owner 0, .owner 0,
    .owner 0, .owner 0, .owner 0, .owner 0, .owner 0, .owner 0, .owner 0, .owner 0]

end Sample

theorem client_threads_sample :
    ((clientLifecycle Sample.lifecycleConfig).after created Sample.lifecycleInputs).Quiet := by
  have hreachable : (clientLifecycle Sample.lifecycleConfig).Reachable
      ((clientLifecycle Sample.lifecycleConfig).after created Sample.lifecycleInputs) :=
    Machine.Reachable.after (.start rfl) (by decide +kernel)
  exact (client_threads Sample.lifecycleConfig _ hreachable).1 (by decide +kernel)

namespace ClientLifecycle

variable {cfg : LifecycleConfig} {s : ClientLifecycle}

/-! ### Every call returns -/

/-- The threads whose steps are awaited. -/
inductive Awaited where
  | owner | retry
  deriving DecidableEq, Repr

/-- The steps of each of them. -/
def Awaited.Steps : Awaited → Input → Prop
  | .owner, .owner _ => True
  | .retry, .retry _ => True
  | _, _ => False

/-- The calls from outside. -/
inductive Call where
  | start | stop | abandon
  deriving DecidableEq, Repr

/-- The call that a step belongs to; the destructor belongs to its `Stop`. -/
def callOf : OwnerPoint → Call
  | .startRequested | .startLoading | .startRetrying | .startJoining _ | .startResetting
  | .startConnecting | .startMarking | .startSpawning | .startGivingUp _ | .startLooping
  | .startStoring => .start
  | .abandonRequested | .abandonJoining => .abandon
  | _ => .stop

/-- How each of the calls returns. -/
def Returned (s : ClientLifecycle) : Call → Prop
  | .start => ∃ result, s.log.head? = some (.startReturned result)
  | .stop => ∃ loopStopped, s.log.head? = some (.stopReturned loopStopped)
  | .abandon => s.client = .abandoned

/-- How many steps a call still has to make. -/
def stepsLeft : OwnerPoint → ℕ
  | .startRequested => 11
  | .startLoading => 10
  | .startRetrying => 9
  | .startJoining _ => 8
  | .startResetting => 7
  | .startConnecting => 6
  | .startMarking => 5
  | .startSpawning => 4
  | .startGivingUp _ => 3
  | .startLooping => 5
  | .startStoring => 4
  | .stopRequested _ => 11
  | .stopJoining _ => 10
  | .stopClearing _ => 9
  | .stopLoading _ => 8
  | .stopDisconnecting _ => 7
  | .stopLooping _ => 6
  | .stopStoring _ => 5
  | .stopDisconnected _ => 4
  | .stopChecking _ => 3
  | .stopReturning _ => 2
  | .destroying => 1
  | .abandonRequested => 2
  | .abandonJoining => 1

/-- How many steps the retrying thread still has to make, once it is asked to stop. -/
def retryLeft : Option RetryPoint → ℕ
  | some (.connecting _) | some .looping => 3
  | some (.waiting _) | some .checking | some .storing => 2
  | some (.finishing _) => 1
  | some .finished | none => 0

/-- The call waits for the end of the retrying thread. -/
def waits : OwnerPoint → Bool
  | .stopJoining _ | .abandonJoining => true
  | _ => false

/-- The rank of the call: the retrying thread counts while the call waits for it. -/
def rank (s : ClientLifecycle) : ℕ :=
  match s.owner with
  | none => 0
  | some point => 4 * stepsLeft point + if waits point then retryLeft s.retryThread else 0

/-- Whose step the call waits for. -/
def turn (s : ClientLifecycle) : Awaited :=
  if s.owner.any waits && retryLeft s.retryThread ≠ 0 then .retry else .owner

lemma retryLeft_le (retry : Option RetryPoint) : retryLeft retry ≤ 3 := by
  cases retry with
  | none => simp [retryLeft]
  | some point => cases point <;> simp [retryLeft]

lemma retryLeft_ne_zero : retryLeft s.retryThread ≠ 0 ↔ s.Retrying := by
  cases hretry : s.retryThread with
  | none => simp [retryLeft, Retrying, hretry]
  | some point => cases point <;> simp [retryLeft, Retrying, hretry]

lemma retryStep_owner (cfg : LifecycleConfig) (s : ClientLifecycle) (answer : ℤ)
    (point : RetryPoint) : (s.retryStep cfg answer point).owner = s.owner := by
  cases point with
  | waiting _ | checking | looping =>
      rw [retryStep]
      split <;> rfl
  | connecting _ =>
      rw [retryStep]
      split_ifs <;> rfl
  | storing | finishing _ | finished => rfl

/-- A retrying thread that is asked to stop comes closer to its end with each step. -/
lemma retryLeft_step (hstop : s.retryStopRequested = true) {point : RetryPoint}
    (hpoint : s.retryThread = some point) {answer : ℤ} (henabled : s.RetryEnabled answer point) :
    retryLeft (s.retryStep cfg answer point).retryThread < retryLeft s.retryThread := by
  rw [hpoint]
  cases point with
  | waiting delay => simp [retryStep, hstop, retryAt, retryLeft]
  | connecting delay =>
      rw [retryStep]
      split_ifs <;> simp [retryAt, retryLeft]
  | checking => simp [retryStep, hstop, retryAt, retryLeft]
  | looping =>
      rw [retryStep]
      split_ifs <;> simp [retryAt, retryLeft]
  | storing => simp [retryStep, retryAt, retryLeft]
  | finishing error => simp [retryStep, retryAt, finishRetry, retryLeft]
  | finished => exact henabled.elim

/-- A step ends the call, or leaves fewer of them. -/
def Closer (point : OwnerPoint) (s' : ClientLifecycle) : Prop :=
  s'.owner = none ∧ s'.Returned (callOf point) ∨
    ∃ next ∈ s'.owner, callOf next = callOf point ∧ stepsLeft next < stepsLeft point

lemma closer_of_next {point next : OwnerPoint} {s' : ClientLifecycle}
    (hnext : s'.owner = some next) (hcall : callOf next = callOf point)
    (hless : stepsLeft next < stepsLeft point) : Closer point s' := .inr ⟨next, hnext, hcall, hless⟩

lemma closer_of_start {point : OwnerPoint} {s' : ClientLifecycle} {result : Except String Unit}
    (hnone : s'.owner = none) (hhead : s'.log.head? = some (.startReturned result))
    (hcall : callOf point = .start) : Closer point s' := by
  refine .inl ⟨hnone, ?_⟩
  rw [hcall]
  exact ⟨result, hhead⟩

lemma closer_stopReturn {point : OwnerPoint} {s' : ClientLifecycle} {inDestructor : Bool}
    (howner : s'.owner = (s.stopReturn inDestructor).owner)
    (hlog : s'.log = (s.stopReturn inDestructor).log) (hcall : callOf point = .stop)
    (hleft : 1 < stepsLeft point) : Closer point s' := by
  cases inDestructor with
  | true => exact closer_of_next howner hcall.symm hleft
  | false =>
      refine .inl ⟨howner, ?_⟩
      rw [hcall, Returned, hlog]
      exact ⟨!s.loopStarted, rfl⟩

/-- The thread from outside comes closer to the end of its call with each step. -/
lemma closer_ownerStep (h : s.Sound cfg) {point : OwnerPoint} (hpoint : s.owner = some point)
    (answer : ℤ) : Closer point (s.ownerStep cfg answer point) := by
  cases point with
  | startRequested | startLoading | startLooping =>
      rw [ownerStep]
      split
      · exact closer_of_start rfl rfl rfl
      · exact closer_of_next rfl rfl (by decide)
  | startJoining completedError =>
      rw [ownerStep]
      split
      · exact closer_of_start rfl rfl rfl
      · exact closer_of_next rfl rfl (by simp [stepsLeft])
  | startRetrying =>
      rw [ownerStep]
      split
      · exact closer_of_start rfl rfl rfl
      · exact closer_of_next rfl rfl (by simp [stepsLeft])
      · exact closer_of_next rfl rfl (by simp [stepsLeft])
  | startConnecting =>
      rw [ownerStep]
      split_ifs
      · exact closer_of_start rfl rfl rfl
      · exact closer_of_next rfl rfl (by decide)
      · exact closer_of_next rfl rfl (by decide)
  | startSpawning =>
      rw [ownerStep]
      split
      · exact closer_of_next rfl rfl (by simp [stepsLeft])
      · exact closer_of_start rfl rfl rfl
  | startGivingUp error => exact closer_of_start rfl rfl rfl
  | startStoring => exact closer_of_start rfl rfl rfl
  | stopLoading inDestructor | stopLooping inDestructor =>
      rw [ownerStep]
      split
      · exact closer_of_next rfl rfl (by simp [stepsLeft])
      · exact closer_of_next rfl rfl (by simp [stepsLeft])
  | stopChecking inDestructor =>
      rw [ownerStep]
      split
      · exact closer_stopReturn rfl rfl rfl (by simp [stepsLeft])
      · exact closer_of_next rfl rfl (by simp [stepsLeft])
  | stopReturning inDestructor => exact closer_stopReturn rfl rfl rfl (by simp [stepsLeft])
  | destroying => exact .inl ⟨rfl, _, (h.place _ hpoint).2.1⟩
  | abandonJoining => exact .inl ⟨rfl, rfl⟩
  | _ => exact closer_of_next rfl rfl (by simp [stepsLeft])

lemma turn_eq_retry {point : OwnerPoint} (hpoint : s.owner = some point)
    (hwaits : waits point = true) (hretrying : s.Retrying) : s.turn = .retry := by
  rw [turn, hpoint, if_pos]
  simpa [hwaits] using retryLeft_ne_zero.mpr hretrying

lemma turn_eq_owner {point : OwnerPoint} (hpoint : s.owner = some point)
    (hfree : waits point = true → ¬s.Retrying) : s.turn = .owner := by
  rw [turn, hpoint, if_neg]
  simpa [← retryLeft_ne_zero] using hfree

/-- The thread whose turn it is can make a step. -/
lemma turn_enabled (h : s.Sound cfg) {point : OwnerPoint} (hpoint : s.owner = some point) :
    ∃ input, s.turn.Steps input ∧ s.Enabled input := by
  by_cases hturn : waits point = true ∧ s.Retrying
  · rw [turn_eq_retry hpoint hturn.1 hturn.2]
    obtain ⟨retry, hretry, hunfinished⟩ := hturn.2
    refine ⟨.retry 1, trivial, retry, hretry, ?_⟩
    cases retry with
    | looping => exact fun hzero => by cases hzero
    | finished => exact (hunfinished rfl).elim
    | _ => trivial
  · rw [turn_eq_owner hpoint fun hwaits hretrying => hturn ⟨hwaits, hretrying⟩]
    refine ⟨.owner 1, trivial, point, hpoint, ?_⟩
    cases point with
    | startJoining error => exact fun hretrying => h.place _ hpoint (h.running.mpr (.inl hretrying))
    | stopJoining _ => exact fun hretrying => hturn ⟨rfl, hretrying⟩
    | abandonJoining => exact fun hretrying => hturn ⟨rfl, hretrying⟩
    | startLooping => exact fun hzero => by cases hzero
    | stopLooping _ => exact fun hzero => by cases hzero
    | _ => trivial

lemma rank_eq {point : OwnerPoint} (hpoint : s.owner = some point) :
    s.rank = 4 * stepsLeft point + if waits point then retryLeft s.retryThread else 0 := by
  rw [rank, hpoint]

/-- Neither the call nor the retrying thread has moved. -/
lemma lowers_of_same {s' : ClientLifecycle} {point : OwnerPoint} (hpoint : s.owner = some point)
    (howner : s'.owner = s.owner) (hretry : s'.retryThread = s.retryThread) :
    (∃ next ∈ s'.owner, callOf next = callOf point) ∧ s'.rank = s.rank ∧ s'.turn = s.turn := by
  refine ⟨⟨point, howner.trans hpoint, rfl⟩, ?_, ?_⟩
  · rw [rank, rank, howner, hretry]
  · rw [turn, turn, howner, hretry]

/-- Every step brings the call closer to its end, or leaves it to the thread whose turn it
is. -/
lemma call_lowers (h : s.Sound cfg) {point : OwnerPoint} (hpoint : s.owner = some point)
    {input : Input} (henabled : s.Enabled input) :
    (s.next cfg input).owner = none ∧ (s.next cfg input).Returned (callOf point) ∨
      (∃ next ∈ (s.next cfg input).owner, callOf next = callOf point) ∧
        ((s.next cfg input).rank < s.rank ∨
          (s.next cfg input).rank = s.rank ∧ (s.next cfg input).turn = s.turn ∧
            ¬s.turn.Steps input) := by
  cases input with
  | start =>
      rw [henabled.1] at hpoint
      cases hpoint
  | stop _ =>
      rw [henabled.1] at hpoint
      cases hpoint
  | abandon =>
      rw [henabled.1] at hpoint
      cases hpoint
  | callback event =>
      have hsame : (s.callback event).owner = s.owner ∧
          (s.callback event).retryThread = s.retryThread := by
        cases event with
        | connect _ | disconnect | stop => exact ⟨rfl, rfl⟩
      obtain ⟨hnext, hrank, hturn⟩ := lowers_of_same hpoint hsame.1 hsame.2
      refine .inr ⟨hnext, .inr ⟨hrank, hturn, ?_⟩⟩
      cases s.turn <;> exact id
  | networkEnds =>
      obtain ⟨hnext, hrank, hturn⟩ :=
        @lowers_of_same s { s with network := .ended } point hpoint rfl rfl
      refine .inr ⟨hnext, .inr ⟨hrank, hturn, ?_⟩⟩
      cases s.turn <;> exact id
  | owner answer =>
      rw [next, hpoint]
      rcases closer_ownerStep h hpoint answer with hdone | ⟨later, hlater, hcall, hless⟩
      · exact .inl hdone
      · refine .inr ⟨⟨later, hlater, hcall⟩, .inl ?_⟩
        have hretry := retryLeft_le (s.ownerStep cfg answer point).retryThread
        rw [rank_eq hlater, rank_eq hpoint]
        split <;> split <;> omega
  | retry answer =>
      obtain ⟨retry, hretry, hready⟩ := henabled
      rw [next, show s.retryThread = some retry from hretry]
      have howner := retryStep_owner cfg s answer retry
      refine .inr ⟨⟨point, howner.trans hpoint, rfl⟩, ?_⟩
      rw [rank_eq hpoint, rank_eq (howner.trans hpoint)]
      by_cases hwaits : waits point = true
      · rw [if_pos hwaits, if_pos hwaits]
        have hstop : s.retryStopRequested = true := by
          have hat := h.place point hpoint
          cases point with
          | stopJoining _ => exact hat
          | abandonJoining => exact hat.1
          | _ => cases hwaits
        exact .inl (Nat.add_lt_add_left (retryLeft_step hstop hretry hready) _)
      · refine .inr ⟨?_, ?_, ?_⟩
        · rw [if_neg hwaits, if_neg hwaits]
        · rw [turn_eq_owner (howner.trans hpoint) fun hturn => (hwaits hturn).elim,
            turn_eq_owner hpoint fun hturn => (hwaits hturn).elim]
        · rw [turn_eq_owner hpoint fun hturn => (hwaits hturn).elim]
          exact id

end ClientLifecycle

/-- **In every fair run** each call from outside returns: the thread that makes it and the one
that retries go on, as long as they can, and the library answers. -/
theorem calls_return (cfg : LifecycleConfig) (run : (clientLifecycle cfg).Execution)
    (hfair : ∀ thread : Awaited, run.Fair thread.Steps) (n : ℕ) (point : OwnerPoint)
    (hpoint : (run.state n).owner = some point) :
    ∃ k, n ≤ k ∧ (run.state k).owner = none ∧ (run.state k).Returned (callOf point) := by
  have hlowers (s : ClientLifecycle) (input : Input) (hs : (clientLifecycle cfg).Reachable s)
      (hcall : ∃ next ∈ s.owner, callOf next = callOf point)
      (henabled : (clientLifecycle cfg).enabled s input) :
      Machine.Execution.Lowers (clientLifecycle cfg) Awaited.Steps
        (fun s => ∃ next ∈ s.owner, callOf next = callOf point)
        (fun s => s.owner = none ∧ s.Returned (callOf point)) ClientLifecycle.rank
        ClientLifecycle.turn s input := by
    obtain ⟨next, hnext, hsame⟩ := hcall
    have hstep := call_lowers (clientSound_of_reachable hs) hnext henabled
    rw [hsame] at hstep
    exact hstep
  refine run.leadsTo hfair hlowers (fun s hs hcall => ?_) ⟨point, hpoint, rfl⟩
  obtain ⟨next, hnext, -⟩ := hcall
  exact turn_enabled (clientSound_of_reachable hs) hnext

theorem calls_return_sample : ∃ k, 17 ≤ k ∧
    (((clientLifecycle Sample.lifecycleConfig).pad created rfl Sample.lifecycleInputs
      (by decide +kernel)).state k).owner = none := by
  have hend : ((clientLifecycle Sample.lifecycleConfig).after created
        Sample.lifecycleInputs).owner = none ∧
      ((clientLifecycle Sample.lifecycleConfig).after created
        Sample.lifecycleInputs).retryThread = none := by decide +kernel
  have hstopped (thread : Awaited) (input : Input) (hsteps : thread.Steps input) :
      ¬(clientLifecycle Sample.lifecycleConfig).enabled
        ((clientLifecycle Sample.lifecycleConfig).after created Sample.lifecycleInputs) input := by
    intro henabled
    cases thread with
    | owner =>
        cases input with
        | owner answer =>
            obtain ⟨point, hpoint, -⟩ := henabled
            rw [hend.1] at hpoint
            cases hpoint
        | _ => exact hsteps
    | retry =>
        cases input with
        | retry answer =>
            obtain ⟨point, hpoint, -⟩ := henabled
            rw [hend.2] at hpoint
            cases hpoint
        | _ => exact hsteps
  obtain ⟨k, hk, hnone, -⟩ := calls_return Sample.lifecycleConfig
    ((clientLifecycle Sample.lifecycleConfig).pad created rfl Sample.lifecycleInputs
      (by decide +kernel))
    (fun thread => Machine.pad_fair (hstopped thread)) 17 (.stopRequested true) (by decide +kernel)
  exact ⟨k, hk, hnone⟩

end CnsServer
