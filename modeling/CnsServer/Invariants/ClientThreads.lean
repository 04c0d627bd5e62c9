/-
The threads of the MQTT client, in every interleaving of their steps.

* `Quiet`: nothing runs, and nothing is left;
* `Between`: what the last call from outside has left;
* `At`: what the thread from outside knows before its next step;
* `Sound`: **the invariant**; `Sound.retryStep`, `Sound.ownerStep` and `Sound.networked`: a
  step of each of the threads keeps it;
* `clientSound_of_reachable`: it holds at any time;
* `leftBehind_of_reachable`: what is left of a client that is given up without being destroyed.
-/
import CnsServer.Mqtt.ClientLifecycle

namespace CnsServer

/-- Before the retrying thread is asked to stop. -/
def OwnerPoint.Early : OwnerPoint → Prop
  | .startRequested | .startLoading | .startRetrying | .startJoining _ | .stopRequested _
  | .abandonRequested => True
  | _ => False

namespace ClientLifecycle

/-- The delay before the retry with this number, from zero on. -/
def backoff (cfg : LifecycleConfig) : ℕ → ℕ
  | 0 => cfg.reconnectDelay
  | n + 1 => min (backoff cfg n * 2) cfg.reconnectDelayMax

/-- Nothing runs, and nothing is left of what has run. -/
structure Quiet (s : ClientLifecycle) : Prop where
  retryThread : s.retryThread = none
  retryState : s.retryState = .idle
  loopStarted : s.loopStarted = false
  network : s.network = .absent
  connected : s.connected = false
  callbackStop : s.callbackStopRequested = false

/-- The retrying thread is being started. -/
def Spawning (s : ClientLifecycle) : Prop :=
  s.owner = some .startSpawning ∨ ∃ error, s.owner = some (.startGivingUp error)

/-- The retrying thread is being joined. -/
def Joining (s : ClientLifecycle) : Prop :=
  s.owner = some .abandonJoining ∨ ∃ inDestructor, s.owner = some (.stopJoining inDestructor)

/-- A callback destroys the client, with the network thread that it runs on. -/
def Leaving (s : ClientLifecycle) : Prop :=
  s.network ≠ .absent ∧ s.log.head? ≠ some (.stopReturned true)

/-- What the thread from outside knows before its next step. -/
def At (s : ClientLifecycle) : OwnerPoint → Prop
  | .startRequested | .startLoading | .startRetrying | .stopRequested _ => True
  | .startJoining _ => s.retryState ≠ .running
  | .startResetting | .startLooping => s.retryThread = none
  | .startConnecting | .startMarking | .startSpawning | .startGivingUp _ =>
      s.retryThread = none ∧ s.retryStopRequested = false
  | .startStoring => s.retryThread = none ∧ s.network ≠ .absent
  | .stopJoining _ => s.retryStopRequested = true
  | .abandonRequested => s.Leaving
  | .abandonJoining => s.retryStopRequested = true ∧ s.Leaving
  | .stopClearing _ => s.retryThread = none
  | .stopLoading _ | .stopDisconnected _ => s.retryThread = none ∧ s.retryState = .idle
  | .stopDisconnecting _ | .stopLooping _ =>
      s.retryThread = none ∧ s.retryState = .idle ∧ s.loopStarted = true
  | .stopStoring _ => s.retryThread = none ∧ s.retryState = .idle ∧ s.network = .absent
  | .stopChecking _ => s.retryThread = none ∧ s.retryState = .idle ∧
      (s.loopStarted = false → s.connected = false)
  | .stopReturning _ => s.retryThread = none ∧ s.retryState = .idle ∧ s.loopStarted = false ∧
      s.connected = false
  | .destroying => s.retryThread = none ∧ s.log.head? = some (.stopReturned (!s.loopStarted)) ∧
      (s.loopStarted = false → s.Quiet)

/-- What holds between the calls from outside. -/
def Between (s : ClientLifecycle) : Option LifeEvent → Prop
  | some (.startReturned (.ok ())) =>
      s.client = .held → s.loopStarted = true ∨ s.retryState ≠ .idle
  | some (.stopReturned true) => s.Quiet
  | some (.stopReturned false) => s.loopStarted = true ∧ s.retryThread = none
  | _ => True

/-- What holds at any time. -/
structure Sound (cfg : LifecycleConfig) (s : ClientLifecycle) : Prop where
  loop : s.loopStarted = true ∨ s.retryThread = some .storing → s.network = .absent →
    ∃ inDestructor, s.owner = some (.stopStoring inDestructor)
  network : s.network ≠ .absent →
    s.loopStarted = true ∨ s.owner = some .startStoring ∨ s.retryThread = some .storing
  running : s.retryState = .running ↔ s.Retrying ∨ s.Spawning
  failed : s.retryState = .failed → s.retryError ≠ ""
  asked : s.retryStopRequested = true → s.Retrying → s.Joining
  finishing : s.retryThread = some (.finishing "") →
    s.retryStopRequested = true ∨ s.loopStarted = true
  delay : ∀ d, s.retryThread = some (.waiting d) ∨ s.retryThread = some (.connecting d) →
    ∃ n, d = backoff cfg n
  place : ∀ point ∈ s.owner, s.At point
  between : s.owner = none → s.Between s.log.head?
  destroyed : s.client = .destroyed → s.owner = none ∧ s.log.head? = some (.stopReturned true)

variable {cfg : LifecycleConfig} {s : ClientLifecycle}

lemma error_ne (strerror : ℤ → String) (operation : String) (result : ℤ) (h : operation ≠ "") :
    mosquittoError strerror operation result ≠ "" := by
  intro hempty
  simp only [mosquittoError, String.append_eq_empty_iff] at hempty
  exact h hempty.1.1.1.1

lemma ne_idle (h : s.retryState = .running) : s.retryState ≠ .idle := by
  rw [h]
  decide

lemma not_retrying (hthread : s.retryThread = none) : ¬s.Retrying := by
  rintro ⟨retry, hretry, -⟩
  rw [hthread] at hretry
  cases hretry

lemma sound_created : created.Sound cfg := by
  constructor <;> simp [created, Retrying, Spawning, Between]

/-! ### The retrying thread -/

/-- The thread from outside does not notice the retrying thread, while that runs. -/
lemma Sound.place_retry (h : s.Sound cfg) (hretrying : s.Retrying) {s' : ClientLifecycle}
    (howner : s'.owner = s.owner) (hlog : s'.log = s.log)
    (hstop : s'.retryStopRequested = s.retryStopRequested)
    (hnetwork : s.network ≠ .absent → s'.network ≠ .absent) : ∀ point ∈ s'.owner, s'.At point := by
  intro point hpoint
  rw [howner] at hpoint
  have hplace := h.place point hpoint
  have hleaving (hold : s.Leaving) : s'.Leaving := ⟨hnetwork hold.1, hlog ▸ hold.2⟩
  have hsome : s.retryThread ≠ none := fun hnone => not_retrying hnone hretrying
  cases point with
  | startRequested | startLoading | startRetrying | stopRequested _ => exact trivial
  | startJoining _ => exact (hplace (h.running.mpr (.inl hretrying))).elim
  | stopJoining _ => exact hstop.trans hplace
  | abandonRequested => exact hleaving hplace
  | abandonJoining => exact ⟨hstop.trans hplace.1, hleaving hplace.2⟩
  | startResetting | startLooping | stopClearing _ => exact (hsome hplace).elim
  | _ => exact (hsome hplace.1).elim

/-- Between the calls, a retrying thread has been left by `Start`. -/
lemma Sound.between_retry (h : s.Sound cfg) (hretrying : s.Retrying) {s' : ClientLifecycle}
    (howner : s'.owner = s.owner) (hlog : s'.log = s.log)
    (hcharge : s.owner = none → s'.loopStarted = true ∨ s'.retryState ≠ .idle) :
    s'.owner = none → s'.Between s'.log.head? := by
  intro hnone
  rw [howner] at hnone
  have hbetween := h.between hnone
  have hsome : s.retryThread ≠ none := fun hnone => not_retrying hnone hretrying
  rw [hlog]
  cases hhead : s.log.head? with
  | none => exact trivial
  | some event =>
      rw [hhead] at hbetween
      cases event with
      | startBegan | stopBegan => exact trivial
      | startReturned result =>
          cases result with
          | error _ => exact trivial
          | ok _ => exact fun _ => hcharge hnone
      | stopReturned stopped =>
          cases stopped with
          | true => exact (hsome hbetween.retryThread).elim
          | false => exact (hsome hbetween.2).elim

lemma Sound.destroyed_retry (h : s.Sound cfg) (hretrying : s.Retrying) : s.client ≠ .destroyed := by
  intro hdestroyed
  obtain ⟨hnone, hhead⟩ := h.destroyed hdestroyed
  have hquiet := h.between hnone
  rw [hhead] at hquiet
  exact not_retrying hquiet.retryThread hretrying

/-- The retrying thread goes on with its next step. -/
lemma Sound.retryAt (h : s.Sound cfg) (hretrying : s.Retrying) {point : RetryPoint}
    (hpoint : point ≠ .finished ∧ point ≠ .storing) (hstoring : s.retryThread ≠ some .storing)
    (hfinishing : point = .finishing "" → s.retryStopRequested = true)
    (hdelay : ∀ d, point = .waiting d ∨ point = .connecting d → ∃ n, d = backoff cfg n) :
    (s.retryAt point).Sound cfg where
  loop hstarted := h.loop (hstarted.imp_right fun hnew => (hpoint.2 (Option.some.inj hnew)).elim)
  network hnetwork := by
    rcases h.network hnetwork with hloop | howner | hretry
    · exact .inl hloop
    · exact .inr (.inl howner)
    · exact (hstoring hretry).elim
  running := by
    have hnew : (s.retryAt point).Retrying := ⟨point, rfl, hpoint.1⟩
    exact ⟨fun _ => .inl hnew, fun _ => h.running.mpr (.inl hretrying)⟩
  failed := h.failed
  asked hstop _ := h.asked hstop hretrying
  finishing hfinish := .inl (hfinishing (Option.some.inj hfinish))
  delay d hd := hdelay d (hd.imp Option.some.inj Option.some.inj)
  place := h.place_retry hretrying rfl rfl rfl id
  between := h.between_retry hretrying rfl rfl fun _ =>
    .inr (ne_idle (h.running.mpr (.inl hretrying)))
  destroyed hdestroyed := (h.destroyed_retry hretrying hdestroyed).elim

/-- One step of the retrying thread. -/
lemma Sound.retryStep (h : s.Sound cfg) {point : RetryPoint} (hpoint : s.retryThread = some point)
    {answer : ℤ} (henabled : s.RetryEnabled answer point) :
    (s.retryStep cfg answer point).Sound cfg := by
  have hunfinished : point ≠ .finished := by
    rintro rfl
    exact henabled
  have hretrying : s.Retrying := ⟨point, hpoint, hunfinished⟩
  have hrunning : s.retryState = .running := h.running.mpr (.inl hretrying)
  cases point with
  | waiting delay =>
      have hstoring : s.retryThread ≠ some .storing := by rw [hpoint]; simp
      rw [ClientLifecycle.retryStep]
      split
      · next hstop => exact h.retryAt hretrying (by simp) hstoring (fun _ => hstop) (by simp)
      · refine h.retryAt hretrying (by simp) hstoring (by simp) fun d hd => ?_
        have hsame : d = delay := by simpa [eq_comm] using hd
        exact h.delay d (.inl (by rw [hpoint, hsame]))
  | connecting delay =>
      have hstoring : s.retryThread ≠ some .storing := by rw [hpoint]; simp
      rw [ClientLifecycle.retryStep]
      split
      · refine h.retryAt hretrying (by simp) hstoring (by simp) fun d hd => ?_
        obtain ⟨n, hn⟩ := h.delay delay (.inr hpoint)
        refine ⟨n + 1, ?_⟩
        rw [backoff, ← hn]
        simpa [eq_comm] using hd
      · split
        · refine h.retryAt hretrying (by simp) hstoring (fun hempty => ?_) (by simp)
          exact (error_ne _ _ _ (by decide) (RetryPoint.finishing.inj hempty)).elim
        · exact h.retryAt hretrying (by simp) hstoring (by simp) (by simp)
  | checking =>
      have hstoring : s.retryThread ≠ some .storing := by rw [hpoint]; simp
      rw [ClientLifecycle.retryStep]
      split
      · next hstop => exact h.retryAt hretrying (by simp) hstoring (fun _ => hstop) (by simp)
      · exact h.retryAt hretrying (by simp) hstoring (by simp) (by simp)
  | looping =>
      have hstoring : s.retryThread ≠ some .storing := by rw [hpoint]; simp
      rw [ClientLifecycle.retryStep]
      split
      · refine h.retryAt hretrying (by simp) hstoring (fun hempty => ?_) (by simp)
        exact (error_ne _ _ _ (by decide) (RetryPoint.finishing.inj hempty)).elim
      · next hanswer =>
        exact
          { loop := fun _ hnetwork => by cases hnetwork
            network := fun _ => .inr (.inr rfl)
            running := ⟨fun _ => .inl ⟨_, rfl, by simp⟩, fun _ => hrunning⟩
            failed := h.failed
            asked := fun hstop _ => h.asked hstop hretrying
            finishing := fun hfinish => by cases hfinish
            delay := fun d hd => by simp [ClientLifecycle.retryAt] at hd
            destroyed := fun hdestroyed => (h.destroyed_retry hretrying hdestroyed).elim
            place := h.place_retry hretrying rfl rfl rfl fun _ => by simp
            between := h.between_retry hretrying rfl rfl fun _ => .inr (ne_idle hrunning) }
  | storing =>
      have hfinishing : ((s.retryAt (.finishing "")).Retrying) := ⟨_, rfl, by simp⟩
      exact
        { loop := fun _ => h.loop (.inr hpoint)
          network := fun _ => .inl rfl
          running := ⟨fun _ => .inl hfinishing, fun _ => hrunning⟩
          failed := h.failed
          asked := fun hstop _ => h.asked hstop hretrying
          finishing := fun _ => .inr rfl
          delay := fun d hd => by simp [ClientLifecycle.retryStep, ClientLifecycle.retryAt] at hd
          place := h.place_retry hretrying rfl rfl rfl id
          between := h.between_retry hretrying rfl rfl fun _ => .inl rfl
          destroyed := fun hdestroyed => (h.destroyed_retry hretrying hdestroyed).elim }
  | finishing error =>
      have hdone : ¬(s.retryStep cfg answer (.finishing error)).Retrying := by
        rintro ⟨retry, hretry, hnot⟩
        exact hnot (Option.some.inj hretry).symm
      have hspawning : ¬s.Spawning := by
        rintro (howner | ⟨message, howner⟩)
        · have := (h.place _ howner).1
          rw [hpoint] at this
          cases this
        · have := (h.place _ howner).1
          rw [hpoint] at this
          cases this
      refine
        { loop := fun hstarted => h.loop (hstarted.imp_right fun hnew => by cases hnew)
          network := fun hnetwork => by
            rcases h.network hnetwork with hloop | howner | hretry
            · exact .inl hloop
            · exact .inr (.inl howner)
            · rw [hpoint] at hretry
              cases hretry
          running := by
            refine ⟨fun hstate => ?_, fun hor => (hor.elim hdone hspawning).elim⟩
            simp [ClientLifecycle.retryStep, ClientLifecycle.retryAt, finishRetry] at hstate
            split at hstate <;> cases hstate
          failed := fun hstate hempty => by
            have hempty : error = "" := hempty
            simp [ClientLifecycle.retryStep, ClientLifecycle.retryAt, finishRetry, hempty] at hstate
          asked := fun _ hnew => (hdone hnew).elim
          finishing := fun hfinish => by cases hfinish
          delay := fun d hd => by simp [ClientLifecycle.retryStep, ClientLifecycle.retryAt] at hd
          place := h.place_retry hretrying rfl rfl rfl id
          between := h.between_retry hretrying rfl rfl fun hnone => ?_
          destroyed := fun hdestroyed => (h.destroyed_retry hretrying hdestroyed).elim }
      by_cases hempty : error = ""
      · refine .inl ((h.finishing (by rw [hpoint, hempty])).resolve_left fun hstop => ?_)
        rcases h.asked hstop hretrying with howner | ⟨_, howner⟩ <;>
        · rw [hnone] at howner
          cases howner
      · refine .inr ?_
        simp [ClientLifecycle.retryStep, ClientLifecycle.retryAt, finishRetry, hempty]
  | finished => exact (hunfinished rfl).elim

/-! ### The thread from outside -/

/-- The network thread is there as long as it is said to be. -/
def Settled (s : ClientLifecycle) : Prop := s.network ≠ .absent ↔ s.loopStarted = true

lemma Sound.settled (h : s.Sound cfg) (hthread : s.retryThread ≠ some .storing)
    (hstart : s.owner ≠ some .startStoring)
    (hstop : ∀ inDestructor, s.owner ≠ some (.stopStoring inDestructor)) : s.Settled := by
  refine ⟨fun hnetwork => ?_, fun hloop habsent => ?_⟩
  · rcases h.network hnetwork with hloop | howner | hretry
    · exact hloop
    · exact (hstart howner).elim
    · exact (hthread hretry).elim
  · obtain ⟨inDestructor, howner⟩ := h.loop (.inl hloop) habsent
    exact hstop inDestructor howner

/-- Within a call, once the retrying thread has been joined. -/
lemma Sound.within {point : OwnerPoint} (howner : s.owner = some point)
    (hthread : s.retryThread = none)
    (hloop : s.loopStarted = true → s.network = .absent →
      ∃ inDestructor, point = .stopStoring inDestructor)
    (hnetwork : s.network ≠ .absent → s.loopStarted = true ∨ point = .startStoring)
    (hrunning : s.retryState = .running ↔
      point = .startSpawning ∨ ∃ error, point = .startGivingUp error)
    (hfailed : s.retryState = .failed → s.retryError ≠ "") (hat : s.At point)
    (hheld : s.client ≠ .destroyed) : s.Sound cfg := by
  have hretrying := not_retrying hthread
  refine ⟨fun hstarted habsent => ?_, fun hnet => ?_, ?_, hfailed,
    fun _ hretry => (hretrying hretry).elim, fun hfinish => ?_, fun d hd => ?_, fun p hp => ?_,
    fun hnone => ?_, fun hdestroyed => (hheld hdestroyed).elim⟩
  · rcases hstarted with hstarted | hretry
    · exact (hloop hstarted habsent).imp fun _ hstop => howner.trans (congrArg some hstop)
    · rw [hthread] at hretry
      cases hretry
  · exact (hnetwork hnet).imp_right fun hstart => .inl (howner.trans (congrArg some hstart))
  · rw [hrunning, Spawning, howner]
    simp [hretrying]
  · rw [hthread] at hfinish
    cases hfinish
  · rw [hthread] at hd
    rcases hd with hd | hd <;> cases hd
  · rw [howner] at hp
    cases hp
    exact hat
  · rw [howner] at hnone
    cases hnone

lemma Settled.loop {p : Prop} (h : s.Settled) (hloop : s.loopStarted = true)
    (habsent : s.network = .absent) : p := (h.mpr hloop habsent).elim

lemma Settled.network {p : Prop} (h : s.Settled) (hnetwork : s.network ≠ .absent) :
    s.loopStarted = true ∨ p := .inl (h.mp hnetwork)

/-- After a call, with no retrying thread. -/
lemma Sound.returned (howner : s.owner = none) (hthread : s.retryThread = none)
    (hsettled : s.Settled) (hrunning : s.retryState ≠ .running)
    (hfailed : s.retryState = .failed → s.retryError ≠ "") (hbetween : s.Between s.log.head?)
    (hdestroyed : s.client = .destroyed → s.log.head? = some (.stopReturned true)) :
    s.Sound cfg := by
  have hretrying := not_retrying hthread
  refine ⟨fun hstarted habsent => ?_, fun hnetwork => .inl (hsettled.mp hnetwork), ?_, hfailed,
    fun _ hretry => (hretrying hretry).elim, fun hfinish => ?_, fun d hd => ?_, fun p hp => ?_,
    fun _ => hbetween, fun h => ⟨howner, hdestroyed h⟩⟩
  · rcases hstarted with hloop | hretry
    · exact (hsettled.mpr hloop habsent).elim
    · rw [hthread] at hretry
      cases hretry
  · simp [hrunning, Spawning, howner, hretrying]
  · rw [hthread] at hfinish
    cases hfinish
  · rw [hthread] at hd
    rcases hd with hd | hd <;> cases hd
  · rw [howner] at hp
    cases hp

/-- Only the thread from outside moves. -/
lemma Sound.moved (h : s.Sound cfg) (hold : ∀ point ∈ s.owner, point.Early)
    {owner : Option OwnerPoint} (hnew : ∀ point ∈ owner, point.Early) {log : List LifeEvent}
    (hplace : ∀ point ∈ owner, { s with owner := owner, log := log }.At point)
    (hbetween : owner = none → { s with owner := owner, log := log }.Between log.head?)
    (hheld : s.client ≠ .destroyed) :
    { s with owner := owner, log := log }.Sound cfg := by
  have hspawning : ¬s.Spawning := by
    rintro (howner | ⟨error, howner⟩)
    · exact hold _ howner
    · exact hold _ howner
  have hjoining : ¬s.Joining := by
    rintro (howner | ⟨inDestructor, howner⟩)
    · exact hold _ howner
    · exact hold _ howner
  refine ⟨fun hstarted habsent => ?_, fun hnetwork => ?_, ?_, h.failed, fun hstop hretry => ?_,
    h.finishing, h.delay, fun point hpoint => ?_, fun hnone => ?_, fun hdestroyed => ?_⟩
  · obtain ⟨inDestructor, howner⟩ := h.loop hstarted habsent
    exact (hold _ howner).elim
  · rcases h.network hnetwork with hloop | howner | hretry
    · exact .inl hloop
    · exact (hold _ howner).elim
    · exact .inr (.inr hretry)
  · refine h.running.trans (or_congr Iff.rfl (iff_of_false hspawning ?_))
    rintro (howner | ⟨error, howner⟩)
    · exact hnew _ howner
    · exact hnew _ howner
  · exact (hjoining (h.asked hstop hretry)).elim
  · exact hplace point hpoint
  · exact hbetween hnone
  · exact (hheld hdestroyed).elim

lemma Sound.held (h : s.Sound cfg) {point : OwnerPoint} (hpoint : s.owner = some point) :
    s.client ≠ .destroyed := by
  intro hdestroyed
  rw [(h.destroyed hdestroyed).1] at hpoint
  cases hpoint

/-- `Start` goes on, or returns, before it has joined the retrying thread. -/
lemma Sound.startEarly (h : s.Sound cfg) {point : OwnerPoint} (hpoint : s.owner = some point)
    (hearly : point.Early) :
    (∀ p : OwnerPoint, p.Early → s.At p → (s.ownerAt p).Sound cfg) ∧
      ∀ result, (result = .ok () → s.loopStarted = true ∨ s.retryState ≠ .idle) →
        (s.startReturn result).Sound cfg := by
  have hold : ∀ p ∈ s.owner, p.Early := fun p hp => by
    rw [hpoint] at hp
    cases hp
    exact hearly
  refine ⟨fun p hp hat => h.moved hold (fun q hq => ?_) (fun q hq => ?_) (fun hnone => ?_)
    (h.held hpoint), fun result hcharge => h.moved hold (fun q hq => ?_) (fun q hq => ?_)
    (fun _ => ?_) (h.held hpoint)⟩
  · cases hq
    exact hp
  · cases hq
    cases p with
    | startRequested | startLoading | startRetrying | stopRequested _ => trivial
    | startJoining error => exact hat
    | abandonRequested => exact hat
    | _ => exact hp.elim
  · cases hnone
  · cases hq
  · cases hq
  · cases result with
    | error _ => trivial
    | ok _ => exact fun _ => hcharge rfl

/-- The error of the retrying thread is taken. -/
lemma Sound.taken (h : s.Sound cfg) (hpoint : s.owner = some .startRetrying)
    (hstate : s.retryState = .failed) {error : String} :
    { s.ownerAt (.startJoining error) with retryError := "", retryState := .idle }.Sound cfg := by
  have hmoved := (h.startEarly hpoint trivial).1 (.startJoining error) trivial
    (by rw [At, hstate]; decide)
  have hnot : ¬((s.ownerAt (.startJoining error)).Retrying ∨
      (s.ownerAt (.startJoining error)).Spawning) := by
    rw [← hmoved.running, show (s.ownerAt (.startJoining error)).retryState = .failed from hstate]
    decide
  exact
    { hmoved with
      running := iff_of_false (by simp) hnot
      failed := fun hfailed => by cases hfailed
      place := fun point hp => by
        cases hp
        exact (by decide : RetryState.idle ≠ .running)
      between := fun hnone => by cases hnone }

/-- The retrying thread is asked to stop. -/
lemma Sound.request (h : s.Sound cfg) {point next : OwnerPoint} (hpoint : s.owner = some point)
    (hearly : point.Early)
    (hnext : next = .abandonJoining ∧ s.Leaving ∨
      ∃ inDestructor, next = .stopJoining inDestructor) :
    { s.ownerAt next with retryStopRequested := true }.Sound cfg := by
  have hspawning : ¬s.Spawning := by
    rintro (howner | ⟨error, howner⟩) <;>
    · rw [hpoint] at howner
      cases howner
      exact hearly
  have hjoining : { s.ownerAt next with retryStopRequested := true }.Joining :=
    hnext.imp (fun hnext => congrArg some hnext.1) (Exists.imp fun _ => congrArg some)
  refine ⟨fun hstarted habsent => ?_, fun hnetwork => ?_, h.running.trans ?_, h.failed,
    fun _ _ => hjoining, fun _ => .inl rfl, h.delay, fun p hp => ?_, fun hnone => ?_,
    fun hdestroyed => (h.held hpoint hdestroyed).elim⟩
  · obtain ⟨inDestructor, howner⟩ := h.loop hstarted habsent
    rw [hpoint] at howner
    cases howner
    exact hearly.elim
  · rcases h.network hnetwork with hloop | howner | hretry
    · exact .inl hloop
    · rw [hpoint] at howner
      cases howner
      exact hearly.elim
    · exact .inr (.inr hretry)
  · refine or_congr Iff.rfl (iff_of_false hspawning ?_)
    rintro (howner | ⟨error, howner⟩) <;>
    · rcases hnext with ⟨rfl, -⟩ | ⟨_, rfl⟩ <;> cases howner
  · cases hp
    rcases hnext with ⟨rfl, hleaving⟩ | ⟨_, rfl⟩
    · exact ⟨rfl, hleaving⟩
    · exact rfl
  · cases hnone

/-- The retrying thread has been joined. -/
lemma Sound.unretrying (h : s.Sound cfg) {point : OwnerPoint} (hpoint : s.owner = some point)
    (hdone : ¬s.Retrying) (hstart : point ≠ .startStoring)
    (hstop : ∀ inDestructor, point ≠ .stopStoring inDestructor) : s.Settled := by
  refine h.settled (fun hstoring => hdone ⟨_, hstoring, by decide⟩) ?_ fun inDestructor => ?_
  · rw [hpoint]
    exact fun heq => hstart (Option.some.inj heq)
  · rw [hpoint]
    exact fun heq => hstop inDestructor (Option.some.inj heq)

lemma Sound.not_running (h : s.Sound cfg) {point : OwnerPoint} (hpoint : s.owner = some point)
    (hdone : ¬s.Retrying) (hspawning : point ≠ .startSpawning)
    (hgivingUp : ∀ error, point ≠ .startGivingUp error) : s.retryState ≠ .running := by
  intro hrunning
  rcases h.running.mp hrunning with hretrying | howner | ⟨error, howner⟩
  · exact hdone hretrying
  · rw [hpoint] at howner
    exact hspawning (Option.some.inj howner)
  · rw [hpoint] at howner
    exact hgivingUp error (Option.some.inj howner)

/-- `StopNow` returns. -/
lemma stopReturn_sound (hthread : s.retryThread = none) (hsettled : s.Settled)
    (hstate : s.retryState ≠ .running) (hfailed : s.retryState = .failed → s.retryError ≠ "")
    (hquiet : s.loopStarted = false → s.Quiet) (hheld : s.client ≠ .destroyed)
    (inDestructor : Bool) : (s.stopReturn inDestructor).Sound cfg := by
  have hquiet (hstopped : s.loopStarted = false) : (s.stopReturn inDestructor).Quiet :=
    { hquiet hstopped with }
  cases inDestructor with
  | true =>
      exact .within rfl hthread hsettled.loop hsettled.network (iff_of_false hstate (by simp))
        hfailed ⟨hthread, rfl, hquiet⟩ hheld
  | false =>
      refine .returned rfl hthread hsettled hstate hfailed ?_ fun hd => (hheld hd).elim
      change (s.stopReturn false).Between (some (.stopReturned (!s.loopStarted)))
      cases hloop : s.loopStarted with
      | true => exact ⟨hloop, hthread⟩
      | false => exact hquiet hloop

/-- One step of the thread from outside. -/
lemma Sound.ownerStep (h : s.Sound cfg) {point : OwnerPoint} (hpoint : s.owner = some point)
    {answer : ℤ} (henabled : s.OwnerEnabled answer point) :
    (s.ownerStep cfg answer point).Sound cfg := by
  have hat := h.place point hpoint
  have hheld := h.held hpoint
  cases point with
  | startRequested =>
      rw [ClientLifecycle.ownerStep]
      split
      · exact (h.startEarly hpoint trivial).2 _ fun hok => by cases hok
      · exact (h.startEarly hpoint trivial).1 .startLoading trivial trivial
  | startLoading =>
      rw [ClientLifecycle.ownerStep]
      split
      · next hloop => exact (h.startEarly hpoint trivial).2 _ fun _ => .inl hloop
      · exact (h.startEarly hpoint trivial).1 .startRetrying trivial trivial
  | startRetrying =>
      rw [ClientLifecycle.ownerStep]
      split
      · next hstate => exact (h.startEarly hpoint trivial).2 _ fun _ => .inr (ne_idle hstate)
      · next hstate => exact h.taken hpoint hstate
      · next hstate =>
        exact (h.startEarly hpoint trivial).1 (.startJoining "") trivial (by rw [At, hstate]; simp)
  | startJoining completedError =>
      have hsettled := h.unretrying hpoint henabled (by simp) (by simp)
      rw [ClientLifecycle.ownerStep]
      split
      · next herror =>
        exact .returned rfl rfl hsettled hat h.failed trivial fun hd => (hheld hd).elim
      · exact .within rfl rfl hsettled.loop hsettled.network (iff_of_false hat (by simp)) h.failed
          rfl hheld
  | startResetting =>
      have hdone := not_retrying hat
      have hsettled := h.unretrying hpoint hdone (by simp) (by simp)
      have hstate := h.not_running hpoint hdone (by simp) (by simp)
      exact .within rfl hat hsettled.loop hsettled.network (iff_of_false hstate (by simp)) h.failed
        ⟨hat, rfl⟩ hheld
  | startConnecting =>
      have hdone := not_retrying hat.1
      have hsettled := h.unretrying hpoint hdone (by simp) (by simp)
      have hstate := h.not_running hpoint hdone (by simp) (by simp)
      rw [ClientLifecycle.ownerStep]
      split
      · exact .returned rfl hat.1 hsettled hstate h.failed trivial fun hd => (hheld hd).elim
      · split
        · exact .within rfl hat.1 hsettled.loop hsettled.network (iff_of_false hstate (by simp))
            h.failed hat hheld
        · exact .within rfl hat.1 hsettled.loop hsettled.network (iff_of_false hstate (by simp))
            h.failed hat.1 hheld
  | startMarking =>
      have hsettled := h.unretrying hpoint (not_retrying hat.1) (by simp) (by simp)
      exact .within rfl hat.1 hsettled.loop hsettled.network (iff_of_true rfl (.inl rfl))
        (fun hfailed => by cases hfailed) hat hheld
  | startSpawning =>
      have hsettled := h.unretrying hpoint (not_retrying hat.1) (by simp) (by simp)
      have hrunning : s.retryState = .running := h.running.mpr (.inr (.inl hpoint))
      rw [ClientLifecycle.ownerStep]
      split
      · exact .within rfl hat.1 hsettled.loop hsettled.network
          (iff_of_true hrunning (.inr ⟨_, rfl⟩)) h.failed hat hheld
      · refine ⟨fun hstarted => ?_, hsettled.network, ?_, h.failed, fun hstop => ?_,
          fun hfinish => ?_, fun d hd => ⟨0, ?_⟩, fun p hp => ?_,
          fun _ _ => .inr (ne_idle hrunning), fun hd => (hheld hd).elim⟩
        · rcases hstarted with hloop | hretry
          · exact hsettled.loop hloop
          · cases hretry
        · exact iff_of_true hrunning (.inl ⟨.waiting cfg.reconnectDelay, rfl, by simp⟩)
        · exact absurd (hat.2.symm.trans hstop) (by simp)
        · cases hfinish
        · rcases hd with hd | hd <;> cases hd
          rfl
        · cases hp
  | startGivingUp error =>
      have hsettled := h.unretrying hpoint (not_retrying hat.1) (by simp) (by simp)
      have hidle : (s.ownerStep cfg answer (.startGivingUp error)).retryState = .idle := by
        simp [ClientLifecycle.ownerStep, startReturn, finishRetry]
      exact .returned rfl hat.1 hsettled (by rw [hidle]; simp) (by rw [hidle]; simp) trivial
        fun hd => (hheld hd).elim
  | startLooping =>
      have hdone := not_retrying hat
      have hsettled := h.unretrying hpoint hdone (by simp) (by simp)
      have hstate := h.not_running hpoint hdone (by simp) (by simp)
      rw [ClientLifecycle.ownerStep]
      split
      · exact .returned rfl hat hsettled hstate h.failed trivial fun hd => (hheld hd).elim
      · exact .within rfl hat (fun _ habsent => by cases habsent) (fun _ => .inr rfl)
          (iff_of_false hstate (by simp)) h.failed ⟨hat, by simp⟩ hheld
  | startStoring =>
      have hstate := h.not_running hpoint (not_retrying hat.1) (by simp) (by simp)
      exact .returned rfl hat.1 (iff_of_true hat.2 rfl) hstate h.failed (fun _ => .inl rfl)
        fun hd => (hheld hd).elim
  | stopRequested inDestructor => exact h.request hpoint trivial (.inr ⟨inDestructor, rfl⟩)
  | stopJoining inDestructor =>
      have hsettled := h.unretrying hpoint henabled (by simp) (by simp)
      have hstate := h.not_running hpoint henabled (by simp) (by simp)
      exact .within rfl rfl hsettled.loop hsettled.network (iff_of_false hstate (by simp)) h.failed
        rfl hheld
  | stopClearing inDestructor =>
      have hsettled := h.unretrying hpoint (not_retrying hat) (by simp) (by simp)
      exact .within rfl hat hsettled.loop hsettled.network (iff_of_false nofun (by simp))
        (fun hfailed => by cases hfailed) ⟨hat, rfl⟩ hheld
  | stopLoading inDestructor =>
      have hsettled := h.unretrying hpoint (not_retrying hat.1) (by simp) (by simp)
      have hstate := h.not_running hpoint (not_retrying hat.1) (by simp) (by simp)
      rw [ClientLifecycle.ownerStep]
      split
      · next hloop =>
        exact .within rfl hat.1 hsettled.loop hsettled.network (iff_of_false hstate (by simp))
          h.failed ⟨hat.1, hat.2, hloop⟩ hheld
      · next hloop =>
        exact .within rfl hat.1 hsettled.loop hsettled.network (iff_of_false hstate (by simp))
          h.failed ⟨hat.1, hat.2, Bool.eq_false_iff.mpr hloop, rfl⟩ hheld
  | stopDisconnecting inDestructor =>
      have hsettled := h.unretrying hpoint (not_retrying hat.1) (by simp) (by simp)
      have hstate := h.not_running hpoint (not_retrying hat.1) (by simp) (by simp)
      exact .within rfl hat.1 hsettled.loop hsettled.network (iff_of_false hstate (by simp))
        h.failed hat hheld
  | stopLooping inDestructor =>
      have hsettled := h.unretrying hpoint (not_retrying hat.1) (by simp) (by simp)
      have hstate := h.not_running hpoint (not_retrying hat.1) (by simp) (by simp)
      rw [ClientLifecycle.ownerStep]
      split
      · exact .within rfl hat.1 hsettled.loop hsettled.network (iff_of_false hstate (by simp))
          h.failed ⟨hat.1, hat.2.1⟩ hheld
      · exact .within rfl hat.1 (fun _ _ => ⟨_, rfl⟩) (fun hnetwork => (hnetwork rfl).elim)
          (iff_of_false hstate (by simp)) h.failed ⟨hat.1, hat.2.1, rfl⟩ hheld
  | stopStoring inDestructor =>
      have hstate := h.not_running hpoint (not_retrying hat.1) (by simp) (by simp)
      exact .within rfl hat.1 (fun hloop => by cases hloop)
        (fun hnetwork => (hnetwork hat.2.2).elim) (iff_of_false hstate (by simp)) h.failed
        ⟨hat.1, hat.2.1⟩ hheld
  | stopDisconnected inDestructor =>
      have hsettled := h.unretrying hpoint (not_retrying hat.1) (by simp) (by simp)
      have hstate := h.not_running hpoint (not_retrying hat.1) (by simp) (by simp)
      exact .within rfl hat.1 hsettled.loop hsettled.network (iff_of_false hstate (by simp))
        h.failed ⟨hat.1, hat.2, fun _ => rfl⟩ hheld
  | stopChecking inDestructor =>
      have hsettled := h.unretrying hpoint (not_retrying hat.1) (by simp) (by simp)
      have hstate := h.not_running hpoint (not_retrying hat.1) (by simp) (by simp)
      rw [ClientLifecycle.ownerStep]
      split
      · next hloop =>
        exact stopReturn_sound hat.1 hsettled hstate h.failed (fun hfalse => by
          rw [hloop] at hfalse
          cases hfalse) hheld inDestructor
      · next hloop =>
        have hstopped := Bool.eq_false_iff.mpr hloop
        exact .within rfl hat.1 hsettled.loop hsettled.network (iff_of_false hstate (by simp))
          h.failed ⟨hat.1, hat.2.1, hstopped, hat.2.2 hstopped⟩ hheld
  | stopReturning inDestructor =>
      obtain ⟨hthread, hidle, hstopped, hconnected⟩ := hat
      have hsettled := h.unretrying hpoint (not_retrying hthread) (by simp) (by simp)
      have hstate := h.not_running hpoint (not_retrying hthread) (by simp) (by simp)
      have habsent : s.network = .absent := by
        by_contra hnetwork
        rw [hsettled.mp hnetwork] at hstopped
        cases hstopped
      have hquiet : { s with callbackStopRequested := false }.Quiet :=
        ⟨hthread, hidle, hstopped, habsent, hconnected, rfl⟩
      exact @stopReturn_sound cfg { s with callbackStopRequested := false } hthread hsettled hstate
        h.failed (fun _ => hquiet) hheld inDestructor
  | destroying =>
      have hsettled := h.unretrying hpoint (not_retrying hat.1) (by simp) (by simp)
      have hstate := h.not_running hpoint (not_retrying hat.1) (by simp) (by simp)
      obtain ⟨hthread, hhead, hquiet⟩ := hat
      refine .returned rfl hthread hsettled hstate h.failed ?_ fun hd => ?_
      · change (s.ownerStep cfg answer .destroying).Between s.log.head?
        rw [hhead]
        cases hloop : s.loopStarted with
        | true => exact ⟨hloop, hthread⟩
        | false => exact { hquiet hloop with }
      · change s.log.head? = _
        rw [hhead]
        cases hloop : s.loopStarted with
        | true =>
            simp [ClientLifecycle.ownerStep, hloop] at hd
        | false => rfl
  | abandonRequested => exact h.request hpoint trivial (.inl ⟨rfl, hat⟩)
  | abandonJoining =>
      have hsettled := h.unretrying hpoint henabled (by simp) (by simp)
      have hstate := h.not_running hpoint henabled (by simp) (by simp)
      refine .returned rfl rfl hsettled hstate h.failed ?_ fun hd => ?_
      · obtain ⟨-, hnetwork, hhead⟩ := hat
        change (s.ownerStep cfg answer .abandonJoining).Between s.log.head?
        cases hlast : s.log.head? with
        | none => trivial
        | some event =>
            cases event with
            | startBegan | stopBegan => trivial
            | startReturned result =>
                cases result with
                | error _ => trivial
                | ok _ => exact fun hheld => by cases hheld
            | stopReturned stopped =>
                cases stopped with
                | true => exact (hhead hlast).elim
                | false => exact ⟨hsettled.mp hnetwork, rfl⟩
      · cases hd

/-! ### The network thread -/

/-- What the network thread changes: it runs before, and has not been joined after. -/
lemma Sound.networked (h : s.Sound cfg) (hrunning : s.network = .running)
    {network : NetworkThread} (hnetwork : network ≠ .absent) (connected requested : Bool) :
    { s with
      network := network
      connected := connected
      callbackStopRequested := requested }.Sound cfg := by
  have hpresent : s.network ≠ .absent := by
    rw [hrunning]
    simp
  have hloop {p : Prop} (hthread : s.retryThread = none) {point : OwnerPoint}
      (hpoint : s.owner = some point) (hstart : point ≠ .startStoring)
      (hstopped : s.loopStarted = false) : p := by
    rcases h.network hpresent with hstarted | howner | hretry
    · rw [hstopped] at hstarted
      cases hstarted
    · rw [hpoint] at howner
      exact (hstart (Option.some.inj howner)).elim
    · rw [hthread] at hretry
      cases hretry
  refine ⟨fun _ habsent => (hnetwork habsent).elim, fun _ => h.network hpresent, h.running,
    h.failed, h.asked, h.finishing, h.delay, fun point hpoint => ?_, fun hnone => ?_, h.destroyed⟩
  · have hat := h.place point hpoint
    cases point with
    | startStoring => exact ⟨hat.1, hnetwork⟩
    | stopStoring _ => exact (hpresent hat.2.2).elim
    | stopChecking _ => exact ⟨hat.1, hat.2.1, hloop hat.1 hpoint (by simp)⟩
    | stopReturning _ => exact hloop hat.1 hpoint (by simp) hat.2.2.1
    | destroying => exact ⟨hat.1, hat.2.1, hloop hat.1 hpoint (by simp)⟩
    | abandonRequested => exact ⟨hnetwork, hat.2⟩
    | abandonJoining => exact ⟨hat.1, hnetwork, hat.2.2⟩
    | _ => exact hat
  · have hbetween := h.between hnone
    change Between _ s.log.head?
    cases hlast : s.log.head? with
    | none => trivial
    | some event =>
        rw [hlast] at hbetween
        cases event with
        | startBegan | stopBegan => trivial
        | startReturned result =>
            cases result with
            | error _ => trivial
            | ok _ => exact hbetween
        | stopReturned stopped =>
            cases stopped with
            | true => exact (hpresent hbetween.network).elim
            | false => exact hbetween

/-! ### Every step -/

/-- **Every step keeps it.** -/
lemma Sound.next (h : s.Sound cfg) {input : Input} (henabled : s.Enabled input) :
    (s.next cfg input).Sound cfg := by
  have hold (hnone : s.owner = none) : ∀ point ∈ s.owner, point.Early := fun point hpoint => by
    rw [hnone] at hpoint
    cases hpoint
  have hheld (hclient : s.client = .held) : s.client ≠ .destroyed := by
    rw [hclient]
    simp
  cases input with
  | start =>
      refine h.moved (hold henabled.1) (fun p hp => ?_) (fun p hp => ?_) nofun (hheld henabled.2)
      · cases hp
        trivial
      · cases hp
        trivial
  | stop inDestructor =>
      refine h.moved (hold henabled.1) (fun p hp => ?_) (fun p hp => ?_) nofun (hheld henabled.2)
      · cases hp
        trivial
      · cases hp
        trivial
  | abandon =>
      obtain ⟨hnone, hclient, hrunning⟩ := henabled
      have hpresent : s.network ≠ .absent := by
        rw [hrunning]
        simp
      refine h.moved (hold hnone) (fun p hp => ?_) (fun p hp => ?_) nofun (hheld hclient)
      · cases hp
        trivial
      · cases hp
        refine ⟨hpresent, fun hhead => hpresent ?_⟩
        have hbetween := h.between hnone
        rw [show s.log.head? = _ from hhead] at hbetween
        exact hbetween.network
  | owner answer =>
      obtain ⟨point, hpoint, hready⟩ := henabled
      rw [ClientLifecycle.next, show s.owner = some point from hpoint]
      exact h.ownerStep hpoint hready
  | retry answer =>
      obtain ⟨point, hpoint, hready⟩ := henabled
      rw [ClientLifecycle.next, show s.retryThread = some point from hpoint]
      exact h.retryStep hpoint hready
  | callback event =>
      have hpresent : s.network ≠ .absent := by
        rw [henabled.1]
        simp
      cases event with
      | connect result => exact h.networked henabled.1 hpresent _ _
      | disconnect => exact h.networked henabled.1 hpresent _ _
      | stop => exact h.networked henabled.1 hpresent _ _
  | networkEnds => exact h.networked henabled.1 (by simp) _ _

/-! ### The client that is not destroyed -/

/-- What a destructor leaves that does not destroy the client: no thread but the one of the
library, which nobody joins. -/
structure LeftBehind (s : ClientLifecycle) : Prop where
  owner : s.owner = none
  retryThread : s.retryThread = none
  network : s.network ≠ .absent

/-- Only the end of the destructor gives the client up. -/
lemma ownerStep_client (cfg : LifecycleConfig) (s : ClientLifecycle) (answer : ℤ)
    {point : OwnerPoint} (hdestroying : point ≠ .destroying)
    (habandoning : point ≠ .abandonJoining) :
    (s.ownerStep cfg answer point).client = s.client := by
  cases point with
  | destroying => exact (hdestroying rfl).elim
  | abandonJoining => exact (habandoning rfl).elim
  | startRetrying =>
      rw [ownerStep]
      split <;> rfl
  | startRequested | startLoading | startJoining _ | startConnecting | startSpawning
  | startLooping | stopLoading _ | stopLooping _ | stopChecking _ =>
      rw [ownerStep]
      split_ifs <;> rfl
  | _ => rfl

lemma retryStep_client (cfg : LifecycleConfig) (s : ClientLifecycle) (answer : ℤ)
    (point : RetryPoint) : (s.retryStep cfg answer point).client = s.client := by
  cases point with
  | waiting _ | checking | looping =>
      rw [retryStep]
      split <;> rfl
  | connecting _ =>
      rw [retryStep]
      split_ifs <;> rfl
  | storing | finishing _ | finished => rfl

/-- Where the destructor ends without destroying the client, its loop has not been stopped. -/
lemma Sound.leftBehind_ownerStep (h : s.Sound cfg) {point : OwnerPoint}
    (hpoint : s.owner = some point) (hclient : s.client ≠ .abandoned) {answer : ℤ}
    (henabled : s.OwnerEnabled answer point)
    (hnext : (s.ownerStep cfg answer point).client = .abandoned) :
    (s.ownerStep cfg answer point).LeftBehind := by
  by_cases hdestroying : point = .destroying
  · subst hdestroying
    have hthread := (h.place _ hpoint).1
    have hsettled := h.unretrying hpoint (not_retrying hthread) (by simp) (by simp)
    have hloop : s.loopStarted = true := by
      by_contra hstopped
      simp [ClientLifecycle.ownerStep, hstopped] at hnext
    exact ⟨rfl, hthread, hsettled.mpr hloop⟩
  · by_cases habandoning : point = .abandonJoining
    · subst habandoning
      exact ⟨rfl, rfl, (h.place _ hpoint).2.1⟩
    · rw [ownerStep_client cfg s answer hdestroying habandoning] at hnext
      exact (hclient hnext).elim

lemma Sound.leftBehind_next (h : s.Sound cfg) (hleft : s.client = .abandoned → s.LeftBehind)
    {input : Input} (henabled : s.Enabled input)
    (hnext : (s.next cfg input).client = .abandoned) : (s.next cfg input).LeftBehind := by
  have hnot_held (hheld : s.client = .held) (habandoned : s.client = .abandoned) : False := by
    rw [hheld] at habandoned
    cases habandoned
  cases input with
  | start => exact (hnot_held henabled.2 hnext).elim
  | stop _ => exact (hnot_held henabled.2 hnext).elim
  | abandon => exact (hnot_held henabled.2.1 hnext).elim
  | owner answer =>
      obtain ⟨point, hpoint, hready⟩ := henabled
      have hpoint : s.owner = some point := hpoint
      have hclient (habandoned : s.client = .abandoned) : False := by
        have hnone := (hleft habandoned).owner
        rw [hpoint] at hnone
        cases hnone
      rw [ClientLifecycle.next, hpoint] at hnext ⊢
      exact h.leftBehind_ownerStep hpoint hclient hready hnext
  | retry answer =>
      obtain ⟨point, hpoint, -⟩ := henabled
      have hpoint : s.retryThread = some point := hpoint
      rw [ClientLifecycle.next, hpoint] at hnext
      have hnone := (hleft ((retryStep_client cfg s answer point).symm.trans hnext)).retryThread
      rw [hpoint] at hnone
      cases hnone
  | callback event =>
      cases event with
      | connect _ | disconnect | stop => exact { hleft hnext with }
  | networkEnds => exact { hleft hnext with network := by simp [ClientLifecycle.next] }

end ClientLifecycle

lemma clientSound_of_reachable {cfg : LifecycleConfig} {s : ClientLifecycle}
    (h : (clientLifecycle cfg).Reachable s) : s.Sound cfg :=
  h.invariant (fun _ hs => hs ▸ ClientLifecycle.sound_created) fun _ _ _ hs => hs.next

/-- **At any time**, a client that is given up without being destroyed has no thread of its own
left. -/
lemma leftBehind_of_reachable {cfg : LifecycleConfig} {s : ClientLifecycle}
    (h : (clientLifecycle cfg).Reachable s) : s.client = .abandoned → s.LeftBehind := by
  refine h.invariant (fun s hs habandoned => ?_) fun _ _ hreachable hleft henabled =>
    (clientSound_of_reachable hreachable).leftBehind_next hleft henabled
  have hcreated : s = .created := hs
  rw [hcreated] at habandoned
  cases habandoned

end CnsServer
