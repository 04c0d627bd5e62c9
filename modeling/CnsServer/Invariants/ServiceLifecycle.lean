/-
What holds at any time of the process.

* `observe_ends` and its siblings: the rules for the calls of the process, and for what it
  does with their errors;
* `Fine`: a thread that has been let run on is asked to stop, and reaches nothing;
* `Orderly`: the order of the starts and stops;
* `Sound`: **the invariant**; `Held`, `Early`, `Draining` and `Over`: the stages of the life;
* `Sound.modifyBundle` and its siblings: what changes of the state keep it.
-/
import CnsServer.Library.Interruptible
import CnsServer.Runtime.ServiceRunner

namespace CnsServer

open Interruptible Process ServiceEnvironment

set_option mvcgen.warning false

/-! ### Computations that may throw -/

/-- The clock does not matter. -/
def Untimed (P : ServiceEnvironment → Prop) : Prop := ∀ s n, P s → P { s with clock := n }

/-- What holds after a step: `Q` if it has succeeded, and `P` if it has returned an error. -/
def Succeeding (Q P : ServiceEnvironment → Prop) (r : Except String Unit)
    (s : ServiceEnvironment) : Prop :=
  match r with
  | .ok () => Q s
  | .error _ => P s

section

variable {P P' Q Q' E E' F : ServiceEnvironment → Prop} {α : Type}
  {R R' : α → ServiceEnvironment → Prop}

lemma observe_ends (hP : Untimed P) : Ends .thrown P observe (fun _ => P) P := by
  mvcgen [observe]
  · next s h what hthrown => exact ⟨⟨what, rfl⟩, hP s _ h⟩
  · next s h hthrown => exact hP s _ h

lemma expected_ends (hP : Untimed P) {effect : Outcome → ServiceEnvironment → ServiceEnvironment}
    (heffect : ∀ outcome s, P s → Q (effect outcome s)) (hF : ∀ s, P s → F s) :
    Ends .thrown P (expected effect) (Succeeding Q F) F := by
  have hobserve := (observe_ends hP).mono_raised hF
  mvcgen [expected, hobserve]
  · next s h => exact hF s h
  · next h _ => exact heffect _ _ h

lemma andThen_ends {step rest : Process (Except String Unit)}
    (hstep : Ends .thrown P step (Succeeding Q F) E)
    (hrest : Ends .thrown Q rest (Succeeding Q' F) E) :
    Ends .thrown P (andThen step rest) (Succeeding Q' F) E := by
  mvcgen [andThen, hstep, hrest]

lemma ask_ends (hP : Untimed P) : Ends .thrown P ask (fun _ => P) P := by
  have hobserve := observe_ends hP
  mvcgen [ask, hobserve]

lemma need_ends {isThere : ServiceEnvironment → Bool} (h : ∀ s, P s → isThere s = true) :
    Ends .thrown P (need isThere) (fun _ => P) E := by
  mvcgen [need]
  next s hs habsent =>
    rw [h s hs] at habsent
    cases habsent

lemma catching_ends {body : Process α} {handler : Thrown → Process α}
    (hbody : Ends .thrown P body R E) (hhandler : ∀ what, Ends .thrown E (handler what) R F) :
    Ends .thrown P (catching body handler) R F := by
  mvcgen [catching, hbody, hhandler]
  · exact id
  · next h => exact h.2
  · next what hother _ h =>
      obtain ⟨⟨what, rfl⟩, -⟩ := h
      cases hother what rfl

/-- One step of `RunService`: an error is reported, and cleaned up. -/
lemma orReturn_ends {operations : ServiceOperations} {step : Process (Except String Unit)}
    {cleanup : Process Unit} {next : Process (Option ℕ)}
    {R : Option ℕ → ServiceEnvironment → Prop}
    (hstep : Ends .thrown P step (Succeeding Q Q') E)
    (herror : ∀ message, Ends .thrown Q' (operations.error message) (fun _ => Q') E)
    (hcleanup : Ends .thrown Q' cleanup (fun _ => F) E) (hnext : Ends .thrown Q next R E)
    (hfailed : ∀ s, F s → R (some 1) s) :
    Ends .thrown P (operations.orReturn step cleanup next) R E := by
  mvcgen [ServiceOperations.orReturn, hstep, herror, hcleanup, hnext]
  next s h => exact hfailed s h

end

/-! ### What holds at any time -/

namespace SelfOwnedRuntimeThread

/-- A thread that has been let run on is asked to stop, and cannot reach anything. -/
def Fine (cut : Prop) (thread : SelfOwnedRuntimeThread) : Prop :=
  thread.phase = .detached → thread.stopRequested = true ∧ cut

variable {cut : Prop} {thread : SelfOwnedRuntimeThread}

lemma Fine.mono {cut' : Prop} (h : thread.Fine cut) (hcut : cut → cut') : thread.Fine cut' :=
  fun hphase => (h hphase).imp_right hcut

lemma Fine.start (thread : SelfOwnedRuntimeThread) : thread.start.Fine cut :=
  fun hphase => by cases hphase

lemma Fine.requestStop (h : thread.Fine cut) : thread.requestStop.Fine cut :=
  fun hphase => ⟨rfl, (h hphase).2⟩

lemma Fine.join (h : thread.Fine cut) : thread.join.Fine cut := by
  rw [SelfOwnedRuntimeThread.join]
  split
  · exact fun hphase => by cases hphase
  · exact h

lemma Fine.detach (h : thread.Fine cut) (hstop : thread.stopRequested = true) (hcut : cut) :
    thread.detach.Fine cut := by
  rw [SelfOwnedRuntimeThread.detach]
  split
  · exact fun _ => ⟨hstop, hcut⟩
  · exact h

lemma join_joinable : thread.join.joinable = false := by
  rw [SelfOwnedRuntimeThread.join]
  split
  · rfl
  · next h => exact Bool.not_eq_true _ ▸ h

lemma detach_joinable : thread.detach.joinable = false := by
  rw [SelfOwnedRuntimeThread.detach]
  split
  · rfl
  · next h => exact Bool.not_eq_true _ ▸ h

end SelfOwnedRuntimeThread

/-- Both threads are. -/
def RuntimeThreads.Fine (cut : Prop) (b : RuntimeThreads) : Prop :=
  b.databaseThread.Fine cut ∧ b.businessThread.Fine cut

/-- The runtime has been started, and not been let go of since. -/
def Live : List LifecycleEvent → Prop
  | [] => False
  | .runtimeStarted :: _ => True
  | .runtimeReleased :: _ => False
  | _ :: earlier => Live earlier

/-- The runtime starts once; MQTT starts within its life, and stops outside it. -/
def Orderly : List LifecycleEvent → Prop
  | [] => True
  | .runtimeStarted :: earlier => .runtimeStarted ∉ earlier ∧ Orderly earlier
  | .runtimeReleased :: earlier => Live earlier ∧ Orderly earlier
  | .mqttStarted :: earlier => Live earlier ∧ Orderly earlier
  | .mqttStopped :: earlier => ¬Live earlier ∧ Orderly earlier

namespace ServiceEnvironment

/-- The bridge leads nowhere. -/
def BridgeCut (s : ServiceEnvironment) : Prop :=
  ∀ bridge ∈ s.externalBridge, bridge = ⟨false, false, false⟩

/-- What holds at any time of a process that does not migrate: the table is as it was, a
runtime is only started when it has the migrations of the directory, and MQTT has been started
if it is said to be. -/
structure Sound (table : MigrationState) (begun : Prop) (s : ServiceEnvironment) : Prop where
  kept : s.table = table
  checked : s.log ≠ [] → table.rows = s.available ∧ s.logger = true
  present : s.runtimeBundle.isSome = true →
    s.config = true ∧ s.logger = true ∧ s.externalBridge.isSome = true
  client : s.mqtt.isSome = true → s.config = true ∧ s.log ≠ []
  accepting : s.acceptingDeviceMessages = true → s.runtimeBundle.isSome = true
  bundle : ∀ b ∈ s.runtimeBundle, b.Fine s.BridgeCut
  released : ∀ b ∈ s.released, b.joinable = false ∧ b.Fine s.BridgeCut
  live : Live s.log ↔ s.runtimeBundle.isSome = true
  orderly : Orderly s.log
  started : begun → .mqttStarted ∈ s.log

/-- The runtime is there to be stopped. -/
def Stoppable (s : ServiceEnvironment) : Prop :=
  s.runtimeBundle.isSome = true → s.deviceRuntimeStopped = false

/-- What the destructor can start from. -/
def Held (table : MigrationState) (begun : Prop) (s : ServiceEnvironment) : Prop :=
  s.Sound table begun ∧ s.Stoppable

/-- Nothing is started yet. -/
structure Early (table : MigrationState) (s : ServiceEnvironment) : Prop where
  kept : s.table = table
  bundle : s.runtimeBundle = none
  mqtt : s.mqtt = none
  accepting : s.acceptingDeviceMessages = false
  released : s.released = []
  log : s.log = []
  quiet : s.shutdownRequested = false

/-- The runtime is closed, and about to be let go of. -/
structure Draining (table : MigrationState) (begun : Prop) (s : ServiceEnvironment) : Prop where
  sound : s.Sound table begun
  closed : s.acceptingDeviceMessages = false
  bundle : s.runtimeBundle.isSome = true

/-- The runtime has been let go of, if there was one. -/
structure Over (table : MigrationState) (begun : Prop) (s : ServiceEnvironment) : Prop where
  sound : s.Sound table begun
  closed : s.acceptingDeviceMessages = false
  bundle : s.runtimeBundle = none

variable {table : MigrationState} {begun : Prop} {s : ServiceEnvironment}

lemma Early.sound (h : s.Early table) : s.Sound table False where
  kept := h.kept
  checked hlog := absurd h.log hlog
  present hsome := by rw [h.bundle] at hsome; cases hsome
  client hsome := by rw [h.mqtt] at hsome; cases hsome
  accepting hsome := by rw [h.accepting] at hsome; cases hsome
  bundle b hb := by rw [h.bundle] at hb; cases hb
  released b hb := by rw [h.released] at hb; cases hb
  live := by rw [h.log, h.bundle]; exact iff_of_false id (by simp)
  orderly := by rw [h.log]; exact trivial
  started := False.elim

lemma Early.held (h : s.Early table) : s.Held table False :=
  ⟨h.sound, fun hsome => by rw [h.bundle] at hsome; cases hsome⟩

lemma Over.held (h : s.Over table begun) : s.Held table begun :=
  ⟨h.sound, fun hsome => by rw [h.bundle] at hsome; cases hsome⟩

lemma Sound.mono {begun' : Prop} (h : s.Sound table begun)
    (hbegun : begun' → .mqttStarted ∈ s.log) : s.Sound table begun' :=
  { h with started := hbegun }

/-- Where there is a runtime, its start is in the trace. -/
lemma Sound.log_ne (h : s.Sound table begun) (hsome : s.runtimeBundle.isSome = true) :
    s.log ≠ [] := by
  intro hlog
  have hlive := h.live.mpr hsome
  rw [hlog] at hlive
  exact hlive

lemma untimed_early : Untimed (Early table) := fun _ _ h => { h with }

lemma untimed_sound : Untimed (Sound table begun) := fun _ _ h => { h with }

lemma untimed_held : Untimed (Held table begun) := fun _ n h => ⟨untimed_sound _ n h.1, h.2⟩

lemma untimed_draining : Untimed (Draining table begun) :=
  fun _ n h => ⟨untimed_sound _ n h.1, h.2, h.3⟩

lemma untimed_over : Untimed (Over table begun) :=
  fun _ n h => ⟨untimed_sound _ n h.1, h.2, h.3⟩

/-! ### Changes of the state -/

/-- A change of the bundle that lets no thread run on unasked. -/
lemma Sound.modifyBundle (h : s.Sound table begun) {f : RuntimeThreads → RuntimeThreads}
    (hf : ∀ b ∈ s.runtimeBundle, b.Fine s.BridgeCut → (f b).Fine s.BridgeCut) :
    (s.modifyBundle f).Sound table begun where
  kept := h.kept
  checked := h.checked
  present hsome := h.present (by simpa [ServiceEnvironment.modifyBundle] using hsome)
  client := h.client
  accepting haccepting := by simpa [ServiceEnvironment.modifyBundle] using h.accepting haccepting
  bundle b hb := by
    obtain ⟨old, hold, rfl⟩ := Option.map_eq_some_iff.mp hb
    exact hf old hold (h.bundle old hold)
  released := h.released
  live := by simpa [ServiceEnvironment.modifyBundle] using h.live
  orderly := h.orderly
  started := h.started

lemma bridgeCut_disable : s.disableBridge.BridgeCut := by
  intro bridge hbridge
  obtain ⟨bridge, -, rfl⟩ := Option.map_eq_some_iff.mp hbridge
  rfl

lemma Sound.disableBridge (h : s.Sound table begun) : s.disableBridge.Sound table begun where
  kept := h.kept
  checked := h.checked
  present hsome :=
    ⟨(h.present hsome).1, (h.present hsome).2.1, (Option.isSome_map).trans (h.present hsome).2.2⟩
  client := h.client
  accepting := h.accepting
  bundle b hb := ⟨(h.bundle b hb).1.mono fun _ => bridgeCut_disable,
    (h.bundle b hb).2.mono fun _ => bridgeCut_disable⟩
  released b hb := ⟨(h.released b hb).1, (h.released b hb).2.1.mono fun _ => bridgeCut_disable,
    (h.released b hb).2.2.mono fun _ => bridgeCut_disable⟩
  live := h.live
  orderly := h.orderly
  started := h.started

lemma Sound.closed (h : s.Sound table begun) :
    { s with acceptingDeviceMessages := false }.Sound table begun :=
  { h with accepting := fun hfalse => by cases hfalse }

lemma Sound.markStopped (h : s.Sound table begun) : s.markStopped.Sound table begun :=
  { h with accepting := fun hfalse => by cases hfalse }

lemma Stoppable.modifyBundle (h : s.Stoppable) (f : RuntimeThreads → RuntimeThreads) :
    (s.modifyBundle f).Stoppable := fun hsome =>
  h (by simpa [ServiceEnvironment.modifyBundle] using hsome)

/-- The bundle is let go of when no thread is left to join. -/
lemma Sound.release (h : s.Sound table begun) {b : RuntimeThreads} (hb : s.runtimeBundle = some b)
    (hjoinable : b.joinable = false) (hclosed : s.acceptingDeviceMessages = false) :
    (s.release b).Sound table begun where
  kept := h.kept
  checked _ := h.checked (h.log_ne (by rw [hb]; rfl))
  present hsome := by cases hsome
  client hsome := ⟨(h.client hsome).1, List.cons_ne_nil _ _⟩
  accepting hsome := by
    change s.acceptingDeviceMessages = true at hsome
    rw [hclosed] at hsome
    cases hsome
  bundle b hb := by cases hb
  released other hother := by
    rcases List.mem_cons.mp hother with rfl | hother
    · exact ⟨hjoinable, h.bundle other hb⟩
    · exact h.released other hother
  live := iff_of_false id (by simp [ServiceEnvironment.release])
  orderly := ⟨h.live.mpr (by rw [hb]; rfl), h.orderly⟩
  started hbegun := List.mem_cons_of_mem _ (h.started hbegun)

end ServiceEnvironment

end CnsServer
