/-
The messages that the way in refuses, and the reports about them.

* `IngressEvent.refusals`, `reports`, `calls`: the log, read three ways;
* `RateLimiter.shouldEmit_cases`: the two answers of the limiter;
* `DeviceIngress.Accounts`: every refusal belongs to one report, or to the counters;
* `DeviceIngress.Spaced`: reports are a window apart;
* `refusals_reported`: **both hold** at any time.
-/
import CnsServer.Library.Fairness
import CnsServer.Runtime.Ingress
import Mathlib.Data.List.Chain

namespace CnsServer

namespace IngressEvent

/-- The sizes of the messages that were refused. -/
def refusals (log : List IngressEvent) : List ℕ :=
  log.filterMap fun
    | refused payloadBytes => some payloadBytes
    | diagnosed _ _ _ => none

/-- The diagnostics that went out. -/
def reports (log : List IngressEvent) : List String :=
  log.filterMap fun
    | diagnosed _ message true => some message
    | _ => none

/-- The times at which the sink was called. -/
def calls (log : List IngressEvent) : List TimePoint :=
  log.filterMap fun
    | refused _ => none
    | diagnosed now _ _ => some now

end IngressEvent

open IngressEvent

lemma RateLimiter.shouldEmit_cases (limiter : RateLimiter) (key : String) (now : TimePoint) :
    (limiter.shouldEmit key now = (false, limiter) ∧
      ∃ last, limiter.lastEmissions.lookup key = some last ∧ now - last < limiter.window) ∨
    (limiter.shouldEmit key now =
      (true, ⟨limiter.window, limiter.lastEmissions.insert key now⟩) ∧
      ∀ last, limiter.lastEmissions.lookup key = some last → limiter.window ≤ now - last) := by
  rw [shouldEmit]
  split
  · next last hlast =>
    split
    · next hearly => exact .inl ⟨rfl, last, hlast, hearly⟩
    · next hlate =>
      refine .inr ⟨rfl, fun other hother => ?_⟩
      rw [hlast] at hother
      cases hother
      exact Int.not_lt.mp hlate
  · next hnone =>
    refine .inr ⟨rfl, fun last hlast => ?_⟩
    rw [hnone] at hlast
    cases hlast

lemma saturatingAdd_eq (left right : ℕ) (h : left ≤ sizeMax) :
    saturatingAdd left right = min (left + right) sizeMax := by
  rw [saturatingAdd]
  split <;> omega

namespace DeviceIngress

variable {window : TimePoint} {s : DeviceIngress}

/-- What a diagnostic says about some refusals. -/
def batchText (batch : List ℕ) : String :=
  diagnosticText (min batch.length sizeMax) (min batch.sum sizeMax)

/-- **Every refusal is told once**: each report is about the refusals since the one before, and
the counters are about those since the last. -/
structure Accounts (s : DeviceIngress) (batches : List (List ℕ)) (pending : List ℕ) : Prop where
  refusals : refusals s.log = batches.flatten ++ pending
  reports : reports s.log = batches.map batchText
  count : s.rejectedCount = min pending.length sizeMax
  bytes : s.rejectedBytes = min pending.sum sizeMax
  nonempty : ∀ batch ∈ batches, batch ≠ []

/-- The limiter knows the last call of the sink, and the calls are a window apart. -/
structure Spaced (window : TimePoint) (s : DeviceIngress) : Prop where
  limiter : s.limiter.window = window
  last : s.limiter.lastEmissions.lookup "mqtt_device_queue_full" = (calls s.log).getLast?
  spaced : (calls s.log).IsChain fun earlier later => window ≤ later - earlier

lemma Accounts.counted {batches : List (List ℕ)} {pending : List ℕ} (h : s.Accounts batches pending)
    (payloadBytes : ℕ) : (s.count payloadBytes).Accounts batches (pending ++ [payloadBytes]) where
  refusals := by
    have hrefusals := h.refusals
    simp only [IngressEvent.refusals] at hrefusals ⊢
    simp [DeviceIngress.count, hrefusals]
  reports := by
    have hreports := h.reports
    simp only [IngressEvent.reports] at hreports ⊢
    simp [DeviceIngress.count, hreports]
  count := by
    have hcount := h.count
    simp only [DeviceIngress.count, List.length_append, List.length_singleton]
    rw [saturatingAdd_eq _ _ (by omega)]
    omega
  bytes := by
    have hbytes := h.bytes
    simp only [DeviceIngress.count, List.sum_append, List.sum_singleton]
    rw [saturatingAdd_eq _ _ (by omega)]
    omega
  nonempty := h.nonempty

lemma Spaced.counted (h : s.Spaced window) (payloadBytes : ℕ) :
    (s.count payloadBytes).Spaced window := by
  have hcalls : calls (s.count payloadBytes).log = calls s.log := by
    simp [calls, DeviceIngress.count]
  exact ⟨h.limiter, by rw [hcalls]; exact h.last, by rw [hcalls]; exact h.spaced⟩

/-- A diagnostic is not due, or the sink is called. -/
lemma diagnose_cases (s : DeviceIngress) (now : Option TimePoint) (returned : Bool) :
    (s.diagnose now returned = s ∧ ∀ t, now = some t → s.hasDiagnostic = true →
      ∃ last, s.limiter.lastEmissions.lookup "mqtt_device_queue_full" = some last ∧
        t - last < s.limiter.window) ∨
    ∃ t, now = some t ∧ (∀ last, s.limiter.lastEmissions.lookup "mqtt_device_queue_full" =
        some last → s.limiter.window ≤ t - last) ∧
      s.diagnose now returned = { s with
        limiter := ⟨s.limiter.window, s.limiter.lastEmissions.insert "mqtt_device_queue_full" t⟩
        log := s.log ++ [.diagnosed t (diagnosticText s.rejectedCount s.rejectedBytes) returned]
        rejectedCount := if returned = true then 0 else s.rejectedCount
        rejectedBytes := if returned = true then 0 else s.rejectedBytes } := by
  obtain ⟨limiter, hasDiagnostic, _, _, _, _, _⟩ := s
  cases hasDiagnostic with
  | false => exact .inl ⟨rfl, fun _ _ h => by cases h⟩
  | true =>
      cases now with
      | none => exact .inl ⟨rfl, fun _ h => by cases h⟩
      | some t =>
          rcases limiter.shouldEmit_cases "mqtt_device_queue_full" t with
            ⟨hemit, hearly⟩ | ⟨hemit, hlate⟩
          · refine .inl ⟨?_, fun u hu _ => ?_⟩
            · simp only [diagnose, hemit]
            · cases hu
              exact hearly
          · refine .inr ⟨t, rfl, hlate, ?_⟩
            simp only [diagnose, hemit]
            split <;> rfl

lemma Accounts.diagnose {batches : List (List ℕ)} {pending : List ℕ}
    (h : s.Accounts batches pending) (hpending : pending ≠ []) (now : Option TimePoint)
    (returned : Bool) :
    ∃ batches' pending', (s.diagnose now returned).Accounts batches' pending' := by
  rcases s.diagnose_cases now returned with ⟨hsame, -⟩ | ⟨t, -, -, hdiagnosed⟩
  · rw [hsame]
    exact ⟨batches, pending, h⟩
  · have hrefusals := h.refusals
    have hreports := h.reports
    simp only [IngressEvent.refusals] at hrefusals
    simp only [IngressEvent.reports] at hreports
    rw [hdiagnosed]
    cases returned with
    | false =>
        refine ⟨batches, pending, ?_, ?_, h.count, h.bytes, h.nonempty⟩
        · simp [IngressEvent.refusals, hrefusals]
        · simp [IngressEvent.reports, hreports]
    | true =>
        refine ⟨batches ++ [pending], [], ?_, ?_, rfl, rfl, ?_⟩
        · simp [IngressEvent.refusals, hrefusals]
        · simp [IngressEvent.reports, hreports, batchText, h.count, h.bytes]
        · intro batch hbatch
          rcases List.mem_append.mp hbatch with hbatch | hbatch
          · exact h.nonempty batch hbatch
          · rwa [List.mem_singleton.mp hbatch]

lemma Spaced.diagnose (h : s.Spaced window) (now : Option TimePoint) (returned : Bool) :
    (s.diagnose now returned).Spaced window := by
  rcases s.diagnose_cases now returned with ⟨hsame, -⟩ | ⟨t, -, hlate, hdiagnosed⟩
  · rw [hsame]
    exact h
  · rw [hdiagnosed]
    have hcalls (message : String) : calls (s.log ++ [.diagnosed t message returned]) =
        calls s.log ++ [t] := by
      simp [calls]
    refine ⟨h.limiter, ?_, ?_⟩
    · simp only [hcalls, AList.lookup_insert, List.getLast?_concat]
    · rw [hcalls]
      refine h.spaced.append (List.isChain_singleton t) fun last hlast next hnext => ?_
      rw [← h.last] at hlast
      rw [List.head?_cons, Option.mem_some_iff] at hnext
      have := hlate last hlast
      rw [h.limiter] at this
      rwa [← hnext]

/-- What holds between the steps. -/
structure Sound (window : TimePoint) (s : DeviceIngress) : Prop where
  accounts : ∃ batches pending, s.Accounts batches pending
  spaced : s.Spaced window

/-- A step that leaves the counters, the limiter and the log alone. -/
lemma Sound.of_same {s' : DeviceIngress} (h : s.Sound window) (hlog : s'.log = s.log)
    (hcount : s'.rejectedCount = s.rejectedCount) (hbytes : s'.rejectedBytes = s.rejectedBytes)
    (hlimiter : s'.limiter = s.limiter) : s'.Sound window := by
  obtain ⟨⟨batches, pending, haccounts⟩, hspaced⟩ := h
  refine ⟨⟨batches, pending, ?_, ?_, ?_, ?_, haccounts.nonempty⟩, ?_, ?_, ?_⟩
  · rw [hlog]
    exact haccounts.refusals
  · rw [hlog]
    exact haccounts.reports
  · rw [hcount]
    exact haccounts.count
  · rw [hbytes]
    exact haccounts.bytes
  · rw [hlimiter]
    exact hspaced.limiter
  · rw [hlimiter, hlog]
    exact hspaced.last
  · rw [hlog]
    exact hspaced.spaced

lemma Sound.accept (h : s.Sound window) (payloadBytes : ℕ) : (s.accept payloadBytes).Sound window :=
  h.of_same rfl rfl rfl rfl

lemma Sound.refuse (h : s.Sound window) (payloadBytes : ℕ) (now : Option TimePoint)
    (returned : Bool) : (s.refuse payloadBytes now returned).Sound window := by
  rw [DeviceIngress.refuse]
  split
  · exact h.accept payloadBytes
  · obtain ⟨⟨batches, pending, haccounts⟩, hspaced⟩ := h.accept payloadBytes
    exact ⟨(haccounts.counted payloadBytes).diagnose (List.append_ne_nil_of_right_ne_nil _
      (List.cons_ne_nil _ _)) now returned, (hspaced.counted payloadBytes).diagnose now returned⟩

lemma Sound.next (h : s.Sound window) (input : Input) : (s.next input).Sound window := by
  cases input with
  | handle payloadBytes =>
      show (s.handle payloadBytes).Sound window
      rw [handle]
      split
      · exact h
      · exact h.of_same rfl rfl rfl rfl
  | accept payloadBytes => exact h.accept payloadBytes
  | refuse payloadBytes now returned => exact h.refuse payloadBytes now returned
  | disable => exact h.of_same rfl rfl rfl rfl

lemma sound_of_reachable {hasDiagnostic : Bool}
    (h : (deviceIngress window hasDiagnostic).Reachable s) : s.Sound window := by
  refine h.invariant ?_ fun s input _ hsound _ => hsound.next input
  rintro s rfl
  exact ⟨⟨[], [], rfl, rfl, rfl, rfl, by simp⟩, rfl, rfl, .nil⟩

/-- After `Disable` nothing is written any more. -/
lemma log_of_disabled {hasDiagnostic : Bool} {s' : DeviceIngress} {inputs : List Input}
    (hrun : (deviceIngress window hasDiagnostic).Run s inputs s') (hdisabled : s.enabled = false) :
    s'.log = s.log := by
  have hkept := hrun.invariant (P := fun s' => s'.enabled = false ∧ s'.log = s.log)
    (fun s' input h _ => ?_) ⟨hdisabled, rfl⟩
  · exact hkept.2
  · obtain ⟨hstill, hlog⟩ := h
    cases input with
    | handle payloadBytes =>
        show (s'.handle payloadBytes).enabled = false ∧ (s'.handle payloadBytes).log = s.log
        rw [handle, if_pos hstill]
        exact ⟨hstill, hlog⟩
    | accept payloadBytes => exact ⟨hstill, hlog⟩
    | refuse payloadBytes now returned =>
        show (s'.refuse payloadBytes now returned).enabled = false ∧
          (s'.refuse payloadBytes now returned).log = s.log
        rw [refuse, if_pos hstill]
        exact ⟨hstill, hlog⟩
    | disable => exact ⟨rfl, hlog⟩

end DeviceIngress

/-- **Nothing that is refused is lost without a trace**, in every interleaving of the calls:
the messages that were refused fall into batches, each told by one report, and those that are
still counted; the sink is called a window apart at least, even if the clock goes back, and as
soon as the window is over.  After `Disable` nothing is written. -/
theorem refusals_reported (window : TimePoint) (hasDiagnostic : Bool) (s : DeviceIngress)
    (h : (deviceIngress window hasDiagnostic).Reachable s) :
    (∃ batches pending, s.Accounts batches pending) ∧
    ((calls s.log).IsChain fun earlier later => window ≤ later - earlier) ∧
    (∀ payloadBytes now, s.enabled = true → s.hasDiagnostic = true →
      (∃ last, (calls s.log).getLast? = some last ∧ now - last < window) ∨
      (s.refuse payloadBytes (some now) true).rejectedCount = 0) ∧
    ∀ inputs s', s.enabled = false → (deviceIngress window hasDiagnostic).Run s inputs s' →
      s'.log = s.log := by
  obtain ⟨haccounts, hspaced⟩ := DeviceIngress.sound_of_reachable h
  refine ⟨haccounts, hspaced.spaced, fun payloadBytes now henabled hdiagnostic => ?_,
    fun inputs s' hdisabled hrun => DeviceIngress.log_of_disabled hrun hdisabled⟩
  rw [DeviceIngress.refuse, if_neg (by simp [henabled])]
  rcases ((s.accept payloadBytes).count payloadBytes).diagnose_cases (some now) true with
    ⟨-, hearly⟩ | ⟨t, -, -, hdiagnosed⟩
  · left
    obtain ⟨last, hlast, hless⟩ := hearly now rfl hdiagnostic
    exact ⟨last, hspaced.last ▸ hlast, hspaced.limiter ▸ hless⟩
  · right
    rw [hdiagnosed]
    rfl

namespace Sample

/-- Three messages are refused; the second one soon after the first is reported. -/
def ingressInputs : List DeviceIngress.Input :=
  [.handle 10, .handle 20, .refuse 10 (some 5000000000) true, .refuse 20 (some 6000000000) true,
    .handle 30, .refuse 30 (some 36000000000) true]

/-- The ingress as it is constructed. -/
def ingress : DeviceIngress := { limiter := ⟨30000000000, ∅⟩, hasDiagnostic := true }

end Sample

theorem refusals_reported_sample : ∃ batches pending,
    ((deviceIngress 30000000000 true).after Sample.ingress Sample.ingressInputs).Accounts
      batches pending :=
  (refusals_reported 30000000000 true _ (Machine.Reachable.after (.start rfl)
    (by decide +kernel : (deviceIngress 30000000000 true).Accepts Sample.ingress
      Sample.ingressInputs))).1

end CnsServer
