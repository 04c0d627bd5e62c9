/-
State machines driven by inputs: a deterministic step, a predicate saying when
an input may arrive, and the induction rules for whole runs.

* `Machine.Reachable`, `Machine.Run`: the states and the runs of a machine;
* `Machine.Reachable.invariant`: what holds at the start and is kept by every
  step holds in every reachable state;
* `Machine.restrict`: the machine whose steps meet a further condition, for
  statements about the runs all of whose steps meet it;
* `Machine.Run.invariant`: what every step keeps, a run keeps;
* `Machine.follow`: a run that can be computed, from a list of cues that pick the
  next input each;
* `Machine.Run.rel`: a reflexive and transitive relation kept by every step
  relates the two ends of every run.
-/
import Mathlib.Logic.Relation

/-- A state machine: `init` says where a run may start, `enabled` when an input
may arrive, and `next` what it does. -/
structure Machine (σ ι : Type*) where
  init : σ → Prop
  enabled : σ → ι → Prop
  next : σ → ι → σ

namespace Machine

variable {σ ι : Type*} {m : Machine σ ι}

/-- The states a run can reach. -/
inductive Reachable (m : Machine σ ι) : σ → Prop
  | start {s : σ} : m.init s → Reachable m s
  | step {s : σ} {i : ι} : Reachable m s → m.enabled s i → Reachable m (m.next s i)

/-- `m.Run s inputs s'`: the inputs, in this order, lead from `s` to `s'`. -/
inductive Run (m : Machine σ ι) : σ → List ι → σ → Prop
  | nil (s : σ) : Run m s [] s
  | cons {s s' : σ} {i : ι} {is : List ι} :
      m.enabled s i → Run m (m.next s i) is s' → Run m s (i :: is) s'

/-- **The invariant rule**: what holds at the start and is kept by every step
from a reachable state holds in every reachable state. -/
lemma Reachable.invariant {P : σ → Prop} (hinit : ∀ s, m.init s → P s)
    (hstep : ∀ s i, m.Reachable s → P s → m.enabled s i → P (m.next s i)) {s : σ}
    (h : m.Reachable s) : P s := by
  induction h with
  | start h0 => exact hinit _ h0
  | step hr he ih => exact hstep _ _ hr ih he

lemma Reachable.run {s s' : σ} {is : List ι} (h : m.Reachable s) (hrun : m.Run s is s') :
    m.Reachable s' := by
  induction hrun with
  | nil => exact h
  | cons he _ ih => exact ih (h.step he)

/-- Where every input may arrive at any time, any list of inputs is a run. -/
lemma Reachable.foldl {s : σ} (h : m.Reachable s) (henabled : ∀ s i, m.enabled s i) (is : List ι) :
    m.Reachable (is.foldl m.next s) := by
  induction is generalizing s with
  | nil => exact h
  | cons i is ih => exact ih (h.step (henabled s i))

/-- What every step keeps holds at the end of a run, if it holds at its start. -/
lemma Run.invariant {P : σ → Prop} (hstep : ∀ s i, P s → m.enabled s i → P (m.next s i))
    {s s' : σ} {is : List ι} (hs : P s) (hrun : m.Run s is s') : P s' := by
  induction hrun with
  | nil => exact hs
  | cons he _ ih => exact ih (hstep _ _ hs he)

/-- The machine whose steps also meet the condition `ok`. -/
def restrict (m : Machine σ ι) (ok : σ → ι → Prop) : Machine σ ι where
  init := m.init
  enabled s i := m.enabled s i ∧ ok s i
  next := m.next

/-- A restricted machine reaches nothing new. -/
lemma Reachable.of_restrict {ok : σ → ι → Prop} {s : σ} (h : (m.restrict ok).Reachable s) :
    m.Reachable s := by
  induction h with
  | start h0 => exact .start h0
  | step _ he ih => exact .step ih he.1

/-- A relation that is reflexive, transitive and kept by every step from a
reachable state relates the ends of every run. -/
lemma Run.rel {R : σ → σ → Prop} (hrefl : ∀ s, R s s)
    (htrans : ∀ a b c, R a b → R b c → R a c)
    (hstep : ∀ s i, m.Reachable s → m.enabled s i → R s (m.next s i)) {s s' : σ} {is : List ι}
    (hs : m.Reachable s) (hrun : m.Run s is s') : R s s' := by
  induction hrun with
  | nil => exact hrefl _
  | cons he _ ih => exact htrans _ _ _ (hstep _ _ hs he) (ih (hs.step he))

/-! ### Runs that can be computed -/

variable {κ : Type*}

/-- The state after a list of cues, each of which picks the next input. -/
def follow (m : Machine σ ι) (pick : σ → κ → ι) (s : σ) (cues : List κ) : σ :=
  cues.foldl (fun s cue => m.next s (pick s cue)) s

/-- Each input that is picked meets a condition. -/
def Meets (m : Machine σ ι) (pick : σ → κ → ι) (ok : σ → ι → Prop) : σ → List κ → Prop
  | _, [] => True
  | s, cue :: cues => ok s (pick s cue) ∧ m.Meets pick ok (m.next s (pick s cue)) cues

instance decidableMeets (m : Machine σ ι) (pick : σ → κ → ι) (ok : σ → ι → Prop)
    [∀ s i, Decidable (ok s i)] : ∀ s cues, Decidable (m.Meets pick ok s cues)
  | _, [] => .isTrue trivial
  | s, cue :: cues =>
      haveI := m.decidableMeets pick ok (m.next s (pick s cue)) cues
      inferInstanceAs (Decidable (_ ∧ _))

/-- Cues that always pick an input that may arrive make a run. -/
lemma Reachable.follow {pick : σ → κ → ι} {ok : σ → ι → Prop} {s : σ}
    (h : (m.restrict ok).Reachable s) (henabled : ∀ s cue, m.enabled s (pick s cue))
    {cues : List κ} (hok : m.Meets pick ok s cues) :
    (m.restrict ok).Reachable (m.follow pick s cues) := by
  induction cues generalizing s with
  | nil => exact h
  | cons cue cues ih =>
      have hstep : (m.restrict ok).Reachable (m.next s (pick s cue)) :=
        .step (m := m.restrict ok) (i := pick s cue) h ⟨henabled s cue, hok.1⟩
      exact ih hstep hok.2

end Machine
