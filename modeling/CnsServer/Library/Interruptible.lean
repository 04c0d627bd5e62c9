/-
Computations over a state that may be interrupted, and keep their state then.

* `Ends`: a triple with two ends, a result or an exception that a handler may catch;
* `Ends.mono`, `Ends.mono_raised`, `Ends.bind`, `Ends.pure`, `Ends.modify`: the rules;
* `Ends.of_fact`, `Ends.of_exists`: preconditions that are not about the state alone;
* `Ends.never`: what is never interrupted;
* `result_of_triple`: what a triple says of one run.
-/
import Mathlib

open Std.Do

set_option mvcgen.warning false

namespace Interruptible

variable {σ ε τ α β : Type} {raised : τ → ε}

/-- From a state with `P`, the computation returns and leaves `Q`, or raises one of the
exceptions that can be caught, and leaves `E`. -/
abbrev Ends (raised : τ → ε) (P : σ → Prop) (x : EStateM ε σ α) (Q : α → σ → Prop)
    (E : σ → Prop) : Prop :=
  ⦃fun s => ⌜P s⌝⦄ x
  ⦃post⟨fun a s => ⌜Q a s⌝, fun failure s => ⌜(∃ what, failure = raised what) ∧ E s⌝⟩⦄

variable {P P' Q E E' : σ → Prop} {R R' : α → σ → Prop} {x : EStateM ε σ α}

lemma Ends.mono (h : Ends raised P x R E) (hP : ∀ s, P' s → P s) (hR : ∀ a s, R a s → R' a s)
    (hE : ∀ s, E s → E' s) : Ends raised P' x R' E' := by
  mvcgen [h]
  · next s hs => exact hP s hs
  · next a s => exact hR a s
  · next s => exact fun hraised h => ⟨hraised, hE s h⟩

lemma Ends.mono_raised (h : Ends raised P x R E) (hE : ∀ s, E s → E' s) :
    Ends raised P x R E' :=
  h.mono (fun _ => id) (fun _ _ => id) hE

lemma Ends.bind {f : α → EStateM ε σ β} {S : β → σ → Prop} (hx : Ends raised P x R E)
    (hf : ∀ a, Ends raised (R a) (f a) S E) : Ends raised P (x >>= f) S E :=
  Triple.bind x f hx hf

lemma Ends.pure {a : α} (h : ∀ s, P s → R a s) :
    Ends raised P (pure a : EStateM ε σ α) R E := by
  mvcgen
  exact h _ ‹_›

lemma Ends.modify {f : σ → σ} (h : ∀ s, P s → Q (f s)) :
    Ends raised P (modify f : EStateM ε σ PUnit) (fun _ => Q) E := by
  mvcgen
  next hs _ => exact h _ hs

/-- A fact that is not about the state. -/
lemma Ends.of_fact {p : Prop} (h : p → Ends raised P x R E) :
    Ends raised (fun s => P s ∧ p) x R E := fun s hs => h hs.2 s hs.1

lemma Ends.of_exists {P : β → σ → Prop} (h : ∀ b, Ends raised (P b) x R E) :
    Ends raised (fun s => ∃ b, P b s) x R E := fun s hs => by
  obtain ⟨b, hb⟩ := hs
  exact h b s hb

/-- What is never interrupted leaves nothing behind. -/
lemma Ends.never (h : Ends raised P x R fun _ => False) : Ends raised P x R E :=
  h.mono_raised fun _ => False.elim

/-- What a triple says of the result of one run. -/
lemma result_of_triple {F : ε → σ → Prop}
    (h : ⦃fun s => ⌜P s⌝⦄ x ⦃post⟨fun a s => ⌜R a s⌝, fun failure s => ⌜F failure s⌝⟩⦄)
    (s : σ) (hs : P s) :
    match x s with
    | .ok a s' => R a s'
    | .error failure s' => F failure s' := by
  have hwp := h s hs
  simp only [WP.wp, PredTrans.apply] at hwp
  rw [EStateM.run] at hwp
  cases hresult : x s with
  | ok a s' =>
      rw [hresult] at hwp
      exact hwp
  | error failure s' =>
      rw [hresult] at hwp
      exact hwp

end Interruptible
