/-
Endless runs of a state machine, and what happens in them for sure.

* `Machine.Execution`: at each time an input arrives, or none;
* `Machine.Execution.Fair`: **weak fairness** of some of the inputs: one of them arrives, if
  from some time on there is always one that may;
* `Machine.Execution.rel`: what every step keeps, from any time to any later one;
* `Machine.Execution.leadsTo`: **the rank rule**: each step lowers a rank or keeps it, and
  leaves it to the same inputs to lower it;
* `Machine.pad`: a run that stops, as an endless one.
-/
import CnsServer.Library.Machine
import Mathlib.Order.Lattice
import Mathlib.Tactic.Push

namespace Machine

variable {σ ι κ : Type*} {m : Machine σ ι}

/-- What happens at one time. -/
def Moves (m : Machine σ ι) (s : σ) (input : Option ι) (s' : σ) : Prop :=
  match input with
  | none => s' = s
  | some i => m.enabled s i ∧ s' = m.next s i

structure Execution (m : Machine σ ι) where
  state : ℕ → σ
  input : ℕ → Option ι
  start : m.init (state 0)
  step : ∀ n, m.Moves (state n) (input n) (state (n + 1))

namespace Execution

variable {e : m.Execution}

/-- Weak fairness. -/
def Fair (e : m.Execution) (A : ι → Prop) : Prop :=
  ∀ n, (∀ k, n ≤ k → ∃ i, A i ∧ m.enabled (e.state k) i) →
    ∃ k, n ≤ k ∧ ∃ i, A i ∧ e.input k = some i

lemma reachable (e : m.Execution) (n : ℕ) : m.Reachable (e.state n) := by
  induction n with
  | zero => exact .start e.start
  | succ n ih =>
      have hstep := e.step n
      cases hinput : e.input n with
      | none =>
          rw [hinput] at hstep
          rw [show e.state (n + 1) = e.state n from hstep]
          exact ih
      | some i =>
          rw [hinput] at hstep
          rw [hstep.2]
          exact ih.step hstep.1

/-- What every step keeps relates each state to the later ones. -/
lemma rel {R : σ → σ → Prop} (hrefl : ∀ s, R s s) (htrans : ∀ a b c, R a b → R b c → R a c)
    (hstep : ∀ s i, m.enabled s i → R s (m.next s i)) (e : m.Execution) {n k : ℕ} (h : n ≤ k) :
    R (e.state n) (e.state k) := by
  induction k, h using Nat.le_induction with
  | base => exact hrefl _
  | succ k _ ih =>
      refine htrans _ _ _ ih ?_
      have hmoves := e.step k
      cases hinput : e.input k with
      | none =>
          rw [hinput] at hmoves
          rw [show e.state (k + 1) = e.state k from hmoves]
          exact hrefl _
      | some i =>
          rw [hinput] at hmoves
          rw [hmoves.2]
          exact hstep _ _ hmoves.1

/-- What each step from a state with `P` does, for the rank rule: it ends with `Q`, or lowers
the rank, or leaves it to the inputs whose turn it is. -/
def Lowers (m : Machine σ ι) (A : κ → ι → Prop) (P Q : σ → Prop) (rank : σ → ℕ) (turn : σ → κ)
    (s : σ) (i : ι) : Prop :=
  Q (m.next s i) ∨ P (m.next s i) ∧ (rank (m.next s i) < rank s ∨
    rank (m.next s i) = rank s ∧ turn (m.next s i) = turn s ∧ ¬A (turn s) i)

/-- **The rank rule**. -/
theorem leadsTo {A : κ → ι → Prop} {P Q : σ → Prop} {rank : σ → ℕ} {turn : σ → κ}
    (hfair : ∀ k, e.Fair (A k))
    (hlowers : ∀ s i, m.Reachable s → P s → m.enabled s i → Lowers m A P Q rank turn s i)
    (henabled : ∀ s, m.Reachable s → P s → ∃ i, A (turn s) i ∧ m.enabled s i) {n : ℕ}
    (hn : P (e.state n)) : ∃ k, n ≤ k ∧ Q (e.state k) := by
  induction hrank : rank (e.state n) using Nat.strongRecOn generalizing n with
  | ind r ih =>
    by_contra hnever
    push Not at hnever
    have hlow : ∀ k, n ≤ k → P (e.state k) → ¬rank (e.state k) < r := by
      intro k hk hP hless
      obtain ⟨l, hl, hQ⟩ := ih _ hless hP rfl
      exact hnever l (hk.trans hl) hQ
    -- Nothing changes, as long as the rank does not.
    have hsame : ∀ d, P (e.state (n + d)) ∧ rank (e.state (n + d)) = r ∧
        turn (e.state (n + d)) = turn (e.state n) := by
      intro d
      induction d with
      | zero => exact ⟨hn, hrank, rfl⟩
      | succ d hd =>
          obtain ⟨hP, hr, hturn⟩ := hd
          have hstep := e.step (n + d)
          rw [← Nat.add_assoc]
          cases hinput : e.input (n + d) with
          | none =>
              rw [hinput] at hstep
              rw [show e.state (n + d + 1) = e.state (n + d) from hstep]
              exact ⟨hP, hr, hturn⟩
          | some i =>
              rw [hinput] at hstep
              obtain ⟨hen, hnext⟩ := hstep
              rw [hnext]
              rcases hlowers _ i (e.reachable _) hP hen with hQ | ⟨hP', hless | ⟨heq, hturn', -⟩⟩
              · rw [← hnext] at hQ
                exact (hnever _ (by omega) hQ).elim
              · rw [← hnext] at hP' hless
                exact (hlow _ (by omega) hP' (hr ▸ hless)).elim
              · exact ⟨hP', heq.trans hr, hturn'.trans hturn⟩
    obtain ⟨k, hk, i, hA, hinput⟩ := hfair (turn (e.state n)) n fun k hk => by
      obtain ⟨d, rfl⟩ := Nat.exists_eq_add_of_le hk
      obtain ⟨hP, -, hturn⟩ := hsame d
      rw [← hturn]
      exact henabled _ (e.reachable _) hP
    obtain ⟨d, rfl⟩ := Nat.exists_eq_add_of_le hk
    obtain ⟨hP, hr, hturn⟩ := hsame d
    have hstep := e.step (n + d)
    rw [hinput] at hstep
    obtain ⟨hen, hnext⟩ := hstep
    rcases hlowers _ i (e.reachable _) hP hen with hQ | ⟨hP', hless | ⟨-, -, hnot⟩⟩
    · rw [← hnext] at hQ
      exact hnever _ (by omega) hQ
    · rw [← hnext] at hP' hless
      exact hlow _ (by omega) hP' (hr ▸ hless)
    · rw [hturn] at hnot
      exact hnot hA

end Execution

/-! ### Runs that stop -/

/-- The state after some inputs, which may all arrive. -/
def after (m : Machine σ ι) (s : σ) (inputs : List ι) : σ := inputs.foldl m.next s

/-- Each of the inputs may arrive. -/
def Accepts (m : Machine σ ι) : σ → List ι → Prop
  | _, [] => True
  | s, i :: is => m.enabled s i ∧ m.Accepts (m.next s i) is

instance decidableAccepts (m : Machine σ ι) [∀ s i, Decidable (m.enabled s i)] :
    ∀ s is, Decidable (m.Accepts s is)
  | _, [] => .isTrue trivial
  | s, i :: is =>
      haveI := m.decidableAccepts (m.next s i) is
      inferInstanceAs (Decidable (_ ∧ _))

lemma Reachable.after {s : σ} (h : m.Reachable s) {inputs : List ι}
    (haccepts : m.Accepts s inputs) :
    m.Reachable (m.after s inputs) := by
  induction inputs generalizing s with
  | nil => exact h
  | cons i is ih => exact ih (h.step haccepts.1) haccepts.2

lemma Accepts.enabled {s : σ} {inputs : List ι} (h : m.Accepts s inputs) {n : ℕ} {i : ι}
    (hi : inputs[n]? = some i) : m.enabled (m.after s (inputs.take n)) i := by
  induction inputs generalizing s n with
  | nil => cases hi
  | cons j is ih =>
      cases n with
      | zero =>
          cases hi
          exact h.1
      | succ n => exact ih h.2 hi

/-- The inputs arrive one after the other, and then nothing happens any more. -/
def pad (m : Machine σ ι) (s : σ) (hs : m.init s) (inputs : List ι) (h : m.Accepts s inputs) :
    m.Execution where
  state n := m.after s (inputs.take n)
  input n := inputs[n]?
  start := by rwa [List.take_zero]
  step n := by
    cases hi : inputs[n]? with
    | none =>
        have hlength := List.getElem?_eq_none_iff.mp hi
        rw [List.take_of_length_le hlength, List.take_of_length_le (hlength.trans n.le_succ)]
        rfl
    | some i =>
        refine ⟨h.enabled hi, ?_⟩
        rw [List.take_add_one, hi, after, after, Option.toList_some, List.foldl_append]
        rfl

/-- It is fair to the inputs that may not arrive in the end. -/
lemma pad_fair {s : σ} {hs : m.init s} {inputs : List ι} {h : m.Accepts s inputs} {A : ι → Prop}
    (hend : ∀ i, A i → ¬m.enabled (m.after s inputs) i) : (m.pad s hs inputs h).Fair A := by
  intro n hn
  obtain ⟨i, hA, hi⟩ := hn (max n inputs.length) (le_max_left _ _)
  have hstate : (m.pad s hs inputs h).state (max n inputs.length) = m.after s inputs :=
    congrArg (m.after s) (List.take_of_length_le (le_max_right _ _))
  rw [hstate] at hi
  exact (hend i hA hi).elim

end Machine
