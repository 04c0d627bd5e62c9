/-
A register whose values have stamps: a value is kept until one with a greater stamp comes.

* `receive`: what is kept when a value comes;
* `foldl_receive`: **of values in the order of their stamps**, the first of those with the
  last stamp is kept.
-/
import Mathlib.Data.List.Induction
import Mathlib.Order.Lattice

namespace StampedRegister

variable {α σ : Type} [LinearOrder σ] (stamp : α → σ)

/-- A value takes the place of the one that is kept, if its stamp is greater. -/
def receive (kept : Option α) (value : α) : Option α :=
  match kept with
  | none => some value
  | some old => if stamp old < stamp value then some value else some old

/-- The first of the values with the stamp of the last. -/
def firstOfLast (values : List α) (last : α) : Option α :=
  (values ++ [last]).find? fun value => stamp value = stamp last

variable {stamp}

lemma firstOfLast_spec {values : List α} {last first : α}
    (h : firstOfLast stamp values last = some first) :
    first ∈ values ++ [last] ∧ stamp first = stamp last :=
  ⟨List.mem_of_find?_eq_some h, by simpa using List.find?_some h⟩

lemma firstOfLast_exists (values : List α) (last : α) :
    ∃ first, firstOfLast stamp values last = some first := by
  rw [← Option.isSome_iff_exists, firstOfLast, List.find?_isSome]
  exact ⟨last, List.mem_append_right _ List.mem_cons_self, decide_eq_true rfl⟩

/-- **Of values in the order of their stamps**, the first of those with the last stamp is
kept. -/
lemma foldl_receive {values : List α} {last : α}
    (h : (values ++ [last]).Pairwise fun value other => stamp value ≤ stamp other) :
    (values ++ [last]).foldl (receive stamp) none = firstOfLast stamp values last := by
  induction values using List.reverseRecOn generalizing last with
  | nil => simp [receive, firstOfLast]
  | append_singleton values previous ih =>
      obtain ⟨hvalues, -, hlast⟩ := List.pairwise_append.mp h
      have hle : ∀ value ∈ values ++ [previous], stamp value ≤ stamp previous := by
        intro value hvalue
        rcases List.mem_append.mp hvalue with hmem | hmem
        · exact (List.pairwise_append.mp hvalues).2.2 value hmem previous List.mem_cons_self
        · rw [List.mem_singleton.mp hmem]
      have hnext : stamp previous ≤ stamp last :=
        hlast previous (List.mem_append_right _ List.mem_cons_self) last List.mem_cons_self
      obtain ⟨first, hfirst⟩ := @firstOfLast_exists α σ _ stamp values previous
      rw [List.foldl_append, ih hvalues, hfirst, List.foldl_cons, List.foldl_nil, receive,
        (firstOfLast_spec hfirst).2]
      rcases hnext.lt_or_eq with hless | hsame
      · -- none of the others has the last stamp
        rw [if_pos hless, firstOfLast, List.find?_append, List.find?_eq_none.mpr]
        · simp
        · intro value hvalue
          simpa using ((hle value hvalue).trans_lt hless).ne
      · rw [if_neg (by rw [hsame]; exact lt_irrefl _), firstOfLast, List.find?_append,
          ← hsame, ← firstOfLast, hfirst]
        rfl

end StampedRegister
