/-
The queue between threads (`bounded_queue.hpp`), with its condition variable.

A consumer in `WaitPop` tests the condition with the lock held; where it does not hold, the
consumer sleeps and lets go of the lock in one step.  A producer calls `notify_one` after it
has let go of the lock, so other threads may come in between.

* `tryPush`, `close`: what they do with the lock held;
* `notifyOne`, `notifyAll`: the notifications that follow;
* `waitPop`, `check`, `wake`: a consumer comes, tests the condition, and is woken up;
* `boundedQueue`: the interleavings of any number of producers and consumers.
-/
import CnsServer.Library.Machine
import Mathlib.Data.Nat.Notation

namespace CnsServer

/-- `BoundedQueue`, the threads in its operations, and what they were given. -/
structure BoundedQueue (α κ : Type) where
  capacity : ℕ
  queue : List α
  closed : Bool
  /-- The consumers that are going to test the condition. -/
  checking : List κ
  /-- The consumers that sleep. -/
  waiting : List κ
  /-- The calls of `TryPush` before their `notify_one`. -/
  notifying : ℕ
  /-- The calls of `Close` before their `notify_all`. -/
  closing : ℕ
  /-- The values that `TryPush` took, in order. -/
  pushed : List α
  /-- What `WaitPop` returned, in order. -/
  returned : List (κ × Option α)

namespace BoundedQueue

variable {α κ : Type}

/-- The constructor; it throws for no capacity. -/
def create (capacity : ℕ) : Option (BoundedQueue α κ) :=
  if capacity = 0 then none
  else
    some {
      capacity, queue := [], closed := false, checking := [], waiting := [], notifying := 0,
      closing := 0, pushed := [], returned := [] }

/-- `TryPush`, with the lock. -/
def tryPush (s : BoundedQueue α κ) (value : α) : BoundedQueue α κ × Bool :=
  if s.closed = true ∨ s.capacity ≤ s.queue.length then (s, false)
  else
    ({ s with
      queue := s.queue ++ [value], notifying := s.notifying + 1, pushed := s.pushed ++ [value] },
      true)

/-- `Close`, with the lock. -/
def close (s : BoundedQueue α κ) : BoundedQueue α κ :=
  { s with closed := true, closing := s.closing + 1 }

variable [DecidableEq κ]

/-- A sleeping consumer is woken up, and will test the condition again. -/
def wake (s : BoundedQueue α κ) (consumer : κ) : BoundedQueue α κ :=
  { s with checking := s.checking ++ [consumer], waiting := s.waiting.erase consumer }

/-- `notify_one` of a `TryPush`: one of the sleeping consumers, if there is any. -/
def notifyOne (s : BoundedQueue α κ) (consumer : Option κ) : BoundedQueue α κ :=
  let notified := { s with notifying := s.notifying - 1 }
  match consumer with
  | some consumer => notified.wake consumer
  | none => notified

/-- `notify_all` of a `Close`. -/
def notifyAll (s : BoundedQueue α κ) : BoundedQueue α κ :=
  { s with closing := s.closing - 1, checking := s.checking ++ s.waiting, waiting := [] }

/-- A consumer calls `WaitPop`. -/
def waitPop (s : BoundedQueue α κ) (consumer : κ) : BoundedQueue α κ :=
  { s with checking := s.checking ++ [consumer] }

/-- The consumer tests the condition: it returns, or sleeps. -/
def check (s : BoundedQueue α κ) (consumer : κ) : BoundedQueue α κ :=
  let tested := { s with checking := s.checking.erase consumer }
  match s.queue with
  | value :: rest =>
      { tested with queue := rest, returned := s.returned ++ [(consumer, some value)] }
  | [] =>
      if s.closed = true then { tested with returned := s.returned ++ [(consumer, none)] }
      else { tested with waiting := s.waiting ++ [consumer] }

/-- What may happen; `wake` is a wakeup that nobody asked for. -/
inductive Input (α κ : Type) where
  | tryPush (value : α)
  | notifyOne (consumer : Option κ)
  | close
  | notifyAll
  | waitPop (consumer : κ)
  | check (consumer : κ)
  | wake (consumer : κ)

/-- The consumer is in `WaitPop`. -/
def Inside (s : BoundedQueue α κ) (consumer : κ) : Prop :=
  consumer ∈ s.checking ∨ consumer ∈ s.waiting

instance (s : BoundedQueue α κ) (consumer : κ) : Decidable (s.Inside consumer) :=
  inferInstanceAs (Decidable (_ ∨ _))

def Enabled (s : BoundedQueue α κ) : Input α κ → Prop
  | .tryPush _ | .close => True
  | .notifyOne (some consumer) => 0 < s.notifying ∧ consumer ∈ s.waiting
  | .notifyOne none => 0 < s.notifying ∧ s.waiting = []
  | .notifyAll => 0 < s.closing
  | .waitPop consumer => ¬s.Inside consumer
  | .check consumer => consumer ∈ s.checking
  | .wake consumer => consumer ∈ s.waiting

instance (s : BoundedQueue α κ) : ∀ input, Decidable (s.Enabled input)
  | .tryPush _ | .close => .isTrue trivial
  | .notifyOne (some _) => inferInstanceAs (Decidable (_ ∧ _))
  | .notifyOne none => inferInstanceAs (Decidable (_ ∧ s.waiting = []))
  | .notifyAll => inferInstanceAs (Decidable (0 < s.closing))
  | .waitPop consumer => inferInstanceAs (Decidable (¬s.Inside consumer))
  | .check consumer => inferInstanceAs (Decidable (consumer ∈ s.checking))
  | .wake consumer => inferInstanceAs (Decidable (consumer ∈ s.waiting))

def next (s : BoundedQueue α κ) : Input α κ → BoundedQueue α κ
  | .tryPush value => (s.tryPush value).1
  | .notifyOne consumer => s.notifyOne consumer
  | .close => s.close
  | .notifyAll => s.notifyAll
  | .waitPop consumer => s.waitPop consumer
  | .check consumer => s.check consumer
  | .wake consumer => s.wake consumer

/-- The values that were returned, in order. -/
def delivered (s : BoundedQueue α κ) : List α := s.returned.filterMap Prod.snd

end BoundedQueue

/-- A queue and its threads. -/
def boundedQueue (α κ : Type) [DecidableEq κ] :
    Machine (BoundedQueue α κ) (BoundedQueue.Input α κ) where
  init s := ∃ capacity, BoundedQueue.create capacity = some s
  enabled := BoundedQueue.Enabled
  next := BoundedQueue.next

instance {α κ : Type} [DecidableEq κ] (s : BoundedQueue α κ) (input : BoundedQueue.Input α κ) :
    Decidable ((boundedQueue α κ).enabled s input) :=
  inferInstanceAs (Decidable (s.Enabled input))

end CnsServer
