/-
The reconciliation of the realtime subscriptions (`realtimeTopicSubscriptions.ts`).

* `Reconciliation`: where the loop stands between two microtasks; the promise of the
  reconciliation is there unless it is `idle`;
* `unsubscribeAll`, `subscribeAll`: `reconcileOnce` up to the next operation that it
  awaits, or to its end;
* `complete`, `resume`, `clear`: the continuations: after an operation, of the loop, and
  of the promise that is cleared in a microtask of its own;
* `realtimeSubscriptions`: the machine: the calls come at any boundary of microtasks, and
  an operation ends in any way at any time, its timeout included.

The sets are lists in the order of insertion.  The trace (`SubscriptionEvent`, latest
first) is read by nothing.
-/
import CnsServer.Library.Machine
import Mathlib.Data.Nat.Notation

namespace CnsServer

/-- `RealtimeSubscriptionOperation`. -/
inductive RealtimeSubscriptionOperation where
  | subscribe | unsubscribe
  deriving DecidableEq, Repr

/-- How an operation ends: a timeout is an error like any other. -/
inductive OperationOutcome where
  | succeeded | failed | timedOut
  deriving DecidableEq, Repr

/-- Where the loop stands: at rest; awaiting an operation, started on a connection, with
the rest of the loop over the devices; with the result of `reconcileOnce`; or over, with
its promise not cleared yet. -/
inductive Reconciliation where
  | idle
  | awaiting (operation : RealtimeSubscriptionOperation) (deviceId : String) (generation : ℕ)
      (rest : List String)
  | returned (result : Bool)
  | over
  deriving DecidableEq, Repr

/-- A call of `setDesired` or `setConnected`, or an error that is reported. -/
inductive SubscriptionEvent where
  | called
  | error (generation : ℕ) (operation : RealtimeSubscriptionOperation) (topic : String)
  deriving DecidableEq, Repr

/-- `RealtimeTopicSubscriptions`. -/
structure RealtimeTopicSubscriptions where
  desired : List String
  applied : List String
  connected : Bool
  connectionGeneration : ℕ
  reconciliation : Reconciliation
  rerun : Bool
  events : List SubscriptionEvent
  deriving DecidableEq, Repr

namespace RealtimeTopicSubscriptions

/-- A controller that has just been constructed. -/
def fresh : RealtimeTopicSubscriptions where
  desired := []
  applied := []
  connected := false
  connectionGeneration := 0
  reconciliation := .idle
  rerun := false
  events := []

/-- `Set.add`. -/
def addTo (set : List String) (deviceId : String) : List String :=
  if deviceId ∈ set then set else set ++ [deviceId]

/-- `needsReconcile`. -/
def needsReconcile (s : RealtimeTopicSubscriptions) : Bool :=
  s.connected &&
    (s.desired.length ≠ s.applied.length || s.desired.any fun deviceId => deviceId ∉ s.applied)

/-- The second loop of `reconcileOnce`, over the devices that are left. -/
def subscribeAll (s : RealtimeTopicSubscriptions) : List String → Reconciliation
  | [] => .returned true
  | deviceId :: rest =>
      if deviceId ∈ s.applied then s.subscribeAll rest
      else .awaiting .subscribe deviceId s.connectionGeneration rest

/-- The first loop of `reconcileOnce`, and the second one after it. -/
def unsubscribeAll (s : RealtimeTopicSubscriptions) : List String → Reconciliation
  | [] => s.subscribeAll s.desired
  | deviceId :: rest =>
      if deviceId ∈ s.desired then s.unsubscribeAll rest
      else .awaiting .unsubscribe deviceId s.connectionGeneration rest

/-- `reconcileOnce`, up to its first operation. -/
def reconcileOnce (s : RealtimeTopicSubscriptions) : Reconciliation :=
  if !s.connected then .returned true else s.unsubscribeAll s.applied

/-- One round of `reconcileLoop`. -/
def startRound (s : RealtimeTopicSubscriptions) : RealtimeTopicSubscriptions :=
  { s with rerun := false, reconciliation := { s with rerun := false }.reconcileOnce }

/-- `schedule`. -/
def schedule (s : RealtimeTopicSubscriptions) : RealtimeTopicSubscriptions :=
  if s.reconciliation = .idle then s.startRound else { s with rerun := true }

/-- What `setConnected` does to the members, before it schedules. -/
def setConnection (s : RealtimeTopicSubscriptions) (connected : Bool) :
    RealtimeTopicSubscriptions :=
  { s with
    connectionGeneration := s.connectionGeneration + 1
    connected := connected
    applied := []
    events := .called :: s.events }

/-- `setConnected`. -/
def setConnected (s : RealtimeTopicSubscriptions) (connected : Bool) :
    RealtimeTopicSubscriptions :=
  (s.setConnection connected).schedule

/-- What `setDesired` does to the members, before it schedules. -/
def setInterest (s : RealtimeTopicSubscriptions) (deviceId : String) (interested : Bool) :
    RealtimeTopicSubscriptions :=
  { s with
    desired := if interested then addTo s.desired deviceId else s.desired.erase deviceId
    events := .called :: s.events }

/-- `setDesired`. -/
def setDesired (s : RealtimeTopicSubscriptions) (deviceId : String) (interested : Bool) :
    RealtimeTopicSubscriptions :=
  (s.setInterest deviceId interested).schedule

/-- `reconcileOnce` after an operation that succeeded on its own connection. -/
def applyOperation (s : RealtimeTopicSubscriptions) (operation : RealtimeSubscriptionOperation)
    (deviceId : String) (rest : List String) : RealtimeTopicSubscriptions :=
  match operation with
  | .unsubscribe =>
      let s := { s with applied := s.applied.erase deviceId }
      { s with reconciliation := if !s.connected then .returned true else s.unsubscribeAll rest }
  | .subscribe =>
      let s := { s with applied := addTo s.applied deviceId }
      { s with reconciliation := if !s.connected then .returned true else s.subscribeAll rest }

/-- `reconcileOnce` after the operation that it awaits. -/
def complete (topicFor : String → String) (s : RealtimeTopicSubscriptions)
    (outcome : OperationOutcome) : RealtimeTopicSubscriptions :=
  match s.reconciliation with
  | .awaiting operation deviceId generation rest =>
      if !s.connected || generation ≠ s.connectionGeneration then
        { s with reconciliation := .returned true }
      else
        match outcome with
        | .succeeded => s.applyOperation operation deviceId rest
        | .failed | .timedOut =>
            { s with
              reconciliation := .returned false
              events := .error s.connectionGeneration operation (topicFor deviceId) :: s.events }
  | _ => s

/-- `reconcileLoop` after a round. -/
def resume (s : RealtimeTopicSubscriptions) : RealtimeTopicSubscriptions :=
  match s.reconciliation with
  | .returned false => { s with reconciliation := .over }
  | .returned true =>
      if s.rerun || s.needsReconcile then s.startRound else { s with reconciliation := .over }
  | _ => s

/-- The end of `schedule`'s promise. -/
def clear (s : RealtimeTopicSubscriptions) : RealtimeTopicSubscriptions :=
  { s with reconciliation := .idle }

end RealtimeTopicSubscriptions

/-- What can happen next: a call, or a continuation. -/
inductive SubscriptionInput where
  | setConnected (connected : Bool)
  | setDesired (deviceId : String) (interested : Bool)
  | settle
  | complete (outcome : OperationOutcome)
  | resume
  | clear
  deriving DecidableEq, Repr

namespace RealtimeTopicSubscriptions

/-- When an input may arrive: a call at any time, a continuation when it is due. -/
def Enabled (s : RealtimeTopicSubscriptions) : SubscriptionInput → Prop
  | .complete _ => ∃ operation deviceId generation rest,
      s.reconciliation = .awaiting operation deviceId generation rest
  | .resume => ∃ result, s.reconciliation = .returned result
  | .clear => s.reconciliation = .over
  | _ => True

/-- The state after an input. -/
def next (topicFor : String → String) (s : RealtimeTopicSubscriptions) :
    SubscriptionInput → RealtimeTopicSubscriptions
  | .setConnected connected => s.setConnected connected
  | .setDesired deviceId interested => s.setDesired deviceId interested
  | .settle => s.schedule
  | .complete outcome => s.complete topicFor outcome
  | .resume => s.resume
  | .clear => s.clear

end RealtimeTopicSubscriptions

/-- A controller in use; each device has its topic. -/
def realtimeSubscriptions (topicFor : String → String) :
    Machine RealtimeTopicSubscriptions SubscriptionInput where
  init s := s = .fresh
  enabled := RealtimeTopicSubscriptions.Enabled
  next := RealtimeTopicSubscriptions.next topicFor

end CnsServer
