/-
One connection of the realtime subscriptions, with the broker at its other end
(`routeServiceGateway.ts`).

* `realtimeTopic`: the topic of a device; no two devices share one;
* `RealtimeSession`: the controller; the operations that it has issued and the broker has
  not executed; and the topics that are subscribed;
* `RealtimeSession.issue`: what a step of the controller issues: the operation that it
  comes to await;
* `realtimeSession`: the machine: the broker executes the operations in the order of
  their issue, each at any time, also after the controller has given it up; an operation
  succeeds only after the broker has executed it.

The connection is clean, so that nothing is subscribed when it comes up.  Two members
are a trace: whether the last reconciliation has reported an error, and the devices whose
last operation was rejected.
-/
import CnsServer.Backend.RealtimeTopicSubscriptions

namespace CnsServer

open RealtimeTopicSubscriptions

/-- `realtimeTopic` of `buildTopics`. -/
def realtimeTopic (topicNamespace deviceId : String) : String :=
  topicNamespace ++ "/" ++ deviceId ++ "/telemetry/realtime/v1"

/-- Two devices have two topics. -/
lemma realtimeTopic_injective (topicNamespace : String) :
    ∀ ⦃a b : String⦄, realtimeTopic topicNamespace a = realtimeTopic topicNamespace b → a = b := by
  intro a b h
  have hchars := congrArg String.toList h
  simp only [realtimeTopic, String.toList_append, List.append_assoc] at hchars
  have hrest := List.append_cancel_left (List.append_cancel_left hchars)
  exact String.toList_inj.mp (List.append_cancel_right hrest)

/-- The operation that the loop awaits, and its device. -/
def Reconciliation.operation : Reconciliation → Option (RealtimeSubscriptionOperation × String)
  | .awaiting operation deviceId _ _ => some (operation, deviceId)
  | _ => none

/-- The controller and the broker. -/
structure RealtimeSession where
  controller : RealtimeTopicSubscriptions
  issued : List (RealtimeSubscriptionOperation × String)
  subscribed : List String
  failed : Bool
  rejected : List String
  deriving DecidableEq, Repr

/-- What can happen next: a step of the controller, or of the broker. -/
inductive SessionInput where
  | client (input : SubscriptionInput)
  | execute
  deriving DecidableEq, Repr

namespace RealtimeSession

/-- A session that has just begun. -/
def fresh : RealtimeSession where
  controller := .fresh
  issued := []
  subscribed := []
  failed := false
  rejected := []

/-- The broker executes an operation on a topic. -/
def executed (subscribed : List String) :
    RealtimeSubscriptionOperation × String → List String
  | (.subscribe, topic) => addTo subscribed topic
  | (.unsubscribe, topic) => subscribed.filter (· ≠ topic)

/-- What a step of the controller issues: one that ends an operation may come to await
another; any other one issues what it awaits, unless it was awaiting it before. -/
def issue (topicFor : String → String) (before after : RealtimeTopicSubscriptions) :
    SubscriptionInput → List (RealtimeSubscriptionOperation × String)
  | .complete _ => (after.reconciliation.operation.map (Prod.map id topicFor)).toList
  | _ =>
      if before.reconciliation.operation.isSome then []
      else (after.reconciliation.operation.map (Prod.map id topicFor)).toList

/-- Whether the last reconciliation has reported an error: it may just have done so, and a
call that finds none begins a new one. -/
def reports (s : RealtimeSession) (after : RealtimeTopicSubscriptions) : Bool :=
  if after.reconciliation = .returned false then true
  else if s.controller.reconciliation = .idle then false
  else s.failed

/-- The devices whose last operation was rejected. -/
def rejects (s : RealtimeSession) : SubscriptionInput → List String
  | .complete outcome =>
      match s.controller.reconciliation.operation with
      | some (_, deviceId) =>
          if outcome = .succeeded then s.rejected.filter (· ≠ deviceId)
          else addTo s.rejected deviceId
      | none => s.rejected
  | _ => s.rejected

/-- A step of the controller. -/
def client (topicFor : String → String) (s : RealtimeSession) (input : SubscriptionInput) :
    RealtimeSession :=
  let after := s.controller.next topicFor input
  { s with
    controller := after
    issued := s.issued ++ issue topicFor s.controller after input
    failed := s.reports after
    rejected := s.rejects input }

/-- The broker executes the oldest operation. -/
def execute (s : RealtimeSession) : RealtimeSession :=
  match s.issued with
  | [] => s
  | operation :: issued =>
      { s with
        issued := issued
        subscribed := executed s.subscribed operation }

/-- When an input may arrive.  The connection comes up once and stays up, and the client
hears of an operation that the broker has executed. -/
def Enabled (s : RealtimeSession) : SessionInput → Prop
  | .client (.setConnected _) => s.controller.connected = false
  | .client (.complete outcome) =>
      s.controller.Enabled (.complete outcome) ∧ (outcome = .succeeded → s.issued = [])
  | .client input => s.controller.Enabled input
  | .execute => s.issued ≠ []

/-- The session after an input. -/
def next (topicFor : String → String) (s : RealtimeSession) : SessionInput → RealtimeSession
  | .client input => s.client topicFor input
  | .execute => s.execute

end RealtimeSession

/-- A controller on one connection. -/
def realtimeSession (topicFor : String → String) : Machine RealtimeSession SessionInput where
  init s := s = .fresh
  enabled := RealtimeSession.Enabled
  next := RealtimeSession.next topicFor

end CnsServer
