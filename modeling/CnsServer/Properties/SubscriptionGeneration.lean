/-
What the generation of the subscriptions tells.

* `Subscribed`: the last call about a filter on a connection was a subscription that
  succeeded;
* `DevicesMarked`, `CommandsMarked`: the marks that are of the current connection;
* `Truthful`: the invariant: what is marked is subscribed, between the two calls of a
  replay except for the filter that it is about;
* `Weaker`, `weaken`: a step without a call of the library that adds no mark keeps it;
* `subscribe_truthful`, `finishSubscribe_truthful`, `unsubscribe_truthful` and so on:
  the other steps;
* `SoundReplay`: no call of a replay fails on a filter that is marked;
* `generation_truthful`: **the generation is truthful** in every run of such steps.
-/
import CnsServer.Mqtt.MqttClient

namespace CnsServer

/-! ### Calls about a filter -/

/-- The last call about the filter on the connection. -/
def lastOperation (operations : List SubscriptionOperation) (generation : ℕ) (filter : String) :
    Option SubscriptionOperation :=
  operations.find? fun operation =>
    operation.generation = generation ∧ operation.filter = filter

/-- The last call was a subscription, and succeeded. -/
def Subscribed (operations : List SubscriptionOperation) (generation : ℕ) (filter : String) :
    Prop :=
  ∃ operation, lastOperation operations generation filter = some operation ∧
    operation.subscribe = true ∧ operation.result = 0

section

variable {operations : List SubscriptionOperation} {generation : ℕ} {filter : String}

lemma subscribed_cons_other {operation : SubscriptionOperation}
    (hother : operation.generation = generation → operation.filter ≠ filter)
    (h : Subscribed operations generation filter) :
    Subscribed (operation :: operations) generation filter := by
  obtain ⟨last, hlast, hgood⟩ := h
  refine ⟨last, ?_, hgood⟩
  rw [lastOperation, List.find?_cons_of_neg]
  · exact hlast
  · simp only [decide_eq_true_eq]
    exact fun hsame => hother hsame.1 hsame.2

lemma subscribed_cons_self (operations : List SubscriptionOperation) (generation : ℕ)
    (filter : String) :
    Subscribed (⟨generation, filter, true, 0⟩ :: operations) generation filter := by
  refine ⟨⟨generation, filter, true, 0⟩, ?_, rfl, rfl⟩
  rw [lastOperation, List.find?_cons_of_pos]
  simp

/-- A further subscription that succeeds. -/
lemma subscribed_cons (h : Subscribed operations generation filter) (generation' : ℕ)
    (filter' : String) :
    Subscribed (⟨generation', filter', true, 0⟩ :: operations) generation filter := by
  by_cases hsame : generation' = generation ∧ filter' = filter
  · obtain ⟨rfl, rfl⟩ := hsame
    exact subscribed_cons_self operations generation' filter'
  · exact subscribed_cons_other (fun hg hf => hsame ⟨hg, hf⟩) h

end

/-! ### Filters -/

def deviceFilters (topicNamespace : String) : List String :=
  (deviceSubscriptions topicNamespace).map Subscription.filter

def commandFilters (topicNamespace : String) : List String :=
  (commandSubscriptions topicNamespace).map Subscription.filter

/-- The filters of the namespaces that are set. -/
def configuredFilters (deviceNamespace commandNamespace : String) : List String :=
  (if deviceNamespace.isEmpty then [] else deviceFilters deviceNamespace) ++
    if commandNamespace.isEmpty then [] else commandFilters commandNamespace

/-- The filters of devices and of commands end in different letters. -/
lemma filters_ne {deviceNamespace commandNamespace filter filter' : String}
    (h : filter ∈ deviceFilters deviceNamespace) (h' : filter' ∈ commandFilters commandNamespace) :
    filter ≠ filter' := by
  rintro rfl
  have hdevice : filter.toList.getLast? = some 'n' ∨ filter.toList.getLast? = some '1' := by
    simp only [deviceFilters, deviceSubscriptions, registrationFilter, telemetryFilter,
      List.map_cons, List.map_nil, List.mem_cons, List.not_mem_nil, or_false] at h
    rcases h with rfl | rfl
    · left
      simp
    · right
      simp
  have hcommand : filter.toList.getLast? = some 't' ∨ filter.toList.getLast? = some 'k' := by
    simp only [commandFilters, commandSubscriptions, List.map_cons, List.map_nil, List.mem_cons,
      List.not_mem_nil, or_false] at h'
    rcases h' with rfl | rfl | rfl | rfl
    · left
      simp
    · right
      simp
    · left
      simp
    · right
      simp
  rcases hdevice with hd | hd <;> rcases hcommand with hc | hc <;> simp [hd] at hc

lemma registrationFilter_ne_telemetryFilter (topicNamespace topicNamespace' : String) :
    registrationFilter topicNamespace ≠ telemetryFilter topicNamespace' := by
  intro h
  have hlast := congrArg (fun filter => filter.toList.getLast?) h
  simp [registrationFilter, telemetryFilter] at hlast

lemma registrationFilter_injective {topicNamespace topicNamespace' : String}
    (h : registrationFilter topicNamespace = registrationFilter topicNamespace') :
    topicNamespace = topicNamespace' := by
  have hlist := congrArg String.toList h
  simp only [registrationFilter, String.toList_append, List.append_cancel_right_eq] at hlist
  exact String.toList_injective hlist

/-! ### Marks -/

/-- The subscriptions for the devices are marked as those of the current connection. -/
def DevicesMarked (c : CallbackState) : Prop :=
  c.deviceTopicNamespace ≠ "" ∧ c.registrationGeneration = some c.connectionGeneration ∧
    c.telemetryGeneration = some c.connectionGeneration

def CommandsMarked (c : CallbackState) : Prop :=
  c.commandTopicNamespace ≠ "" ∧ c.sourceRequestGeneration = some c.connectionGeneration ∧
    c.deviceAckGeneration = some c.connectionGeneration

/-- A mark is of a connection that has been, and the mark of the telemetry goes with the
one of the registrations. -/
structure MarksBounded (c : CallbackState) : Prop where
  registration : ∀ generation ∈ c.registrationGeneration, generation ≤ c.connectionGeneration
  telemetry : ∀ generation ∈ c.telemetryGeneration, generation ≤ c.connectionGeneration
  sourceRequest : ∀ generation ∈ c.sourceRequestGeneration, generation ≤ c.connectionGeneration
  deviceAck : ∀ generation ∈ c.deviceAckGeneration, generation ≤ c.connectionGeneration
  together : c.telemetryGeneration = some c.connectionGeneration →
    c.registrationGeneration = some c.connectionGeneration

/-- What is marked for the devices is subscribed. -/
def DevicesSubscribed (s : MqttClient) : Prop :=
  DevicesMarked s.client → ∀ filter ∈ deviceFilters s.client.deviceTopicNamespace,
    Subscribed s.operations s.client.connectionGeneration filter

def CommandsSubscribed (s : MqttClient) : Prop :=
  CommandsMarked s.client → ∀ filter ∈ commandFilters s.client.commandTopicNamespace,
    Subscribed s.operations s.client.connectionGeneration filter

/-- What a call of `SubscribeConfigured` still does concerns no marked filter, and on its
own connection it has done the rest. -/
structure CallTruthful (s : MqttClient) (call : SubscribeCall) : Prop where
  generation : call.generation ≤ s.client.connectionGeneration
  remaining : ∀ subscription ∈ call.remaining,
    (subscription.filter ∈ deviceFilters call.deviceNamespace ∧ ¬ DevicesMarked s.client) ∨
      (subscription.filter ∈ commandFilters call.commandNamespace ∧ ¬ CommandsMarked s.client)
  made : s.client.connectionGeneration = call.generation →
    ∀ filter ∈ configuredFilters call.deviceNamespace call.commandNamespace,
      (∃ subscription ∈ call.remaining, subscription.filter = filter) ∨
        Subscribed s.operations call.generation filter

/-- Between the two calls of a replay, what is marked is subscribed but for the filter
of the replay. -/
def ReplayTruthful (s : MqttClient) (topicNamespace : String) : Prop :=
  DevicesMarked s.client → ∀ filter ∈ deviceFilters s.client.deviceTopicNamespace,
    filter ≠ registrationFilter topicNamespace →
      Subscribed s.operations s.client.connectionGeneration filter

/-- What each holder of the mutex relies on. -/
def HolderTruthful (s : MqttClient) : Prop :=
  match s.holder with
  | none => DevicesSubscribed s
  | some (.subscribing call) => DevicesSubscribed s ∧ CallTruthful s call
  | some (.unsubscribed topicNamespace) => ReplayTruthful s topicNamespace
  | some (.resubscribed _) => DevicesSubscribed s

structure Truthful (s : MqttClient) : Prop where
  bounded : MarksBounded s.client
  commands : CommandsSubscribed s
  holder : HolderTruthful s

/-! ### Steps without a call of the library -/

/-- No mark comes in, and no call of the library is made. -/
structure Weaker (s s' : MqttClient) : Prop where
  holder : s'.holder = s.holder
  operations : s'.operations = s.operations
  generation : s.client.connectionGeneration ≤ s'.client.connectionGeneration
  bounded : MarksBounded s'.client
  devices : DevicesMarked s'.client → DevicesMarked s.client ∧
    s'.client.deviceTopicNamespace = s.client.deviceTopicNamespace ∧
    s'.client.connectionGeneration = s.client.connectionGeneration
  commands : CommandsMarked s'.client → CommandsMarked s.client ∧
    s'.client.commandTopicNamespace = s.client.commandTopicNamespace ∧
    s'.client.connectionGeneration = s.client.connectionGeneration

section

variable {strerror : ℤ → String} {s s' : MqttClient}

lemma DevicesSubscribed.weaken (h : DevicesSubscribed s) (hweak : Weaker s s') :
    DevicesSubscribed s' := by
  intro hmarked
  obtain ⟨hbefore, hnamespace, hgeneration⟩ := hweak.devices hmarked
  rw [hnamespace, hgeneration, hweak.operations]
  exact h hbefore

lemma CallTruthful.weaken {call : SubscribeCall} (h : CallTruthful s call)
    (hweak : Weaker s s') : CallTruthful s' call := by
  refine ⟨h.generation.trans hweak.generation, fun subscription hmem => ?_, fun hsame => ?_⟩
  · rcases h.remaining subscription hmem with ⟨hfilter, hnone⟩ | ⟨hfilter, hnone⟩
    · exact .inl ⟨hfilter, fun hmarked => hnone (hweak.devices hmarked).1⟩
    · exact .inr ⟨hfilter, fun hmarked => hnone (hweak.commands hmarked).1⟩
  · have hle := h.generation
    have hle' := hweak.generation
    rw [hweak.operations]
    exact h.made (by omega)

/-- Such a step keeps the invariant. -/
lemma Truthful.weaken (h : Truthful s) (hweak : Weaker s s') : Truthful s' := by
  refine ⟨hweak.bounded, fun hmarked => ?_, ?_⟩
  · obtain ⟨hbefore, hnamespace, hgeneration⟩ := hweak.commands hmarked
    rw [hnamespace, hgeneration, hweak.operations]
    exact h.commands hbefore
  · have hholder := h.holder
    rw [HolderTruthful] at hholder ⊢
    rw [hweak.holder]
    split at hholder
    · exact hholder.weaken hweak
    · exact ⟨hholder.1.weaken hweak, hholder.2.weaken hweak⟩
    · intro hmarked
      obtain ⟨hbefore, hnamespace, hgeneration⟩ := hweak.devices hmarked
      rw [hnamespace, hgeneration, hweak.operations]
      exact hholder hbefore
    · exact hholder.weaken hweak

/-- The subscriptions, their marks and the connection are the same. -/
structure SameSubscriptions (c c' : CallbackState) : Prop where
  device : c'.deviceTopicNamespace = c.deviceTopicNamespace
  command : c'.commandTopicNamespace = c.commandTopicNamespace
  connection : c'.connectionGeneration = c.connectionGeneration
  registration : c'.registrationGeneration = c.registrationGeneration
  telemetry : c'.telemetryGeneration = c.telemetryGeneration
  sourceRequest : c'.sourceRequestGeneration = c.sourceRequestGeneration
  deviceAck : c'.deviceAckGeneration = c.deviceAckGeneration

lemma SameSubscriptions.refl (c : CallbackState) : SameSubscriptions c c :=
  ⟨rfl, rfl, rfl, rfl, rfl, rfl, rfl⟩

lemma SameSubscriptions.weaker (h : SameSubscriptions s.client s'.client)
    (hbounded : MarksBounded s.client) (hholder : s'.holder = s.holder)
    (hoperations : s'.operations = s.operations) : Weaker s s' := by
  refine ⟨hholder, hoperations, h.connection.ge, ?_, fun hmarked => ?_, fun hmarked => ?_⟩
  · refine ⟨?_, ?_, ?_, ?_, ?_⟩
    · rw [h.registration, h.connection]
      exact hbounded.registration
    · rw [h.telemetry, h.connection]
      exact hbounded.telemetry
    · rw [h.sourceRequest, h.connection]
      exact hbounded.sourceRequest
    · rw [h.deviceAck, h.connection]
      exact hbounded.deviceAck
    · rw [h.telemetry, h.registration, h.connection]
      exact hbounded.together
  · rw [DevicesMarked, h.device, h.registration, h.telemetry, h.connection] at hmarked
    exact ⟨hmarked, h.device, h.connection⟩
  · rw [CommandsMarked, h.command, h.sourceRequest, h.deviceAck, h.connection] at hmarked
    exact ⟨hmarked, h.command, h.connection⟩

/-- Publishing leaves the subscriptions alone. -/
lemma publishCommandSet_same (c : CallbackState) (token : ℕ) (topic payload : String)
    (result mid : ℤ) :
    SameSubscriptions c (c.publishCommandSet strerror token topic payload result mid).2 := by
  rw [CallbackState.publishCommandSet]
  cases CallbackState.checkPublication topic payload with
  | error message => exact .refl c
  | ok _ =>
      simp only
      split
      · exact .refl c
      · split
        · exact .refl c
        · split
          · exact .refl c
          · split
            · exact .refl c
            · exact ⟨rfl, rfl, rfl, rfl, rfl, rfl, rfl⟩

lemma publishUntracked_same (operation : String) (c : CallbackState) (topic payload : String)
    (result mid : ℤ) :
    SameSubscriptions c (c.publishUntracked strerror operation topic payload result mid).2 := by
  rw [CallbackState.publishUntracked]
  cases CallbackState.checkPublication topic payload with
  | error message => exact .refl c
  | ok _ =>
      simp only
      split
      · exact .refl c
      · exact ⟨rfl, rfl, rfl, rfl, rfl, rfl, rfl⟩

lemma handlePublish_same (c : CallbackState) (mid : ℤ) :
    SameSubscriptions c (c.handlePublish mid).2 := by
  rw [CallbackState.handlePublish]
  split <;> exact ⟨rfl, rfl, rfl, rfl, rfl, rfl, rfl⟩

/-- A new connection: no mark is of it. -/
lemma connected_weaker (h : MarksBounded s.client) :
    Weaker s { s with client := s.client.handleConnected } := by
  by_cases hconnected : s.client.connected = true
  · refine SameSubscriptions.weaker ⟨rfl, rfl, ?_, rfl, rfl, rfl, rfl⟩ h rfl rfl
    simp only [CallbackState.handleConnected, hconnected, if_true]
  · have hnext : s.client.handleConnected.connectionGeneration =
        s.client.connectionGeneration + 1 := by
      simp only [CallbackState.handleConnected, hconnected, if_false, Bool.false_eq_true]
    have hold : ∀ mark : Option ℕ,
      (∀ generation ∈ mark, generation ≤ s.client.connectionGeneration) →
        mark ≠ some (s.client.connectionGeneration + 1) := by
      rintro mark hle rfl
      have := hle _ rfl
      omega
    refine ⟨rfl, rfl, ?_, ?_, fun hmarked => ?_, fun hmarked => ?_⟩
    · rw [hnext]
      omega
    · refine ⟨fun g hg => ?_, fun g hg => ?_, fun g hg => ?_, fun g hg => ?_, fun htelemetry => ?_⟩
      · have := h.registration g hg
        rw [hnext]
        omega
      · have := h.telemetry g hg
        rw [hnext]
        omega
      · have := h.sourceRequest g hg
        rw [hnext]
        omega
      · have := h.deviceAck g hg
        rw [hnext]
        omega
      · rw [hnext] at htelemetry
        exact absurd htelemetry (hold _ h.telemetry)
    · rw [DevicesMarked, hnext] at hmarked
      exact absurd hmarked.2.1 (hold _ h.registration)
    · rw [CommandsMarked, hnext] at hmarked
      exact absurd hmarked.2.1 (hold _ h.sourceRequest)

/-- A new namespace takes its marks away. -/
lemma setDeviceNamespace_weaker (h : MarksBounded s.client) (topicNamespace : String) :
    Weaker s { s with client := s.client.setDeviceNamespace topicNamespace } := by
  rw [CallbackState.setDeviceNamespace]
  split
  · refine ⟨rfl, rfl, le_rfl, ?_, fun hmarked => ?_, fun hmarked => ⟨hmarked, rfl, rfl⟩⟩
    · refine ⟨fun g hg => ?_, fun g hg => ?_, h.sourceRequest, h.deviceAck, fun htelemetry => ?_⟩
      · cases hg
      · cases hg
      · cases htelemetry
    · cases hmarked.2.1
  · exact SameSubscriptions.weaker (.refl _) h rfl rfl

lemma setCommandNamespace_weaker (h : MarksBounded s.client) (topicNamespace : String) :
    Weaker s { s with client := s.client.setCommandNamespace topicNamespace } := by
  rw [CallbackState.setCommandNamespace]
  split
  · refine ⟨rfl, rfl, le_rfl, ?_, fun hmarked => ⟨hmarked, rfl, rfl⟩, fun hmarked => ?_⟩
    · refine ⟨h.registration, h.telemetry, fun g hg => ?_, fun g hg => ?_, h.together⟩
      · cases hg
      · cases hg
    · cases hmarked.2.1
  · exact SameSubscriptions.weaker (.refl _) h rfl rfl

/-! ### Calls of the library -/

lemma not_devicesMarked {c : CallbackState} (hnamespace : c.deviceTopicNamespace ≠ "") :
    (!c.deviceTopicNamespace.isEmpty &&
      (c.registrationGeneration ≠ some c.connectionGeneration ||
        c.telemetryGeneration ≠ some c.connectionGeneration)) = true ↔ ¬ DevicesMarked c := by
  simp [DevicesMarked, hnamespace, imp_iff_not_or]

lemma not_commandsMarked {c : CallbackState} (hnamespace : c.commandTopicNamespace ≠ "") :
    (!c.commandTopicNamespace.isEmpty &&
      (c.sourceRequestGeneration ≠ some c.connectionGeneration ||
        c.deviceAckGeneration ≠ some c.connectionGeneration)) = true ↔ ¬ CommandsMarked c := by
  simp [CommandsMarked, hnamespace, imp_iff_not_or]

/-- What a call has to do is what is not marked. -/
lemma beginSubscribe_truthful (h : Truthful s) (hfree : s.holder = none) :
    Truthful { s with holder := some (.subscribing s.client.beginSubscribe) } := by
  have hdevices : DevicesSubscribed s := by
    have hholder := h.holder
    rw [HolderTruthful, hfree] at hholder
    exact hholder
  refine ⟨h.bounded, h.commands, hdevices, le_rfl, fun subscription hmem => ?_, fun _ => ?_⟩
  · rcases List.mem_append.mp hmem with hdevice | hcommand
    · split at hdevice
      · next hneeded =>
          have hnamespace : s.client.deviceTopicNamespace ≠ "" := by
            rintro hempty
            simp [hempty] at hneeded
          exact .inl ⟨List.mem_map_of_mem hdevice, (not_devicesMarked hnamespace).mp hneeded⟩
      · cases hdevice
    · split at hcommand
      · next hneeded =>
          have hnamespace : s.client.commandTopicNamespace ≠ "" := by
            rintro hempty
            simp [hempty] at hneeded
          exact .inr ⟨List.mem_map_of_mem hcommand, (not_commandsMarked hnamespace).mp hneeded⟩
      · cases hcommand
  · intro filter hfilter
    rcases List.mem_append.mp hfilter with hdevice | hcommand
    · split at hdevice
      · cases hdevice
      next hnamespace =>
      rw [String.isEmpty_iff] at hnamespace
      by_cases hmarked : DevicesMarked s.client
      · exact .inr (hdevices hmarked filter hdevice)
      · obtain ⟨subscription, hmem, rfl⟩ := List.mem_map.mp hdevice
        refine .inl ⟨subscription, List.mem_append_left _ ?_, rfl⟩
        rw [if_pos ((not_devicesMarked hnamespace).mpr hmarked)]
        exact hmem
    · split at hcommand
      · cases hcommand
      next hnamespace =>
      rw [String.isEmpty_iff] at hnamespace
      by_cases hmarked : CommandsMarked s.client
      · exact .inr (h.commands hmarked filter hcommand)
      · obtain ⟨subscription, hmem, rfl⟩ := List.mem_map.mp hcommand
        refine .inl ⟨subscription, List.mem_append_right _ ?_, rfl⟩
        rw [if_pos ((not_commandsMarked hnamespace).mpr hmarked)]
        exact hmem

/-- **A subscription**: one that succeeds is made, and one that fails is of no marked
filter. -/
lemma subscribe_truthful (h : Truthful s) {call : SubscribeCall}
    (hholder : s.holder = some (.subscribing call)) (result : ℤ) :
    Truthful (s.next strerror (.subscribe result)) := by
  have hcall := h.holder
  rw [HolderTruthful, hholder] at hcall
  obtain ⟨hdevices, hcall⟩ := hcall
  rw [MqttClient.next, hholder]
  simp only
  split
  · exact h
  next subscription rest hremaining =>
  by_cases hresult : result = 0
  · subst hresult
    have hnext : call.subscribe strerror 0 = .ok { call with remaining := rest } := by
      simp only [SubscribeCall.subscribe, hremaining, ne_eq, not_true_eq_false, if_false]
    rw [hnext]
    refine ⟨h.bounded, fun hmarked filter hfilter =>
      subscribed_cons (h.commands hmarked filter hfilter) _ _,
      fun hmarked filter hfilter => subscribed_cons (hdevices hmarked filter hfilter) _ _,
      hcall.generation, fun other hother => ?_, fun hsame filter hfilter => ?_⟩
    · exact hcall.remaining other (by rw [hremaining]; exact List.mem_cons_of_mem _ hother)
    · rcases hcall.made hsame filter hfilter with ⟨other, hother, rfl⟩ | hmade
      · rw [hremaining] at hother
        rcases List.mem_cons.mp hother with rfl | hother
        · exact .inr (hsame ▸ subscribed_cons_self _ _ _)
        · exact .inl ⟨other, hother, rfl⟩
      · exact .inr (subscribed_cons hmade _ _)
  · have hnext : (call.subscribe strerror result).toOption = none := by
      simp only [SubscribeCall.subscribe, hremaining, ne_eq, hresult, not_false_eq_true, if_true]
      rfl
    rw [hnext]
    have hmem := hcall.remaining subscription (by rw [hremaining]; exact List.mem_cons_self)
    refine ⟨h.bounded, fun hmarked filter hfilter => ?_, fun hmarked filter hfilter => ?_⟩
    · rcases hmem with ⟨hdevice, -⟩ | ⟨-, hnone⟩
      · refine subscribed_cons_other (fun _ => ?_) (h.commands hmarked filter hfilter)
        exact filters_ne hdevice hfilter
      · exact absurd hmarked hnone
    · rcases hmem with ⟨-, hnone⟩ | ⟨hcommand, -⟩
      · exact absurd hmarked hnone
      · refine subscribed_cons_other (fun _ => ?_) (hdevices hmarked filter hfilter)
        exact (filters_ne hfilter hcommand).symm

/-- **The end of the subscriptions**: what is marked then was made on the connection. -/
lemma finishSubscribe_truthful (h : Truthful s) {call : SubscribeCall}
    (hholder : s.holder = some (.subscribing call)) (hremaining : call.remaining = []) :
    Truthful { s with client := s.client.finishSubscribe call, holder := none } := by
  have hcall := h.holder
  rw [HolderTruthful, hholder] at hcall
  obtain ⟨hdevices, hcall⟩ := hcall
  by_cases hcurrent : s.client.connected ∧ s.client.connectionGeneration = call.generation
  · have hmade : ∀ filter ∈ configuredFilters call.deviceNamespace call.commandNamespace,
        Subscribed s.operations call.generation filter := by
      intro filter hfilter
      rcases hcall.made hcurrent.2 filter hfilter with ⟨subscription, hmem, -⟩ | hmade
      · rw [hremaining] at hmem
        cases hmem
      · exact hmade
    have hle : ∀ (marks : Bool) (mark : Option ℕ),
        (∀ generation ∈ mark, generation ≤ s.client.connectionGeneration) →
        ∀ generation ∈ if marks then some call.generation else mark,
          generation ≤ s.client.connectionGeneration := by
      intro marks mark hmark generation hmem
      split at hmem
      · cases hmem
        exact hcall.generation
      · exact hmark generation hmem
    rw [CallbackState.finishSubscribe, if_pos hcurrent]
    refine ⟨⟨hle _ _ h.bounded.registration, hle _ _ h.bounded.telemetry,
      hle _ _ h.bounded.sourceRequest, hle _ _ h.bounded.deviceAck, fun htelemetry => ?_⟩,
      fun hmarked filter hfilter => ?_, fun hmarked filter hfilter => ?_⟩
    · simp only at htelemetry ⊢
      split
      · rw [hcurrent.2]
      · next hother =>
          rw [if_neg hother] at htelemetry
          exact h.bounded.together htelemetry
    · by_cases hnow : (decide (s.client.commandTopicNamespace = call.commandNamespace) &&
          !call.commandNamespace.isEmpty) = true
      · simp only [Bool.and_eq_true, decide_eq_true_eq, Bool.not_eq_true'] at hnow
        simp only [hnow.1] at hfilter
        change Subscribed s.operations s.client.connectionGeneration filter
        rw [hcurrent.2]
        refine hmade filter (List.mem_append_right _ ?_)
        rw [hnow.2]
        exact hfilter
      · simp only [CommandsMarked, hnow] at hmarked
        exact h.commands hmarked filter hfilter
    · by_cases hnow : (decide (s.client.deviceTopicNamespace = call.deviceNamespace) &&
          !call.deviceNamespace.isEmpty) = true
      · simp only [Bool.and_eq_true, decide_eq_true_eq, Bool.not_eq_true'] at hnow
        simp only [hnow.1] at hfilter
        change Subscribed s.operations s.client.connectionGeneration filter
        rw [hcurrent.2]
        refine hmade filter (List.mem_append_left _ ?_)
        rw [hnow.2]
        exact hfilter
      · simp only [DevicesMarked, hnow] at hmarked
        exact hdevices hmarked filter hfilter
  · rw [CallbackState.finishSubscribe, if_neg hcurrent]
    exact ⟨h.bounded, h.commands, hdevices⟩

/-- The registration filter of a namespace is one of the devices. -/
lemma registrationFilter_mem (topicNamespace : String) :
    registrationFilter topicNamespace ∈ deviceFilters topicNamespace :=
  List.mem_cons_self

/-- A filter of the devices is not the one of a replay in another namespace. -/
lemma ne_registrationFilter {topicNamespace topicNamespace' filter : String}
    (hne : topicNamespace' ≠ topicNamespace) (hfilter : filter ∈ deviceFilters topicNamespace) :
    registrationFilter topicNamespace' ≠ filter := by
  simp only [deviceFilters, deviceSubscriptions, List.map_cons, List.map_nil, List.mem_cons,
    List.not_mem_nil, or_false] at hfilter
  rcases hfilter with rfl | rfl
  · exact fun h => hne (registrationFilter_injective h)
  · exact registrationFilter_ne_telemetryFilter _ _

/-- No call of a replay fails while its filter is marked. -/
def SoundReplay (s : MqttClient) : MqttInput → Prop
  | .unsubscribe topicNamespace result =>
      DevicesMarked s.client → s.client.deviceTopicNamespace = topicNamespace → result = 0
  | .resubscribe result => ∀ topicNamespace, s.holder = some (.unsubscribed topicNamespace) →
      DevicesMarked s.client → s.client.deviceTopicNamespace = topicNamespace → result = 0
  | _ => True

/-- A call of a replay leaves the subscriptions for the commands alone. -/
lemma replay_commands (h : Truthful s) (topicNamespace : String) (subscribe : Bool) (result : ℤ) :
    CommandsMarked s.client → ∀ filter ∈ commandFilters s.client.commandTopicNamespace,
      Subscribed (s.operate (registrationFilter topicNamespace) subscribe result).operations
        s.client.connectionGeneration filter := by
  intro hmarked filter hfilter
  refine subscribed_cons_other (fun _ => ?_) (h.commands hmarked filter hfilter)
  exact filters_ne (registrationFilter_mem topicNamespace) hfilter

/-- **The first call of a replay.** -/
lemma unsubscribe_truthful (h : Truthful s) (hfree : s.holder = none) {topicNamespace : String}
    {result : ℤ} (hsound : SoundReplay s (.unsubscribe topicNamespace result)) :
    Truthful (s.next strerror (.unsubscribe topicNamespace result)) := by
  have hdevices : DevicesSubscribed s := by
    have hholder := h.holder
    rw [HolderTruthful, hfree] at hholder
    exact hholder
  refine ⟨h.bounded, replay_commands h topicNamespace false result, ?_⟩
  by_cases hresult : result = 0
  · simp only [HolderTruthful, MqttClient.next, hresult, if_true]
    intro hmarked filter hfilter hne
    exact subscribed_cons_other (fun _ => hne.symm) (hdevices hmarked filter hfilter)
  · simp only [HolderTruthful, MqttClient.next, hresult, if_false]
    intro hmarked filter hfilter
    refine subscribed_cons_other (fun _ => ?_) (hdevices hmarked filter hfilter)
    refine ne_registrationFilter (fun hsame => ?_) hfilter
    exact hresult (hsound hmarked hsame.symm)

/-- **The second call of a replay.** -/
lemma resubscribe_truthful (h : Truthful s) {topicNamespace : String}
    (hholder : s.holder = some (.unsubscribed topicNamespace)) {result : ℤ}
    (hsound : SoundReplay s (.resubscribe result)) :
    Truthful (s.next strerror (.resubscribe result)) := by
  have hreplay := h.holder
  rw [HolderTruthful, hholder] at hreplay
  rw [MqttClient.next, hholder]
  refine ⟨h.bounded, replay_commands h topicNamespace true result, ?_⟩
  by_cases hresult : result = 0
  · simp only [HolderTruthful, hresult, if_true]
    intro hmarked filter hfilter
    by_cases hsame : filter = registrationFilter topicNamespace
    · rw [hsame]
      exact subscribed_cons_self _ _ _
    · exact subscribed_cons (hreplay hmarked filter hfilter hsame) _ _
  · simp only [HolderTruthful, hresult, if_false]
    intro hmarked filter hfilter
    have hne : topicNamespace ≠ s.client.deviceTopicNamespace := fun hsame =>
      hresult (hsound topicNamespace hholder hmarked hsame.symm)
    have hother := ne_registrationFilter hne hfilter
    exact subscribed_cons_other (fun _ => hother) (hreplay hmarked filter hfilter hother.symm)

/-- The mark of a replay counts only beside the one of the telemetry, which was made with
the subscription. -/
lemma finishReplay_truthful (h : Truthful s) {topicNamespace : String}
    (hholder : s.holder = some (.resubscribed topicNamespace)) :
    Truthful { s with client := s.client.replayed topicNamespace, holder := none } := by
  have hdevices := h.holder
  rw [HolderTruthful, hholder] at hdevices
  rw [CallbackState.replayed]
  split
  · refine ⟨⟨fun generation hmem => ?_, h.bounded.telemetry, h.bounded.sourceRequest,
      h.bounded.deviceAck, fun _ => rfl⟩, h.commands, fun hmarked => ?_⟩
    · cases hmem
      exact le_rfl
    · exact hdevices ⟨hmarked.1, h.bounded.together hmarked.2.2, hmarked.2.2⟩
  · exact ⟨h.bounded, h.commands, hdevices⟩

/-! ### Every run -/

lemma input_truthful (h : Truthful s) {input : MqttInput} (henabled : s.Enabled input)
    (hsound : SoundReplay s input) : Truthful (s.next strerror input) := by
  have hb := h.bounded
  cases input with
  | configureCommandPublishing handler capacity =>
      by_cases hcapacity : capacity = 0
      · rw [MqttClient.next, CallbackState.configureCommandPublishing, if_pos hcapacity]
        exact h
      · rw [MqttClient.next, CallbackState.configureCommandPublishing, if_neg hcapacity]
        exact h.weaken (SameSubscriptions.weaker ⟨rfl, rfl, rfl, rfl, rfl, rfl, rfl⟩ hb rfl rfl)
  | publishCommandSet token topic payload result mid =>
      exact h.weaken (SameSubscriptions.weaker (publishCommandSet_same _ _ _ _ _ _) hb rfl rfl)
  | publishSourceCommandAck topic payload result mid =>
      exact h.weaken (SameSubscriptions.weaker (publishUntracked_same _ _ _ _ _ _) hb rfl rfl)
  | publishStateEvent topic payload result mid =>
      exact h.weaken (SameSubscriptions.weaker (publishUntracked_same _ _ _ _ _ _) hb rfl rfl)
  | published mid =>
      exact h.weaken (SameSubscriptions.weaker (handlePublish_same _ _) hb rfl rfl)
  | disconnected tokens =>
      exact h.weaken (SameSubscriptions.weaker ⟨rfl, rfl, rfl, rfl, rfl, rfl, rfl⟩ hb rfl rfl)
  | connected => exact h.weaken (connected_weaker hb)
  | lost =>
      exact h.weaken (SameSubscriptions.weaker ⟨rfl, rfl, rfl, rfl, rfl, rfl, rfl⟩ hb rfl rfl)
  | setDeviceNamespace topicNamespace =>
      exact h.weaken (setDeviceNamespace_weaker hb topicNamespace)
  | setCommandNamespace topicNamespace =>
      exact h.weaken (setCommandNamespace_weaker hb topicNamespace)
  | beginSubscribe => exact beginSubscribe_truthful h (Option.isNone_iff_eq_none.mp henabled)
  | subscribe result =>
      obtain ⟨call, hholder, -⟩ := henabled
      exact subscribe_truthful h hholder result
  | finishSubscribe =>
      obtain ⟨call, hholder, hremaining⟩ := henabled
      rw [MqttClient.next, hholder]
      exact finishSubscribe_truthful h hholder hremaining
  | unsubscribe topicNamespace result =>
      exact unsubscribe_truthful h (Option.isNone_iff_eq_none.mp henabled.1) hsound
  | resubscribe result =>
      obtain ⟨topicNamespace, hholder⟩ := henabled
      exact resubscribe_truthful h hholder hsound
  | finishReplay =>
      obtain ⟨topicNamespace, hholder⟩ := henabled
      rw [MqttClient.next, hholder]
      exact finishReplay_truthful h hholder

lemma truthful_of_reachable (h : ((mqttClient strerror).restrict SoundReplay).Reachable s) :
    Truthful s := by
  refine h.invariant (fun s h0 => ?_) fun s input _ hs henabled => ?_
  · cases h0
    refine ⟨⟨fun _ hmem => ?_, fun _ hmem => ?_, fun _ hmem => ?_, fun _ hmem => ?_,
      fun hmark => ?_⟩, fun hmarked => ?_, fun hmarked => ?_⟩
    · cases hmem
    · cases hmem
    · cases hmem
    · cases hmem
    · cases hmark
    · cases hmarked.2.1
    · cases hmarked.2.1
  · exact input_truthful hs henabled.1 henabled.2

/-- What the answer of `BusinessSubscriptionGeneration` says about the marks. -/
lemma businessSubscriptionGeneration_some {c : CallbackState} {generation : ℕ}
    (h : c.businessSubscriptionGeneration = some generation) :
    generation = c.connectionGeneration ∧ (c.deviceTopicNamespace ≠ "" → DevicesMarked c) ∧
      (c.commandTopicNamespace ≠ "" → CommandsMarked c) := by
  rw [CallbackState.businessSubscriptionGeneration] at h
  split at h
  · cases h
  split at h
  · cases h
  split at h
  · cases h
  next hdevices =>
  split at h
  · cases h
  next hcommands =>
  refine ⟨(Option.some.inj h).symm, fun hnamespace => ?_, fun hnamespace => ?_⟩
  · exact not_not.mp fun hnone => hdevices ((not_devicesMarked hnamespace).mpr hnone)
  · exact not_not.mp fun hnone => hcommands ((not_commandsMarked hnamespace).mpr hnone)

/-- **The generation is truthful**: in a run in which no call of a replay fails while its
filter is marked, whenever the generation of the subscriptions is asked for, and no replay
is between its two calls, the last call about each configured filter on that connection
is a subscription that succeeded. -/
theorem generation_truthful (strerror : ℤ → String) (s : MqttClient)
    (h : ((mqttClient strerror).restrict SoundReplay).Reachable s)
    (hreplay : ∀ topicNamespace, s.holder ≠ some (.unsubscribed topicNamespace)) :
    ∀ generation, s.client.businessSubscriptionGeneration = some generation →
      ∀ filter ∈ configuredFilters s.client.deviceTopicNamespace s.client.commandTopicNamespace,
        ∃ operation, lastOperation s.operations generation filter = some operation ∧
          operation.subscribe = true ∧ operation.result = 0 := by
  have hs := truthful_of_reachable h
  have hdevices : DevicesSubscribed s := by
    have hholder := hs.holder
    rw [HolderTruthful] at hholder
    split at hholder
    · exact hholder
    · exact hholder.1
    · next topicNamespace hunsubscribed => exact absurd hunsubscribed (hreplay topicNamespace)
    · exact hholder
  intro generation hgeneration filter hfilter
  obtain ⟨rfl, hdevice, hcommand⟩ := businessSubscriptionGeneration_some hgeneration
  rcases List.mem_append.mp hfilter with hmem | hmem
  · split at hmem
    · cases hmem
    · next hnamespace =>
        rw [String.isEmpty_iff] at hnamespace
        exact hdevices (hdevice hnamespace) filter hmem
  · split at hmem
    · cases hmem
    · next hnamespace =>
        rw [String.isEmpty_iff] at hnamespace
        exact hs.commands (hcommand hnamespace) filter hmem

end

/-- The subscriptions for the devices are made, and the registrations are replayed. -/
def sampleReplay (result : ℤ) : List MqttInput :=
  [.setDeviceNamespace "cns", .connected, .beginSubscribe, .subscribe 0, .subscribe 0,
    .finishSubscribe, .unsubscribe "cns" 0, .resubscribe result]

def sampleReplayed (result : ℤ) : MqttClient :=
  (sampleReplay result).foldl (MqttClient.next fun _ => "") ⟨.fresh, none, [], [], []⟩

theorem generation_truthful_replayed :
    (sampleReplayed 0).client.businessSubscriptionGeneration = some 1 ∧
      ∃ operation, lastOperation (sampleReplayed 0).operations 1 "cns/+/registration" =
        some operation ∧ operation.subscribe = true ∧ operation.result = 0 := by
  have hrun : ((mqttClient fun _ => "").restrict SoundReplay).Run ⟨.fresh, none, [], [], []⟩
      (sampleReplay 0) (sampleReplayed 0) := by
    refine .cons ⟨String.isEmpty_eq_false_iff.mp rfl, trivial⟩
      (.cons ⟨trivial, trivial⟩ (.cons ⟨rfl, trivial⟩ ?_))
    refine .cons ⟨⟨_, rfl, by decide⟩, trivial⟩ (.cons ⟨⟨_, rfl, by decide⟩, trivial⟩ ?_)
    refine .cons ⟨⟨_, rfl, rfl⟩, trivial⟩ (.cons ⟨⟨rfl, by decide⟩, fun _ _ => rfl⟩ ?_)
    exact .cons ⟨⟨_, rfl⟩, fun _ _ _ _ => rfl⟩ (.nil _)
  have hgeneration : (sampleReplayed 0).client.businessSubscriptionGeneration = some 1 := by
    decide +kernel
  refine ⟨hgeneration, generation_truthful (fun _ => "") (sampleReplayed 0)
    (Machine.Reachable.run (.start rfl) hrun) (fun topicNamespace => nofun) 1 hgeneration _ ?_⟩
  decide +kernel

/-- The second call of a replay fails: the filter is not subscribed any more, and the
generation is still that of the connection. -/
theorem generation_untruthful :
    ∃ s, (mqttClient fun _ => "").Reachable s ∧ s.holder.isNone ∧
      s.client.businessSubscriptionGeneration = some 1 ∧
      "cns/+/registration" ∈
        configuredFilters s.client.deviceTopicNamespace s.client.commandTopicNamespace ∧
      lastOperation s.operations 1 "cns/+/registration" =
        some ⟨1, "cns/+/registration", true, 1⟩ := by
  have hrun : (mqttClient fun _ => "").Run ⟨.fresh, none, [], [], []⟩
      (sampleReplay 1) (sampleReplayed 1) := by
    refine .cons (String.isEmpty_eq_false_iff.mp rfl) (.cons trivial (.cons rfl ?_))
    refine .cons ⟨_, rfl, by decide⟩ (.cons ⟨_, rfl, by decide⟩ (.cons ⟨_, rfl, rfl⟩ ?_))
    exact .cons ⟨rfl, by decide⟩ (.cons ⟨_, rfl⟩ (.nil _))
  refine ⟨sampleReplayed 1, Machine.Reachable.run (.start rfl) hrun, ?_⟩
  decide +kernel

end CnsServer
