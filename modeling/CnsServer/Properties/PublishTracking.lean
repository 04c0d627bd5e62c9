/-
The tokens of the publications under way.

* `inFlight`: the publications that nothing has been reported about yet;
* `Tracked`: the invariant: the two maps are inverse to each other, there are no more
  tokens than the capacity allows, and what was accepted is what was reported and what
  is under way;
* `publish_tracked`, `published_tracked`, `disconnected_tracked`: its steps;
* `publications_tracked`: **one report for each accepted token**.
-/
import CnsServer.Mqtt.MqttClient

namespace CnsServer

/-- The publications under way. -/
def CallbackState.inFlight (s : CallbackState) : List Publication :=
  s.tokenToMid.entries.map fun entry => ⟨entry.1, entry.2⟩

/-- The maps are inverse to each other, and every accepted publication is reported once
or still under way. -/
structure Tracked (s : MqttClient) : Prop where
  inverse : Map.Inverse s.client.tokenToMid s.client.midToToken
  capacity : s.client.tokenToMid.keys.length ≤ s.client.publishCapacity
  handler : s.client.publishHandler = false → s.client.tokenToMid = ∅
  account : (s.reports.map PublishReport.publication ++ s.client.inFlight).Perm s.accepted
  causes : ∀ report ∈ s.reports, report.result = true ↔ report.cause = .published

namespace Tracked

variable {s : MqttClient}

/-- What does not touch the tokens keeps the invariant. -/
lemma congr (h : Tracked s) {s' : MqttClient}
    (htokens : s'.client.tokenToMid = s.client.tokenToMid)
    (hmids : s'.client.midToToken = s.client.midToToken)
    (hcapacity : s'.client.publishCapacity = s.client.publishCapacity)
    (hhandler : s'.client.publishHandler = s.client.publishHandler)
    (hreports : s'.reports = s.reports) (haccepted : s'.accepted = s.accepted) : Tracked s' := by
  refine ⟨?_, ?_, ?_, ?_, ?_⟩
  · rw [htokens, hmids]
    exact h.inverse
  · rw [htokens, hcapacity]
    exact h.capacity
  · rw [htokens, hhandler]
    exact h.handler
  · rw [CallbackState.inFlight, htokens, hreports, haccepted]
    exact h.account
  · rw [hreports]
    exact h.causes

end Tracked

section

variable {strerror : ℤ → String} {s : MqttClient}

/-- Nothing is tracked before the first publication. -/
lemma configure_tracked (h : Tracked s) (handler : Bool) (capacity : ℕ) :
    Tracked (s.next strerror (.configureCommandPublishing handler capacity)) := by
  by_cases hcapacity : capacity = 0
  · rw [MqttClient.next, CallbackState.configureCommandPublishing, if_pos hcapacity]
    exact h
  · rw [MqttClient.next, CallbackState.configureCommandPublishing, if_neg hcapacity]
    refine ⟨.empty, Nat.zero_le _, fun _ => rfl, .refl _, fun report hreport => ?_⟩
    cases hreport

/-- What `PublishCommandSet` does: nothing, or it takes a new token. -/
lemma publishCommandSet_cases (c : CallbackState) (token : ℕ) (topic payload : String)
    (result mid : ℤ) :
    (∃ message, c.publishCommandSet strerror token topic payload result mid =
      (.error message, c)) ∨
    (c.publishHandler = true ∧ c.tokenToMid.lookup token = none ∧
      c.tokenToMid.keys.length < c.publishCapacity ∧ result = 0 ∧
      c.publishCommandSet strerror token topic payload result mid =
        (.ok (),
          { c with
            tokenToMid := c.tokenToMid.insert token mid
            midToToken :=
              if (c.midToToken.lookup mid).isSome then c.midToToken
              else c.midToToken.insert mid token })) := by
  rw [CallbackState.publishCommandSet]
  cases CallbackState.checkPublication topic payload with
  | error message => exact .inl ⟨message, rfl⟩
  | ok _ =>
      simp only
      split
      · exact .inl ⟨_, rfl⟩
      next hhandler =>
      split
      · exact .inl ⟨_, rfl⟩
      next hnew =>
      split
      · exact .inl ⟨_, rfl⟩
      next hroom =>
      split
      · exact .inl ⟨_, rfl⟩
      next hresult =>
      refine .inr ⟨?_, ?_, by omega, not_not.mp hresult, rfl⟩
      · simpa using hhandler
      · simpa using hnew

/-- **A new token**: it is under way, and had no report. -/
lemma publish_tracked (h : Tracked s) {token : ℕ} {topic payload : String} {result mid : ℤ}
    (hfresh : result = 0 → s.IsFresh mid) :
    Tracked (s.next strerror (.publishCommandSet token topic payload result mid)) := by
  rcases @publishCommandSet_cases strerror s.client token topic payload result mid
    with ⟨message, hrefused⟩ | ⟨hhandler, hnew, hroom, hresult, haccepted⟩
  · rw [MqttClient.next, hrefused]
    exact h
  · have hmid := (hfresh hresult).1
    rw [MqttClient.next, haccepted, hmid]
    refine ⟨h.inverse.insert hnew hmid, ?_, fun hnone => ?_, ?_, h.causes⟩
    · have hkeys : token ∉ s.client.tokenToMid.keys := AList.lookup_eq_none.mp hnew
      simp only [Map.length_keys_insert, if_neg hkeys]
      exact hroom
    · rw [hhandler] at hnone
      cases hnone
    · rw [CallbackState.inFlight, AList.entries_insert_of_notMem (AList.lookup_eq_none.mp hnew)]
      exact List.perm_middle.trans (h.account.cons _)

/-- **A completed publication**: its token is reported, and is not under way any
more. -/
lemma published_tracked (h : Tracked s) (mid : ℤ) :
    Tracked (s.next strerror (.published mid)) := by
  rw [MqttClient.next, CallbackState.handlePublish]
  cases hmid : s.client.midToToken.lookup mid with
  | none => exact h.congr rfl rfl rfl rfl rfl rfl
  | some token =>
      have htoken := (h.inverse token mid).mpr hmid
      have hhandler : s.client.publishHandler = true := by
        refine Bool.eq_true_of_not_eq_false fun hnone => ?_
        rw [h.handler hnone] at htoken
        cases htoken
      simp only [hhandler, if_true]
      refine ⟨h.inverse.erase htoken, ?_, fun hnone => ?_, ?_, ?_⟩
      · simp only [Map.length_keys_erase]
        have hcapacity := h.capacity
        split <;> omega
      · cases hnone
      · have hentries := (Map.entries_perm_erase htoken).map fun entry =>
          Publication.mk entry.1 entry.2
        refine List.Perm.trans ?_ h.account
        exact List.perm_middle.symm.trans (hentries.symm.append_left _)
      · intro report hreport
        rcases List.mem_cons.mp hreport with rfl | hold
        · exact ⟨fun _ => rfl, fun _ => rfl⟩
        · exact h.causes report hold

/-- The tokens of the map with their message ids. -/
lemma map_keys_lookup (m : Map ℕ ℤ) :
    m.keys.map (fun token => Publication.mk token ((m.lookup token).getD 0)) =
      m.entries.map fun entry => ⟨entry.1, entry.2⟩ := by
  rw [AList.keys, List.keys, List.map_map]
  refine List.map_congr_left fun entry hmem => ?_
  rw [Function.comp_apply, Map.mem_entries_iff.mp hmem]
  rfl

/-- **A lost connection**: every token under way is reported. -/
lemma disconnected_tracked (h : Tracked s) {tokens : List ℕ}
    (htokens : tokens.Perm s.client.tokenToMid.keys) :
    Tracked (s.next strerror (.disconnected tokens)) := by
  rw [MqttClient.next, CallbackState.handleDisconnect]
  refine ⟨.empty, Nat.zero_le _, fun _ => rfl, ?_, ?_⟩
  · simp only [CallbackState.inFlight, CallbackState.forget, AList.empty_entries, List.map_nil,
      List.append_nil, List.map_append]
    refine List.perm_append_comm.trans (List.Perm.trans (List.Perm.append_left _ ?_) h.account)
    cases hhandler : s.client.publishHandler with
    | false =>
        rw [CallbackState.inFlight, h.handler hhandler]
        exact .refl _
    | true =>
        simp only [if_true, List.map_map, Function.comp_def]
        refine (htokens.map _).trans (List.Perm.of_eq ?_)
        exact map_keys_lookup s.client.tokenToMid
  · intro report hreport
    rcases List.mem_append.mp hreport with hnew | hold
    · obtain ⟨completion, hcompletion, rfl⟩ := List.mem_map.mp hnew
      split at hcompletion
      · obtain ⟨token, -, rfl⟩ := List.mem_map.mp hcompletion
        simp
      · cases hcompletion
    · exact h.causes report hold

lemma untracked_tracked (h : Tracked s) (operation topic payload : String) (result mid : ℤ) :
    Tracked { s with
      client := (s.client.publishUntracked strerror operation topic payload result mid).2 } := by
  rw [CallbackState.publishUntracked]
  cases CallbackState.checkPublication topic payload with
  | error message => exact h
  | ok _ =>
      simp only
      split
      · exact h
      · exact h.congr rfl rfl rfl rfl rfl rfl

lemma input_tracked (h : Tracked s) {input : MqttInput} (henabled : s.Enabled input) :
    Tracked (s.next strerror input) := by
  cases input with
  | configureCommandPublishing handler capacity => exact configure_tracked h handler capacity
  | publishCommandSet token topic payload result mid => exact publish_tracked h henabled
  | publishSourceCommandAck topic payload result mid => exact untracked_tracked h _ _ _ _ _
  | publishStateEvent topic payload result mid => exact untracked_tracked h _ _ _ _ _
  | published mid => exact published_tracked h mid
  | disconnected tokens => exact disconnected_tracked h henabled
  | connected => exact h.congr rfl rfl rfl rfl rfl rfl
  | lost => exact h.congr rfl rfl rfl rfl rfl rfl
  | setDeviceNamespace topicNamespace =>
      rw [MqttClient.next, CallbackState.setDeviceNamespace]
      split <;> exact h.congr rfl rfl rfl rfl rfl rfl
  | setCommandNamespace topicNamespace =>
      rw [MqttClient.next, CallbackState.setCommandNamespace]
      split <;> exact h.congr rfl rfl rfl rfl rfl rfl
  | beginSubscribe => exact h.congr rfl rfl rfl rfl rfl rfl
  | subscribe result =>
      obtain ⟨call, hholder, hremaining⟩ := henabled
      rw [MqttClient.next, hholder]
      simp only
      split
      · exact h
      · exact h.congr rfl rfl rfl rfl rfl rfl
  | finishSubscribe =>
      obtain ⟨call, hholder, hremaining⟩ := henabled
      rw [MqttClient.next, hholder]
      simp only [CallbackState.finishSubscribe]
      split <;> exact h.congr rfl rfl rfl rfl rfl rfl
  | unsubscribe topicNamespace result => exact h.congr rfl rfl rfl rfl rfl rfl
  | resubscribe result =>
      obtain ⟨topicNamespace, hholder⟩ := henabled
      rw [MqttClient.next, hholder]
      exact h.congr rfl rfl rfl rfl rfl rfl
  | finishReplay =>
      obtain ⟨topicNamespace, hholder⟩ := henabled
      rw [MqttClient.next, hholder]
      simp only [CallbackState.replayed]
      split <;> exact h.congr rfl rfl rfl rfl rfl rfl

lemma tracked_of_reachable (h : (mqttClient strerror).Reachable s) : Tracked s := by
  refine h.invariant (fun s h0 => ?_) fun s input _ hs henabled =>
    @input_tracked strerror s hs input henabled
  cases h0
  refine ⟨.empty, Nat.zero_le _, fun _ => rfl, .refl _, fun report hreport => ?_⟩
  cases hreport

/-- The publications of a token under way. -/
lemma countP_inFlight (c : CallbackState) (token : ℕ) :
    (c.inFlight.countP fun publication => publication.token = token) =
      if (c.tokenToMid.lookup token).isSome then 1 else 0 := by
  have hkeys : (c.inFlight.countP fun publication => publication.token = token) =
      c.tokenToMid.keys.count token := by
    rw [CallbackState.inFlight, List.countP_map, AList.keys, List.keys, List.count,
      List.countP_map]
    exact List.countP_congr fun entry _ => by simp
  rw [hkeys]
  split
  · next hsome =>
      exact List.count_eq_one_of_mem c.tokenToMid.keys_nodup (AList.lookup_isSome.mp hsome)
  · next hnone =>
      exact List.count_eq_zero_of_not_mem fun hmem => hnone (AList.lookup_isSome.mpr hmem)

/-- **Publish tracking**: each token that was accepted has had one report, or is under
way and has had none; a success is reported at the completion of its own message id, and
a failure when the connection is lost; nothing else is reported; the two maps are inverse
bijections; and no more tokens are under way than the capacity allows. -/
theorem publications_tracked (strerror : ℤ → String) (s : MqttClient)
    (h : (mqttClient strerror).Reachable s) :
    (s.reports.map PublishReport.publication ++ s.client.inFlight).Perm s.accepted ∧
    (∀ token, (s.reports.countP fun report => report.publication.token = token) +
        (if (s.client.tokenToMid.lookup token).isSome then 1 else 0) =
      s.accepted.countP fun publication => publication.token = token) ∧
    (∀ report ∈ s.reports, report.publication ∈ s.accepted ∧
      (report.result = true ↔ report.cause = .published)) ∧
    (∀ token mid, s.client.tokenToMid.lookup token = some mid ↔
      s.client.midToToken.lookup mid = some token) ∧
    s.client.tokenToMid.keys.length ≤ s.client.publishCapacity := by
  have hs := tracked_of_reachable h
  refine ⟨hs.account, fun token => ?_, fun report hreport => ⟨?_, hs.causes report hreport⟩,
    hs.inverse, hs.capacity⟩
  · have hcount := hs.account.countP_eq fun publication => decide (publication.token = token)
    rw [List.countP_append, List.countP_map] at hcount
    rw [← hcount, countP_inFlight]
    rfl
  · refine hs.account.mem_iff.mp (List.mem_append_left _ ?_)
    exact List.mem_map_of_mem hreport

end

/-- Two tokens under way: one is completed, and one is lost with the connection. -/
def samplePublications : List MqttInput :=
  [.configureCommandPublishing true 2, .connected,
    .publishCommandSet 7 "cns/a/config/set" "{}" 0 10,
    .publishCommandSet 8 "cns/b/config/set" "{}" 0 11, .published 10, .published 10,
    .disconnected [8]]

theorem publications_tracked_run :
    let s := samplePublications.foldl (MqttClient.next fun _ => "") ⟨.fresh, none, [], [], []⟩
    s.reports = [⟨⟨8, 11⟩, .disconnected, false⟩, ⟨⟨7, 10⟩, .published, true⟩] ∧
      (s.reports.map PublishReport.publication ++ s.client.inFlight).Perm s.accepted := by
  intro s
  have hrun : (mqttClient fun _ => "").Run ⟨.fresh, none, [], [], []⟩ samplePublications s :=
    .cons trivial (.cons trivial (.cons (fun _ => ⟨rfl, by decide⟩)
      (.cons (fun _ => ⟨rfl, by decide⟩) (.cons trivial (.cons trivial
        (.cons (.refl _) (.nil _)))))))
  have hreach : (mqttClient fun _ => "").Reachable s := Machine.Reachable.run (.start rfl) hrun
  exact ⟨by decide +kernel, (publications_tracked _ s hreach).1⟩

end CnsServer
