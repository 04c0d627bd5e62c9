/-
The republication of configuration commands.

A command is published when its insertion is stored, and again by the recovery
while it is not marked.  The marks of the commands for a device are taken away by
every call of `OnTargetOnline`, and the event sink makes this call for every
online state that is published, also when the device was online before: each
telemetry message of an online device starts the recovery of its commands again.

* `Reopened`: what is a reason to publish again, a reconnection, a restart or a
  device that comes online;
* `Resignalled`: `OnTargetOnline` for a device that was online already;
* `republications_reopened`: without the second, the first lies between any two
  publications of one command.
-/
import CnsServer.Invariants.Deliveries
import CnsServer.Invariants.RecoveryMarks
import CnsServer.Runtime.Scenario

namespace CnsServer

open RuntimeBundle

/-! ### Publications and what lies between them -/

/-- The command a message was published for, with its target device. -/
def Event.publication : Event → Option (String × String)
  | .published _ _ _ record _ => record.targetDeviceId.map fun deviceId =>
      (record.commandId, deviceId)
  | _ => none

/-- Among the events, latest first, the connection to the broker is lost and comes
back.  A new process begins with `SetMqttAvailable(false)`, so this covers a restart
as well. -/
def Reconnected (events : List Event) : Prop :=
  ∃ later earlier, events = later ++ .mqttAvailable true :: earlier ∧
    .mqttAvailable false ∈ earlier

/-- Among the events is a reason to publish the commands for the device again. -/
def Reopened (deviceId : String) (events : List Event) : Prop :=
  Reconnected events ∨ ∃ signalled, .deviceUpdated deviceId false true signalled ∈ events

/-- Among the events is a call of `OnTargetOnline` for the device while it was online
already. -/
def Resignalled (deviceId : String) (events : List Event) : Prop :=
  .deviceUpdated deviceId true true true ∈ events

/-- The events between two publications of the command, the first of which went to
the device. -/
def BetweenPublications (events : List Event) (commandId deviceId : String)
    (between : List Event) : Prop :=
  ∃ later second first earlier other, events = later ++ second :: (between ++ first :: earlier) ∧
    first.publication = some (commandId, deviceId) ∧
    second.publication = some (commandId, other)

/-- The events at two positions are publications of the command. -/
lemma betweenPublications_of_getElem {events : List Event} {commandId deviceId other : String}
    {i j : ℕ} (hsecond : events[i]?.bind Event.publication = some (commandId, other))
    (hfirst : (events.drop (i + 1))[j]?.bind Event.publication = some (commandId, deviceId)) :
    BetweenPublications events commandId deviceId ((events.drop (i + 1)).take j) := by
  obtain ⟨second, hi, hsecond⟩ := Option.bind_eq_some_iff.mp hsecond
  obtain ⟨first, hj, hfirst⟩ := Option.bind_eq_some_iff.mp hfirst
  obtain ⟨hilt, rfl⟩ := List.getElem?_eq_some_iff.mp hi
  obtain ⟨hjlt, rfl⟩ := List.getElem?_eq_some_iff.mp hj
  refine ⟨events.take i, events[i], _, (events.drop (i + 1)).drop (j + 1), other, ?_, hfirst,
    hsecond⟩
  rw [List.getElem_cons_drop hjlt, List.take_append_drop, List.getElem_cons_drop hilt,
    List.take_append_drop]

section Append

variable {deviceId : String} {events : List Event}

lemma Reconnected.append (es : List Event) (h : Reconnected events) :
    Reconnected (es ++ events) := by
  obtain ⟨later, earlier, rfl, hlost⟩ := h
  exact ⟨es ++ later, earlier, (List.append_assoc ..).symm, hlost⟩

lemma Reopened.append (es : List Event) (h : Reopened deviceId events) :
    Reopened deviceId (es ++ events) :=
  h.imp (·.append es) fun ⟨signalled, hmem⟩ => ⟨signalled, List.mem_append_right _ hmem⟩

lemma Resignalled.append (es : List Event) (h : Resignalled deviceId events) :
    Resignalled deviceId (es ++ events) :=
  List.mem_append_right _ h

end Append

lemma Event.Unpublished.publication {e : Event} (h : e.Unpublished) : e.publication = none := by
  cases e with
  | published token topic payload record accepted => exact h.elim
  | _ => rfl

lemma Event.IsSteady.unpublished {e : Event} (h : e.IsSteady) : e.Unpublished := by
  cases e with
  | published token topic payload record accepted => exact h.elim
  | _ => trivial

lemma Event.touches_of_publication {e : Event} {c d : String} (h : e.publication = some (c, d)) :
    e.Touches c := by
  cases e with
  | published token topic payload record accepted =>
      obtain ⟨_, _, hid⟩ := Option.map_eq_some_iff.mp h
      exact (Prod.mk.inj hid).1
  | _ => cases h

/-- A publication in a longer trace stands in the old part, if the new events are
none. -/
lemma split_append {α : Type*} {es l later earlier : List α} {e : α}
    (h : es ++ l = later ++ e :: earlier) (he : e ∉ es) :
    ∃ later', later = es ++ later' ∧ l = later' ++ e :: earlier := by
  rcases List.append_eq_append_iff.mp h with ⟨later', hlater, hl⟩ | ⟨rest, hes, hrest⟩
  · exact ⟨later', hlater, hl⟩
  · cases rest with
    | nil => exact ⟨[], by simpa using hes.symm, hrest.symm⟩
    | cons x rest =>
        rw [List.cons_append] at hrest
        rw [(List.cons.inj hrest).1] at he
        exact absurd (by rw [hes]; simp) he

/-! ### The invariant -/

/-- What is known of a published command, from the events since: without a loss
the connection stands, and the command is marked or closed if it stands without a
reason to publish again. -/
structure Guarded (b : RuntimeBundle) (since : List Event) (commandId deviceId : String) :
    Prop where
  connected : .mqttAvailable false ∉ since → b.mqttAvailable = true
  marked : b.mqttAvailable = true → ¬ Reopened deviceId since → ¬ Resignalled deviceId since →
    commandId ∈ b.recoveryStarted ∨ Closed b commandId

/-- Events that say nothing about the connection: the mark may be lost only for a
reason. -/
lemma Guarded.later {b b' : RuntimeBundle} {es since : List Event} {c d : String}
    (h : Guarded b since c d) (htrace : b'.trace = es ++ b.trace)
    (hmqtt : b'.mqttAvailable = b.mqttAvailable)
    (hmarks : c ∈ b.recoveryStarted → ¬ Reopened d (es ++ since) → ¬ Resignalled d (es ++ since) →
      c ∈ b'.recoveryStarted ∨ Closed b' c) : Guarded b' (es ++ since) c d where
  connected hlost := by
    rw [hmqtt]
    exact h.connected fun hmem => hlost (List.mem_append_right _ hmem)
  marked hconnected hreopened hresignalled := by
    rcases h.marked (hmqtt ▸ hconnected) (fun hr => hreopened (hr.append es))
      (fun hr => hresignalled (hr.append es)) with hmarked | ⟨e, he, hcloses⟩
    · exact hmarks hmarked hreopened hresignalled
    · exact .inr ⟨e, by rw [htrace]; exact List.mem_append_right _ he, hcloses⟩

/-- Every published command is guarded, and between two publications of one is a
reason for the second. -/
structure Disciplined (b : RuntimeBundle) : Prop where
  known : ∀ token topic payload record accepted,
    .published token topic payload record accepted ∈ b.trace → Known b.trace record
  guarded : ∀ since e earlier c d, b.trace = since ++ e :: earlier →
    e.publication = some (c, d) → Guarded b since c d
  reopened : ∀ c d between, BetweenPublications b.trace c d between →
    Reopened d between ∨ Resignalled d between

namespace Disciplined

variable {cfg : CommandServiceConfig} {b b' : RuntimeBundle} {es : List Event}

/-- New events without a publication: the old commands have to stay guarded. -/
lemma grow (h : Disciplined b) (htrace : b'.trace = es ++ b.trace)
    (hes : ∀ e ∈ es, e.Unpublished)
    (hguarded : ∀ since c d, (∃ e ∈ b.trace, e.publication = some (c, d)) →
      Guarded b since c d → Guarded b' (es ++ since) c d) : Disciplined b' := by
  have hold : ∀ {e : Event} {p : String × String}, e.publication = some p → e ∉ es := by
    intro e p hp hmem
    rw [(hes e hmem).publication] at hp
    cases hp
  refine ⟨fun token topic payload record accepted hmem => ?_, fun since e earlier c d hsplit he =>
    ?_, fun c d between hbetween => ?_⟩
  · rw [htrace] at hmem
    refine (h.known token topic payload record accepted
      ((List.mem_append.mp hmem).resolve_left fun hnew => (hes _ hnew).elim)).mono fun e he => ?_
    rw [htrace]
    exact List.mem_append_right _ he
  · rw [htrace] at hsplit
    obtain ⟨since', rfl, hsplit'⟩ := split_append hsplit (hold he)
    exact hguarded since' c d ⟨e, by rw [hsplit']; simp, he⟩
      (h.guarded since' e earlier c d hsplit' he)
  · obtain ⟨later, second, first, earlier, other, hsplit, hfirst, hsecond⟩ := hbetween
    rw [htrace] at hsplit
    obtain ⟨later', rfl, hsplit'⟩ := split_append hsplit (hold hsecond)
    exact h.reopened c d between ⟨later', second, first, earlier, other, hsplit', hfirst, hsecond⟩

lemma kept (h : Disciplined b) (hkept : KeepsMarks b b') (hpast : b'.past = b.past) :
    Disciplined b' := by
  obtain ⟨es, hlog, hes⟩ := hkept.log
  have htrace := trace_of_log hlog hpast
  exact h.grow htrace (fun e he => (hes e he).unpublished) fun _ _ _ _ hguarded =>
    hguarded.later htrace hkept.mqttAvailable fun hc _ _ => .inl (hkept.recoveryStarted hc)

/-- A reconnection is seen in the events since each publication. -/
lemma mqtt (h : Disciplined b) (available : Bool) :
    Disciplined (b.setMqttAvailable available) := by
  refine @grow _ _ [.mqttAvailable available] h rfl (by simp [Event.Unpublished])
    fun since c d _ hguarded => ⟨fun hlost => ?_, fun hconnected hreopened hresignalled => ?_⟩
  · cases available with
    | true => rfl
    | false => exact absurd (List.mem_append_left _ (List.mem_singleton.mpr rfl)) hlost
  · obtain rfl : available = true := hconnected
    cases hbefore : b.mqttAvailable with
    | false =>
        -- the connection was lost since, and is back
        refine absurd (.inl ⟨[], since, rfl, ?_⟩) hreopened
        by_contra hlost
        rw [hguarded.connected hlost] at hbefore
        cases hbefore
    | true =>
        rcases hguarded.marked hbefore (fun hr => hreopened (hr.append _))
          (fun hr => hresignalled (hr.append _)) with hmarked | ⟨e, he, hcloses⟩
        · refine .inl ?_
          simpa [setMqttAvailable, hbefore] using hmarked
        · exact .inr ⟨e, List.mem_cons_of_mem _ he, hcloses⟩

/-- A command in the list of a device was published for this device. -/
lemma target_of_commandsFor (h : Disciplined b) (hw : Wellformed b) {c d deviceId : String}
    {e : Event} (he : e ∈ b.trace) (hpublication : e.publication = some (c, d))
    (hc : c ∈ b.commandsFor deviceId) : deviceId = d := by
  obtain ⟨context, record, hactive, hrecord, htarget⟩ := mem_commandsFor hc
  obtain ⟨r, hcontext, _, hid⟩ := hw.active c context hactive
  obtain rfl := hcontext.unique hrecord
  cases e with
  | published token topic payload sent accepted =>
      obtain ⟨d', hd', hsame⟩ := Option.map_eq_some_iff.mp hpublication
      obtain ⟨hsent, rfl⟩ := Prod.mk.inj hsame
      have hcommand := (h.known token topic payload sent accepted he).sameCommand hw.created
        hcontext.known (hsent.trans hid.symm)
      rw [hcommand.targetDeviceId, htarget] at hd'
      exact Option.some.inj hd'
  | _ => cases hpublication

/-- One more publication: its command was not marked, so there was a reason for it. -/
lemma published (h : Disciplined b) (hs : Sound b) {record : CommandRecord} {token : ℕ}
    {topic : String} {payload : Json} {accepted : Bool} (hconnected : b.mqttAvailable = true)
    (hknown : Known b.trace record)
    (hfirst : record.commandId ∉ b.recoveryStarted ∧
        (b.activeCommands.lookup record.commandId).isSome ∨
      ∀ e ∈ b.trace, ¬ e.Touches record.commandId) :
    Disciplined (b.marking record.commandId (.published token topic payload record accepted)) := by
  refine ⟨fun token' topic' payload' record' accepted' hmem => ?_,
    fun since e earlier c d hsplit he => ?_, fun c d between hbetween => ?_⟩
  · have hold : Known b.trace record' := by
      rcases List.mem_cons.mp hmem with hnew | hmem
      · cases hnew
        exact hknown
      · exact h.known token' topic' payload' record' accepted' hmem
    exact hold.mono fun e he => List.mem_cons_of_mem _ he
  · cases since with
    | nil =>
        obtain ⟨rfl, -⟩ := List.cons.inj hsplit
        obtain ⟨_, _, hid⟩ := Option.map_eq_some_iff.mp he
        refine ⟨fun _ => hconnected, fun _ _ _ => .inl ?_⟩
        rw [← (Prod.mk.inj hid).1]
        exact Finset.mem_insert_self _ _
    | cons x since =>
        obtain ⟨rfl, hsplit'⟩ := List.cons.inj hsplit
        exact @Guarded.later b _ [_] since c d (h.guarded since e earlier c d hsplit' he) rfl rfl
          fun hc _ _ => .inl (Finset.mem_insert_of_mem hc)
  · obtain ⟨later, second, first, earlier, other, hsplit, hpublished, hsecond⟩ := hbetween
    cases later with
    | cons x later =>
        obtain ⟨rfl, hsplit'⟩ := List.cons.inj hsplit
        exact h.reopened c d between
          ⟨later, second, first, earlier, other, hsplit', hpublished, hsecond⟩
    | nil =>
        obtain ⟨rfl, hsplit'⟩ := List.cons.inj hsplit
        obtain ⟨_, _, hid⟩ := Option.map_eq_some_iff.mp hsecond
        obtain rfl : record.commandId = c := (Prod.mk.inj hid).1
        have hmem : first ∈ b.trace := by
          have hin : first ∈ between ++ first :: earlier := by simp
          rwa [← hsplit'] at hin
        by_contra hneither
        obtain ⟨hreopened, hresignalled⟩ := not_or.mp hneither
        rcases hfirst with ⟨hunmarked, hactive⟩ | huntouched
        · rcases (h.guarded between first earlier _ d hsplit' hpublished).marked hconnected
            hreopened hresignalled with hmarked | hclosed
          · exact hunmarked hmarked
          · rw [hs.lifecycle.closed_inactive _ hclosed] at hactive
            cases hactive
        · exact huntouched first hmem (Event.touches_of_publication hpublished)

lemma tick (hs : Sound b) (h : Disciplined b) (htick : Tick cfg b b') : Disciplined b' := by
  have hpast := (htick.touch hs.wellformed).past
  cases htick.marks hs with
  | kept hkept => exact h.kept hkept hpast
  | ended ended hclosed hmqtt hmarks hgrown =>
      obtain ⟨es, hlog, hes⟩ := hgrown
      have htrace := trace_of_log hlog hpast
      refine h.grow htrace (fun e he => (hes e he).unpublished) fun since c d _ hguarded =>
        hguarded.later htrace hmqtt fun hc _ _ => ?_
      by_cases hid : c = ended
      · exact .inr (hid ▸ hclosed)
      · exact .inl (hmarks (Finset.mem_erase.mpr ⟨hid, hc⟩))
  | mqtt available heq =>
      rw [heq]
      exact h.mqtt available
  | signalled deviceId wasOnline hmqtt hlog hmarks =>
      have htrace : b'.trace = [.deviceUpdated deviceId wasOnline true true] ++ b.trace :=
        trace_of_log hlog hpast
      refine h.grow htrace (by simp [Event.Unpublished]) fun since c d hsent hguarded =>
        hguarded.later htrace hmqtt fun hc hreopened hresignalled =>
          (hmarks c hc).imp id fun hfor => ?_
      obtain ⟨e, he, hpublication⟩ := hsent
      obtain rfl := h.target_of_commandsFor hs.wellformed he hpublication hfor
      cases wasOnline with
      | false => exact absurd (.inr ⟨true, List.mem_cons_self⟩) hreopened
      | true => exact absurd List.mem_cons_self hresignalled
  | sent hconnected hknown hfirst hkept =>
      exact (h.published hs hconnected hknown hfirst).kept hkept hpast

/-- A new process is not connected. -/
lemma restarted (h : Disciplined b) (hrestart : Restarted cfg b b') : Disciplined b' := by
  obtain ⟨written, _, hpast⟩ := hrestart.recovery
  have htrace : b'.trace = (b'.log ++ written.map .committed) ++ b.trace := by
    rw [RuntimeBundle.trace, hpast, List.append_assoc]
  have hlost : .mqttAvailable false ∈ b'.log ++ written.map Event.committed :=
    List.mem_append_left _ hrestart.disconnected
  refine h.grow htrace (fun e he => ?_) fun since c d _ _ =>
    ⟨fun hmem => absurd (List.mem_append_left _ hlost) hmem, fun hconnected => ?_⟩
  · rcases List.mem_append.mp he with he | he
    · rcases hrestart.log e he with rfl | ⟨message, rfl⟩ <;> trivial
    · obtain ⟨r, _, rfl⟩ := List.mem_map.mp he
      trivial
  · rw [hrestart.mqttAvailable] at hconnected
    cases hconnected

lemma blank : Disciplined .blank where
  known _ _ _ _ _ hmem := by cases hmem
  guarded since e earlier c d hsplit := by
    have := congrArg List.length hsplit
    simp [RuntimeBundle.trace, RuntimeBundle.blank] at this
  reopened c d between := by
    rintro ⟨later, second, first, earlier, other, hsplit, _⟩
    have := congrArg List.length hsplit
    simp [RuntimeBundle.trace, RuntimeBundle.blank] at this

end Disciplined

lemma disciplined_of_reachable {cfg : CommandServiceConfig} {b : RuntimeBundle}
    (hb : (routeService cfg).Reachable b) : Disciplined b :=
  (reachable_of_ticks (P := fun b => Sound b ∧ Disciplined b) ⟨.blank, .blank⟩
    (fun _ _ h hrestart => ⟨h.1.restarted hrestart, h.2.restarted hrestart⟩)
    (fun _ _ h htick => ⟨h.1.tick htick, .tick h.1 h.2 htick⟩) hb).2

/-! ### Runs -/

/-- Two different members of a list have places, one after the other. -/
lemma exists_split_of_mem {α : Type*} {l : List α} {x y : α} (hx : x ∈ l) (hy : y ∈ l)
    (hne : x ≠ y) : ∃ later between earlier,
      l = later ++ x :: (between ++ y :: earlier) ∨
        l = later ++ y :: (between ++ x :: earlier) := by
  obtain ⟨later, earlier, rfl⟩ := List.mem_iff_append.mp hx
  rcases List.mem_append.mp hy with hy | hy
  · obtain ⟨later', between, rfl⟩ := List.mem_iff_append.mp hy
    exact ⟨later', between, earlier, .inr (by simp)⟩
  · obtain ⟨between, earlier', rfl⟩ :=
      List.mem_iff_append.mp ((List.mem_cons.mp hy).resolve_left hne.symm)
    exact ⟨later, between, earlier', .inl rfl⟩

/-- **A command is published again only for a reason**: between two publications of
it the connection comes back, a new process begins or its device comes online, as
long as `OnTargetOnline` is not called for the device while that is online already.
So of two publications that are outstanding at a time one was made after such a
reason, or after such a call. -/
theorem republications_reopened {cfg : CommandServiceConfig} {b : RuntimeBundle}
    (hb : (routeService cfg).Reachable b) :
    (∀ commandId deviceId between, BetweenPublications b.trace commandId deviceId between →
      ¬ Resignalled deviceId between → Reopened deviceId between) ∧
    ∀ t t' context context' record record', b.publications.lookup t = some context →
      b.publications.lookup t' = some context' → t ≠ t' → context.record = some record →
      context'.record = some record' → record.commandId = record'.commandId →
      ∃ deviceId between, BetweenPublications b.trace record.commandId deviceId between ∧
        (Reopened deviceId between ∨ Resignalled deviceId between) := by
  have hdisciplined := disciplined_of_reachable hb
  have hmessages := (delivery_of_reachable hb).messages
  refine ⟨fun c d between hbetween hresignalled =>
    (hdisciplined.reopened c d between hbetween).resolve_right hresignalled,
    fun t t' k k' r r' hk hk' hne hr hr' hid => ?_⟩
  -- what is outstanding has been published, with its token
  have hpublication : ∀ {t : ℕ} {k : RequestContext} {r : CommandRecord},
      b.publications.lookup t = some k → k.record = some r → ∃ topic payload deviceId,
        .published t topic payload r true ∈ b.trace ∧
          (Event.published t topic payload r true).publication = some (r.commandId, deviceId) := by
    intro t k r hk hr
    obtain ⟨topic, payload, hmem⟩ := hmessages.outstanding t k r hk hr
    obtain ⟨⟨_, ⟨deviceId, hdevice, _⟩, _⟩, _⟩ := hmessages.sent t topic payload r true hmem
    exact ⟨topic, payload, deviceId, hmem, by rw [Event.publication, hdevice]; rfl⟩
  obtain ⟨topic, payload, deviceId, hmem, hpub⟩ := hpublication hk hr
  obtain ⟨topic', payload', deviceId', hmem', hpub'⟩ := hpublication hk' hr'
  rw [← hid] at hpub'
  obtain ⟨later, between, earlier, hsplit | hsplit⟩ := exists_split_of_mem hmem hmem' fun h =>
    hne (Event.published.inj h).1
  · have hbetween : BetweenPublications b.trace r.commandId deviceId' between :=
      ⟨later, _, _, earlier, deviceId, hsplit, hpub', hpub⟩
    exact ⟨deviceId', between, hbetween, hdisciplined.reopened _ _ _ hbetween⟩
  · have hbetween : BetweenPublications b.trace r.commandId deviceId between :=
      ⟨later, _, _, earlier, deviceId', hsplit, hpub, hpub'⟩
    exact ⟨deviceId, between, hbetween, hdisciplined.reopened _ _ _ hbetween⟩

/-- The event may be a reason to publish again. -/
def Event.reopens : Event → Bool
  | .mqttAvailable available => available
  | .deviceUpdated _ wasOnline isOnline _ => !wasOnline && isOnline
  | _ => false

lemma not_reopened {deviceId : String} {events : List Event}
    (h : ∀ e ∈ events, e.reopens = false) : ¬ Reopened deviceId events := by
  rintro (⟨later, earlier, rfl, -⟩ | ⟨signalled, hmem⟩)
  · cases h (.mqttAvailable true) (by simp)
  · cases h _ hmem

/-- The event is a change of the directory. -/
def Event.isDeviceUpdate : Event → Bool
  | .deviceUpdated _ _ _ _ => true
  | _ => false

/-- A configuration is published, the connection is lost and comes back, and the
recovery publishes it again. -/
def Sample.rejoined : List PlainInput :=
  Sample.submitted .config true ++
    [.setMqttAvailable false, .setMqttAvailable true, .finishReady true 7]

/-- The reconnection is what lies between the two publications. -/
theorem republications_reopened_rejoined :
    ∃ between, BetweenPublications (play Sample.config Sample.started Sample.rejoined).trace
      Sample.commandId "dev1" between ∧ Reopened "dev1" between := by
  have hb : (routeService Sample.config).Reachable
      (play Sample.config Sample.started Sample.rejoined) :=
    reachable_of_played (reachable_firstStart Sample.config (fun _ _ => True) Sample.sources
      (DeviceRegistry.empty.put (Sample.device .online))).of_restrict (by decide +kernel)
  have hbetween := @betweenPublications_of_getElem
    (play Sample.config Sample.started Sample.rejoined).trace Sample.commandId "dev1" "dev1" 0 2
    (by decide +kernel) (by decide +kernel)
  have hquiet : (((play Sample.config Sample.started Sample.rejoined).trace.drop 1).take 2).all
      (fun e => !e.isDeviceUpdate) = true := by decide +kernel
  refine ⟨_, hbetween, (republications_reopened hb).1 _ _ _ hbetween fun hmem => ?_⟩
  cases List.all_eq_true.mp hquiet _ hmem

/-- A configuration is published, and then a telemetry message of its online device. -/
def Sample.refreshed : List PlainInput :=
  Sample.submitted .config true ++ [.updateDevice true (Sample.device .online) true 6]

/-- **A telemetry message is enough**: the command is published again, with no
reconnection, no restart and no offline device before, and both publications are
outstanding. -/
theorem republished_refreshed :
    (routeService Sample.config).Reachable
        (play Sample.config Sample.started Sample.refreshed) ∧
      (∃ between, BetweenPublications (play Sample.config Sample.started Sample.refreshed).trace
        Sample.commandId "dev1" between ∧ ¬ Reopened "dev1" between) ∧
      [1, 2].map (fun t =>
        ((play Sample.config Sample.started Sample.refreshed).publications.lookup t).bind
          fun context => context.record.map (·.commandId)) =
        [some Sample.commandId, some Sample.commandId] := by
  have hbetween := @betweenPublications_of_getElem
    (play Sample.config Sample.started Sample.refreshed).trace Sample.commandId "dev1" "dev1" 0 1
    (by decide +kernel) (by decide +kernel)
  have hquiet : (((play Sample.config Sample.started Sample.refreshed).trace.drop 1).take 1).all
      (fun e => !e.reopens) = true := by decide +kernel
  refine ⟨reachable_of_played (reachable_firstStart Sample.config (fun _ _ => True) Sample.sources
    (DeviceRegistry.empty.put (Sample.device .online))).of_restrict (by decide +kernel),
    ⟨_, hbetween, not_reopened fun e he => ?_⟩, by decide +kernel⟩
  simpa using List.all_eq_true.mp hquiet e he

end CnsServer
