/-
The buffered device ACKs.

An ACK that arrives before the dispatch of its command is stored is kept in
`early_device_acks_` under the command id it names, and taken out when the
dispatch is stored or the command ends.

* `Tick.early`: where an entry comes from;
* `EarlyNamed`: the payload of an entry names the command of its key.
-/
import CnsServer.Invariants.Lifecycle

namespace CnsServer

open RuntimeBundle

/-- The payload is an ACK for the active command `c`, which is still pending. -/
structure Premature (cfg : CommandServiceConfig) (b : RuntimeBundle) (c : String)
    (early : EarlyDeviceAck) (context : RequestContext) (ack : DeviceAck) : Prop where
  parsed : parseDeviceAck context.commandType (cfg.parseJson early.payload) = some ack
  commandId : ack.commandId = c
  active : b.activeCommands.lookup c = some context
  pending : context.record.map (·.status) = some .pending

/-- **Where a buffered ACK comes from**: it was there, or has just arrived. -/
lemma Tick.early {cfg : CommandServiceConfig} {b b' : RuntimeBundle} (htick : Tick cfg b b')
    {c : String} {early : EarlyDeviceAck} (h : b'.earlyDeviceAcks.lookup c = some early) :
    b.earlyDeviceAcks.lookup c = some early ∨
      ∃ context ack, Premature cfg b c early context ack := by
  cases htick with
  | quiet hcore => exact .inl (hcore.earlyDeviceAcks c ▸ h)
  | refresh =>
      refine .inl ?_
      dsimp only at h
      split at h
      · exact (Map.lookup_erase_some.mp h).2
      · exact h
  | finish => exact .inl (Map.lookup_erase_some.mp h).2
  | finished => exact .inl (Map.lookup_erase_some.mp h).2
  | @buffer context record ack deviceId payload type now hparse hactive hrecord _ htype _
        hpending =>
      rcases bufferEarlyAck_cases cfg (b.emit (.deviceAcked deviceId type ack
        (some record.status))) type ack ⟨deviceId, payload, now⟩ with
        ⟨kept, hkept, heq⟩ | ⟨message, heq⟩
      · rw [heq] at h
        rcases Map.lookup_insert_some.mp h with ⟨rfl, rfl⟩ | ⟨_, hold⟩
        · rcases hkept with rfl | hold
          · refine .inr ⟨context, ack, ?_, rfl, hactive, ?_⟩
            · rw [htype]
              exact hparse
            · rw [hrecord, ← hpending]
              rfl
          · exact .inl hold
        · exact .inl hold
      · rw [heq] at h
        exact .inl h
  | find => exact .inl (by rwa [earlyDeviceAcks_submit] at h)
  | cleanup => exact .inl (by rwa [earlyDeviceAcks_submit] at h)
  | create => exact .inl (by rwa [earlyDeviceAcks_submit] at h)
  | conflict => exact .inl (by rwa [earlyDeviceAcks_submit] at h)
  | activate => exact .inl (by rwa [earlyDeviceAcks_publishRecord] at h)
  | republish => exact .inl (by rwa [earlyDeviceAcks_publishRecord] at h)
  | converge => exact .inl (by rwa [earlyDeviceAcks_submitTransitionOrDefer] at h)
  | deviceAck =>
      rw [applyDeviceAck, earlyDeviceAcks_submitTransitionOrDefer] at h
      exact .inl h
  | timeout =>
      rw [submitTimeout, earlyDeviceAcks_submitTransitionOrDefer] at h
      exact .inl h
  | complete => exact .inl (by rwa [earlyDeviceAcks_handleCompletion] at h)
  | retry => exact .inl (by rwa [earlyDeviceAcks_retryDeferred] at h)
  | worker | mqtt | device | consumed | settle => exact .inl h

/-- The payload of every buffered ACK names the command it is kept for. -/
def EarlyNamed (cfg : CommandServiceConfig) (b : RuntimeBundle) : Prop :=
  ∀ c early, b.earlyDeviceAcks.lookup c = some early → ∀ type ack,
    parseDeviceAck type (cfg.parseJson early.payload) = some ack → ack.commandId = c

lemma EarlyNamed.tick {cfg : CommandServiceConfig} {b b' : RuntimeBundle} (h : EarlyNamed cfg b)
    (htick : Tick cfg b b') : EarlyNamed cfg b' := by
  intro c early hearly type ack hparse
  rcases htick.early hearly with hold | ⟨context, ack', hnew⟩
  · exact h c early hold type ack hparse
  · have hread := parseDeviceAck_commandId hparse
    rw [parseDeviceAck_commandId hnew.parsed, hnew.commandId] at hread
    exact (Option.some.inj hread).symm

lemma EarlyNamed.restarted {cfg : CommandServiceConfig} {b b' : RuntimeBundle}
    (hrestart : Restarted cfg b b') : EarlyNamed cfg b' := by
  intro c early hearly
  rw [hrestart.earlyDeviceAcks] at hearly
  cases hearly

lemma earlyNamed_of_reachable {cfg : CommandServiceConfig} {b : RuntimeBundle}
    (hb : (routeService cfg).Reachable b) : EarlyNamed cfg b :=
  reachable_of_ticks (fun c early hearly => by cases hearly) (fun _ _ _ h => .restarted h)
    (fun _ _ h htick => h.tick htick) hb

end CnsServer
