import SmartWebGateway.Gateway.Iteration
import Mathlib.Tactic

/-!
# Updates that arrive while a value is being sent

The value of a broadcast is read, then sent, and only then is the send stamped.
An update after the reading counts as new as long as the stamp does not come
after it; one that arrives before the stamp does not count, and waits.
-/
namespace SmartWebGateway

open Foundation
open TMqttToSmartWebGateway

/-- No update of the channel falls between the reading of a broadcast's value and the stamp, and
none after the stamp carries the stamp's own clock reading. -/
structure Broadcast.Undisturbed (env : Environment) (b : Broadcast) (q : ℕ)
    (channel : TMqttChannel) : Prop where
  before : ¬ (env.world b.readAt).UpdatedSince (env.world q) channel
  after : ∀ k recent, (env.world k).updates = recent ++ (env.world q).updates →
    ∀ u ∈ recent, u.IsOf channel → u.time ≠ (env.world q).clock

section Updates

variable {configJson : ControllerObject} {load : Loading configJson} {env : Environment}
  {inputs : ℕ → Option TFrame} {n j : ℕ} {s : TaskState}

/-- An update after an undisturbed reading is later than the stamp. -/
theorem Broadcast.Undisturbed.later {b : Broadcast} {q : ℕ} {channel : TMqttChannel}
    (h : b.Undisturbed env q channel) (hread : b.readAt ≤ q) (hq : q ≤ j)
    (hupdate : (env.world b.readAt).UpdatedSince (env.world j) channel) :
    ∃ u ∈ (env.world j).updates, u.IsOf channel ∧ (env.world q).clock < u.time := by
  obtain ⟨between, hbetween, _⟩ := env.updates_since hread
  obtain ⟨later, hlater, htime⟩ := env.updates_since hq
  obtain ⟨recent, hrecent, u, hu, huof⟩ := hupdate
  have hsplit : recent = later ++ between := by
    apply List.append_cancel_right
    rw [← hrecent, hlater, hbetween, List.append_assoc]
  rw [hsplit] at hu
  rcases List.mem_append.mp hu with hu | hu
  · exact ⟨u, hlater ▸ List.mem_append_left _ hu, huof,
      lt_of_le_of_ne (htime u hu) (h.after j later hlater u hu huof).symm⟩
  · exact absurd ⟨between, hbetween, u, hu, huof⟩ h.before

theorem Deployed.sent_named (h : Deployed load env) (hreaches : Reaches load env inputs n j s)
    {frame : TFrame} {b : Broadcast} (hsent : .sent frame (.output b) ∈ s.log) :
    (load.config.outputMapping b.channelId).device ≠ "" ∧
      (load.config.outputMapping b.channelId).control ≠ "" := by
  obtain ⟨recent, earlier, hlog⟩ := List.append_of_mem hsent
  have hjustified := (h.acts hreaches).allJustified env.clock_le load.fresh
    (.sent frame (.output b)) earlier ⟨recent, hlog.symm⟩ frame b rfl
  obtain ⟨i, channel, buffer, header, hsame, _, hdue, _⟩ := hjustified
  have hchannel : (load.config.outputMapping b.channelId).toTMqttChannel =
    channel.toTMqttChannel := hsame.symm
  have hnamed := hdue.named
  rw [← hchannel] at hnamed
  exact hnamed

/-- In a run whose broadcasts are all undisturbed, a channel that was updated after its last value
was read has an update after the last stamp. -/
theorem Deployed.stillUpdated (h : Deployed load env) (hreaches : Reaches load env inputs n j s)
    (hquiet : ∀ q frame b, Recorded q frame b s.log →
      b.Undisturbed env q (load.config.outputMapping b.channelId).toTMqttChannel)
    {frame : TFrame} {b : Broadcast}
    (hlast : Since (fun e => ¬ e.SendsOutput b.channelId) (.sent frame (.output b)) s.log)
    (hupdate : (env.world b.readAt).UpdatedSince (env.world j)
      (load.config.outputMapping b.channelId).toTMqttChannel) :
    ∃ timing, (env.world j).timing.lookup
        (s.driverState.outputMapping b.channelId).toString = some timing ∧
      (s.driverState.outputMapping b.channelId).lastSendTimePoint <
        timing.lastUpdateTimePoint := by
  have hacts := h.acts hreaches
  have hsame : (s.driverState.outputMapping b.channelId).toTMqttChannel =
      (load.config.outputMapping b.channelId).toTMqttChannel :=
    hacts.sameChannels.outputs b.channelId
  have hinit : (load.config.outputMapping b.channelId).isInitialized := by
    simp [TMqttChannel.isInitialized, (h.sent_named hreaches hlast.mem).1]
  obtain ⟨q, hq, hrecorded, hread, hstamp⟩ :=
    (hacts.sound_of_fresh env.clock_le load.fresh b.channelId hinit).stamped frame b rfl hlast
  obtain ⟨u, hu, huof, hlater⟩ := (hquiet q frame b hrecorded).later hread.le hq.le hupdate
  obtain ⟨timing, htiming⟩ :=
    Option.isSome_iff_exists.mp ((h.covered j).outputs b.channelId hinit)
  rw [hsame, hstamp]
  exact ⟨timing, htiming, hlater.trans_le
    ((h.sound j).latest _ timing htiming u hu (MqttUpdate.text_eq_of_isOf huof))⟩

/-- In a run whose broadcasts are all undisturbed, a channel that was updated after its last value
was read still counts as updated, and the next round of a running connection sends it. -/
theorem no_update_lost (h : Deployed load env) (hreaches : Reaches load env inputs n j s)
    (hquiet : ∀ q frame b, Recorded q frame b s.log →
      b.Undisturbed env q (load.config.outputMapping b.channelId).toTMqttChannel)
    {frame : TFrame} {b : Broadcast}
    (hlast : Since (fun e => ¬ e.SendsOutput b.channelId) (.sent frame (.output b)) s.log)
    (hupdate : (env.world b.readAt).UpdatedSince (env.world j)
      (load.config.outputMapping b.channelId).toTMqttChannel) :
    (∃ timing, (env.world j).timing.lookup
        (s.driverState.outputMapping b.channelId).toString = some timing ∧
      (s.driverState.outputMapping b.channelId).lastSendTimePoint <
        timing.lastUpdateTimePoint) ∧
    ∀ input k t, (iteration input).run env.world j s = (.ok (), k, t) →
      t.status = .running → (∀ f ∈ input, f.Served load.config.programId) →
      (env.world k).clock ≤ (s.driverState.outputMapping b.channelId).sendEndTimePoint →
      LoggedSince (Event.SendsOutput b.channelId) s t := by
  have hfresh := h.stillUpdated hreaches hquiet hlast hupdate
  refine ⟨hfresh, ?_⟩
  intro input k t hround hrun hserved hend
  have hsame : (s.driverState.outputMapping b.channelId).toTMqttChannel =
      (load.config.outputMapping b.channelId).toTMqttChannel :=
    (h.acts hreaches).sameChannels.outputs b.channelId
  have hnamed := h.sent_named hreaches hlast.mem
  rw [← hsame] at hnamed
  have hdue : (s.driverState.outputMapping b.channelId).DueUntil (env.world j)
      (s.driverState.outputMapping b.channelId).sendEndTimePoint :=
    ⟨hnamed.1, hnamed.2, le_rfl, Or.inr hfresh⟩
  exact h.round_sends hreaches hdue hround hrun hserved hend

end Updates

/-! The room's sensor is updated between the reading of its value and the stamp. -/

theorem roomBroadcast_last :
    Since (fun e => ¬ e.SendsOutput 0) (.sent roomOutputFrame (.output roomBroadcast)) roomLog := by
  simp [roomLog, Event.SendsOutput]

@[irreducible] def roomStateAfter (n : ℕ) : TaskState :=
  runState roomLoading (roomUpdatedAfter n) (fun _ => some roomOutputRequest) 1

@[irreducible] def roomEndAfter (n : ℕ) : ℕ :=
  runPosition roomLoading (roomUpdatedAfter n) (fun _ => some roomOutputRequest) 1

theorem roomStateAfter_reached (n : ℕ) : Reaches roomLoading (roomUpdatedAfter n)
    (fun _ => some roomOutputRequest) 1 (roomEndAfter n) (roomStateAfter n) := by
  unfold roomEndAfter roomStateAfter
  exact (roomUpdatedAfter_deployed n).reaches (fun _ => some roomOutputRequest) 1

theorem roomUpdatedAfter_updatedSince {n j : ℕ} (h : n < j) (channel : TMqttChannel)
    (hchannel : roomUpdate.IsOf channel) (k : ℕ) (hk : k ≤ n) :
    ((roomUpdatedAfter n).world k).UpdatedSince ((roomUpdatedAfter n).world j) channel := by
  simp only [roomUpdatedAfter, Evolution.jump, if_pos hk, if_neg (not_le.mpr h)]
  exact ⟨[roomUpdate], rfl, roomUpdate, by simp, hchannel⟩

/-- The update is younger than the value that was sent and older than the stamp, so the channel
does not count as updated. -/
theorem update_lost_while_sending :
    Reaches roomLoading (roomUpdatedAfter 8) (fun _ => some roomOutputRequest) 1 (roomEndAfter 8)
        (roomStateAfter 8) ∧
      Since (fun e => ¬ e.SendsOutput 0) (.sent roomOutputFrame (.output roomBroadcast))
        (roomStateAfter 8).log ∧
      ((roomUpdatedAfter 8).world roomBroadcast.readAt).UpdatedSince
        ((roomUpdatedAfter 8).world (roomEndAfter 8)) ⟨"room", "temperature"⟩ ∧
      ∃ timing, ((roomUpdatedAfter 8).world (roomEndAfter 8)).timing.lookup
          ((roomStateAfter 8).driverState.outputMapping 0).toString = some timing ∧
        ¬ ((roomStateAfter 8).driverState.outputMapping 0).lastSendTimePoint <
          timing.lastUpdateTimePoint := by
  have hlog : (roomStateAfter 8).log = roomLog := by decide +kernel
  have hend : 8 < roomEndAfter 8 := by decide +kernel
  refine ⟨roomStateAfter_reached 8, hlog ▸ roomBroadcast_last, ?_, ⟨2, 5⟩, by decide +kernel,
    by decide +kernel⟩
  exact roomUpdatedAfter_updatedSince hend _ ⟨rfl, rfl⟩ 8 le_rfl

theorem roomLog_recorded {q : ℕ} {frame : TFrame} {b : Broadcast}
    (h : Recorded q frame b roomLog) : q = 9 ∧ b = roomBroadcast := by
  obtain ⟨older, h⟩ := h
  obtain ⟨⟨hq, _⟩, ⟨_, hb⟩, _⟩ : (q = 9 ∧ b.channelId = 0) ∧
      (frame = roomOutputFrame ∧ b = roomBroadcast) ∧ older = [.handled 2 roomOutputRequest] := by
    simpa [roomLog, List.suffix_cons_iff] using h
  exact ⟨hq, hb⟩

theorem roomBroadcast_undisturbed (channel : TMqttChannel) :
    roomBroadcast.Undisturbed (roomUpdatedAfter 10) 9 channel := by
  have h9 : ((roomUpdatedAfter 10).world 9).updates = [] := rfl
  constructor
  · rintro ⟨recent, hrecent, u, hu, -⟩
    rw [h9] at hrecent
    rw [(List.append_eq_nil_iff.mp hrecent.symm).1] at hu
    exact absurd hu List.not_mem_nil
  · intro k recent hrecent u hu _
    rw [h9, List.append_nil] at hrecent
    have hmem : u ∈ ((roomUpdatedAfter 10).world k).updates := hrecent ▸ hu
    simp only [roomUpdatedAfter, Evolution.jump] at hmem
    split_ifs at hmem
    · exact absurd hmem List.not_mem_nil
    · rw [List.mem_singleton.mp hmem]
      decide

/-- An update after the stamp counts. -/
theorem no_update_lost_room :
    ∃ timing, ((roomUpdatedAfter 10).world (roomEndAfter 10)).timing.lookup
        ((roomStateAfter 10).driverState.outputMapping 0).toString = some timing ∧
      ((roomStateAfter 10).driverState.outputMapping 0).lastSendTimePoint <
        timing.lastUpdateTimePoint := by
  have hlog : (roomStateAfter 10).log = roomLog := by decide +kernel
  have hend : 10 < roomEndAfter 10 := by decide +kernel
  have hchannel :
      (roomLoading.config.outputMapping 0).toTMqttChannel = ⟨"room", "temperature"⟩ := by
    decide +kernel
  have hupdate := roomUpdatedAfter_updatedSince hend
    (roomLoading.config.outputMapping 0).toTMqttChannel (hchannel ▸ ⟨rfl, rfl⟩) 8 (by decide)
  have hquiet : ∀ q frame b, Recorded q frame b (roomStateAfter 10).log →
      b.Undisturbed (roomUpdatedAfter 10) q
        (roomLoading.config.outputMapping b.channelId).toTMqttChannel := by
    intro q frame b hrecorded
    rw [hlog] at hrecorded
    obtain ⟨rfl, rfl⟩ := roomLog_recorded hrecorded
    exact roomBroadcast_undisturbed _
  have hlast : Since (fun e => ¬ e.SendsOutput roomBroadcast.channelId)
      (.sent roomOutputFrame (.output roomBroadcast)) (roomStateAfter 10).log := by
    rw [hlog]
    exact roomBroadcast_last
  exact (no_update_lost (roomUpdatedAfter_deployed 10) (roomStateAfter_reached 10) hquiet hlast
    hupdate).1

end SmartWebGateway
