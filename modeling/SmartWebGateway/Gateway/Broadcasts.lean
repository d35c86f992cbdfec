import SmartWebGateway.Foundation.Journal
import SmartWebGateway.Gateway.Runs
import Mathlib.Tactic

/-!
# Output broadcasts over whole runs

The three time points and the mapping point of an output mean something only
together with what the thread did before: the last subscription set the end of
the broadcasts and the mapping point, the last send set the rest. This is one
invariant of every action, and the properties of every broadcast follow.
-/
namespace SmartWebGateway

open Foundation
open TMqttToSmartWebGateway

/-- The event is the handling of a frame that subscribes to the output. -/
def Event.Subscribes (programId : Byte) (c : Output) : Event → Prop
  | .handled _ f => f.SubscribesTo programId c
  | _ => False

/-- The event is the sending of an output frame for the output. -/
def Event.SendsOutput (c : Output) : Event → Prop
  | .sent _ (.output b) => b.channelId = c
  | _ => False

/-- The frame's sending and then its recording are in the log, as neighbours. -/
def Recorded (q : ℕ) (frame : TFrame) (b : Broadcast) (log : List Event) : Prop :=
  ∃ older, (.postponed q b.channelId :: .sent frame (.output b) :: older) <:+ log

theorem Recorded.cons {q : ℕ} {frame : TFrame} {b : Broadcast} {log : List Event}
    (h : Recorded q frame b log) (e : Event) : Recorded q frame b (e :: log) := by
  obtain ⟨older, h⟩ := h
  exact ⟨older, h.trans (List.suffix_cons e log)⟩

/-- What the fields of one output say about the log. -/
structure OutputSound (w : ℕ → World) (programId : Byte) (c : Output) (j : ℕ)
    (channel : TBroadcastChannel) (log : List Event) : Prop where
  subscribed : ∀ p f, Since (fun e => ¬ e.Subscribes programId c) (.handled p f) log →
    f.SubscribesTo programId c →
    p + 2 ≤ j ∧ channel.sendEndTimePoint = (w (p + 1)).clock + sendMessagesTime ∧
      channel.mappingPoint = mappingPointOf f.data
  unsubscribed : (∀ e ∈ log, ¬ e.Subscribes programId c) → channel.sendEndTimePoint = 0
  recorded : ∀ frame b, b.channelId = c →
    Since (fun e => ¬ e.Subscribes programId c) (.sent frame (.output b)) log →
    ∃ q < j, Recorded q frame b log ∧ (w q).clock ≤ channel.lastSendTimePoint ∧
      (w q).clock + sendMessagesInterval ≤ channel.sendTimePoint
  stamped : ∀ frame b, b.channelId = c →
    Since (fun e => ¬ e.SendsOutput c) (.sent frame (.output b)) log →
    ∃ q < j, Recorded q frame b log ∧ b.readAt < q ∧ channel.lastSendTimePoint = (w q).clock

namespace OutputSound

variable {w : ℕ → World} {programId : Byte} {c : Output} {j k : ℕ} {channel : TBroadcastChannel}
  {log : List Event}

theorem mono (h : OutputSound w programId c j channel log) (hjk : j ≤ k) :
    OutputSound w programId c k channel log := by
  refine ⟨?_, h.unsubscribed, ?_, ?_⟩
  · intro p f hsince hf
    obtain ⟨hp, hrest⟩ := h.subscribed p f hsince hf
    exact ⟨hp.trans hjk, hrest⟩
  · intro frame b hb hsince
    obtain ⟨q, hq, hrest⟩ := h.recorded frame b hb hsince
    exact ⟨q, hq.trans_le hjk, hrest⟩
  · intro frame b hb hsince
    obtain ⟨q, hq, hrest⟩ := h.stamped frame b hb hsince
    exact ⟨q, hq.trans_le hjk, hrest⟩

theorem push (h : OutputSound w programId c j channel log) {e : Event}
    (hsub : ¬ e.Subscribes programId c) (hsend : ¬ e.SendsOutput c) :
    OutputSound w programId c j channel (e :: log) := by
  have hne : ∀ frame b, b.channelId = c → e ≠ .sent frame (.output b) := by
    rintro frame b hb rfl
    exact hsend hb
  constructor
  · intro p f hsince hf
    rcases since_cons.mp hsince with rfl | ⟨_, hsince⟩
    · exact absurd hf hsub
    · exact h.subscribed p f hsince hf
  · intro hnone
    exact h.unsubscribed fun e' he' => hnone e' (List.mem_cons_of_mem e he')
  · intro frame b hb hsince
    rcases since_cons.mp hsince with rfl | ⟨_, hsince⟩
    · exact absurd rfl (hne frame b hb)
    · obtain ⟨q, hq, hrec, hrest⟩ := h.recorded frame b hb hsince
      exact ⟨q, hq, hrec.cons e, hrest⟩
  · intro frame b hb hsince
    rcases since_cons.mp hsince with rfl | ⟨_, hsince⟩
    · exact absurd rfl (hne frame b hb)
    · obtain ⟨q, hq, hrec, hrest⟩ := h.stamped frame b hb hsince
      exact ⟨q, hq, hrec.cons e, hrest⟩

theorem subscribe (h : OutputSound w programId c j channel log) {f : TFrame}
    (hf : f.SubscribesTo programId c) :
    OutputSound w programId c (j + 2)
      { channel with
        sendTimePoint := (w j).clock
        sendEndTimePoint := (w (j + 1)).clock + sendMessagesTime
        mappingPoint := mappingPointOf f.data } (.handled j f :: log) := by
  constructor
  · intro p f' hsince hf'
    rcases since_cons.mp hsince with heq | ⟨hnot, _⟩
    · cases heq
      exact ⟨le_rfl, rfl, rfl⟩
    · exact absurd hf hnot
  · intro hnone
    exact absurd hf (hnone _ List.mem_cons_self)
  · intro frame b hb hsince
    rcases since_cons.mp hsince with heq | ⟨hnot, _⟩
    · cases heq
    · exact absurd hf hnot
  · intro frame b hb hsince
    rcases since_cons.mp hsince with heq | ⟨_, hsince⟩
    · cases heq
    · obtain ⟨q, hq, hrec, hrest⟩ := h.stamped frame b hb hsince
      exact ⟨q, by omega, hrec.cons _, hrest⟩

theorem broadcast (h : OutputSound w programId c j channel log)
    (hclock : ∀ q q', q ≤ q' → (w q).clock ≤ (w q').clock) {frame : TFrame} {b : Broadcast} {q : ℕ}
    (hb : b.channelId = c) (hread : b.readAt < q) (hjq : j ≤ q) :
    OutputSound w programId c (q + 1)
      { channel with
        lastSendTimePoint := (w q).clock
        sendTimePoint := (w q).clock + sendMessagesInterval }
      (.postponed q b.channelId :: .sent frame (.output b) :: log) := by
  have hnew : Recorded q frame b (.postponed q b.channelId :: .sent frame (.output b) :: log) :=
    ⟨log, List.suffix_rfl⟩
  constructor
  · intro p f hsince hf
    obtain ⟨_, _, hsince⟩ : _ ∧ _ ∧ Since _ _ log := by simpa using hsince
    obtain ⟨hp, hrest⟩ := h.subscribed p f hsince hf
    exact ⟨by omega, hrest⟩
  · intro hnone
    exact h.unsubscribed fun e he => hnone e (by simp [he])
  · intro frame' b' hb' hsince
    rcases since_cons.mp hsince with heq | ⟨_, hsince⟩
    · cases heq
    rcases since_cons.mp hsince with heq | ⟨_, hsince⟩
    · cases heq
      exact ⟨q, Nat.lt_succ_self q, hnew, le_rfl, le_rfl⟩
    · obtain ⟨q', hq', hrec, hlast, hsend⟩ := h.recorded frame' b' hb' hsince
      have hle := hclock q' q (by omega)
      exact ⟨q', by omega, (hrec.cons _).cons _, hle, Int.add_le_add_right hle _⟩
  · intro frame' b' hb' hsince
    rcases since_cons.mp hsince with heq | ⟨_, hsince⟩
    · cases heq
    rcases since_cons.mp hsince with heq | ⟨hnot, _⟩
    · cases heq
      exact ⟨q, Nat.lt_succ_self q, hnew, hread, rfl⟩
    · exact absurd hb hnot

theorem initial (garbage : TBroadcastChannel) (h : garbage.sendEndTimePoint = 0) :
    OutputSound w programId c 0 garbage [] := by
  constructor
  · intro p f hsince
    exact absurd hsince not_since_nil
  · intro _
    exact h
  · intro frame b _ hsince
    exact absurd hsince not_since_nil
  · intro frame b _ hsince
    exact absurd hsince not_since_nil

end OutputSound

/-- What `OutputSound` says of a state. -/
def TaskState.Sound (w : ℕ → World) (programId : Byte) (c : Output) (j : ℕ) (s : TaskState) :
    Prop :=
  OutputSound w programId c j (s.driverState.outputMapping c) s.log

section Runs

variable {w : ℕ → World} {c : Output} {a b : ℕ × TaskState}

theorem TFrame.SubscribesTo.unique {f : TFrame} {programId : Byte} {c c' : Output}
    (h : f.SubscribesTo programId c) (h' : f.SubscribesTo programId c') : c = c' :=
  Fin.ext (h.2.2.2.symm.trans h'.2.2.2)

theorem TaskState.subscribed_of_ne {s : TaskState} {c c' : Output} (h : c ≠ c')
    (mappingPoint : TMappingPoint) (sendTime endTime : TTimePoint) :
    (s.subscribed c' mappingPoint sendTime endTime).driverState.outputMapping c =
      s.driverState.outputMapping c := by
  simp [subscribed, updateOutput, h]

theorem TaskState.broadcasted_of_ne {s : TaskState} {b : Broadcast} (h : c ≠ b.channelId)
    (frame : TFrame) (q : ℕ) (sendTime : TTimePoint) :
    (s.broadcasted b frame q sendTime).driverState.outputMapping c =
      s.driverState.outputMapping c := by
  simp [broadcasted, postponed, updateOutput, h]

theorem Act.sound (hclock : ∀ q q', q ≤ q' → (w q).clock ≤ (w q').clock) (h : Act w a b)
    (hinit : (a.2.driverState.outputMapping c).isInitialized)
    (ha : a.2.Sound w a.2.driverState.programId c a.1) :
    b.2.Sound w a.2.driverState.programId c b.1 := by
  cases h with
  | wait hij => exact OutputSound.mono ha hij
  | timers => exact ha
  | reply frame purpose hpurpose =>
    refine OutputSound.push ha (fun he => he) ?_
    rcases hpurpose with rfl | rfl | rfl <;> exact fun he => he
  | handle f hf =>
    refine OutputSound.push ha (fun he => ?_) (fun he => he)
    rw [hf c he] at hinit
    exact absurd hinit (by simp)
  | @answer i j s f hij hf =>
    have hnot : ¬ f.SubscribesTo s.driverState.programId c := by
      intro he
      have htype := he.1
      rw [hf.1] at htype
      exact absurd htype (by decide)
    have hhandled := OutputSound.push (OutputSound.mono ha hij) (e := .handled i f) hnot
      (fun he => he)
    exact hhandled.push (fun he => he) (fun he => he)
  | @subscribe i s f c' hf hc' =>
    by_cases hc : c = c'
    · subst hc
      simpa [TaskState.Sound, TaskState.subscribed, TaskState.updateOutput]
        using OutputSound.subscribe ha hf
    · have hpush := OutputSound.push (OutputSound.mono ha (Nat.le_add_right i 2))
        (e := .handled i f) (fun he => hc (he.unique hf)) (fun he => he)
      rw [TaskState.Sound, TaskState.subscribed_of_ne hc]
      exact hpush
  | @broadcast i q s b buffer header hdue hq =>
    have hiq : i ≤ q := by
      have hread : b.readFrom ≤ b.readAt := hdue.readAt ▸ mqttReadAt_ge _ _ _
      have := hdue.start
      have := hdue.order
      omega
    by_cases hc : c = b.channelId
    · subst hc
      simpa [TaskState.Sound, TaskState.broadcasted, TaskState.postponed, TaskState.updateOutput]
        using OutputSound.broadcast ha hclock rfl hq hiq
    · rw [TaskState.Sound, TaskState.broadcasted_of_ne hc]
      have hmono := OutputSound.mono ha (hiq.trans (Nat.le_succ q))
      refine OutputSound.push (OutputSound.push hmono ?_ ?_) ?_ ?_
      · exact fun he => he
      · exact fun he => hc he.symm
      · exact fun he => he
      · exact fun he => he

theorem Acts.sound (hclock : ∀ q q', q ≤ q' → (w q).clock ≤ (w q').clock) (h : Acts w a b)
    (hinit : (a.2.driverState.outputMapping c).isInitialized)
    (ha : a.2.Sound w a.2.driverState.programId c a.1) :
    b.2.Sound w a.2.driverState.programId c b.1 := by
  induction h with
  | refl => exact ha
  | tail hab hbc ih =>
    have hsame := Acts.sameChannels hab
    rw [← hsame.programId] at ih ⊢
    refine hbc.sound hclock ?_ ih
    rwa [hsame.outputs c]

/-- Why a frame was broadcast: the channel as it was then, sound for the log before, and due. -/
def Broadcast.Justified (w : ℕ → World) (m : ControllerMapping) (b : Broadcast) (frame : TFrame)
    (earlier : List Event) : Prop :=
  ∃ i channel buffer header,
    channel.toTMqttChannel = (m.outputMapping b.channelId).toTMqttChannel ∧
    OutputSound w m.programId b.channelId i channel earlier ∧ b.Due w i channel ∧
    frame = outputFrame buffer header channel.mappingPoint
      (mqttValue w b.readFrom channel.device channel.control)

/-- Every output frame in the log is justified by what the log held before it. -/
def AllJustified (w : ℕ → World) (m : ControllerMapping) : List Event → Prop :=
  AtEach fun e earlier => ∀ frame b, e = .sent frame (.output b) → b.Justified w m frame earlier

theorem AllJustified.push {m : ControllerMapping} {log : List Event} (h : AllJustified w m log)
    {e : Event} (he : ∀ frame b, e ≠ .sent frame (.output b)) : AllJustified w m (e :: log) :=
  atEach_cons.mpr ⟨fun frame b heq => absurd heq (he frame b), h⟩

theorem Act.allJustified {m : ControllerMapping} (h : Act w a b)
    (hsame : m.SameChannels a.2.driverState)
    (hsound : ∀ c, (a.2.driverState.outputMapping c).isInitialized →
      a.2.Sound w a.2.driverState.programId c a.1)
    (ha : AllJustified w m a.2.log) : AllJustified w m b.2.log := by
  cases h with
  | wait => exact ha
  | timers => exact ha
  | reply frame purpose hpurpose =>
    apply AllJustified.push ha
    rintro frame b ⟨⟩
    simp at hpurpose
  | handle f => exact AllJustified.push ha (by simp)
  | answer f => exact AllJustified.push (AllJustified.push ha (by simp)) (by simp)
  | subscribe f => exact AllJustified.push ha (by simp)
  | @broadcast i q s b buffer header hdue hq =>
    refine AllJustified.push (atEach_cons.mpr ⟨?_, ha⟩) (by simp)
    rintro frame b' ⟨⟩
    have hinit : (s.driverState.outputMapping b.channelId).isInitialized := by
      simp [TMqttChannel.isInitialized, hdue.named.1]
    refine ⟨i, s.driverState.outputMapping b.channelId, buffer, header, hsame.outputs _, ?_, hdue,
      rfl⟩
    rw [← hsame.programId]
    exact hsound _ hinit

/-- A thread that starts with an empty log and idle outputs. -/
structure TaskState.Fresh (s : TaskState) : Prop where
  log : s.log = []
  idle : ∀ c, (s.driverState.outputMapping c).sendEndTimePoint = 0

theorem Acts.sound_of_fresh {s : TaskState} (hclock : ∀ q q', q ≤ q' → (w q).clock ≤ (w q').clock)
    (h : Acts w (0, s) b) (hs : s.Fresh) (c : Output)
    (hinit : (s.driverState.outputMapping c).isInitialized) :
    b.2.Sound w s.driverState.programId c b.1 := by
  apply h.sound hclock hinit
  rw [TaskState.Sound, hs.log]
  exact .initial _ (hs.idle c)

theorem Acts.allJustified {s : TaskState} (hclock : ∀ q q', q ≤ q' → (w q).clock ≤ (w q').clock)
    (h : Acts w (0, s) b) (hs : s.Fresh) : AllJustified w s.driverState b.2.log := by
  induction h with
  | refl =>
    rw [hs.log]
    exact atEach_nil
  | tail hab hbc ih =>
    have hsame := Acts.sameChannels hab
    refine hbc.allJustified hsame ?_ ih
    intro c hinit
    rw [hsame.outputs c] at hinit
    rw [hsame.programId]
    exact Acts.sound_of_fresh hclock hab hs c hinit

end Runs

section Deployment

variable {configJson : ControllerObject} {load : Loading configJson} {env : Environment}

theorem Loading.fresh (load : Loading configJson) : (TaskState.initial load.config).Fresh :=
  ⟨rfl, fun c => congrArg TChannelState.sendEndTimePoint (load.loaded.outputs.idle c)⟩

theorem Environment.clock_le (env : Environment) (q q' : ℕ) (h : q ≤ q') :
    (env.world q).clock ≤ (env.world q').clock := env.clock_mono h

theorem Loading.exists_sensor (load : Loading configJson) {c : Output}
    (h : (load.config.outputMapping c).isInitialized) :
    ∃ e ∈ configJson.entries, c ∈ e.output ∧
      TMqttChannel.fromString e.channel = .ok (load.config.outputMapping c).toTMqttChannel := by
  by_contra hnone
  have hunnamed := load.loaded.outputs.not_isInitialized fun e he ho =>
    hnone ⟨e, he, ho, load.loaded.outputs.named e he c ho⟩
  rw [hunnamed] at h
  cases h

theorem OutputSound.exists_subscription {programId : Byte} {c : Output} {j i : ℕ}
    {channel : TBroadcastChannel} {log : List Event}
    (h : OutputSound env.world programId c j channel log)
    (hi : (env.world i).clock ≤ channel.sendEndTimePoint) :
    ∃ p f, Since (fun e => ¬ e.Subscribes programId c) (.handled p f) log ∧
      f.SubscribesTo programId c := by
  have hpos := (env.world i).clockBounds.1
  have hsome : ∃ e ∈ log, e.Subscribes programId c := by
    by_contra hnone
    push Not at hnone
    rw [h.unsubscribed hnone] at hi
    exact absurd hpos (not_lt.mpr hi)
  obtain ⟨e, he, hsince⟩ := exists_since hsome
  cases e with
  | handled p f => exact ⟨p, f, hsince, he⟩
  | _ => exact absurd he id

/-- Every output frame belongs to a sensor, to the latest subscription of its output, and
comes no sooner after the one before than the interval or an update allows. -/
theorem broadcasts_follow_subscriptions (h : Deployed load env) {inputs : ℕ → Option TFrame}
    {n j : ℕ} {s : TaskState} (hreaches : Reaches load env inputs n j s) {frame : TFrame}
    {b : Broadcast} {earlier : List Event}
    (hlog : (.sent frame (.output b) :: earlier) <:+ s.log) :
    ∃ e ∈ configJson.entries, ∃ channel, b.channelId ∈ e.output ∧
      TMqttChannel.fromString e.channel = .ok channel ∧
      (∃ p f, Since (fun e => ¬ e.Subscribes load.config.programId b.channelId)
          (.handled p f) earlier ∧
        f.SubscribesTo load.config.programId b.channelId ∧ p + 2 ≤ b.checkedAt ∧
        (env.world b.checkedAt).clock ≤ (env.world (p + 1)).clock + sendMessagesTime ∧
        frame.data[0]! = f.data[0]! ∧ frame.data[1]! = f.data[1]!) ∧
      b.checkedAt < b.readFrom ∧
      frame.data[2]! ++ frame.data[3]! =
        mqttValue env.world b.readFrom channel.device channel.control ∧
      ∀ frame' b', b'.channelId = b.channelId →
        Since (fun e => ¬ e.Subscribes load.config.programId b.channelId)
          (.sent frame' (.output b')) earlier →
        ∃ q, Recorded q frame' b' earlier ∧
          ((env.world q).clock + sendMessagesInterval ≤ (env.world b.readFrom).clock ∨
            ∃ u ∈ (env.world (b.checkedAt + 1)).updates,
              u.IsOf channel ∧ (env.world q).clock < u.time) := by
  obtain ⟨i, channel, buffer, header, hsame, hsound, hdue, hframe⟩ :=
    (h.acts hreaches).allJustified env.clock_le load.fresh _ earlier hlog frame b rfl
  have hdevice : (load.config.outputMapping b.channelId).device = channel.device :=
    congrArg TMqttChannel.device hsame.symm
  have hmapped : (load.config.outputMapping b.channelId).isInitialized := by
    simp [TMqttChannel.isInitialized, hdevice, hdue.named.1]
  obtain ⟨e, he, ho, hchannel⟩ := load.exists_sensor hmapped
  rw [← show channel.toTMqttChannel = (load.config.outputMapping b.channelId).toTMqttChannel
    from hsame] at hchannel
  refine ⟨e, he, channel.toTMqttChannel, ho, hchannel, ?_, hdue.order, ?_, ?_⟩
  · obtain ⟨p, f, hsince, hf⟩ := hsound.exists_subscription hdue.notLate
    obtain ⟨hp, hend, hpoint⟩ := hsound.subscribed p f hsince hf
    refine ⟨p, f, hsince, hf, hp.trans hdue.start, hend ▸ hdue.notLate, ?_, ?_⟩
    · simp [hframe, outputFrame, hpoint, mappingPointOf, TMappingPoint.ofRawID]
    · simp [hframe, outputFrame, hpoint, mappingPointOf]
  · simp [hframe, outputFrame, highByte_append_lowByte]
  · intro frame' b' hb' hsince
    obtain ⟨q, hq, hrecorded, hlast, hsend⟩ := hsound.recorded frame' b' hb' hsince
    refine ⟨q, hrecorded, ?_⟩
    obtain ⟨timing, hlookup, hfresh⟩ := hdue.fresh
    rcases hfresh with hupdated | ⟨k, _, hk, htime⟩
    · right
      obtain ⟨u, hu, htext, htime⟩ := h.exists_update hlookup (hlast.trans_lt hupdated)
      have hslash := (TMqttChannel.fromString_eq_ok.mp hchannel).2.1
      exact ⟨u, hu, MqttUpdate.isOf_of_text hslash htext, htime ▸ hlast.trans_lt hupdated⟩
    · left
      exact hsend.trans (htime.trans (env.clock_mono hk))

end Deployment

/-! One round on the room's output request. -/

/-- The output frame that answers the room's request. -/
def roomOutputFrame : TFrame where
  canId := TCanHeader.raw ⟨ptController, 7, Controller.Function.getOutputValue, 0, mtMsgResponse, 4⟩
  canDlc := 4
  data := #v[7, 0, 128, 2, 0, 0, 0, 0]

/-- Its value is read at the eighth observation and its send stamped at the ninth. -/
def roomBroadcast : Broadcast := ⟨0, 5, 7, 8⟩

/-- What the thread logs in one round on the room's output request. -/
def roomLog : List Event :=
  [.sent (iAmHereFrame 7 0) .iAmHere, .postponed 9 0,
    .sent roomOutputFrame (.output roomBroadcast), .handled 2 roomOutputRequest]

theorem broadcasts_follow_subscriptions_room :
    ∃ e ∈ roomController.entries, ∃ channel, (0 : Output) ∈ e.output ∧
      TMqttChannel.fromString e.channel = .ok channel ∧
      ∃ p f, Since (fun e => ¬ Event.Subscribes roomLoading.config.programId 0 e)
        (Event.handled p f) [Event.handled 2 roomOutputRequest] := by
  have hlog : (runState roomLoading roomEnvironment (fun _ => some roomOutputRequest) 1).log =
      roomLog := by decide +kernel
  have hsent : (.sent roomOutputFrame (.output roomBroadcast) :: [.handled 2 roomOutputRequest]) <:+
      (runState roomLoading roomEnvironment (fun _ => some roomOutputRequest) 1).log := by
    rw [hlog]
    exact List.suffix_append [_, _] _
  obtain ⟨e, he, channel, ho, hchannel, ⟨p, f, hsince, _⟩, _⟩ :=
    broadcasts_follow_subscriptions roomEnvironment_deployed
      (roomEnvironment_deployed.reaches (fun _ => some roomOutputRequest) 1) hsent
  exact ⟨e, he, channel, ho, hchannel, p, f, hsince⟩

end SmartWebGateway
