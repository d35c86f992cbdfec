import SmartWebGateway.Gateway.Rounds
import Mathlib.Logic.Relation
import Mathlib.Tactic

/-!
# What the thread can do to its state

The thread's state changes in seven ways only. Each is one action below,
together with everything the code has checked when it takes it. Every run of
`TaskFn` is a chain of actions, so what every action keeps holds along every
run, and no invariant has to look at the code again.
-/
namespace SmartWebGateway

open Foundation
open TMqttToSmartWebGateway

/-- A frame subscribes to an output if it is an output request for one of our own. -/
def TFrame.SubscribesTo (f : TFrame) (programId : Byte) (c : Output) : Prop :=
  f.header.programType = ptController ∧
    f.header.functionId = Controller.Function.getOutputValue ∧
      (mappingPointOf f.data).hostID = programId ∧ (mappingPointOf f.data).channelID.toNat = c

instance (f : TFrame) (programId : Byte) (c : Output) : Decidable (f.SubscribesTo programId c) :=
  inferInstanceAs (Decidable (_ ∧ _ ∧ _ ∧ _))

/-- Every channel of the mapping has a timing under the text that it is looked up by. -/
structure ControllerMapping.Covered (m : ControllerMapping) (timing : MqttChannelsTiming) :
    Prop where
  parameters : ∀ key channel, m.parameterMapping.lookup key = some channel →
    (timing.lookup channel.toString).isSome
  outputs : ∀ o, (m.outputMapping o).isInitialized →
    (timing.lookup (m.outputMapping o).toString).isSome

/-- Two stages of one mapping: only the time points and the mapping points may differ. -/
structure ControllerMapping.SameChannels (m m' : ControllerMapping) : Prop where
  programId : m'.programId = m.programId
  parameterMapping : m'.parameterMapping = m.parameterMapping
  parameterCount : m'.parameterCount = m.parameterCount
  outputs : ∀ o, (m'.outputMapping o).toTMqttChannel = (m.outputMapping o).toTMqttChannel

namespace ControllerMapping

variable {m m' m'' : ControllerMapping}

theorem SameChannels.refl : m.SameChannels m := ⟨rfl, rfl, rfl, fun _ => rfl⟩

theorem SameChannels.trans (h : m.SameChannels m') (h' : m'.SameChannels m'') :
    m.SameChannels m'' :=
  ⟨h'.programId.trans h.programId, h'.parameterMapping.trans h.parameterMapping,
    h'.parameterCount.trans h.parameterCount, fun o => (h'.outputs o).trans (h.outputs o)⟩

theorem SameChannels.requestedValue_eq (h : m.SameChannels m') (w : ℕ → World) (i : ℕ)
    (data : Vector Byte 8) : requestedValue w m' i data = requestedValue w m i data := by
  rw [requestedValue, requestedValue, h.parameterMapping]

theorem SameChannels.covered (h : m.SameChannels m') {timing : MqttChannelsTiming}
    (hcovered : m.Covered timing) : m'.Covered timing := by
  constructor
  · rw [h.parameterMapping]
    exact hcovered.parameters
  · intro o
    rw [h.outputs o]
    exact hcovered.outputs o

end ControllerMapping

def TaskState.postponed (s : TaskState) (c : Output) (sendTime : TTimePoint) : TaskState :=
  s.updateOutput c fun channel =>
    { channel with
      lastSendTimePoint := sendTime
      sendTimePoint := sendTime + sendMessagesInterval }

def TaskState.broadcasted (s : TaskState) (b : Broadcast) (frame : TFrame) (q : ℕ)
    (sendTime : TTimePoint) : TaskState :=
  ((s.logged (.sent frame (.output b))).postponed b.channelId sendTime).logged
    (.postponed q b.channelId)

/-- The checks that lead to an output frame, and when its parts were read. -/
structure Broadcast.Due (w : ℕ → World) (i : ℕ) (channel : TBroadcastChannel) (b : Broadcast) :
    Prop where
  start : i ≤ b.checkedAt
  order : b.checkedAt < b.readFrom
  notLate : (w b.checkedAt).clock ≤ channel.sendEndTimePoint
  named : channel.device ≠ "" ∧ channel.control ≠ ""
  fresh : ∃ timing, (w (b.checkedAt + 1)).timing.lookup channel.toString = some timing ∧
    (channel.lastSendTimePoint < timing.lastUpdateTimePoint ∨
      ∃ k, b.checkedAt ≤ k ∧ k ≤ b.readFrom ∧ channel.sendTimePoint ≤ (w k).clock)
  readAt : b.readAt = mqttReadAt w b.readFrom channel.device channel.control

/-- One action of the thread, with the position of its next observation before and after. -/
inductive Act (w : ℕ → World) : ℕ × TaskState → ℕ × TaskState → Prop
  | wait {i j : ℕ} {s : TaskState} (h : i ≤ j) : Act w (i, s) (j, s)
  | timers {i : ℕ} {s : TaskState} (status : EDriverStatus) (iAmHere reset : TTimePoint) :
      Act w (i, s) (i, { s with
        status := status
        sendIAmHereTime := iAmHere
        resetConnectionTime := reset })
  | reply {i : ℕ} {s : TaskState} (frame : TFrame) (purpose : Purpose)
      (h : purpose = .iAmHere ∨ purpose = .channelNumber ∨ purpose = .controllerType) :
      Act w (i, s) (i, s.logged (.sent frame purpose))
  | handle {i : ℕ} {s : TaskState} (f : TFrame)
      (h : ∀ c, f.SubscribesTo s.driverState.programId c →
        (s.driverState.outputMapping c).isInitialized = false) :
      Act w (i, s) (i, s.logged (.handled i f))
  | answer {i j : ℕ} {s : TaskState} (f : TFrame) (hij : i ≤ j) (hf : f.AsksForParameter)
      (hdata : f.data[0]! = ptController) (hrequest : f.IsRequestTo s.driverState.programId) :
      Act w (i, s) (j, (s.logged (.handled i f)).logged
        (.sent (f.parameterAnswer (requestedValue w s.driverState i f.data)) .parameterResponse))
  | subscribe {i : ℕ} {s : TaskState} (f : TFrame) (c : Output)
      (h : f.SubscribesTo s.driverState.programId c)
      (hc : (s.driverState.outputMapping c).isInitialized) :
      Act w (i, s) (i + 2, (s.logged (.handled i f)).subscribed c (mappingPointOf f.data)
        (w i).clock ((w (i + 1)).clock + sendMessagesTime))
  | broadcast {i q : ℕ} {s : TaskState} (b : Broadcast) (buffer : TFrame) (header : TCanHeader)
      (h : b.Due w i (s.driverState.outputMapping b.channelId)) (hq : b.readAt < q) :
      Act w (i, s) (q + 1, s.broadcasted b
        (outputFrame buffer header (s.driverState.outputMapping b.channelId).mappingPoint
          (mqttValue w b.readFrom (s.driverState.outputMapping b.channelId).device
            (s.driverState.outputMapping b.channelId).control)) q (w q).clock)

abbrev Acts (w : ℕ → World) : ℕ × TaskState → ℕ × TaskState → Prop :=
  Relation.ReflTransGen (Act w)

section Actions

variable {w : ℕ → World} {i j : ℕ} {s t : TaskState}

@[simp] theorem TaskState.logged_driverState (event : Event) :
    (s.logged event).driverState = s.driverState := rfl

@[simp] theorem TaskState.logged_log (event : Event) : (s.logged event).log = event :: s.log := rfl

@[simp] theorem TaskState.subscribed_log (c : Output) (mappingPoint : TMappingPoint)
    (sendTime endTime : TTimePoint) :
    (s.subscribed c mappingPoint sendTime endTime).log = s.log := rfl

@[simp] theorem TaskState.broadcasted_log (b : Broadcast) (frame : TFrame) (q : ℕ)
    (sendTime : TTimePoint) :
    (s.broadcasted b frame q sendTime).log =
      .postponed q b.channelId :: .sent frame (.output b) :: s.log := rfl

theorem TaskState.updateOutput_sameChannels (c : Output)
    (f : TBroadcastChannel → TBroadcastChannel)
    (hf : ∀ channel, (f channel).toTMqttChannel = channel.toTMqttChannel) :
    s.driverState.SameChannels (s.updateOutput c f).driverState := by
  refine ⟨rfl, rfl, rfl, ?_⟩
  intro o
  by_cases ho : o = c
  · subst ho
    simp [updateOutput, hf]
  · simp [updateOutput, ho]

theorem TaskState.subscribed_sameChannels (c : Output) (mappingPoint : TMappingPoint)
    (sendTime endTime : TTimePoint) :
    s.driverState.SameChannels (s.subscribed c mappingPoint sendTime endTime).driverState :=
  updateOutput_sameChannels c _ fun _ => rfl

theorem TaskState.postponed_sameChannels (c : Output) (sendTime : TTimePoint) :
    s.driverState.SameChannels (s.postponed c sendTime).driverState :=
  updateOutput_sameChannels c _ fun _ => rfl

theorem Act.forward {a b : ℕ × TaskState} (h : Act w a b) : a.1 ≤ b.1 := by
  cases h with
  | wait h => exact h
  | timers => exact le_rfl
  | reply => exact le_rfl
  | handle => exact le_rfl
  | answer f hij => exact hij
  | @subscribe i => exact Nat.le_add_right i 2
  | @broadcast i q s b buffer header h hq =>
    have hread : b.readFrom ≤ b.readAt := h.readAt ▸ mqttReadAt_ge _ _ _
    have hstart := h.start
    have horder := h.order
    change i ≤ q + 1
    omega

theorem Act.sameChannels {a b : ℕ × TaskState} (h : Act w a b) :
    a.2.driverState.SameChannels b.2.driverState := by
  cases h with
  | subscribe f c => exact TaskState.subscribed_sameChannels c _ _ _
  | broadcast b => exact TaskState.postponed_sameChannels b.channelId _
  | _ => exact .refl

theorem Act.log_suffix {a b : ℕ × TaskState} (h : Act w a b) : a.2.log <:+ b.2.log := by
  cases h with
  | wait => exact List.suffix_rfl
  | timers => exact List.suffix_rfl
  | reply => exact List.suffix_cons _ _
  | handle => exact List.suffix_cons _ _
  | answer => exact List.suffix_append [_, _] _
  | subscribe => exact List.suffix_cons _ _
  | broadcast => exact List.suffix_append [_, _] _

theorem Acts.sameChannels {a b : ℕ × TaskState} (h : Acts w a b) :
    a.2.driverState.SameChannels b.2.driverState := by
  induction h with
  | refl => exact .refl
  | tail _ hbc ih => exact ih.trans hbc.sameChannels

theorem Acts.log_suffix {a b : ℕ × TaskState} (h : Acts w a b) : a.2.log <:+ b.2.log := by
  induction h with
  | refl => exact List.suffix_rfl
  | tail _ hbc ih => exact ih.trans hbc.log_suffix

end Actions

/-! Each function of the thread is a chain of actions that continues the chain so far. -/

section Refinement

variable {w : ℕ → World} {o : ℕ × TaskState} {i j : ℕ} {s : TaskState}
  {Q : BitVec 16 → ℕ → TaskState → Prop} {E : Exc → ℕ → TaskState → Prop}

theorem TaskState.requested_of_covered (hcovered : ∀ k, s.driverState.Covered (w k).timing)
    (data : Vector Byte 8) : s.requested w i data = s := by
  unfold requested lookedUp
  split
  next => rfl
  next channel hlookup => rw [if_pos ((hcovered i).parameters _ _ hlookup)]

theorem TFrame.AsksForOutput.subscribesTo {f : TFrame} {programId : Byte}
    (h : f.AsksForOutput programId) : f.SubscribesTo programId f.askedOutput :=
  ⟨h.1, h.2.1, h.2.2, rfl⟩

theorem TFrame.SubscribesTo.asksForOutput {f : TFrame} {programId : Byte} {c : Output}
    (h : f.SubscribesTo programId c) : f.AsksForOutput programId ∧ c = f.askedOutput :=
  ⟨⟨h.1, h.2.1, h.2.2.1⟩, Fin.ext h.2.2.2.symm⟩

/-- The outcome of a request, together with its arrival, is a chain of actions. -/
theorem RequestOutcome.acts {f : TFrame} {outcome : Except Exc Unit} {t : TaskState}
    (hcovered : ∀ k, s.driverState.Covered (w k).timing)
    (h : RequestOutcome w i (s.logged (.handled i f)) f outcome j t) :
    Acts w (i, s) (j, t) := by
  have hother : ¬ f.AsksForOutput s.driverState.programId →
      Acts w (i, s) (i, s.logged (.handled i f)) :=
    fun hnot => .single (.handle f fun c hc => absurd hc.asksForOutput.1 hnot)
  have hcovered' : ∀ k, (s.logged (.handled i f)).driverState.Covered (w k).timing := hcovered
  cases h with
  | rejected he hij hf ht =>
    have hlogged : t = s.logged (.handled i f) := by
      rcases ht with rfl | ⟨_, rfl⟩
      · rfl
      · exact TaskState.requested_of_covered hcovered' f.data
    rw [hlogged]
    exact (hother fun houtput => hf (Or.inr (Or.inl houtput))).tail (.wait hij)
  | replied frame purpose hframe hf hrequest =>
    refine (hother fun houtput => houtput.not_asksForController hf).tail (.reply frame purpose ?_)
    tauto
  | answered hij hf hdata hrequest =>
    rw [TaskState.requested_of_covered hcovered' f.data]
    exact .single (.answer f hij hf hdata hrequest)
  | subscribed hf hc => exact .single (.subscribe f _ hf.subscribesTo hc)
  | unmapped hf hc =>
    refine .single (.handle f fun c hc' => ?_)
    rw [hc'.asksForOutput.2]
    exact hc
  | announced hf =>
    have htimers := ((hother hf.not_asksForOutput).tail (.wait (Nat.le_add_right i 2))).tail
      (.timers s.status ((w i).clock + keepAliveInterval) s.resetConnectionTime)
    exact htimers.tail (.reply _ _ (.inl rfl))

theorem outputFrame_eff (buffer : TFrame) (header : TCanHeader) (mappingPoint : TMappingPoint)
    (value : BitVec 16) :
    { outputFrame buffer header mappingPoint value with
      canId := (outputFrame buffer header mappingPoint value).canId ||| canEffFlag } =
      outputFrame buffer header mappingPoint value := by
  simp [outputFrame, BitVec.or_assoc]

/-- Why the loop passes over a channel. -/
inductive Passed (w : ℕ → World) (i j : ℕ) (channel : TBroadcastChannel) : Prop
  | tooLate (h : channel.sendEndTimePoint < (w i).clock)
  | weird (h : channel.device = "" ∨ channel.control = "")
  | tooSoon (timing : TMqttChannelTiming)
      (hlookup : (w (i + 1)).timing.lookup channel.toString = some timing)
      (hold : timing.lastUpdateTimePoint ≤ channel.lastSendTimePoint) (hj : i + 2 < j)
      (hsoon : (w (i + 2)).clock < channel.sendTimePoint)

section Output

variable {c : Output} {header : TCanHeader} {buffer : TFrame} {Q : TFrame → ℕ → TaskState → Prop}

theorem wp_sendOutput_lookedUp {checkedAt : ℕ} :
    (sendOutput header buffer checkedAt c).wp w Q E j s ↔
      let channel := s.driverState.outputMapping c
      let readAt := mqttReadAt w j channel.device channel.control
      let frame := outputFrame buffer header channel.mappingPoint
        (mqttValue w j channel.device channel.control)
      Q frame (readAt + 1 + 1) ((s.lookedUp w j channel.toString).broadcasted
        ⟨c, checkedAt, j, readAt⟩ frame (readAt + 1) (w (readAt + 1)).clock) := by
  simp only [sendOutput, Program.wp_bind, Program.wp_get, Program.wp_position]
  rw [wp_readMqttValue]
  simp only [sendFrame, postponeSend, now, Program.wp_bind, Program.wp_modify, Program.wp_position,
    Program.wp_observe, Program.wp_pure, outputFrame_eff, Nat.add_sub_cancel]
  rfl

theorem wp_sendOutput {checkedAt : ℕ} (hcovered : s.driverState.Covered (w j).timing)
    (hnamed : (s.driverState.outputMapping c).device ≠ "") :
    (sendOutput header buffer checkedAt c).wp w Q E j s ↔
      let channel := s.driverState.outputMapping c
      let readAt := mqttReadAt w j channel.device channel.control
      let frame := outputFrame buffer header channel.mappingPoint
        (mqttValue w j channel.device channel.control)
      Q frame (readAt + 1 + 1) (s.broadcasted ⟨c, checkedAt, j, readAt⟩ frame (readAt + 1)
        (w (readAt + 1)).clock) := by
  have hkey : ((w j).timing.lookup (s.driverState.outputMapping c).toString).isSome :=
    hcovered.outputs c (by simp [TMqttChannel.isInitialized, hnamed])
  simp only [wp_sendOutput_lookedUp, TaskState.lookedUp, if_pos hkey]

/-- The loop body either passes over its channel, for a reason, or broadcasts it when it is due. -/
theorem wp_sendScheduledOutput (hcovered : ∀ k, s.driverState.Covered (w k).timing)
    (hpass : ∀ j, i < j → Passed w i j (s.driverState.outputMapping c) → Q buffer j s)
    (hsend : ∀ b q frame, b.channelId = c → b.Due w i (s.driverState.outputMapping c) →
      b.readAt < q →
      frame = outputFrame buffer header (s.driverState.outputMapping c).mappingPoint
        (mqttValue w b.readFrom (s.driverState.outputMapping c).device
          (s.driverState.outputMapping c).control) →
      Q frame (q + 1) (s.broadcasted b frame q (w q).clock)) :
    (sendScheduledOutput header buffer c).wp w Q E i s := by
  simp only [sendScheduledOutput, now, Program.wp_bind, Program.wp_get, Program.wp_position,
    Program.wp_observe, Program.wp_ite, Program.wp_pure]
  split_ifs with hlate hunnamed
  · exact hpass _ (by omega) (.tooLate hlate)
  · exact hpass _ (by omega) (.weird hunnamed)
  have hnamed := not_or.mp hunnamed
  have hkey := (hcovered (i + 1)).outputs c (by simp [TMqttChannel.isInitialized, hnamed.1])
  obtain ⟨timing, htiming⟩ := Option.isSome_iff_exists.mp hkey
  have hlookup : (w (i + 1)).timing.lookup (TMqttChannel.joined
      (s.driverState.outputMapping c).device (s.driverState.outputMapping c).control) =
    some timing := htiming
  simp only [hlookup, Program.wp_ite, Program.wp_bind, Program.wp_observe, Program.wp_pure]
  split_ifs with hold hsoon
  · exact hpass _ (by omega) (.tooSoon timing htiming hold (by omega) hsoon)
  · rw [wp_sendOutput (hcovered _) hnamed.1]
    refine hsend _ _ _ rfl ⟨le_rfl, ?_, not_lt.mp hlate, hnamed, ⟨timing, htiming,
      .inr ⟨i + 2, Nat.le_add_right i 2, Nat.le_succ _, not_lt.mp hsoon⟩⟩, rfl⟩
      (Nat.lt_succ_self _) rfl
    dsimp only
    omega
  · rw [wp_sendOutput (hcovered _) hnamed.1]
    refine hsend _ _ _ rfl ⟨le_rfl, ?_, not_lt.mp hlate, hnamed, ⟨timing, htiming,
      .inl (not_le.mp hold)⟩, rfl⟩ (Nat.lt_succ_self _) rfl
    dsimp only
    omega

end Output

variable (hcovered : ∀ k, o.2.driverState.Covered (w k).timing)
include hcovered

theorem Acts.covered (h : Acts w o (i, s)) (k : ℕ) : s.driverState.Covered (w k).timing :=
  h.sameChannels.covered (hcovered k)

theorem wp_sendScheduledOutputs (h : Acts w o (i, s)) :
    sendScheduledOutputs.wp w (fun _ j t => Acts w o (j, t)) E i s := by
  simp only [sendScheduledOutputs, Program.wp_bind, Program.wp_observe, Program.wp_get]
  apply Program.wp_foldl (fun _ _ j t => Acts w o (j, t)) (h.tail (.wait (Nat.le_succ i)))
  intro _ c _ buffer j t _ _ h
  apply wp_sendScheduledOutput (h.covered hcovered)
  · intro k hjk _
    exact h.tail (.wait hjk.le)
  · rintro b q _ rfl hdue hq rfl
    exact h.tail (.broadcast b buffer _ hdue hq)

theorem Acts.kept : Kept w fun j t => Acts w o (j, t) where
  wait hij h := h.tail (.wait hij)
  timers status iAmHere reset h := h.tail (.timers status iAmHere reset)
  announced _ h := h.tail (.reply _ _ (.inl rfl))
  requested h houtcome := h.trans (houtcome.acts (h.covered hcovered))
  outputs h := wp_sendScheduledOutputs hcovered h

theorem wp_scheduled (h : Acts w o (i, s)) :
    Program.wp (do
        sendScheduledOutputs
        sendScheduledIAmHere) w (fun _ j t => Acts w o (j, t)) E i s :=
  (Acts.kept hcovered).wp_scheduled h

omit hcovered in
theorem wp_resetConnection_status :
    resetConnection.wp w (fun _ _ t => t.status = .idle ∨ t = s) E i s := by
  simp only [resetConnection, now, Program.wp_bind, Program.wp_get, Program.wp_ite,
    Program.wp_observe, Program.wp_modify, Program.wp_pure]
  split_ifs <;> simp

omit hcovered in
theorem wp_taskFn (hcovered : ∀ k, s.driverState.Covered (w k).timing)
    (inputs : ℕ → Option TFrame) (n : ℕ) :
    (taskFn inputs n).wp w (fun _ j t => Acts w (i, s) (j, t)) (fun _ _ _ => False) i s :=
  (Acts.kept (o := (i, s)) hcovered).wp_taskFn .refl inputs n

end Refinement
end SmartWebGateway
