import SmartWebGateway.Gateway.Broadcasts
import SmartWebGateway.Gateway.Service
import Mathlib.Tactic

/-!
# A sensor reads the same both ways

The loader stores a sensor twice, under its selector and in the slot of its
output. Two handlers read the two places and cut the value into bytes in
opposite orders. A slot that no sensor names is left as it was loaded.
-/
namespace SmartWebGateway

open Foundation
open TMqttToSmartWebGateway

/-- The value in the answer to a parameter request, low byte first. -/
def TFrame.answeredValue (f : TFrame) : BitVec 16 := f.data[4]! ++ f.data[3]!

/-- The value in an output frame, high byte first. -/
def TFrame.broadcastValue (f : TFrame) : BitVec 16 := f.data[2]! ++ f.data[3]!

/-- A request to a controller for the value of one of its sensors. -/
structure SensorMapping.AskedBy (sensor : SensorMapping) (programId : Byte) (f : TFrame) :
    Prop where
  function : f.AsksForParameter
  request : f.IsRequestTo programId
  programType : f.data[0]! = ptController
  parameterId : f.data[1]! = Controller.Parameters.sensor
  index : f.data[2]! = BitVec.ofNat 8 sensor.sensorIndex
  zero : f.data[3]! = 0

section Values

variable {w : ℕ → World} {i : ℕ} {s : TaskState}

@[simp] theorem TFrame.parameterAnswer_answeredValue (f : TFrame) (value : BitVec 16) :
    (f.parameterAnswer value).answeredValue = value := by
  simp [parameterAnswer, answeredValue, highByte_append_lowByte]

@[simp] theorem outputFrame_broadcastValue (buffer : TFrame) (header : TCanHeader)
    (mappingPoint : TMappingPoint) (value : BitVec 16) :
    (outputFrame buffer header mappingPoint value).broadcastValue = value := by
  simp [outputFrame, TFrame.broadcastValue, highByte_append_lowByte]

@[simp] theorem TaskState.lookedUp_sentFrames (key : String) :
    (s.lookedUp w i key).sentFrames = s.sentFrames := by
  unfold lookedUp
  split_ifs <;> rfl

theorem TaskState.broadcasted_sentFrames (b : Broadcast) (frame : TFrame) (q : ℕ)
    (sendTime : TTimePoint) :
    (s.broadcasted b frame q sendTime).sentFrames = (frame, .output b) :: s.sentFrames := rfl

theorem sendOutput_sentFrames (header : TCanHeader) (buffer : TFrame) (checkedAt : ℕ) (c : Output) :
    ∃ frame readAt, ((sendOutput header buffer checkedAt c).run w i s).2.2.sentFrames =
        (frame, .output ⟨c, checkedAt, i, readAt⟩) :: s.sentFrames ∧
      frame.broadcastValue = mqttValue w i (s.driverState.outputMapping c).device
        (s.driverState.outputMapping c).control := by
  have hsent : (sendOutput header buffer checkedAt c).wp w (fun _ _ t => ∃ frame readAt,
      t.sentFrames = (frame, .output ⟨c, checkedAt, i, readAt⟩) :: s.sentFrames ∧
      frame.broadcastValue = mqttValue w i (s.driverState.outputMapping c).device
        (s.driverState.outputMapping c).control) (fun _ _ _ => False) i s := by
    rw [wp_sendOutput_lookedUp]
    dsimp only
    rw [TaskState.broadcasted_sentFrames, TaskState.lookedUp_sentFrames]
    exact ⟨_, _, rfl, outputFrame_broadcastValue _ _ _ _⟩
  obtain ⟨_, j, t, hrun, hframe⟩ := Program.returns_of_wp hsent
  rw [hrun]
  exact hframe

end Values

section Loaded

variable {configJson : ControllerObject} {sensor : SensorMapping}

theorem SensorMapping.AskedBy.selectedBy {programId : Byte} {f : TFrame}
    (h : sensor.AskedBy programId f) : sensor.entry.SelectedBy f.data := by
  constructor
  · rw [h.programType, h.parameterId, h.index]
    rfl
  · exact h.zero

theorem SensorMapping.askedBy_parameterRequest (sensor : SensorMapping) (programId : Byte) :
    sensor.AskedBy programId (parameterRequest programId sensor.info) where
  function := parameterRequest_asksForParameter programId sensor.info
  request := parameterRequest_isRequestTo programId sensor.info
  programType := rfl
  parameterId := rfl
  index := rfl
  zero := rfl

theorem ControllerObject.output_eq_of_entry {e : Entry} (he : e ∈ configJson.entries) {c : Output}
    (hc : c ∈ e.output) : ∃ sensor ∈ configJson.sensors.getD [], c = sensor.outputIndex := by
  rcases List.mem_append.mp he with he | he
  · obtain ⟨sensor, hsensor, rfl⟩ := List.mem_map.mp he
    exact ⟨sensor, hsensor, (Option.some.inj hc).symm⟩
  · obtain ⟨parameter, _, rfl⟩ := List.mem_map.mp he
    cases hc

variable (load : Loading configJson) {w : ℕ → World} {i : ℕ} {s : TaskState} {f : TFrame}

theorem handleRequest_askedBy (hsensor : sensor ∈ configJson.sensors.getD [])
    (hs : load.config.SameChannels s.driverState) (hf : sensor.AskedBy load.config.programId f) :
    ∃ answer, ((handleRequest f.header f.data).run w i s).2.2.sentFrames =
        (answer, .parameterResponse) :: s.sentFrames ∧
      answer.answeredValue = mqttValue w i
        (load.config.outputMapping sensor.outputIndex).device
        (load.config.outputMapping sensor.outputIndex).control := by
  have heffect := (handleRequest_outcome (w := w) (i := i) (s := s) (f := f) rfl).parameterEffect
    hf.function
  rw [if_pos ⟨hf.request.1, hf.request.2.trans hs.programId.symm, hf.programType⟩] at heffect
  obtain ⟨channel, hchannel, hvalue⟩ := requestedValue_of_selectedBy (w := w) (i := i) load hs
    (SensorMapping.entry_mem hsensor) hf.selectedBy
  have hnamed := load.loaded.outputs.named sensor.entry (SensorMapping.entry_mem hsensor)
    sensor.outputIndex rfl
  rw [hchannel, Except.ok.injEq] at hnamed
  refine ⟨_, heffect.1, ?_⟩
  rw [TFrame.parameterAnswer_answeredValue, hvalue, hnamed]

end Loaded

section Unmapped

variable {w : ℕ → World} {c : Output} {a b : ℕ × TaskState}

theorem Act.unmapped (h : Act w a b)
    (hc : (a.2.driverState.outputMapping c).toTMqttChannel = ⟨"", ""⟩) :
    b.2.driverState.outputMapping c = a.2.driverState.outputMapping c ∧
      ((∀ e ∈ a.2.log, ¬ e.SendsOutput c) → ∀ e ∈ b.2.log, ¬ e.SendsOutput c) := by
  cases h with
  | wait => exact ⟨rfl, id⟩
  | timers => exact ⟨rfl, id⟩
  | reply frame purpose hpurpose =>
    refine ⟨rfl, fun ha => List.forall_mem_cons.mpr ⟨?_, ha⟩⟩
    rcases hpurpose with rfl | rfl | rfl <;> exact id
  | handle f => exact ⟨rfl, fun ha => List.forall_mem_cons.mpr ⟨id, ha⟩⟩
  | answer f =>
    exact ⟨rfl, fun ha => List.forall_mem_cons.mpr ⟨id, List.forall_mem_cons.mpr ⟨id, ha⟩⟩⟩
  | @subscribe i s f c' hf hc' =>
    have hne : c ≠ c' := by
      rintro rfl
      change (s.driverState.outputMapping c).toTMqttChannel = _ at hc
      simp [TMqttChannel.isInitialized, hc] at hc'
    exact ⟨TaskState.subscribed_of_ne hne _ _ _, fun ha => List.forall_mem_cons.mpr ⟨id, ha⟩⟩
  | @broadcast i q s b buffer header hdue hq =>
    have hne : c ≠ b.channelId := by
      rintro rfl
      exact hdue.named.1 (congrArg TMqttChannel.device hc)
    refine ⟨TaskState.broadcasted_of_ne hne _ _ _, fun ha => ?_⟩
    exact List.forall_mem_cons.mpr ⟨id, List.forall_mem_cons.mpr ⟨hne.symm, ha⟩⟩

theorem Acts.unmapped (h : Acts w a b)
    (hc : (a.2.driverState.outputMapping c).toTMqttChannel = ⟨"", ""⟩) :
    b.2.driverState.outputMapping c = a.2.driverState.outputMapping c ∧
      ((∀ e ∈ a.2.log, ¬ e.SendsOutput c) → ∀ e ∈ b.2.log, ¬ e.SendsOutput c) := by
  induction h with
  | refl => exact ⟨rfl, id⟩
  | tail _ hbc ih =>
    obtain ⟨hsame, hlog⟩ := ih
    rw [← hsame] at hc
    obtain ⟨hsame', hlog'⟩ := hbc.unmapped hc
    exact ⟨hsame'.trans hsame, fun ha => hlog' (hlog ha)⟩

end Unmapped

theorem Broadcast.Justified.broadcastValue {w : ℕ → World} {m : ControllerMapping} {b : Broadcast}
    {frame : TFrame} {earlier : List Event} (h : b.Justified w m frame earlier) :
    frame.broadcastValue = mqttValue w b.readFrom (m.outputMapping b.channelId).device
      (m.outputMapping b.channelId).control := by
  obtain ⟨i, channel, buffer, header, hsame, _, _, rfl⟩ := h
  rw [outputFrame_broadcastValue, hsame]

section Runs

variable {configJson : ControllerObject} {load : Loading configJson} {env : Environment}
  {inputs : ℕ → Option TFrame} {n j : ℕ} {s : TaskState}

theorem Deployed.broadcast_reads_the_same (h : Deployed load env)
    (hreaches : Reaches load env inputs n j s) {sensor : SensorMapping}
    (hsensor : sensor ∈ configJson.sensors.getD []) {frame : TFrame} {b : Broadcast}
    (hmem : .sent frame (.output b) ∈ s.log) (hb : b.channelId = sensor.outputIndex)
    {s' : TaskState} (hs' : load.config.SameChannels s'.driverState) {f : TFrame}
    (hf : sensor.AskedBy load.config.programId f) :
    ∃ answer, ((handleRequest f.header f.data).run env.world b.readFrom s').2.2.sentFrames =
        (answer, .parameterResponse) :: s'.sentFrames ∧
      answer.answeredValue = frame.broadcastValue := by
  obtain ⟨answer, hanswer, hvalue⟩ := handleRequest_askedBy (w := env.world) (i := b.readFrom)
    load hsensor hs' hf
  obtain ⟨newer, earlier, hlog⟩ := List.append_of_mem hmem
  have hjustified := (h.acts hreaches).allJustified env.clock_le load.fresh _ earlier
    (hlog ▸ List.suffix_append newer _) frame b rfl
  refine ⟨answer, hanswer, ?_⟩
  rw [hvalue, hjustified.broadcastValue, hb]
  rfl

theorem Deployed.output_untouched (h : Deployed load env)
    (hreaches : Reaches load env inputs n j s) {c : Output}
    (hc : ∀ sensor ∈ configJson.sensors.getD [], c ≠ sensor.outputIndex) :
    s.driverState.outputMapping c = load.config.outputMapping c ∧
      ∀ e ∈ s.log, ¬ e.SendsOutput c := by
  have hunnamed := load.loaded.outputs.unnamed c (by
    intro e he ho
    obtain ⟨sensor, hsensor, hcs⟩ := configJson.output_eq_of_entry he ho
    exact hc sensor hsensor hcs)
  obtain ⟨hsame, hlog⟩ := (h.acts hreaches).unmapped (c := c) hunnamed
  exact ⟨hsame, hlog (by simp [TaskState.initial])⟩

end Runs

/-- The answer for a sensor and the broadcast of its output hold one value, when read in one
state, whether the broadcast is made on its own or within a run; and no run subscribes or
broadcasts an output that is no sensor's. -/
theorem sensor_reads_the_same {configJson : ControllerObject} (load : Loading configJson) :
    (∀ sensor ∈ configJson.sensors.getD [], ∀ (w : ℕ → World) (i : ℕ) (s s' : TaskState),
      load.config.SameChannels s.driverState → load.config.SameChannels s'.driverState →
      ∀ f, sensor.AskedBy load.config.programId f → ∀ header buffer checkedAt,
      ∃ answer frame readAt,
        ((handleRequest f.header f.data).run w i s).2.2.sentFrames =
          (answer, .parameterResponse) :: s.sentFrames ∧
        ((sendOutput header buffer checkedAt sensor.outputIndex).run w i s').2.2.sentFrames =
          (frame, .output ⟨sensor.outputIndex, checkedAt, i, readAt⟩) :: s'.sentFrames ∧
        answer.answeredValue = frame.broadcastValue) ∧
    ∀ env, Deployed load env → ∀ inputs n j s, Reaches load env inputs n j s →
      (∀ sensor ∈ configJson.sensors.getD [], ∀ frame b, .sent frame (.output b) ∈ s.log →
        b.channelId = sensor.outputIndex → ∀ s', load.config.SameChannels s'.driverState →
        ∀ f, sensor.AskedBy load.config.programId f →
        ∃ answer, ((handleRequest f.header f.data).run env.world b.readFrom s').2.2.sentFrames =
            (answer, .parameterResponse) :: s'.sentFrames ∧
          answer.answeredValue = frame.broadcastValue) ∧
      ∀ c, (∀ sensor ∈ configJson.sensors.getD [], c ≠ sensor.outputIndex) →
        s.driverState.outputMapping c = load.config.outputMapping c ∧
        ∀ e ∈ s.log, ¬ e.SendsOutput c := by
  constructor
  · intro sensor hsensor w i s s' hs hs' f hf header buffer checkedAt
    obtain ⟨answer, hanswer, hvalue⟩ := handleRequest_askedBy (w := w) (i := i) load hsensor hs hf
    obtain ⟨frame, readAt, hframe, hvalue'⟩ := sendOutput_sentFrames (w := w) (i := i) (s := s')
      header buffer checkedAt sensor.outputIndex
    refine ⟨answer, frame, readAt, hanswer, hframe, ?_⟩
    rw [hvalue, hvalue', hs'.outputs]
  · intro env h inputs n j s hreaches
    constructor
    · intro sensor hsensor frame b hmem hb s' hs' f hf
      exact h.broadcast_reads_the_same hreaches hsensor hmem hb hs' hf
    · intro c hc
      exact h.output_untouched hreaches hc

/-- The room's sensor, as the answer to a request and as an output frame. -/
theorem sensor_reads_the_same_room :
    ∃ answer frame readAt,
      ((handleRequest roomSensorRequest.header roomSensorRequest.data).run roomEnvironment.world 0
        (TaskState.initial roomLoading.config)).2.2.sentFrames = [(answer, .parameterResponse)] ∧
      ((sendOutput ⟨0, 0, 0, 0, 0, 0⟩ TFrame.zero 0 0).run roomEnvironment.world 0
        (TaskState.initial roomLoading.config)).2.2.sentFrames =
          [(frame, .output ⟨0, 0, 0, readAt⟩)] ∧
      answer.answeredValue = frame.broadcastValue :=
  (sensor_reads_the_same roomLoading).1 roomSensor List.mem_cons_self roomEnvironment.world 0
    (TaskState.initial roomLoading.config) (TaskState.initial roomLoading.config) .refl .refl
    roomSensorRequest (roomSensor.askedBy_parameterRequest 7) _ _ _

end SmartWebGateway
