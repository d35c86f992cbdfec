import SmartWebGateway.Config.Loaded
import Mathlib.Data.List.Forall2
import Mathlib.Tactic

/-!
# Which controllers are accepted, and with what content

The schema leaves the loader four things to refuse: an object that maps
nothing, a text that names no channel, a selector that occurs twice, and a
timeout that is no `int`. Here the objects are those that use the keys of the
schema only, with timeouts that fit, so that the first three decide. The output
mapping has a check of its own for duplicates, which never fires: the selector
of a sensor already tells its output.
-/
namespace SmartWebGateway

open Foundation

/-- The text of the entry is `device/control`, with nothing to confuse the two parts. -/
structure Entry.Names (e : Entry) (channel : TMqttChannel) : Prop where
  text : e.channel = channel.device ++ "/" ++ channel.control
  device : channel.device ≠ "" ∧ '/' ∉ channel.device.toList
  control : channel.control ≠ ""

theorem Entry.names_iff {e : Entry} {channel : TMqttChannel} :
    e.Names channel ↔ TMqttChannel.fromString e.channel = .ok channel := by
  rw [TMqttChannel.fromString_eq_ok]
  constructor
  · rintro ⟨htext, ⟨hdevice, hslash⟩, hcontrol⟩
    exact ⟨htext.symm, hslash, hdevice, hcontrol⟩
  · rintro ⟨htext, hslash, hdevice, hcontrol⟩
    exact ⟨htext.symm, ⟨hdevice, hslash⟩, hcontrol⟩

instance (e : Entry) : Decidable (∃ channel, e.Names channel) :=
  decidable_of_iff ((TMqttChannel.fromString e.channel).toOption.isSome) (by
    simp only [Entry.names_iff]
    cases TMqttChannel.fromString e.channel <;> simp [Except.toOption])

namespace ControllerObject

/-- Only keys that the schema names, and timeouts of the sensors that fit an `int`. Those of the
parameters are not looked at. -/
structure SchemaKeysOnly (configJson : ControllerObject) : Prop where
  valueTimeoutMin : configJson.valueTimeoutMin = none
  timeouts : ∀ sensor ∈ configJson.sensors.getD [], ∀ minutes ∈ sensor.valueTimeoutMin,
    -2 ^ 31 ≤ minutes ∧ minutes < 2 ^ 31

/-- When such an object is accepted. -/
structure WellMapped (configJson : ControllerObject) : Prop where
  mapping : configJson.sensors.isSome ∨ configJson.parameters.isSome
  named : ∀ e ∈ configJson.entries, ∃ channel, e.Names channel
  distinct : (configJson.entries.map Entry.selector).Nodup

instance (configJson : ControllerObject) : Decidable configJson.WellMapped :=
  decidable_of_iff
    ((configJson.sensors.isSome ∨ configJson.parameters.isSome) ∧
      (∀ e ∈ configJson.entries, ∃ channel, e.Names channel) ∧
      (configJson.entries.map Entry.selector).Nodup)
    ⟨fun ⟨hmapping, hnamed, hdistinct⟩ => ⟨hmapping, hnamed, hdistinct⟩,
      fun ⟨hmapping, hnamed, hdistinct⟩ => ⟨hmapping, hnamed, hdistinct⟩⟩

/-- What is in the two mappings of an accepted object. -/
structure Content (configJson : ControllerObject) (config : TMqttToSmartWebConfig) : Prop where
  programId : config.programId = BitVec.ofNat 8 configJson.controllerId
  parameters : ∀ key channel, config.parameterMapping.lookup key = some channel ↔
    ∃ e ∈ configJson.entries, e.selector.raw = key ∧ e.Names channel
  outputs : ∀ sensor ∈ configJson.sensors.getD [],
    sensor.entry.Names (config.outputMapping sensor.outputIndex).toTMqttChannel
  uninitialized : ∀ o, (∀ sensor ∈ configJson.sensors.getD [], sensor.outputIndex ≠ o) →
    (config.outputMapping o).isInitialized = false

variable {configJson : ControllerObject}

theorem SchemaKeysOnly.timed (h : configJson.SchemaKeysOnly) :
    ∀ e ∈ configJson.entries, e.Timed := by
  intro e he value hvalue
  rcases List.mem_append.mp he with he | he
  · obtain ⟨sensor, hsensor, rfl⟩ := List.mem_map.mp he
    obtain ⟨minutes, hminutes, rfl⟩ := Option.map_eq_some_iff.mp hvalue
    exact ⟨minutes, if_pos (h.timeouts sensor hsensor minutes hminutes)⟩
  · obtain ⟨parameter, _, rfl⟩ := List.mem_map.mp he
    have hnone : (parameter.entry configJson).timingSource = none := h.valueTimeoutMin
    rw [hnone] at hvalue
    cases hvalue

theorem SchemaKeysOnly.acceptable_iff (h : configJson.SchemaKeysOnly) :
    configJson.Acceptable ↔ configJson.WellMapped := by
  constructor
  · intro hacceptable
    constructor
    · exact hacceptable.mapping
    · intro e he
      obtain ⟨channel, hchannel⟩ := hacceptable.named e he
      exact ⟨channel, Entry.names_iff.mpr hchannel⟩
    · exact hacceptable.distinct
  · intro hmapped
    constructor
    · exact hmapped.mapping
    · exact hmapped.distinct
    · intro e he
      obtain ⟨channel, hchannel⟩ := hmapped.named e he
      exact ⟨channel, Entry.names_iff.mp hchannel⟩
    · exact h.timed

theorem exists_sensor_of_output {e : Entry} (he : e ∈ configJson.entries) {o : Output}
    (ho : o ∈ e.output) : ∃ sensor ∈ configJson.sensors.getD [], sensor.outputIndex = o := by
  rcases List.mem_append.mp he with he | he
  · obtain ⟨sensor, hsensor, rfl⟩ := List.mem_map.mp he
    exact ⟨sensor, hsensor, Option.some.inj ho⟩
  · obtain ⟨parameter, _, rfl⟩ := List.mem_map.mp he
    cases ho

end ControllerObject

section Content

variable {configJson : ControllerObject} {clock clock' : ℕ → TTimePoint} {j j' : ℕ}
  {config config' : TMqttToSmartWebConfig}

/-- The mapping is the entries, read both ways. -/
theorem MappingLoaded.lookup_eq_some_iff {entries : List Entry}
    {mapping : AList fun _ : BitVec 32 => TMqttChannel} (h : MappingLoaded entries mapping)
    {key : BitVec 32} {channel : TMqttChannel} :
    mapping.lookup key = some channel ↔
      ∃ e ∈ entries, e.selector.raw = key ∧
        TMqttChannel.fromString e.channel = .ok channel := by
  constructor
  · exact h.mappedOnly key channel
  · rintro ⟨e, he, rfl, hchannel⟩
    obtain ⟨channel', hchannel', hlookup⟩ := h.mapped e he
    rw [hchannel] at hchannel'
    rwa [Except.ok.inj hchannel']

theorem Loaded.content (h : Loaded configJson clock j config) : configJson.Content config := by
  constructor
  · exact h.programId
  · intro key channel
    simp only [h.mapping.lookup_eq_some_iff, Entry.names_iff]
  · intro sensor hsensor
    exact Entry.names_iff.mpr
      (h.outputs.named _ (SensorMapping.entry_mem hsensor) _ rfl)
  · intro o ho
    apply h.outputs.not_isInitialized
    intro e he heo
    obtain ⟨sensor, hsensor, hindex⟩ := ControllerObject.exists_sensor_of_output he heo
    exact ho sensor hsensor hindex

/-- The same to everyone who asks: two configurations that differ at most in the time stamps and
in memory that nothing was written to. -/
structure TMqttToSmartWebConfig.Alike (config config' : TMqttToSmartWebConfig) : Prop where
  programId : config.programId = config'.programId
  parameters : ∀ key, config.parameterMapping.lookup key = config'.parameterMapping.lookup key
  outputs : ∀ o, (config.outputMapping o).toTMqttChannel = (config'.outputMapping o).toTMqttChannel
  parameterCount : config.parameterCount = config'.parameterCount
  timeouts : ∀ text,
    (config.mqttChannelsTiming.lookup text).map TMqttChannelTiming.valueTimeoutMin =
      (config'.mqttChannelsTiming.lookup text).map TMqttChannelTiming.valueTimeoutMin

theorem TMqttToSmartWebConfig.Alike.refl (config : TMqttToSmartWebConfig) : config.Alike config :=
  ⟨rfl, fun _ => rfl, fun _ => rfl, rfl, fun _ => rfl⟩

theorem OutputsLoaded.toTMqttChannel_eq {entries : List Entry}
    {outputs outputs' : Output → TBroadcastChannel} (h : OutputsLoaded entries outputs)
    (h' : OutputsLoaded entries outputs') (o : Output) :
    (outputs o).toTMqttChannel = (outputs' o).toTMqttChannel := by
  by_cases ho : ∀ e ∈ entries, o ∉ e.output
  · rw [h.unnamed o ho, h'.unnamed o ho]
  · push Not at ho
    obtain ⟨e, he, heo⟩ := ho
    have hsame := (h.named e he o heo).symm.trans (h'.named e he o heo)
    exact Except.ok.inj hsame

theorem Loaded.alike (h : Loaded configJson clock j config)
    (h' : Loaded configJson clock' j' config')
    (hcount : config.parameterCount = config'.parameterCount) : config.Alike config' := by
  constructor
  · rw [h.programId, h'.programId]
  · intro key
    apply Option.ext
    intro channel
    rw [h.mapping.lookup_eq_some_iff, h'.mapping.lookup_eq_some_iff]
  · exact h.outputs.toTMqttChannel_eq h'.outputs
  · exact hcount
  · intro text
    rw [h.timing.timeout, h'.timing.timeout]

end Content

section Count

variable {configJson : ControllerObject} {clock : ℕ → TTimePoint} {i j : ℕ}
  {res : TMqttToSmartWebConfig} {done : List Entry}

/-- The maximum of `index + 1` as one byte holds it, over the entries in their order. -/
def runningCount (entries : List Entry) : Byte :=
  entries.foldl (fun count e =>
    if count < e.selector.index + 1 then e.selector.index + 1 else count) 0

theorem runningCount_snoc (entries : List Entry) (e : Entry) :
    runningCount (entries ++ [e]) =
      if runningCount entries < e.selector.index + 1 then e.selector.index + 1
      else runningCount entries := by
  rw [runningCount, List.foldl_append]
  rfl

/-- `LoadTiming` changes timings only, and what it throws comes from the conversion. -/
theorem wp_loadTiming_frame (mqttChannel : String) (valueTimeoutMin : Option JsonValue) :
    (loadTiming mqttChannel valueTimeoutMin).wp clock
      (fun _ _ res' => res'.toControllerMapping = res.toControllerMapping)
      (fun e _ _ => ∃ what, e = .jsonLogic what) j res := by
  cases valueTimeoutMin with
  | none => simp [loadTiming]
  | some value =>
    cases hvalue : value.asInt with
    | ok minutes => simp [loadTiming, hvalue]
    | error e =>
      have hlogic : ∃ what, e = .jsonLogic what := by
        unfold JsonValue.asInt at hvalue
        split at hvalue
        · split_ifs at hvalue
          cases hvalue
          exact ⟨_, rfl⟩
        · cases hvalue
        · cases hvalue
          exact ⟨_, rfl⟩
      simpa [loadTiming, hvalue] using hlogic

theorem wp_mapParameter_count (duplicate : String) (info : TParameterInfo) (mqttChannel : String) :
    (mapParameter duplicate info mqttChannel).wp clock
      (fun _ _ res' => res'.parameterCount =
        if res.parameterCount < info.index + 1 then info.index + 1 else res.parameterCount)
      (fun e _ _ => e = .runtime duplicate ∨ ∃ what, e = .driver what) j res := by
  rw [mapParameter, Program.wp_bind, Program.wp_get, Program.wp_ite]
  by_cases hdup : (res.parameterMapping.lookup info.raw).isSome
  · rw [if_pos hdup]
    exact Or.inl rfl
  · rw [if_neg hdup]
    cases hchannel : TMqttChannel.fromString mqttChannel with
    | ok channel => simp
    | error e =>
      obtain ⟨what, rfl⟩ : ∃ what, e = .driver what := by
        unfold TMqttChannel.fromString at hchannel
        split_ifs at hchannel
        all_goals
          cases hchannel
          exact ⟨_, rfl⟩
      simp

theorem wp_mapEntry_count (duplicate : String) (e : Entry) (hcount : res.parameterCount =
    runningCount done) :
    Program.wp (do
        loadTiming e.channel e.timingSource
        mapParameter duplicate e.selector e.channel) clock
      (fun _ _ res' => res'.parameterCount = runningCount (done ++ [e])) (fun _ _ _ => True)
      j res := by
  rw [Program.wp_bind]
  apply Program.wp_mono (wp_loadTiming_frame _ _) _ (fun _ _ _ _ _ => trivial)
  intro _ k res1 _ hframe
  apply Program.wp_mono (wp_mapParameter_count _ _ _) _ (fun _ _ _ _ _ => trivial)
  intro _ l res2 _ hcount2
  have hcount1 : res1.parameterCount = runningCount done := by rw [hframe, hcount]
  rw [hcount2, hcount1, runningCount_snoc]

theorem wp_loadSensor_count (sensor : SensorMapping)
    (hcount : res.parameterCount = runningCount done) :
    (loadSensor sensor).wp clock
      (fun _ _ res' => res'.parameterCount = runningCount (done ++ [sensor.entry]))
      (fun _ _ _ => True) j res := by
  have hmap := @wp_mapEntry_count clock j res done "Malformed JSON config: duplicate sensor"
    sensor.entry hcount
  rw [Program.wp_bind] at hmap
  rw [loadSensor, Program.wp_bind]
  apply Program.wp_mono hmap _ (fun _ _ _ _ he => he)
  intro _ k res1 _ hmap1
  rw [Program.wp_bind]
  apply Program.wp_mono hmap1 _ (fun _ _ _ _ he => he)
  intro _ l res2 _ hcount2
  rw [Program.wp_bind, Program.wp_get, Program.wp_ite]
  split_ifs
  · trivial
  · cases hchannel : TMqttChannel.fromString sensor.channel with
    | ok channel => simpa using hcount2
    | error e => simp

theorem wp_loadMqttToSmartWebController_count (garbage : Output → TMappingPoint) :
    (loadMqttToSmartWebController configJson).wp clock
      (fun _ _ res => res.parameterCount = runningCount configJson.entries)
      (fun _ _ _ => True) i (.blank garbage) := by
  apply Program.wp_mono (wp_loadMqttToSmartWebController_entries
    (fun done _ (res : TMqttToSmartWebConfig) => res.parameterCount = runningCount done) rfl
    _ _ (fun _ _ _ => trivial)) _ (fun _ _ _ _ he => he)
  · intro done sensor rest j res _ hcount
    exact wp_loadSensor_count sensor hcount
  · intro done parameter rest j res _ hcount
    exact wp_mapEntry_count _ (parameter.entry configJson) hcount
  · rintro _ j res - ⟨_, hcount⟩
    exact hcount

end Count

section DuplicateOutput

variable {configJson : ControllerObject} {clock : ℕ → TTimePoint} {i j : ℕ}
  {res : TMqttToSmartWebConfig} {done : List Entry}

def Exc.IsDuplicateOutput : Exc → Prop
  | .runtime what => "Malformed JSON config: duplicate output ".toList <+: what.toList
  | _ => False

/-- The check that comes last finds the slot free: the selector was new. -/
theorem wp_loadSensor_noDuplicateOutput (sensor : SensorMapping)
    (h : LoadedUpTo configJson clock j done res) :
    (loadSensor sensor).wp clock (fun _ _ _ => True)
      (fun e _ _ => ¬ e.IsDuplicateOutput) j res := by
  have hmap := wp_mapEntry sensor.entry "Malformed JSON config: duplicate sensor" h
  rw [Program.wp_bind] at hmap
  rw [loadSensor, Program.wp_bind]
  apply Program.wp_mono (Program.wp_and hmap (wp_loadTiming_frame _ _))
  · rintro _ k res1 - ⟨hmap1, -⟩
    rw [Program.wp_bind]
    apply Program.wp_mono (Program.wp_and hmap1 (wp_mapParameter_count _ _ _))
    · rintro _ l res2 - ⟨⟨_, _, hmapping, houtputs⟩, -⟩
      have hfree : ∀ e ∈ done, sensor.outputIndex ∉ e.output := hmapping.output_free rfl
      have hidle : (res2.outputMapping sensor.outputIndex).isInitialized = false := by
        rw [houtputs]
        exact h.outputs.not_isInitialized hfree
      obtain ⟨channel, hchannel, _⟩ := hmapping.mapped sensor.entry (by simp)
      have hchannel' : TMqttChannel.fromString sensor.channel = .ok channel := hchannel
      simp [hidle, hchannel']
    · rintro e _ _ - ⟨-, rfl | ⟨what, rfl⟩⟩
      · unfold Exc.IsDuplicateOutput
        decide
      · exact id
  · rintro e _ _ - ⟨-, what, rfl⟩
    exact id

theorem wp_loadParameter_noDuplicateOutput (parameter : ParamMapping) :
    (loadParameter configJson parameter).wp clock (fun _ _ _ => True)
      (fun e _ _ => ¬ e.IsDuplicateOutput) j res := by
  rw [loadParameter, Program.wp_bind]
  apply Program.wp_mono (wp_loadTiming_frame _ _)
  · intro _ k res1 _ _
    apply Program.wp_mono (wp_mapParameter_count _ _ _) (fun _ _ _ _ _ => trivial)
    rintro e _ _ - (rfl | ⟨what, rfl⟩)
    · unfold Exc.IsDuplicateOutput
      decide
    · exact id
  · rintro e _ _ - ⟨what, rfl⟩
    exact id

theorem wp_loadMqttToSmartWebController_noDuplicateOutput (garbage : Output → TMappingPoint) :
    (loadMqttToSmartWebController configJson).wp clock (fun _ _ _ => True)
      (fun e _ _ => ¬ e.IsDuplicateOutput) i (.blank garbage) := by
  apply Program.wp_mono (wp_loadMqttToSmartWebController_entries
    (fun done j res => LoadedUpTo configJson clock j done res) ⟨rfl, .nil, .nil, .nil garbage⟩
    _ _ _) (fun _ _ _ _ _ => trivial) (fun _ _ _ _ he => he)
  · intro done sensor rest j res _ hloaded
    exact Program.wp_mono (Program.wp_and (wp_loadSensor sensor hloaded)
      (wp_loadSensor_noDuplicateOutput sensor hloaded)) (fun _ _ _ _ hboth => hboth.1)
      (fun _ _ _ _ hboth => hboth.2)
  · intro done parameter rest j res _ hloaded
    exact Program.wp_mono (Program.wp_and (wp_loadParameter parameter hloaded)
      (wp_loadParameter_noDuplicateOutput parameter)) (fun _ _ _ _ hboth => hboth.1)
      (fun _ _ _ _ hboth => hboth.2)
  · intro _ _ _
    unfold Exc.IsDuplicateOutput
    decide

end DuplicateOutput

section Controllers

variable {configJson : ControllerObject} {clock clock' : ℕ → TTimePoint} {i i' : ℕ}

/-- One object makes one configuration, whenever and wherever in memory it is loaded. -/
theorem alike_of_runs {garbage garbage' : Output → TMappingPoint} {j j' : ℕ}
    {config config' : TMqttToSmartWebConfig}
    (hrun : (loadMqttToSmartWebController configJson).run clock i (.blank garbage) =
      (.ok (), j, config))
    (hrun' : (loadMqttToSmartWebController configJson).run clock' i' (.blank garbage') =
      (.ok (), j', config')) : config.Alike config' := by
  have hwp := Program.wp_and (wp_loadMqttToSmartWebController configJson clock i garbage)
    (wp_loadMqttToSmartWebController_count garbage)
  have hwp' := Program.wp_and (wp_loadMqttToSmartWebController configJson clock' i' garbage')
    (wp_loadMqttToSmartWebController_count garbage')
  obtain ⟨⟨_, hloaded⟩, hcount⟩ := Program.wp_ok hwp hrun
  obtain ⟨⟨_, hloaded'⟩, hcount'⟩ := Program.wp_ok hwp' hrun'
  exact hloaded.alike hloaded' (hcount.trans hcount'.symm)

variable {garbage garbage' : ℕ → Output → TMappingPoint}

theorem loadMqttToSmartWebConfig_alike (objects : List ControllerObject) :
    List.Forall₂ TMqttToSmartWebConfig.Alike (loadMqttToSmartWebConfig clock garbage i objects)
      (loadMqttToSmartWebConfig clock' garbage' i' objects) := by
  induction objects generalizing i i' with
  | nil => exact .nil
  | cons controller rest ih =>
    have haccepted : ((loadMqttToSmartWebController controller).run clock i
          (.blank (garbage i))).1 = .ok () ↔
        ((loadMqttToSmartWebController controller).run clock' i' (.blank (garbage' i'))).1 =
          .ok () := by
      rw [run_eq_ok_iff_acceptable, run_eq_ok_iff_acceptable]
    rw [loadMqttToSmartWebConfig, loadMqttToSmartWebConfig]
    rcases hrun : (loadMqttToSmartWebController controller).run clock i (.blank (garbage i)) with
      ⟨_ | _, j, config⟩ <;>
    rcases hrun' : (loadMqttToSmartWebController controller).run clock' i'
        (.blank (garbage' i')) with ⟨_ | _, j', config'⟩ <;>
    rw [hrun, hrun'] at haccepted
    · exact ih
    · simp at haccepted
    · simp at haccepted
    · exact .cons (alike_of_runs hrun hrun') ih

theorem loadMqttToSmartWebConfig_append (before : List ControllerObject) :
    ∃ j, ∀ after, loadMqttToSmartWebConfig clock garbage i (before ++ after) =
      loadMqttToSmartWebConfig clock garbage i before ++
        loadMqttToSmartWebConfig clock garbage j after := by
  induction before generalizing i with
  | nil => exact ⟨i, fun _ => rfl⟩
  | cons controller rest ih =>
    simp only [List.cons_append, loadMqttToSmartWebConfig]
    rcases (loadMqttToSmartWebController controller).run clock i (.blank (garbage i)) with
      ⟨_ | _, j, config⟩
    · exact ih
    · obtain ⟨k, hk⟩ := @ih j
      exact ⟨k, fun after => congrArg (config :: ·) (hk after)⟩

/-- A controller that fails leaves the others as they are without it. -/
theorem loadMqttToSmartWebConfig_dropped (h : ¬ configJson.Acceptable)
    (before after : List ControllerObject) :
    List.Forall₂ TMqttToSmartWebConfig.Alike
      (loadMqttToSmartWebConfig clock garbage i (before ++ configJson :: after))
      (loadMqttToSmartWebConfig clock garbage i (before ++ after)) := by
  obtain ⟨j, hj⟩ := @loadMqttToSmartWebConfig_append clock i garbage before
  rw [hj, hj]
  apply List.rel_append
  · exact List.forall₂_same.mpr fun config _ => .refl config
  · rw [loadMqttToSmartWebConfig]
    rcases hrun : (loadMqttToSmartWebController configJson).run clock j (.blank (garbage j)) with
      ⟨_ | _, k, config⟩
    · exact loadMqttToSmartWebConfig_alike after
    · exact absurd ((run_eq_ok_iff_acceptable (garbage j)).mp (by rw [hrun])) h

end Controllers

/-- Acceptance and content of one controller, whatever the clock shows, wherever `res` lies in
memory and whatever other controllers are configured. -/
theorem controller_accepted_iff_wellMapped (configJson : ControllerObject)
    (h : configJson.SchemaKeysOnly) (clock : ℕ → TTimePoint) (start : ℕ)
    (garbage : ℕ → Output → TMappingPoint) :
    (((loadMqttToSmartWebController configJson).run clock start
        (.blank (garbage start))).1 = .ok () ↔ configJson.WellMapped) ∧
      (∀ finish config, (loadMqttToSmartWebController configJson).run clock start
        (.blank (garbage start)) = (.ok (), finish, config) → configJson.Content config) ∧
      (∀ sensor ∈ configJson.sensors.getD [],
        0 ≤ (sensor.info.index.toNat : ℤ) - 1 ∧ (sensor.info.index.toNat : ℤ) - 1 < 32 ∧
          (sensor.info.index.toNat : ℤ) - 1 = (sensor.outputIndex : ℕ)) ∧
      (∀ e finish config, (loadMqttToSmartWebController configJson).run clock start
        (.blank (garbage start)) = (.error e, finish, config) → ¬ e.IsDuplicateOutput) ∧
      (¬ configJson.WellMapped → ∀ before after,
        List.Forall₂ TMqttToSmartWebConfig.Alike
          (loadMqttToSmartWebConfig clock garbage start (before ++ configJson :: after))
          (loadMqttToSmartWebConfig clock garbage start (before ++ after))) := by
  have hiff := h.acceptable_iff
  constructor
  · rw [run_eq_ok_iff_acceptable, hiff]
  constructor
  · intro finish config hrun
    exact (Program.wp_ok (wp_loadMqttToSmartWebController configJson clock start _) hrun).2.content
  constructor
  · intro sensor _
    have hbounds := sensor.sensorIndexBounds
    have hindex : sensor.info.index.toNat = sensor.sensorIndex := by
      simp only [SensorMapping.info, BitVec.toNat_ofNat]
      omega
    have houtput : (sensor.outputIndex : ℕ) = sensor.sensorIndex - 1 := rfl
    omega
  constructor
  · intro e finish config hrun
    exact Program.wp_error (wp_loadMqttToSmartWebController_noDuplicateOutput _) hrun
  · intro hrefused before after
    exact loadMqttToSmartWebConfig_dropped (mt hiff.mp hrefused) before after

def boilerSensor : SensorMapping where
  channel := "boiler/flow temperature"
  valueTimeoutMin := some (-1)
  sensorIndex := 32
  channelLength := by decide
  sensorIndexBounds := by decide

def boilerParameter (info : TParameterInfo) : ParamMapping where
  channel := "boiler/setpoint/K1"
  valueTimeoutMin := none
  programType := info.programType
  parameterId := info.parameterId
  parameterIndex := info.index
  channelLength := by decide

theorem boiler_idBounds : 1 ≤ 12 ∧ 12 ≤ 255 := by decide

def boilerController (info : TParameterInfo) : ControllerObject where
  controllerId := 12
  sensors := some [boilerSensor]
  parameters := some [boilerParameter info]
  valueTimeoutMin := none
  controllerIdBounds := boiler_idBounds

theorem boilerController_schemaKeysOnly (info : TParameterInfo) :
    (boilerController info).SchemaKeysOnly where
  valueTimeoutMin := rfl
  timeouts := by
    intro sensor hsensor minutes hminutes
    rw [List.mem_singleton.mp hsensor] at hminutes
    rw [← Option.some.inj hminutes]
    decide

theorem controller_accepted_iff_wellMapped_boiler :
    ((loadMqttToSmartWebController (boilerController ⟨3, 1, 255⟩)).run (fun _ => 1) 0
        (.blank fun _ => ⟨0, 0, 0⟩)).1 = .ok () ∧
      ((loadMqttToSmartWebController (boilerController (sensorInfo 31))).run (fun _ => 1) 0
        (.blank fun _ => ⟨0, 0, 0⟩)).1 ≠ .ok () := by
  constructor
  · exact (controller_accepted_iff_wellMapped _ (boilerController_schemaKeysOnly ⟨3, 1, 255⟩)
      (fun _ => 1) 0 fun _ _ => ⟨0, 0, 0⟩).1.mpr (by decide)
  · exact mt (controller_accepted_iff_wellMapped _
      (boilerController_schemaKeysOnly (sensorInfo 31)) (fun _ => 1) 0
      fun _ _ => ⟨0, 0, 0⟩).1.mp (by decide)

end SmartWebGateway
