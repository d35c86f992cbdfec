import SmartWebGateway.Foundation.Program
import SmartWebGateway.Mqtt.Channel
import Mathlib.Tactic

/-!
# Loading one virtual controller

A controller object comes here after validation, so its records carry the
bounds that the schema checked. The loader goes through the sensors and then
through the parameters; each of its `LoadTiming` calls reads the clock once.
-/
namespace SmartWebGateway

open Foundation

/-- A JSON member as `asInt` meets it: an integer, or something else together
with what the JSON library converts it to. -/
inductive JsonValue where
  | integer (value : ℤ)
  | other (converted : Except String (BitVec 32))

def JsonValue.asInt : JsonValue → Except Exc ℤ
  | .integer value =>
    if -2 ^ 31 ≤ value ∧ value < 2 ^ 31 then .ok value
    else .error (.jsonLogic "LargestInt out of Int range")
  | .other (.ok value) => .ok value.toInt
  | .other (.error what) => .error (.jsonLogic what)

/-- `#/definitions/sensor_mapping` -/
structure SensorMapping where
  channel : String
  valueTimeoutMin : Option ℤ
  sensorIndex : ℕ
  channelLength : 3 ≤ channel.length
  sensorIndexBounds : 1 ≤ sensorIndex ∧ sensorIndex ≤ 32

/-- `#/definitions/param_mapping` -/
structure ParamMapping where
  channel : String
  valueTimeoutMin : Option ℤ
  programType : Byte
  parameterId : Byte
  parameterIndex : Byte
  channelLength : 3 ≤ channel.length

/-- `#/definitions/controller`. The schema does not forbid further members;
the only one that the loader ever looks for is `value_timeout_min`. -/
structure ControllerObject where
  controllerId : ℕ
  sensors : Option (List SensorMapping)
  parameters : Option (List ParamMapping)
  valueTimeoutMin : Option JsonValue
  controllerIdBounds : 1 ≤ controllerId ∧ controllerId ≤ 255

def sensorInfo (output : Output) : TParameterInfo where
  programType := ptController
  parameterId := Controller.Parameters.sensor
  index := BitVec.ofNat 8 (output + 1)

def SensorMapping.info (sensor : SensorMapping) : TParameterInfo where
  programType := ptController
  parameterId := Controller.Parameters.sensor
  index := BitVec.ofNat 8 sensor.sensorIndex

/-- A sensor is also accessible as output with index `sensor_index - 1`. -/
def SensorMapping.outputIndex (sensor : SensorMapping) : Output :=
  ⟨sensor.sensorIndex - 1, by have := sensor.sensorIndexBounds; omega⟩

def ParamMapping.info (parameter : ParamMapping) : TParameterInfo where
  programType := parameter.programType
  parameterId := parameter.parameterId
  index := parameter.parameterIndex

theorem SensorMapping.info_eq (sensor : SensorMapping) :
    sensor.info = sensorInfo sensor.outputIndex := by
  have h := sensor.sensorIndexBounds
  simp only [info, sensorInfo, outputIndex]
  congr
  omega

/-- `TMqttToSmartWebConfig res;` with whatever is left in the mapping points. -/
def TMqttToSmartWebConfig.blank (garbage : Output → TMappingPoint) : TMqttToSmartWebConfig where
  programId := 0
  parameterMapping := ∅
  outputMapping := fun output => .uninitialized (garbage output)
  parameterCount := 0
  mqttChannelsTiming := ∅

/-- The loader reads nothing of the world but the clock. -/
abbrev LoadM := Program TTimePoint TMqttToSmartWebConfig Exc

def loadTiming (mqttChannel : String) (valueTimeoutMin : Option JsonValue) : LoadM Unit := do
  let now ← Program.observe id
  Program.modify fun controller =>
    { controller with
      mqttChannelsTiming := controller.mqttChannelsTiming.insert mqttChannel
        (((controller.mqttChannelsTiming.lookup mqttChannel).getD
          .initial).refreshLastUpdateTimepoint now) }
  match valueTimeoutMin with
  | none => pure ()
  | some value => do
    let minutes ← Program.ofExcept value.asInt
    Program.modify fun controller =>
      { controller with
        mqttChannelsTiming := controller.mqttChannelsTiming.insert mqttChannel
          { (controller.mqttChannelsTiming.lookup mqttChannel).getD .initial with
            valueTimeoutMin := minutes } }

/-- What both loops do after `LoadTiming`: the check for a duplicate, the entry of
the mapping, and the running maximum in one byte. -/
def mapParameter (duplicate : String) (info : TParameterInfo) (mqttChannel : String) :
    LoadM Unit := do
  let res ← Program.get
  if (res.parameterMapping.lookup info.raw).isSome then
    Program.throw (.runtime duplicate)
  else do
    let channel ← Program.ofExcept (TMqttChannel.fromString mqttChannel)
    Program.modify fun res =>
      { res with
        parameterMapping := res.parameterMapping.insert info.raw channel
        parameterCount :=
          if res.parameterCount < info.index + 1 then info.index + 1 else res.parameterCount }

def loadSensor (sensor : SensorMapping) : LoadM Unit := do
  loadTiming sensor.channel (sensor.valueTimeoutMin.map .integer)
  mapParameter "Malformed JSON config: duplicate sensor" sensor.info sensor.channel
  let res ← Program.get
  if (res.outputMapping sensor.outputIndex).isInitialized then
    Program.throw (.runtime ("Malformed JSON config: duplicate output " ++
      toString (sensor.outputIndex : ℕ)))
  else do
    let channel ← Program.ofExcept (TMqttChannel.fromString sensor.channel)
    Program.modify fun res =>
      { res with
        outputMapping := Function.update res.outputMapping sensor.outputIndex
          { res.outputMapping sensor.outputIndex with toTMqttChannel := channel } }

/-- The timeout is looked for in the controller object, not in the parameter. -/
def loadParameter (configJson : ControllerObject) (parameter : ParamMapping) : LoadM Unit := do
  loadTiming parameter.channel configJson.valueTimeoutMin
  mapParameter "Malformed JSON config: duplicate parameter" parameter.info parameter.channel

def loadMqttToSmartWebController (configJson : ControllerObject) : LoadM Unit := do
  Program.modify fun res => { res with programId := BitVec.ofNat 8 configJson.controllerId }
  Program.forEach loadSensor (configJson.sensors.getD [])
  Program.forEach (loadParameter configJson) (configJson.parameters.getD [])
  if configJson.parameters.isNone ∧ configJson.sensors.isNone then
    Program.throw (.runtime "Malformed JSON config: no parameter or sensor in mapping")
  else pure ()

/-- Controllers that fail to load are reported and left out. -/
def loadMqttToSmartWebConfig (clock : ℕ → TTimePoint) (garbage : ℕ → Output → TMappingPoint) :
    ℕ → List ControllerObject → List TMqttToSmartWebConfig
  | _, [] => []
  | i, controller :: rest =>
    match (loadMqttToSmartWebController controller).run clock i (.blank (garbage i)) with
    | (.ok (), j, config) => config :: loadMqttToSmartWebConfig clock garbage j rest
    | (.error _, j, _) => loadMqttToSmartWebConfig clock garbage j rest

end SmartWebGateway
