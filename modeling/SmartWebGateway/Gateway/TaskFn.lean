import SmartWebGateway.Foundation.Program
import SmartWebGateway.Mqtt.World
import Mathlib.Tactic

/-!
# The thread of one virtual controller

Every function below is one of the closures of `TaskFn`, or a member that they
call. Each reading of the clock, of the table of timings and of the driver is
an observation of its own. The log lists, newest first, what the thread did; the
thread never reads it back. Whether `Send` succeeds or throws makes no
difference to the thread, so a frame counts as sent when it is handed over.
-/
namespace SmartWebGateway

open Foundation

inductive EDriverStatus where
  | idle
  | running
  deriving DecidableEq

/-- One output frame: its channel, where the loop first read the clock for it, where
`read_mqtt_value` began, and the last observation that the value depends on. -/
structure Broadcast where
  channelId : Output
  checkedAt : ℕ
  readFrom : ℕ
  readAt : ℕ
  deriving DecidableEq

/-- The text that `send_frame` is called with. -/
inductive Purpose where
  | iAmHere
  | channelNumber
  | parameterResponse
  | controllerType
  | output (broadcast : Broadcast)
  deriving DecidableEq

/-- `handled` is the call of `handle_request`, `postponed` the one of `postpone_send`. -/
inductive Event where
  | handled (position : ℕ) (frame : TFrame)
  | sent (frame : TFrame) (purpose : Purpose)
  | postponed (position : ℕ) (channelId : Output)
  | errorCode1
  deriving DecidableEq

structure TaskState where
  driverState : ControllerMapping
  status : EDriverStatus
  sendIAmHereTime : TTimePoint
  resetConnectionTime : TTimePoint
  log : List Event

namespace TaskState

def initial (config : TMqttToSmartWebConfig) : TaskState where
  driverState := config.toControllerMapping
  status := .idle
  sendIAmHereTime := 0
  resetConnectionTime := 0
  log := []

def logged (event : Event) (s : TaskState) : TaskState := { s with log := event :: s.log }

def updateOutput (channelId : Output) (f : TBroadcastChannel → TBroadcastChannel)
    (s : TaskState) : TaskState :=
  { s with
    driverState := { s.driverState with
      outputMapping :=
        Function.update s.driverState.outputMapping channelId
          (f (s.driverState.outputMapping channelId)) } }

end TaskState

abbrev TaskM := Program World TaskState Exc

namespace TMqttToSmartWebGateway

/-- External controller -/
def controllerType : Byte := 14

def now : TaskM TTimePoint := Program.observe World.clock

def getResponseFrame (programId : Byte) (header : TCanHeader) : Except Exc TFrame :=
  if header.messageType ≠ mtMsgRequest then
    .error (.frame "Frame error: response to NOT request frame")
  else if header.programId ≠ programId then
    .error (.frame ("Frame error: response to request frame for different device (" ++
      toString header.programId.toNat ++ ")"))
  else
    .ok { TFrame.zero with canId := { header with messageType := mtMsgResponse }.raw }

def postponeIAmHere : TaskM Unit := do
  let t ← now
  Program.modify fun s => { s with sendIAmHereTime := t + keepAliveInterval }

def postponeConnectionReset : TaskM Unit := do
  let t ← now
  Program.modify fun s => { s with resetConnectionTime := t + connectionTimeout }

def sendFrame (frame : TFrame) (purpose : Purpose) : TaskM Unit :=
  Program.modify (TaskState.logged
    (.sent { frame with canId := frame.canId ||| canEffFlag } purpose))

def readMqttValue (deviceId controlId : String) : TaskM (BitVec 16) := do
  let timedOut ← Program.observe fun w =>
    (w.timing.lookup (TMqttChannel.joined deviceId controlId)).map fun timing =>
      timing.isTimedOut w.clock
  match timedOut with
  | some true => pure sensorUndefined
  | some false => Program.observe fun w => w.readControl deviceId controlId
  | none => do
    Program.modify (TaskState.logged .errorCode1)
    Program.observe fun w => w.readControl deviceId controlId

/-- The header is a local without initialiser; its unused bits are what the stack held. -/
def iAmHere : TaskM Unit := do
  postponeIAmHere
  let stack ← Program.observe World.stack
  let s ← Program.get
  let header : TCanHeader :=
    { TCanHeader.ofRaw stack with
      programType := ptController
      programId := s.driverState.programId
      functionId := Controller.Function.iAmHere
      messageFormat := mfFormat0
      messageType := mtMsgResponse }
  let frame : TFrame :=
    { canId := header.raw ||| canEffFlag
      canDlc := 1
      data := TFrame.zero.data.set! 0 controllerType }
  sendFrame frame .iAmHere

def sendScheduledIAmHere : TaskM Unit := do
  let t ← now
  let s ← Program.get
  if s.sendIAmHereTime ≤ t then iAmHere else pure ()

def getChannelNumber (header : TCanHeader) : TaskM Unit := do
  let s ← Program.get
  let channelNumber :=
    max s.driverState.parameterCount.toNat s.driverState.parameterMapping.entries.length
  let response ← Program.ofExcept (getResponseFrame s.driverState.programId header)
  sendFrame
    { response with
      canDlc := 2
      data := (response.data.set! 0 (BitVec.ofNat 8 channelNumber)).set! 1
        (BitVec.ofNat 8 (channelNumber >>> 8)) }
    .channelNumber

/-- `memcpy(&parameter_data.raw, data, 4)` into a zeroed union. -/
def requestedParameter (data : Vector Byte 8) : TParameterData where
  bytes := #v[data[0]!, data[1]!, data[2]!, data[3]!, 0, 0, 0, 0]

/-- The frame `get_parameter_value` makes of the request's first three bytes and the value. -/
def parameterResponse (response : TFrame) (parameterData : TParameterData) (value : BitVec 16) :
    TFrame :=
  { response with
    canDlc := 5
    data := #v[parameterData.programType, parameterData.parameterId, parameterData.index,
      lowByte value, highByte value, 0, 0, 0] }

def getParameterValue (header : TCanHeader) (data : Vector Byte 8) : TaskM Unit := do
  let parameterData := requestedParameter data
  if parameterData.programType ≠ ptController then
    Program.throw (.unsupported ("Unsupported program type " ++
      toString parameterData.programType.toNat ++ " for GET_PARAMETER_VALUE"))
  else do
    let s ← Program.get
    let value ←
      match s.driverState.parameterMapping.lookup parameterData.rawInfo with
      | none => pure sensorUndefined
      | some channel => readMqttValue channel.device channel.control
    let response ← Program.ofExcept (getResponseFrame s.driverState.programId header)
    sendFrame (parameterResponse response parameterData value) .parameterResponse

/-- The mapping point in the first two bytes of a frame. -/
def mappingPointOf (data : Vector Byte 8) : TMappingPoint := .ofRawID data[0]! data[1]!

/-- `channel.schedule_to_send(mapping_point)`, which reads the clock twice. -/
def scheduleToSend (channelId : Output) (mappingPoint : TMappingPoint) : TaskM Unit := do
  let t ← now
  Program.modify (TaskState.updateOutput channelId fun channel =>
    { channel with sendTimePoint := t })
  let t ← now
  Program.modify (TaskState.updateOutput channelId fun channel =>
    { channel with sendEndTimePoint := t + sendMessagesTime, mappingPoint := mappingPoint })

def getOutputValue (data : Vector Byte 8) : TaskM Unit := do
  let s ← Program.get
  let mappingPoint := mappingPointOf data
  if mappingPoint.hostID ≠ s.driverState.programId then
    Program.throw (.frame "hostID of mapping point does not match with driver program_id")
  else if h : 32 ≤ mappingPoint.channelID.toNat then
    Program.throw (.frame ("channel_id of mapping point is out of bounds: " ++
      toString mappingPoint.channelID.toNat))
  else
    let channelId : Output := ⟨mappingPoint.channelID.toNat, by omega⟩
    if (s.driverState.outputMapping channelId).isInitialized then
      scheduleToSend channelId mappingPoint
    else pure ()

def postponeSend (channelId : Output) : TaskM Unit := do
  let position ← Program.position
  let t ← now
  Program.modify (TaskState.updateOutput channelId fun channel =>
    { channel with lastSendTimePoint := t, sendTimePoint := t + sendMessagesInterval })
  Program.modify (TaskState.logged (.postponed position channelId))

/-- The four bytes of an output frame: the mapping point, then the value, high byte first.
The rest of the buffer keeps what it held. -/
def outputFrame (frame : TFrame) (header : TCanHeader) (mappingPoint : TMappingPoint)
    (value : BitVec 16) : TFrame :=
  { frame with
    canId := header.raw ||| canEffFlag
    data := (((frame.data.set! 0 mappingPoint.hostID).set! 1 mappingPoint.rawSecond).set! 2
      (highByte value)).set! 3 (lowByte value) }

/-- Reads the value, sends it and postpones the next send; the frame is the loop's buffer. -/
def sendOutput (header : TCanHeader) (frame : TFrame) (checkedAt : ℕ) (channelId : Output) :
    TaskM TFrame := do
  let s ← Program.get
  let channel := s.driverState.outputMapping channelId
  let readFrom ← Program.position
  let value ← readMqttValue channel.device channel.control
  let next ← Program.position
  let frame := outputFrame frame header channel.mappingPoint value
  sendFrame frame (.output ⟨channelId, checkedAt, readFrom, next - 1⟩)
  postponeSend channelId
  pure frame

/-- The body of the loop over the outputs. -/
def sendScheduledOutput (header : TCanHeader) (frame : TFrame) (channelId : Output) :
    TaskM TFrame := do
  let s ← Program.get
  let channel := s.driverState.outputMapping channelId
  let checkedAt ← Program.position
  let t ← now
  if channel.sendEndTimePoint < t then pure frame
  else if channel.device = "" ∨ channel.control = "" then pure frame
  else do
    let timing ← Program.observe fun w =>
      w.timing.lookup (TMqttChannel.joined channel.device channel.control)
    match timing with
    | none => Program.throw .outOfRange
    | some timing =>
      if timing.lastUpdateTimePoint ≤ channel.lastSendTimePoint then do
        let t ← now
        if channel.sendTimePoint > t then pure frame
        else sendOutput header frame checkedAt channelId
      else sendOutput header frame checkedAt channelId

def sendScheduledOutputs : TaskM Unit := do
  let stack ← Program.observe World.stack
  let s ← Program.get
  let header : TCanHeader :=
    { TCanHeader.ofRaw stack with
      programType := ptController
      programId := s.driverState.programId
      functionId := Controller.Function.getOutputValue
      messageFormat := mfFormat0
      messageType := mtMsgResponse }
  let _ ← Program.foldl (sendScheduledOutput header) { TFrame.zero with canDlc := 4 }
    (List.finRange 32)

def getControllerType (header : TCanHeader) : TaskM Unit := do
  let s ← Program.get
  let response ← Program.ofExcept (getResponseFrame s.driverState.programId header)
  sendFrame { response with canDlc := 1, data := response.data.set! 0 controllerType }
    .controllerType

def handleRequest (header : TCanHeader) (data : Vector Byte 8) : TaskM Unit :=
  if header.programType = ptController then
    if header.functionId = Controller.Function.getChannelNumber then getChannelNumber header
    else if header.functionId = Controller.Function.getControllerType then
      getControllerType header
    else if header.functionId = Controller.Function.getOutputValue then getOutputValue data
    else if header.functionId = Controller.Function.iAmHere then iAmHere
    else Program.throw (.unsupported ("function id " ++ toString header.functionId.toNat ++
      " is unsupported"))
  else if header.programType = ptRemoteControl then
    if header.functionId = RemoteControl.Function.getParameterValue then
      getParameterValue header data
    else Program.throw (.unsupported ("function id " ++ toString header.functionId.toNat ++
      " is unsupported"))
  else Program.throw (.unsupported ("program_type " ++ toString header.programType.toNat ++
    " is unsupported"))

/-- What the loop does before the switch when no frame came. -/
def resetConnection : TaskM Unit := do
  let s ← Program.get
  if s.status ≠ .idle then do
    let t ← now
    if s.resetConnectionTime ≤ t then Program.modify fun s => { s with status := .idle }
    else pure ()
  else pure ()

def handleFrame (frame : TFrame) : TaskM Unit := do
  postponeConnectionReset
  let position ← Program.position
  Program.modify (TaskState.logged (.handled position frame))
  handleRequest frame.header frame.data

/-- `case DS_RUNNING`, which `case DS_IDLE` falls through to when a frame came. -/
def running (input : Option TFrame) : TaskM Unit := do
  match input with
  | some frame => handleFrame frame
  | none => pure ()
  sendScheduledOutputs
  sendScheduledIAmHere

/-- The `switch`, inside the `try`. -/
def switch (input : Option TFrame) : TaskM Unit := do
  let s ← Program.get
  match s.status, input with
  | .idle, none => sendScheduledIAmHere
  | .idle, some frame => do
    Program.modify fun s => { s with status := .running }
    running (some frame)
  | .running, _ => running input

/-- One round of the loop on what `SelectTimeout` returned. An exception that is not a
`TDriverError` ends the process. -/
def iteration (input : Option TFrame) : TaskM Unit := do
  if input.isNone then resetConnection else pure ()
  Program.tryCatch (switch input) fun e =>
    if e.IsDriverError then pure () else Program.throw e

def start : TaskM Unit := do
  let t ← now
  Program.modify fun s => { s with sendIAmHereTime := t }

/-- `n` rounds of the loop, from construction; `inputs` is what `SelectTimeout` returns. -/
def taskFn (inputs : ℕ → Option TFrame) : ℕ → TaskM Unit :=
  Program.rounds start iteration inputs

/-- Whether `Handle` puts a frame into the queue. -/
def isForMe (programId : Byte) (header : TCanHeader) (data : Vector Byte 8) : Bool :=
  if header.programId = programId then true
  else if header.messageType = mtMsgRequest ∧ header.programType = ptController ∧
      header.functionId = Controller.Function.getOutputValue then
    (mappingPointOf data).hostID = programId
  else false

end TMqttToSmartWebGateway
end SmartWebGateway
