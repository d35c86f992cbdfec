import SmartWebGateway.Gateway.TaskFn
import Mathlib.Tactic

/-!
# What becomes of a request

`handle_request` ends in one of six ways. They are listed once, with all that
is known of the frame and of the state in each of them; every property of the
service is read off this list.
-/
namespace SmartWebGateway

open Foundation
open TMqttToSmartWebGateway

section Reading

variable (w : ℕ → World)

def timedOutAt (i : ℕ) (deviceId controlId : String) : Bool :=
  ((w i).timing.lookup (TMqttChannel.joined deviceId controlId)).any fun timing =>
    timing.isTimedOut (w i).clock

/-- What `read_mqtt_value` returns when its first observation is the `i`-th. -/
def mqttValue (i : ℕ) (deviceId controlId : String) : BitVec 16 :=
  if timedOutAt w i deviceId controlId then sensorUndefined
  else (w (i + 1)).readControl deviceId controlId

/-- The last observation that this value depends on. -/
def mqttReadAt (i : ℕ) (deviceId controlId : String) : ℕ :=
  if timedOutAt w i deviceId controlId then i else i + 1

def requestedValue (m : ControllerMapping) (i : ℕ) (data : Vector Byte 8) : BitVec 16 :=
  match m.parameterMapping.lookup (requestedParameter data).rawInfo with
  | none => sensorUndefined
  | some channel => mqttValue w i channel.device channel.control

def TaskState.lookedUp (s : TaskState) (i : ℕ) (key : String) : TaskState :=
  if ((w i).timing.lookup key).isSome then s else s.logged .errorCode1

def TaskState.requested (s : TaskState) (i : ℕ) (data : Vector Byte 8) : TaskState :=
  match s.driverState.parameterMapping.lookup (requestedParameter data).rawInfo with
  | none => s
  | some channel => s.lookedUp w i channel.toString

end Reading

namespace TFrame

/-- A request that names this program, as `get_response_frame` wants it. -/
def IsRequestTo (f : TFrame) (programId : Byte) : Prop :=
  f.header.messageType = mtMsgRequest ∧ f.header.programId = programId

def AsksForOutput (f : TFrame) (programId : Byte) : Prop :=
  f.header.programType = ptController ∧
    f.header.functionId = Controller.Function.getOutputValue ∧
      (mappingPointOf f.data).hostID = programId

def askedOutput (f : TFrame) : Output := (mappingPointOf f.data).channelID.toFin

def SaysIAmHere (f : TFrame) : Prop :=
  f.header.programType = ptController ∧ f.header.functionId = Controller.Function.iAmHere

def AsksForParameter (f : TFrame) : Prop :=
  f.header.programType = ptRemoteControl ∧
    f.header.functionId = RemoteControl.Function.getParameterValue

def AsksForController (f : TFrame) : Prop :=
  f.header.programType = ptController ∧
    (f.header.functionId = Controller.Function.getChannelNumber ∨
      f.header.functionId = Controller.Function.getControllerType)

/-- The frames that `handle_request` takes without an exception. -/
def Served (f : TFrame) (programId : Byte) : Prop :=
  f.AsksForController ∧ f.IsRequestTo programId ∨ f.AsksForOutput programId ∨ f.SaysIAmHere ∨
    f.AsksForParameter ∧ f.data[0]! = ptController ∧ f.IsRequestTo programId

instance (f : TFrame) (programId : Byte) : Decidable (f.Served programId) := by
  unfold Served AsksForController AsksForOutput SaysIAmHere AsksForParameter IsRequestTo
  infer_instance

def outputRequest (programId : Byte) (mappingPoint : TMappingPoint) : TFrame where
  canId := TCanHeader.raw ⟨ptController, programId, Controller.Function.getOutputValue, 0,
    mtMsgRequest, 4⟩
  canDlc := 2
  data := #v[mappingPoint.hostID, mappingPoint.rawSecond, 0, 0, 0, 0, 0, 0]

/-- The identifier of an answer: the request's header turned into a response. -/
def answerId (f : TFrame) : BitVec 32 :=
  { f.header with messageType := mtMsgResponse }.raw ||| canEffFlag

def channelNumberAnswer (f : TFrame) (channelNumber : ℕ) : TFrame where
  canId := f.answerId
  canDlc := 2
  data := (TFrame.zero.data.set! 0 (BitVec.ofNat 8 channelNumber)).set! 1
    (BitVec.ofNat 8 (channelNumber >>> 8))

def controllerTypeAnswer (f : TFrame) : TFrame where
  canId := f.answerId
  canDlc := 1
  data := TFrame.zero.data.set! 0 controllerType

/-- The answer to a parameter request repeats its first three bytes before the value, low
byte first. -/
def parameterAnswer (f : TFrame) (value : BitVec 16) : TFrame where
  canId := f.answerId
  canDlc := 5
  data := #v[f.data[0]!, f.data[1]!, f.data[2]!, lowByte value, highByte value, 0, 0, 0]

end TFrame

def iAmHereFrame (programId : Byte) (stack : BitVec 32) : TFrame where
  canId := { TCanHeader.ofRaw stack with
    programType := ptController
    programId := programId
    functionId := Controller.Function.iAmHere
    messageFormat := mfFormat0
    messageType := mtMsgResponse }.raw ||| canEffFlag
  canDlc := 1
  data := TFrame.zero.data.set! 0 controllerType

def ControllerMapping.channelNumber (m : ControllerMapping) : ℕ :=
  max m.parameterCount.toNat m.parameterMapping.entries.length

def TaskState.subscribed (s : TaskState) (c : Output) (mappingPoint : TMappingPoint)
    (sendTime endTime : TTimePoint) : TaskState :=
  s.updateOutput c fun channel =>
    { channel with
      sendTimePoint := sendTime
      sendEndTimePoint := endTime
      mappingPoint := mappingPoint }

/-- How `handle_request` ends on a frame. -/
inductive RequestOutcome (w : ℕ → World) (i : ℕ) (s : TaskState) (f : TFrame) :
    Except Exc Unit → ℕ → TaskState → Prop
  | rejected {e : Exc} {j : ℕ} {t : TaskState} (he : e.IsDriverError) (hij : i ≤ j)
      (hf : ¬ f.Served s.driverState.programId)
      (ht : t = s ∨ f.AsksForParameter ∧ t = s.requested w i f.data) :
      RequestOutcome w i s f (.error e) j t
  | replied (frame : TFrame) (purpose : Purpose)
      (hframe : purpose = .channelNumber ∧
          frame = f.channelNumberAnswer s.driverState.channelNumber ∨
        purpose = .controllerType ∧ frame = f.controllerTypeAnswer)
      (hf : f.AsksForController) (hrequest : f.IsRequestTo s.driverState.programId) :
      RequestOutcome w i s f (.ok ()) i (s.logged (.sent frame purpose))
  | answered {j : ℕ} (hij : i ≤ j) (hf : f.AsksForParameter) (hdata : f.data[0]! = ptController)
      (hrequest : f.IsRequestTo s.driverState.programId) :
      RequestOutcome w i s f (.ok ()) j ((s.requested w i f.data).logged
        (.sent (f.parameterAnswer (requestedValue w s.driverState i f.data)) .parameterResponse))
  | subscribed (hf : f.AsksForOutput s.driverState.programId)
      (hc : (s.driverState.outputMapping f.askedOutput).isInitialized) :
      RequestOutcome w i s f (.ok ()) (i + 2) (s.subscribed f.askedOutput (mappingPointOf f.data)
        (w i).clock ((w (i + 1)).clock + sendMessagesTime))
  | unmapped (hf : f.AsksForOutput s.driverState.programId)
      (hc : (s.driverState.outputMapping f.askedOutput).isInitialized = false) :
      RequestOutcome w i s f (.ok ()) i s
  | announced (hf : f.SaysIAmHere) :
      RequestOutcome w i s f (.ok ()) (i + 2)
        ({ s with sendIAmHereTime := (w i).clock + keepAliveInterval }.logged
          (.sent (iAmHereFrame s.driverState.programId (w (i + 1)).stack) .iAmHere))

section

variable {w : ℕ → World} {i : ℕ} {s : TaskState} {f : TFrame}
  {Q : BitVec 16 → ℕ → TaskState → Prop} {E : Exc → ℕ → TaskState → Prop}

theorem wp_readMqttValue (deviceId controlId : String) :
    (readMqttValue deviceId controlId).wp w Q E i s ↔
      Q (mqttValue w i deviceId controlId) (mqttReadAt w i deviceId controlId + 1)
        (s.lookedUp w i (TMqttChannel.joined deviceId controlId)) := by
  rw [readMqttValue, Program.wp_bind, Program.wp_observe, mqttValue, mqttReadAt, timedOutAt,
    TaskState.lookedUp]
  cases htiming : (w i).timing.lookup (TMqttChannel.joined deviceId controlId) with
  | none => simp
  | some timing => cases h : timing.isTimedOut (w i).clock <;> simp [h]

theorem mqttReadAt_ge (i : ℕ) (deviceId controlId : String) :
    i ≤ mqttReadAt w i deviceId controlId := by
  unfold mqttReadAt
  split_ifs <;> omega

theorem TaskState.requested_log (data : Vector Byte 8) :
    s.log <:+ (s.requested w i data).log := by
  unfold requested lookedUp
  split
  · exact List.suffix_rfl
  · split_ifs
    · exact List.suffix_rfl
    · exact List.suffix_cons _ _

@[simp] theorem TaskState.requested_driverState (data : Vector Byte 8) :
    (s.requested w i data).driverState = s.driverState := by
  unfold requested lookedUp
  split
  · rfl
  · split_ifs <;> rfl

@[simp] theorem TaskState.requested_sendIAmHereTime (data : Vector Byte 8) :
    (s.requested w i data).sendIAmHereTime = s.sendIAmHereTime := by
  unfold requested lookedUp
  split
  · rfl
  · split_ifs <;> rfl

theorem TaskState.updateOutput_updateOutput (c : Output)
    (f g : TBroadcastChannel → TBroadcastChannel) :
    (s.updateOutput c f).updateOutput c g = s.updateOutput c (g ∘ f) := by
  simp [updateOutput]

theorem getResponseFrame_cases (programId : Byte) (header : TCanHeader) :
    (∃ e, e.IsDriverError ∧ getResponseFrame programId header = .error e ∧
      ¬ (header.messageType = mtMsgRequest ∧ header.programId = programId)) ∨
    (header.messageType = mtMsgRequest ∧ header.programId = programId) ∧
      getResponseFrame programId header =
        .ok { TFrame.zero with canId := { header with messageType := mtMsgResponse }.raw } := by
  unfold getResponseFrame
  split_ifs with htype hid
  · refine Or.inl ⟨_, ?_, rfl, fun h => htype h.1⟩
    trivial
  · refine Or.inl ⟨_, ?_, rfl, fun h => hid h.2⟩
    trivial
  · exact Or.inr ⟨⟨not_not.mp htype, not_not.mp hid⟩, rfl⟩

theorem wp_respond {Q : ℕ → TaskState → Prop} {t : TaskState}
    (change : TFrame → TFrame) (purpose : Purpose)
    (herror : ∀ e, e.IsDriverError → ¬ f.IsRequestTo s.driverState.programId → E e i t)
    (hok : f.IsRequestTo s.driverState.programId →
      Q i (t.logged (.sent
        { change { TFrame.zero with
            canId := { f.header with messageType := mtMsgResponse }.raw } with
          canId := (change { TFrame.zero with
            canId := { f.header with messageType := mtMsgResponse }.raw }).canId ||| canEffFlag }
        purpose))) :
    Program.wp (do
        let response ← Program.ofExcept (getResponseFrame s.driverState.programId f.header)
        sendFrame (change response) purpose) w (fun _ => Q) E i t := by
  rw [Program.wp_bind, Program.wp_ofExcept]
  rcases getResponseFrame_cases s.driverState.programId f.header with
    ⟨e, he, hresponse, hnot⟩ | ⟨hrequest, hresponse⟩
  · rw [hresponse]
    exact herror e he hnot
  · rw [hresponse]
    exact hok hrequest

/-! A frame is of one kind only. -/

theorem TFrame.AsksForParameter.not_controller (h : f.AsksForParameter) :
    f.header.programType ≠ ptController := by
  rw [h.1]
  decide

theorem TFrame.AsksForOutput.not_asksForController {programId : Byte}
    (h : f.AsksForOutput programId) : ¬ f.AsksForController := by
  intro hcontroller
  have hfunction := hcontroller.2
  rw [h.2.1] at hfunction
  exact absurd hfunction (by decide)

theorem TFrame.SaysIAmHere.not_asksForController (h : f.SaysIAmHere) : ¬ f.AsksForController := by
  intro hcontroller
  have hfunction := hcontroller.2
  rw [h.2] at hfunction
  exact absurd hfunction (by decide)

theorem TFrame.SaysIAmHere.not_asksForOutput {programId : Byte} (h : f.SaysIAmHere) :
    ¬ f.AsksForOutput programId := by
  intro houtput
  have hfunction := houtput.2.1
  rw [h.2] at hfunction
  exact absurd hfunction (by decide)

theorem TFrame.served_controller (programId : Byte) (h : f.header.programType = ptController) :
    f.Served programId ↔
      (f.header.functionId = Controller.Function.getChannelNumber ∨
        f.header.functionId = Controller.Function.getControllerType) ∧ f.IsRequestTo programId ∨
      f.header.functionId = Controller.Function.getOutputValue ∧
        (mappingPointOf f.data).hostID = programId ∨
      f.header.functionId = Controller.Function.iAmHere := by
  have hne : ptController ≠ ptRemoteControl := by decide
  simp [Served, AsksForController, AsksForOutput, SaysIAmHere, AsksForParameter, h, hne]

theorem TFrame.served_remoteControl (programId : Byte)
    (h : f.header.programType = ptRemoteControl) :
    f.Served programId ↔ f.header.functionId = RemoteControl.Function.getParameterValue ∧
      f.data[0]! = ptController ∧ f.IsRequestTo programId := by
  have hne : ptRemoteControl ≠ ptController := by decide
  simp [Served, AsksForController, AsksForOutput, SaysIAmHere, AsksForParameter, h, hne]

theorem TFrame.not_served_of_type {programId : Byte} (hc : f.header.programType ≠ ptController)
    (hr : f.header.programType ≠ ptRemoteControl) : ¬ f.Served programId := by
  simp [Served, AsksForController, AsksForOutput, SaysIAmHere, AsksForParameter, hc, hr]

theorem wp_iAmHere {Q : ℕ → TaskState → Prop} :
    iAmHere.wp w (fun _ => Q) E i s ↔
      Q (i + 2) ({ s with sendIAmHereTime := (w i).clock + keepAliveInterval }.logged
        (.sent (iAmHereFrame s.driverState.programId (w (i + 1)).stack) .iAmHere)) := by
  simp only [iAmHere, postponeIAmHere, now, sendFrame, Program.wp_bind, Program.wp_observe,
    Program.wp_modify, Program.wp_get, BitVec.or_assoc, BitVec.or_self]
  rfl

theorem wp_sendScheduledIAmHere_iff {Q : ℕ → TaskState → Prop} :
    sendScheduledIAmHere.wp w (fun _ => Q) E i s ↔
      if s.sendIAmHereTime ≤ (w i).clock then
        Q (i + 3) ({ s with sendIAmHereTime := (w (i + 1)).clock + keepAliveInterval }.logged
          (.sent (iAmHereFrame s.driverState.programId (w (i + 2)).stack) .iAmHere))
      else Q (i + 1) s := by
  simp only [sendScheduledIAmHere, now, Program.wp_bind, Program.wp_observe, Program.wp_get,
    Program.wp_ite, Program.wp_pure]
  split_ifs
  · exact wp_iAmHere
  · exact Iff.rfl

theorem wp_getOutputValue (hf : f.header.programType = ptController)
    (hfunction : f.header.functionId = Controller.Function.getOutputValue) :
    (getOutputValue f.data).wp w (fun _ j t => RequestOutcome w i s f (.ok ()) j t)
      (fun e j t => RequestOutcome w i s f (.error e) j t) i s := by
  have hbounds : ¬ 32 ≤ (mappingPointOf f.data).channelID.toNat := by
    have := (mappingPointOf f.data).channelID.isLt
    omega
  rw [getOutputValue, Program.wp_bind, Program.wp_get, Program.wp_ite, dif_neg hbounds,
    Program.wp_ite]
  split_ifs with hhost hinit
  · refine .rejected trivial le_rfl ?_ (.inl rfl)
    rw [TFrame.served_controller _ hf, hfunction]
    simpa [Controller.Function.getOutputValue, Controller.Function.getChannelNumber,
      Controller.Function.getControllerType, Controller.Function.iAmHere] using hhost
  · simp only [scheduleToSend, now, Program.wp_bind, Program.wp_observe, Program.wp_modify,
      TaskState.updateOutput_updateOutput]
    exact .subscribed ⟨hf, hfunction, not_not.mp hhost⟩ hinit
  · exact .unmapped ⟨hf, hfunction, not_not.mp hhost⟩ (Bool.eq_false_iff.mpr hinit)

theorem wp_getParameterValue (hf : f.AsksForParameter) :
    (getParameterValue f.header f.data).wp w (fun _ j t => RequestOutcome w i s f (.ok ()) j t)
      (fun e j t => RequestOutcome w i s f (.error e) j t) i s := by
  have hserved := TFrame.served_remoteControl s.driverState.programId hf.1
  rw [getParameterValue, Program.wp_ite]
  split_ifs with hdata
  · refine .rejected trivial le_rfl ?_ (.inl rfl)
    rw [hserved]
    exact fun h => hdata h.2.1
  have hrespond : ∀ j, i ≤ j → Program.wp (do
      let response ← Program.ofExcept (getResponseFrame s.driverState.programId f.header)
      sendFrame (parameterResponse response (requestedParameter f.data)
        (requestedValue w s.driverState i f.data)) .parameterResponse) w
      (fun _ j t => RequestOutcome w i s f (.ok ()) j t)
      (fun e j t => RequestOutcome w i s f (.error e) j t) j (s.requested w i f.data) := by
    intro j hij
    refine wp_respond (fun response => parameterResponse response (requestedParameter f.data)
        (requestedValue w s.driverState i f.data)) _ ?_ ?_
    · intro e he hnot
      refine .rejected he hij ?_ (.inr ⟨hf, rfl⟩)
      rw [hserved]
      exact fun h => hnot h.2.2
    · intro hrequest
      exact .answered hij hf (not_not.mp hdata) hrequest
  rw [Program.wp_bind, Program.wp_get]
  cases hlookup : s.driverState.parameterMapping.lookup (requestedParameter f.data).rawInfo with
  | none =>
    simpa [requestedValue, TaskState.requested, hlookup] using hrespond i le_rfl
  | some channel =>
    simp only
    rw [Program.wp_bind, wp_readMqttValue]
    have hread := mqttReadAt_ge (w := w) i channel.device channel.control
    simpa [requestedValue, TaskState.requested, hlookup, TMqttChannel.toString] using
      hrespond (mqttReadAt w i channel.device channel.control + 1) (by omega)

/-- Every exception that leaves `handle_request` is a `TDriverError`. -/
theorem RequestOutcome.isDriverError {e : Exc} {j : ℕ} {t : TaskState}
    (h : RequestOutcome w i s f (.error e) j t) : e.IsDriverError := by
  cases h with
  | rejected he => exact he

/-- `handle_request` always ends in one of the listed ways. -/
theorem wp_handleRequest (w : ℕ → World) (i : ℕ) (s : TaskState) (f : TFrame) :
    (handleRequest f.header f.data).wp w (fun _ j t => RequestOutcome w i s f (.ok ()) j t)
      (fun e j t => RequestOutcome w i s f (.error e) j t) i s := by
  rw [handleRequest]
  simp only [Program.wp_ite, Program.wp_throw]
  split_ifs with hcontroller hnumber htype houtput hhere hremote hget
  · apply wp_respond _ _
    · intro e he hnot
      refine .rejected he le_rfl ?_ (.inl rfl)
      rw [TFrame.served_controller _ hcontroller, hnumber]
      simp [hnot, Controller.Function.getOutputValue, Controller.Function.getChannelNumber,
        Controller.Function.iAmHere]
    · exact fun hrequest => .replied _ _ (.inl ⟨rfl, rfl⟩) ⟨hcontroller, .inl hnumber⟩ hrequest
  · apply wp_respond _ _
    · intro e he hnot
      refine .rejected he le_rfl ?_ (.inl rfl)
      rw [TFrame.served_controller _ hcontroller, htype]
      simp [hnot, Controller.Function.getOutputValue, Controller.Function.getControllerType,
        Controller.Function.iAmHere]
    · exact fun hrequest => .replied _ _ (.inr ⟨rfl, rfl⟩) ⟨hcontroller, .inr htype⟩ hrequest
  · exact wp_getOutputValue hcontroller houtput
  · rw [wp_iAmHere]
    exact .announced ⟨hcontroller, hhere⟩
  · refine .rejected trivial le_rfl ?_ (.inl rfl)
    rw [TFrame.served_controller _ hcontroller]
    tauto
  · exact wp_getParameterValue ⟨hremote, hget⟩
  · refine .rejected trivial le_rfl ?_ (.inl rfl)
    rw [TFrame.served_remoteControl _ hremote]
    tauto
  · exact .rejected trivial le_rfl (TFrame.not_served_of_type hcontroller hremote) (.inl rfl)

theorem handleRequest_outcome {outcome : Except Exc Unit} {j : ℕ} {t : TaskState}
    (h : (handleRequest f.header f.data).run w i s = (outcome, j, t)) :
    RequestOutcome w i s f outcome j t := by
  have hwp := wp_handleRequest w i s f
  unfold Program.wp at hwp
  rw [h] at hwp
  cases outcome with
  | ok => exact hwp
  | error e => exact hwp

end
end SmartWebGateway
