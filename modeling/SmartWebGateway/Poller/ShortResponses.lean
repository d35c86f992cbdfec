import SmartWebGateway.Poller.Controls
import SmartWebGateway.Poller.Polling
import Mathlib.Tactic

/-!
# Responses that are too short to have a value

An announcement is only taken if it has its three bytes. The length of a
response is not looked at, and its first three bytes are read whether it has
them or not: what they lead to is published.
-/
namespace SmartWebGateway

open Foundation
open TSmartWebToMqttGateway

/-- The value that a call shows, and the control that shows it. -/
def DriverCall.shown? : DriverCall → Option (ControlPath × String)
  | .createControl deviceName args => some (⟨deviceName, args.id⟩, args.rawValue)
  | .setRawValue control value => some (control, value)
  | .createDevice _ | .setError _ _ | .removeDevice _ => none

namespace TSmartWebToMqttGateway

/-- What the reader makes of a frame that the port hands over, and the calls to a driver with the
given devices. -/
def process (formatFloat : Double → String) (fuel : ℕ) (gateway : TSmartWebToMqttGateway)
    (devices : LocalDevices) (frame : TFrame) :
    Option (TSmartWebToMqttGateway × List DriverCall) :=
  if acceptFrame frame then
    (handleFrame fuel gateway frame).map fun result =>
      (result.1,
        match result.2 with
        | none => []
        | some update => update.publish formatFloat devices frame)
  else some (gateway, [])

/-- Whatever devices there are, no call for the frame makes a control or gives one a value. -/
def PublishesNothing (formatFloat : Double → String) (gateway : TSmartWebToMqttGateway)
    (frame : TFrame) : Prop :=
  ∀ fuel devices gateway' calls,
    gateway.process formatFloat fuel devices frame = some (gateway', calls) →
    calls.filterMap DriverCall.shown? = []

end TSmartWebToMqttGateway

namespace TFrame

/-- The form with an index, which inputs and outputs are sent in. -/
def Indexed (frame : TFrame) : Prop :=
  let data : TParameterData := ⟨frame.data⟩
  data.programType = ptProgram ∧ (data.parameterId = RemoteControl.Parameters.sensor ∨
    data.parameterId = RemoteControl.Parameters.output)

instance (frame : TFrame) : Decidable frame.Indexed := inferInstanceAs (Decidable (_ ∧ _))

/-- A response to a request for a parameter that ends before the first byte of a value. -/
structure IsShortResponse (frame : TFrame) : Prop where
  accepted : acceptFrame frame
  programType : frame.header.programType = ptRemoteControl
  functionId : frame.header.functionId = RemoteControl.Function.getParameterValue
  short : frame.canDlc.toNat ≤ if frame.Indexed then 3 else 2

/-- The program that a frame is from is known, and its first three bytes name an entry: an input or
an output of the program's class, or a parameter of the class of their type. -/
def NamesEntry (frame : TFrame) (gateway : TSmartWebToMqttGateway) : Prop :=
  let data : TParameterData := ⟨frame.data⟩
  ∃ cl, gateway.knownPrograms.lookup frame.header.programId = some cl ∧
    if data.programType = ptProgram then
      data.parameterId = RemoteControl.Parameters.sensor ∧ data.index.toNat ∈ cl.inputs ∨
        data.parameterId = RemoteControl.Parameters.output ∧ data.index.toNat ∈ cl.outputs
    else
      ∃ clParam, gateway.classes.lookup data.programType = some clParam ∧
        data.parameterId.toNat ∈ clParam.parameters

end TFrame

/-- Of an update, the control of its entry shows the value that was decoded; if none was, it keeps
the one it had, and a new one shows zero. -/
theorem ParameterUpdate.shown_publish (formatFloat : Double → String) (devices : LocalDevices)
    (update : ParameterUpdate) (frame : TFrame) :
    (update.publish formatFloat devices frame).filterMap DriverCall.shown? =
      match update.parameter.codec.decode formatFloat
          (frame.data.toList.drop update.valueOffset) with
      | .ok value => [(update.parameter.control update.programId, value)]
      | .error _ =>
        if (devices.control? (update.parameter.control update.programId)).isSome then []
        else [(update.parameter.control update.programId, "0")] := by
  have hcreated : ∀ (present : Bool) (name : String),
      (if present then [] else [DriverCall.createDevice name]).filterMap DriverCall.shown? =
        [] := by
    intro present name
    cases present with
    | false => rfl
    | true => rfl
  unfold publish
  dsimp only
  rw [List.filterMap_append, hcreated, List.nil_append]
  cases update.parameter.codec.decode formatFloat
      (frame.data.toList.drop update.valueOffset) with
  | error what =>
    split_ifs
    · rfl
    · rfl
  | ok value =>
    split_ifs
    · rfl
    · rfl

section Responses

variable {formatFloat : Double → String} {gateway : TSmartWebToMqttGateway} {frame : TFrame}

/-- The devices do not matter to the gateway. -/
theorem receive_eq_process (formatFloat : Double → String) (fuel : ℕ) (devices : LocalDevices) :
    receive fuel gateway frame =
      (gateway.process formatFloat fuel devices frame).map Prod.fst := by
  unfold receive process
  split_ifs
  · rw [Option.map_map]
    rfl
  · rfl

theorem TFrame.IsShortResponse.process_eq (h : frame.IsShortResponse) (fuel : ℕ)
    (devices : LocalDevices) :
    gateway.process formatFloat fuel devices frame =
      some (gateway,
        match handleGetValueResponse gateway frame with
        | none => []
        | some update => update.publish formatFloat devices frame) := by
  have hother : ptRemoteControl ≠ ptProgram := by decide
  simp [process, handleFrame, h.accepted, h.programType, h.functionId, hother]

theorem setParameter_isSome {params : ParameterMap} {parameterId programId : Byte}
    {valueOffset : ℕ} : (setParameter params parameterId valueOffset programId).isSome ↔
      parameterId.toNat ∈ params := by
  rw [setParameter, Option.isSome_map, Std.TreeMap.isSome_getElem?_iff_mem]

/-- A response leads to an update by what its first three bytes are. -/
theorem handleGetValueResponse_isSome_iff :
    (handleGetValueResponse gateway frame).isSome ↔ frame.NamesEntry gateway := by
  have hkinds : RemoteControl.Parameters.output ≠ RemoteControl.Parameters.sensor := by decide
  unfold handleGetValueResponse TFrame.NamesEntry
  cases gateway.knownPrograms.lookup frame.header.programId with
  | none => simp
  | some cl =>
    simp only [Option.some.injEq, exists_eq_left']
    split_ifs with hprogram hsensor houtput
    · simp [setParameter_isSome, hsensor, hkinds.symm]
    · simp [setParameter_isSome, houtput, hkinds]
    · simp [hsensor, houtput]
    · cases gateway.classes.lookup (TParameterData.mk frame.data).programType with
      | none => simp
      | some clParam => simp [setParameter_isSome]

end Responses

/-- A response without a value publishes nothing if its program is not known or its first three
bytes name no entry, and only then. -/
theorem short_response_publishes_nothing_iff (formatFloat : Double → String)
    (gateway : TSmartWebToMqttGateway) (frame : TFrame) (h : frame.IsShortResponse) :
    gateway.PublishesNothing formatFloat frame ↔ ¬ frame.NamesEntry gateway := by
  rw [← handleGetValueResponse_isSome_iff, Option.not_isSome_iff_eq_none]
  constructor
  · intro hnothing
    have hempty := hnothing 0 (fun _ => none) gateway _ (h.process_eq 0 _)
    cases hupdate : handleGetValueResponse gateway frame with
    | none => rfl
    | some update =>
      simp only [hupdate] at hempty
      rw [ParameterUpdate.shown_publish] at hempty
      split at hempty
      · cases hempty
      · cases hempty
  · intro hnone fuel devices gateway' calls hprocess
    rw [h.process_eq, hnone, Option.some.injEq, Prod.mk.injEq] at hprocess
    rw [← hprocess.2]
    rfl

/-! The heating circuit answers without a value, first for its own sensor and then for the one of
the circuit that it implements. -/

/-- An answer that only repeats the bytes of the poll. -/
def TFrame.emptyAnswer (poll : TFrame) (programId : Byte) : TFrame :=
  { poll.fullAnswer programId with canDlc := poll.canDlc }

theorem TFrame.emptyAnswer_isShortResponse {poll : TFrame} (programId : Byte)
    (hshort : poll.canDlc.toNat ≤ if poll.Indexed then 3 else 2) :
    (poll.emptyAnswer programId).IsShortResponse where
  accepted := by
    have hlength : poll.canDlc.toNat + 0 ≤ 8 := by
      split_ifs at hshort <;> omega
    exact (TFrame.fullAnswer_answersPoll programId hlength).accepted
  programType := by simp [emptyAnswer, fullAnswer, header]
  functionId := by simp [emptyAnswer, fullAnswer, header]
  short := hshort

def flowPoll : TFrame := indexedRequest RemoteControl.Parameters.sensor (requestBuffer 7) 0

def flowControl : ControlPath := ⟨"sw HEATING_CIRCUIT 7", "flowTemperature"⟩

theorem flow_update : ∃ p, handleGetValueResponse circuitGateway (flowPoll.emptyAnswer 7) =
    some ⟨p, 3, 7⟩ ∧ p.codec = .sensor ∧ p.control 7 = flowControl := by
  have hupdate : (handleGetValueResponse circuitGateway (flowPoll.emptyAnswer 7)).map
      (fun update => (update.parameter.codec, update.parameter.control 7, update.valueOffset,
        update.programId)) = some (.sensor, flowControl, 3, 7) := by
    decide +kernel
  obtain ⟨⟨p, valueOffset, programId⟩, hsome, hfields⟩ := Option.map_eq_some_iff.mp hupdate
  simp only [Prod.mk.injEq] at hfields
  obtain ⟨hcodec, hcontrol, rfl, rfl⟩ := hfields
  exact ⟨p, hsome, hcodec, hcontrol⟩

/-- Whatever the sensor's control showed, it shows zero degrees after an answer without a value. -/
theorem empty_answer_shown_as_zero :
    (flowPoll.emptyAnswer 7).IsShortResponse ∧
      (∀ formatFloat fuel devices, ∃ calls,
        circuitGateway.process formatFloat fuel devices (flowPoll.emptyAnswer 7) =
          some (circuitGateway, calls) ∧
        calls.filterMap DriverCall.shown? =
          [(flowControl, formatFloat ((Double.ofInt 0).div (.ofInt 10)))]) ∧
      ∀ formatFloat, ¬ circuitGateway.PublishesNothing formatFloat (flowPoll.emptyAnswer 7) := by
  have hshort : (flowPoll.emptyAnswer 7).IsShortResponse :=
    TFrame.emptyAnswer_isShortResponse 7 (by decide +kernel)
  have hshown : ∀ formatFloat fuel devices, ∃ calls,
      circuitGateway.process formatFloat fuel devices (flowPoll.emptyAnswer 7) =
        some (circuitGateway, calls) ∧
      calls.filterMap DriverCall.shown? =
        [(flowControl, formatFloat ((Double.ofInt 0).div (.ofInt 10)))] := by
    intro formatFloat fuel devices
    obtain ⟨p, hupdate, hcodec, hcontrol⟩ := flow_update
    refine ⟨_, hshort.process_eq fuel devices, ?_⟩
    have hzero : IntType.int16.ofBytes ((flowPoll.emptyAnswer 7).data.toList.drop 3) = 0 := by
      decide +kernel
    simp only [hupdate]
    rw [ParameterUpdate.shown_publish, hcontrol, hcodec, ISmartWebCodec.decode]
    simp only [hzero]
    rfl
  refine ⟨hshort, hshown, ?_⟩
  intro formatFloat hnothing
  obtain ⟨calls, hprocess, hvalue⟩ := hshown formatFloat 0 fun _ => none
  rw [hnothing 0 _ circuitGateway calls hprocess] at hvalue
  cases hvalue

theorem short_response_publishes_nothing_circuit :
    (circuitPoll.emptyAnswer 7).IsShortResponse ∧
      ∀ formatFloat, circuitGateway.PublishesNothing formatFloat (circuitPoll.emptyAnswer 7) := by
  have hshort : (circuitPoll.emptyAnswer 7).IsShortResponse :=
    TFrame.emptyAnswer_isShortResponse 7 (by decide +kernel)
  refine ⟨hshort, fun formatFloat => ?_⟩
  apply (short_response_publishes_nothing_iff formatFloat _ _ hshort).mpr
  rw [← handleGetValueResponse_isSome_iff]
  decide +kernel

end SmartWebGateway
