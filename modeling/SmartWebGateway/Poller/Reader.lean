import SmartWebGateway.Poller.Requests
import Mathlib.Tactic

/-!
# The reader of the SmartWeb-to-MQTT direction

The reader takes announcements of programs and responses with values. An
announced program is polled from then on; a value goes to the entry that the
response selects, which is looked for by another way than the poll came from.
-/
namespace SmartWebGateway

/-- The update that `SetParameter` makes: the entry that it finds, where its value begins in the
data of the frame, and whose value it is. -/
structure ParameterUpdate where
  parameter : TSmartWebParameter
  valueOffset : ℕ
  programId : Byte
  deriving DecidableEq

/-- What the reader's thread works on. `order` is the order in which the table of classes is
iterated over; it is not specified. -/
structure TSmartWebToMqttGateway where
  classes : AList fun _ : Byte => TSmartWebClass
  order : List TSmartWebClass
  knownPrograms : AList fun _ : Byte => TSmartWebClass
  requests : List TFrame
  orderPerm : order.Perm (classes.entries.map fun entry => entry.2)

namespace TSmartWebToMqttGateway

def acceptFrame (frame : TFrame) : Bool :=
  if ¬ frame.Extended then false
  else if frame.header.messageType ≠ mtMsgResponse then false
  else if frame.header.programType = ptProgram ∧
      frame.header.functionId = Program.Function.iAmProgram then true
  else if frame.header.programType = ptRemoteControl ∧
      frame.header.functionId = RemoteControl.Function.getParameterValue then true
  else false

def setParameter (params : ParameterMap) (parameterId : Byte) (valueOffset : ℕ)
    (programId : Byte) : Option ParameterUpdate :=
  params[parameterId.toNat]?.map fun p => ⟨p, valueOffset, programId⟩

def handleGetValueResponse (gateway : TSmartWebToMqttGateway) (frame : TFrame) :
    Option ParameterUpdate :=
  match gateway.knownPrograms.lookup frame.header.programId with
  | none => none
  | some cl =>
    let data : TParameterData := ⟨frame.data⟩
    if data.programType = ptProgram then
      if data.parameterId = RemoteControl.Parameters.sensor then
        setParameter cl.inputs data.index 3 frame.header.programId
      else if data.parameterId = RemoteControl.Parameters.output then
        setParameter cl.outputs data.index 3 frame.header.programId
      else none
    else
      match gateway.classes.lookup data.programType with
      | none => none
      | some clParam =>
        setParameter clParam.parameters data.parameterId 2 frame.header.programId

/-- A program is added once, by an announcement of three bytes of a known type. -/
def addProgram (fuel : ℕ) (gateway : TSmartWebToMqttGateway) (frame : TFrame) :
    Option TSmartWebToMqttGateway :=
  if (gateway.knownPrograms.lookup frame.header.programId).isSome then some gateway
  else if frame.canDlc ≠ 3 then some gateway
  else
    match gateway.classes.lookup frame.data[2]! with
    | none => some gateway
    | some cl =>
      let programId := frame.header.programId
      (addRequests gateway.order programId fuel cl gateway.requests).map fun requests =>
        { gateway with
          knownPrograms := gateway.knownPrograms.insert programId cl
          requests := requests }

/-- The gateway afterwards and the update that the frame leads to, unless the recursion of
`AddRequests` is deeper than `fuel`. -/
def handleFrame (fuel : ℕ) (gateway : TSmartWebToMqttGateway) (frame : TFrame) :
    Option (TSmartWebToMqttGateway × Option ParameterUpdate) :=
  if frame.header.programType = ptProgram ∧
      frame.header.functionId = Program.Function.iAmProgram then
    (addProgram fuel gateway frame).map fun gateway => (gateway, none)
  else if frame.header.programType = ptRemoteControl ∧
      frame.header.functionId = RemoteControl.Function.getParameterValue then
    some (gateway, handleGetValueResponse gateway frame)
  else some (gateway, none)

end TSmartWebToMqttGateway
end SmartWebGateway
