import SmartWebGateway.Foundation.Dispatch
import SmartWebGateway.Gateway.Requests
import SmartWebGateway.Poller.Reader
import Mathlib.Tactic

/-!
# Who gets a received frame

The port offers every frame to its handlers in the order of their registration.
A controller claims a frame by the program id of the header, and an output
request also by the host of the mapping point; the first claim wins.
-/
namespace SmartWebGateway

open Foundation
open TMqttToSmartWebGateway

/-- A handler of the port with the queue that it fills: the reader of the other direction, or a
virtual controller. -/
inductive IFrameHandler where
  | reader (frames : List TFrame)
  | controller (programId : Byte) (canFrames : List TFrame)
  deriving DecidableEq

def framesQueueMaxLength : ℕ := 100

namespace IFrameHandler

/-- `Handle`: the handler afterwards, if it takes the frame. A full queue drops it. -/
def handle (frame : TFrame) : IFrameHandler → Option IFrameHandler
  | .reader frames =>
    if TSmartWebToMqttGateway.acceptFrame frame then
      some (.reader (if frames.length < framesQueueMaxLength then frames ++ [frame] else frames))
    else none
  | .controller programId canFrames =>
    if isForMe programId frame.header frame.data then
      some (.controller programId (canFrames ++ [frame]))
    else none

def programId? : IFrameHandler → Option Byte
  | .reader _ => none
  | .controller programId _ => some programId

end IFrameHandler

/-- `TCanPort::RunHandlers`, from the handlers before to the handlers after. -/
def runHandlers (frame : TFrame) (handlers : List IFrameHandler) : List IFrameHandler :=
  offer (IFrameHandler.handle frame) handlers

def TFrame.RequestsOutputOf (f : TFrame) (hostId : Byte) : Prop :=
  f.header.messageType = mtMsgRequest ∧ f.AsksForOutput hostId

instance (f : TFrame) (hostId : Byte) : Decidable (f.RequestsOutputOf hostId) := by
  unfold TFrame.RequestsOutputOf TFrame.AsksForOutput
  infer_instance

section Routing

variable {f : TFrame} {id id' : Byte} {canFrames : List TFrame} {h : IFrameHandler}

theorem isForMe_of_programId (hf : f.header.programId = id) : isForMe id f.header f.data := by
  simp [isForMe, hf]

theorem TFrame.RequestsOutputOf.isForMe_iff (hf : f.RequestsOutputOf id) :
    isForMe id' f.header f.data ↔ f.header.programId = id' ∨ id = id' := by
  obtain ⟨htype, hcontroller, hfunction, hhost⟩ := hf
  by_cases hid : f.header.programId = id'
  · simp [isForMe, hid]
  · simp [isForMe, hid, htype, hcontroller, hfunction, hhost]

theorem acceptFrame_of_request (hf : f.header.messageType = mtMsgRequest) :
    TSmartWebToMqttGateway.acceptFrame f = false := by
  have htype : f.header.messageType ≠ mtMsgResponse := by
    rw [hf]
    decide
  simp [TSmartWebToMqttGateway.acceptFrame, htype]

/-- A request is refused exactly by those controllers that it is not for, and by the reader. -/
theorem IFrameHandler.handle_eq_none_iff (hf : f.header.messageType = mtMsgRequest) :
    h.handle f = none ↔ ∀ id ∈ h.programId?, isForMe id f.header f.data = false := by
  cases h with
  | reader frames => simp [handle, programId?, acceptFrame_of_request hf]
  | controller id canFrames => simp [handle, programId?]

theorem IFrameHandler.handle_ne (hf : f.header.messageType = mtMsgRequest) {h' : IFrameHandler}
    (hh : h.handle f = some h') : h ≠ h' := by
  cases h with
  | reader frames => simp [handle, acceptFrame_of_request hf] at hh
  | controller id canFrames =>
    simp only [handle, Option.ite_none_right_eq_some, Option.some.injEq] at hh
    rw [← hh.2]
    simp

end Routing

/-- An output request reaches the controller that hosts the output, and nobody else, exactly when
no controller registered before it has the program id of the request's header. -/
theorem output_request_routed_iff (before after : List IFrameHandler) (id : Byte)
    (canFrames : List TFrame) (f : TFrame) (hf : f.RequestsOutputOf id)
    (hids : ((before ++ .controller id canFrames :: after).filterMap
      IFrameHandler.programId?).Nodup) :
    runHandlers f (before ++ .controller id canFrames :: after) =
        before ++ .controller id (canFrames ++ [f]) :: after ↔
      f.header.programId ∉ before.filterMap IFrameHandler.programId? := by
  have hhost : (IFrameHandler.controller id canFrames).handle f =
      some (.controller id (canFrames ++ [f])) := by
    rw [IFrameHandler.handle, if_pos (hf.isForMe_iff.mpr (Or.inr rfl))]
  have hnot : id ∉ before.filterMap IFrameHandler.programId? := by
    rw [List.filterMap_append, List.nodup_append] at hids
    intro hmem
    exact hids.2.2 id hmem id (by simp [IFrameHandler.programId?]) rfl
  rw [runHandlers, offer_eq_iff hhost fun g g' => IFrameHandler.handle_ne hf.1]
  constructor
  · intro hrefused hmem
    obtain ⟨g, hg, hid⟩ := List.mem_filterMap.mp hmem
    have hfor := (IFrameHandler.handle_eq_none_iff hf.1).mp (hrefused g hg) _ hid
    rw [isForMe_of_programId rfl] at hfor
    exact absurd hfor (by decide)
  · intro hheader g hg
    rw [IFrameHandler.handle_eq_none_iff hf.1]
    intro id' hid'
    have hmem : id' ∈ before.filterMap IFrameHandler.programId? :=
      List.mem_filterMap.mpr ⟨g, hg, hid'⟩
    rw [Bool.eq_false_iff, Ne, hf.isForMe_iff, not_or]
    constructor
    · rintro rfl
      exact hheader hmem
    · rintro rfl
      exact hnot hmem

def roomHandlers : List IFrameHandler := [.reader [], .controller 8 [], .controller 7 []]

theorem output_request_routed_room :
    runHandlers (TFrame.outputRequest 7 ⟨7, 0, 0⟩) roomHandlers =
      [.reader [], .controller 8 [], .controller 7 [TFrame.outputRequest 7 ⟨7, 0, 0⟩]] :=
  (output_request_routed_iff [.reader [], .controller 8 []] [] 7 []
    (TFrame.outputRequest 7 ⟨7, 0, 0⟩) (by decide +kernel) (by decide +kernel)).mpr
    (by decide +kernel)

/-- Controller 8 takes a request for an output of controller 7 that is addressed to 8. -/
theorem output_request_misrouted :
    (TFrame.outputRequest 8 ⟨7, 0, 0⟩).RequestsOutputOf 7 ∧
      runHandlers (TFrame.outputRequest 8 ⟨7, 0, 0⟩) roomHandlers ≠
        [.reader [], .controller 8 [], .controller 7 [TFrame.outputRequest 8 ⟨7, 0, 0⟩]] := by
  decide +kernel

end SmartWebGateway
