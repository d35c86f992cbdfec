import SmartWebGateway.Foundation.Journal
import SmartWebGateway.Gateway.RoundCases
import Mathlib.Tactic

/-!
# Which replies a controller sends over a run

A frame is replied to if it asks this very controller for its channel number,
its type, or a value. The replies of a whole run are those to the frames that
were taken, in their order: none is missing, none is sent twice, and none is
sent without having been asked for.
-/
namespace SmartWebGateway

open Foundation
open TMqttToSmartWebGateway

def Purpose.isReply : Purpose → Bool
  | .channelNumber | .parameterResponse | .controllerType => true
  | .iAmHere | .output _ => false

def TaskState.replies (s : TaskState) : List (TFrame × Purpose) :=
  (s.sentFrames.filter fun sent => sent.2.isReply).reverse

instance (f : TFrame) (programId : Byte) : Decidable (f.IsRequestTo programId) :=
  inferInstanceAs (Decidable (_ ∧ _))

instance (f : TFrame) : Decidable f.AsksForParameter := inferInstanceAs (Decidable (_ ∧ _))

/-- The reply that a frame calls for, if it is a request that is replied to; `value` is the reading
that a parameter request asks for. -/
def TFrame.reply? (f : TFrame) (m : ControllerMapping) (value : BitVec 16) :
    Option (TFrame × Purpose) :=
  if f.IsRequestTo m.programId then
    if f.header.programType = ptController then
      if f.header.functionId = Controller.Function.getChannelNumber then
        some (f.channelNumberAnswer m.channelNumber, .channelNumber)
      else if f.header.functionId = Controller.Function.getControllerType then
        some (f.controllerTypeAnswer, .controllerType)
      else none
    else if f.AsksForParameter ∧ f.data[0]! = ptController then
      some (f.parameterAnswer value, .parameterResponse)
    else none
  else none

section Replies

variable {w : ℕ → World} {i j : ℕ} {s t : TaskState} {f : TFrame}

theorem TaskState.replies_logged {e : Event} (he : ∀ frame purpose, e = .sent frame purpose →
    purpose.isReply = false) : (s.logged e).replies = s.replies := by
  cases e with
  | sent frame purpose =>
    unfold replies
    rw [sentFrames_sent, List.filter_cons_of_neg (by simp [he frame purpose rfl])]
  | handled position frame => rfl
  | postponed position channelId => rfl
  | errorCode1 => rfl

theorem TaskState.replies_reply (frame : TFrame) {purpose : Purpose} (h : purpose.isReply) :
    (s.logged (.sent frame purpose)).replies = s.replies ++ [(frame, purpose)] := by
  unfold replies
  rw [sentFrames_sent, List.filter_cons, if_pos h, List.reverse_cons]

theorem TaskState.SendsOutputs.replies {recent : List Event} (h : s.SendsOutputs t recent) :
    t.replies = s.replies := by
  have hrecent : (recent.filterMap Event.sentFrame).filter (fun sent => sent.2.isReply) = [] := by
    rw [List.filter_eq_nil_iff]
    intro sent hsent
    obtain ⟨e, he, hframe⟩ := List.mem_filterMap.mp hsent
    have houtput := h.outputs e he
    cases e with
    | sent frame purpose =>
      cases hframe
      cases purpose with
      | output b => simp [Purpose.isReply]
      | _ => exact houtput.elim
    | _ => cases hframe
  unfold TaskState.replies TaskState.sentFrames
  rw [h.log, List.filterMap_append, List.filter_append, hrecent, List.nil_append]

theorem AnnounceOutcome.replies (h : AnnounceOutcome w i s j t) : t.replies = s.replies := by
  cases h with
  | due => exact TaskState.replies_logged (by rintro _ _ ⟨⟩; rfl)
  | early => rfl

/-- Among the frames that do not ask for the controller itself, only requests for a value of
`PT_CONTROLLER` are replied to. -/
theorem TFrame.reply?_of_not_asksForController (m : ControllerMapping) (value : BitVec 16)
    (hf : ¬ f.AsksForController) :
    f.reply? m value =
      if f.IsRequestTo m.programId ∧ f.AsksForParameter ∧ f.data[0]! = ptController then
        some (f.parameterAnswer value, .parameterResponse)
      else none := by
  have hkinds : ptRemoteControl ≠ ptController := by decide
  unfold reply?
  by_cases hrequest : f.IsRequestTo m.programId
  · rw [if_pos hrequest]
    by_cases hcontroller : f.header.programType = ptController
    · have hnumber : f.header.functionId ≠ Controller.Function.getChannelNumber :=
        fun heq => hf ⟨hcontroller, Or.inl heq⟩
      have htype : f.header.functionId ≠ Controller.Function.getControllerType :=
        fun heq => hf ⟨hcontroller, Or.inr heq⟩
      have hparameter : ¬ f.AsksForParameter := fun h => h.not_controller hcontroller
      rw [if_pos hcontroller, if_neg hnumber, if_neg htype, if_neg fun h => hparameter h.2.1]
    · rw [if_neg hcontroller]
      exact if_congr (by simp [hrequest]) rfl rfl
  · rw [if_neg hrequest, if_neg fun h => hrequest h.1]

theorem RequestOutcome.replies {outcome : Except Exc Unit} (h : RequestOutcome w i s f outcome j t)
    (hf : ¬ f.AsksForController) :
    t.replies = s.replies ++
      (f.reply? s.driverState (requestedValue w s.driverState i f.data)).toList := by
  rw [TFrame.reply?_of_not_asksForController _ _ hf]
  have hrequested : (s.requested w i f.data).replies = s.replies := by
    unfold TaskState.replies
    rw [TaskState.requested_sentFrames]
  cases h with
  | rejected he hij hnot ht =>
    have hunserved : ¬ (f.IsRequestTo s.driverState.programId ∧ f.AsksForParameter ∧
        f.data[0]! = ptController) := by
      rintro ⟨hrequest, hparameter, hdata⟩
      exact hnot (Or.inr (Or.inr (Or.inr ⟨hparameter, hdata, hrequest⟩)))
    rw [if_neg hunserved, Option.toList_none, List.append_nil]
    rcases ht with rfl | ⟨_, rfl⟩
    · rfl
    · exact hrequested
  | replied frame purpose hframe hcontroller => exact absurd hcontroller hf
  | answered hij hparameter hdata hrequest =>
    rw [if_pos ⟨hrequest, hparameter, hdata⟩, TaskState.replies_reply _ rfl, hrequested]
    rfl
  | subscribed houtput =>
    rw [if_neg fun h => h.2.1.not_controller houtput.1]
    exact (List.append_nil _).symm
  | unmapped houtput =>
    rw [if_neg fun h => h.2.1.not_controller houtput.1]
    exact (List.append_nil _).symm
  | announced hhere =>
    rw [if_neg fun h => h.2.1.not_controller hhere.1, Option.toList_none, List.append_nil]
    exact TaskState.replies_logged (by rintro _ _ ⟨⟩; rfl)

theorem wp_handleRequest_replies (w : ℕ → World) (i : ℕ) (s : TaskState) (f : TFrame) :
    let sent := (f.reply? s.driverState (requestedValue w s.driverState i f.data)).toList
    (handleRequest f.header f.data).wp w (fun _ _ t => t.replies = s.replies ++ sent)
      (fun _ _ t => t.replies = s.replies ++ sent) i s := by
  intro sent
  by_cases hf : f.AsksForController
  · obtain ⟨hcontroller, hfunction⟩ := hf
    have hkinds : Controller.Function.getControllerType ≠ Controller.Function.getChannelNumber := by
      decide
    have hrefused : ¬ f.IsRequestTo s.driverState.programId → s.replies = s.replies ++ sent := by
      intro hnot
      simp only [sent, TFrame.reply?, if_neg hnot, Option.toList_none, List.append_nil]
    rw [handleRequest, if_pos hcontroller]
    rcases hfunction with hnumber | htype
    · rw [if_pos hnumber]
      refine wp_respond _ _ (fun _ _ => hrefused) ?_
      intro hrequest
      rw [TaskState.replies_reply _ rfl]
      simp only [sent, TFrame.reply?, if_pos hrequest, if_pos hcontroller, if_pos hnumber]
      rfl
    · rw [if_neg (htype ▸ hkinds), if_pos htype]
      refine wp_respond _ _ (fun _ _ => hrefused) ?_
      intro hrequest
      rw [TaskState.replies_reply _ rfl]
      simp only [sent, TFrame.reply?, if_pos hrequest, if_pos hcontroller,
        if_neg (htype ▸ hkinds), if_pos htype]
      rfl
  · apply Program.wp_mono (wp_handleRequest w i s f)
    · exact fun _ j t _ h => h.replies hf
    · exact fun _ j t _ h => h.replies hf

theorem TFrame.HandledIn.replies {outcome : Except Exc Unit} (h : f.HandledIn w i s outcome j t) :
    t.replies = s.replies ++
      (f.reply? s.driverState (requestedValue w s.driverState (i + 1) f.data)).toList := by
  have hwp := wp_handleRequest_replies w (i + 1) (s.received w i f) f
  have hreceived : (s.received w i f).replies = s.replies := TaskState.replies_logged nofun
  rw [hreceived, TaskState.received_driverState] at hwp
  unfold TFrame.HandledIn at h
  cases outcome with
  | ok => exact Program.wp_ok hwp h
  | error e => exact Program.wp_error hwp h

theorem RoundOutcome.replies {input : Option TFrame} (h : RoundOutcome w i s input j t) :
    t.replies = s.replies ++ (input.bind fun f =>
      f.reply? s.driverState (requestedValue w s.driverState (i + 1) f.data)).toList := by
  cases h with
  | idle _ h => rw [h.replies, Option.bind_none, Option.toList_none, List.append_nil]
  | lost _ _ h =>
    rw [h.replies, Option.bind_none, Option.toList_none, List.append_nil]
    rfl
  | quiet _ _ _ houtputs h =>
    rw [h.replies, houtputs.replies, Option.bind_none, Option.toList_none, List.append_nil]
  | served hhandled _ houtputs _ h =>
    rw [h.replies, houtputs.replies, hhandled.replies, Option.bind_some]
  | refused hhandled _ => rw [hhandled.replies, Option.bind_some]

end Replies

/-- The reply and the reading that goes into it depend on the loaded tables alone. -/
theorem TFrame.reply?_of_sameChannels {m m' : ControllerMapping} (h : m.SameChannels m')
    (w : ℕ → World) (i : ℕ) (f : TFrame) :
    f.reply? m' (requestedValue w m' i f.data) = f.reply? m (requestedValue w m i f.data) := by
  unfold reply? requestedValue ControllerMapping.channelNumber
  rw [h.programId, h.parameterMapping, h.parameterCount]

theorem Deployed.replies_succ {configJson : ControllerObject} {load : Loading configJson}
    {env : Environment} (h : Deployed load env) (inputs : ℕ → Option TFrame) (n : ℕ) :
    (runState load env inputs (n + 1)).replies = (runState load env inputs n).replies ++
      ((inputs n).bind fun f => f.reply? load.config.toControllerMapping (requestedValue env.world
        load.config.toControllerMapping (runPosition load env inputs n + 1) f.data)).toList := by
  have hsame := h.sameChannels_runState inputs n
  rw [(h.round inputs n).replies]
  simp only [TFrame.reply?_of_sameChannels hsame]

/-- The replies of a run are those that its frames call for, one for each request of the three
kinds to this controller, in the order in which the frames were taken, each with the reading at the
time of its request. -/
theorem replies_match_requests {configJson : ControllerObject} {load : Loading configJson}
    {env : Environment} (h : Deployed load env) (inputs : ℕ → Option TFrame) (n : ℕ) :
    (runState load env inputs n).replies =
      (List.range n).filterMap fun k => (inputs k).bind fun f =>
        f.reply? load.config.toControllerMapping (requestedValue env.world
          load.config.toControllerMapping (runPosition load env inputs k + 1) f.data) :=
  @eq_filterMap_range _ (fun n => (runState load env inputs n).replies) _ rfl
    (h.replies_succ inputs) n

/-- A request for a value, one to another controller, and the first one again. -/
def roomRequests : ℕ → Option TFrame
  | 0 => some roomSensorRequest
  | 1 => none
  | 2 => some (parameterRequest 8 roomSensor.info)
  | 3 => some roomSensorRequest
  | _ => none

theorem replies_match_requests_room :
    ((runState roomLoading roomEnvironment roomRequests 5).replies.map Prod.snd) =
      [.parameterResponse, .parameterResponse] := by
  rw [replies_match_requests roomEnvironment_deployed]
  decide +kernel

end SmartWebGateway
