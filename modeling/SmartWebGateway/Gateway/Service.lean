import SmartWebGateway.Gateway.Iteration
import Mathlib.Tactic

/-!
# The request service of a controller

Parameter requests are answered from the configured entries and change nothing
else. Frames that are not requests should have no effect at all; the handlers
of output requests and of announcements never look at the message type, and two
controllers of one id answer each other's announcements without end.
-/
namespace SmartWebGateway

open Foundation
open TMqttToSmartWebGateway

def Event.sentFrame : Event → Option (TFrame × Purpose)
  | .sent frame purpose => some (frame, purpose)
  | _ => none

def TaskState.sentFrames (s : TaskState) : List (TFrame × Purpose) :=
  s.log.filterMap Event.sentFrame

/-- The request's first three bytes are the entry's selector, and the fourth is zero. -/
def Entry.SelectedBy (e : Entry) (data : Vector Byte 8) : Prop :=
  e.selector = ⟨data[0]!, data[1]!, data[2]!⟩ ∧ data[3]! = 0

def parameterRequest (programId : Byte) (selector : TParameterInfo) : TFrame where
  canId := TCanHeader.raw ⟨ptRemoteControl, programId, RemoteControl.Function.getParameterValue, 0,
    mtMsgRequest, 4⟩
  canDlc := 4
  data := #v[selector.programType, selector.parameterId, selector.index, 0, 0, 0, 0, 0]

theorem parameterRequest_header (programId : Byte) (selector : TParameterInfo) :
    (parameterRequest programId selector).header =
      ⟨ptRemoteControl, programId, RemoteControl.Function.getParameterValue, 0, mtMsgRequest, 4⟩ :=
  TCanHeader.ofRaw_raw _

theorem parameterRequest_asksForParameter (programId : Byte) (selector : TParameterInfo) :
    (parameterRequest programId selector).AsksForParameter := by
  simp [TFrame.AsksForParameter, parameterRequest_header]

theorem parameterRequest_isRequestTo (programId : Byte) (selector : TParameterInfo) :
    (parameterRequest programId selector).IsRequestTo programId := by
  simp [TFrame.IsRequestTo, parameterRequest_header]

theorem Entry.selectedBy_parameterRequest (e : Entry) (programId : Byte) :
    e.SelectedBy (parameterRequest programId e.selector).data := ⟨rfl, rfl⟩

section Answers

variable {w : ℕ → World} {i : ℕ} {s : TaskState}

@[simp] theorem TaskState.sentFrames_sent (frame : TFrame) (purpose : Purpose) :
    (s.logged (.sent frame purpose)).sentFrames = (frame, purpose) :: s.sentFrames := rfl

@[simp] theorem TaskState.requested_sentFrames (data : Vector Byte 8) :
    (s.requested w i data).sentFrames = s.sentFrames := by
  unfold requested lookedUp
  split
  · rfl
  · split_ifs <;> rfl

theorem Entry.selectedBy_iff {e : Entry} {data : Vector Byte 8} :
    (requestedParameter data).rawInfo = e.selector.raw ↔ e.SelectedBy data := by
  rw [TParameterData.rawInfo_eq_raw, SelectedBy]
  rcases e.selector with ⟨programType, parameterId, index⟩
  simp only [requestedParameter, TParameterData.programType, TParameterData.parameterId,
    TParameterData.index, TParameterInfo.mk.injEq]
  constructor
  · rintro ⟨h0, h1, h2, h3⟩
    exact ⟨⟨h0.symm, h1.symm, h2.symm⟩, h3⟩
  · rintro ⟨⟨h0, h1, h2⟩, h3⟩
    exact ⟨h0.symm, h1.symm, h2.symm, h3⟩

variable {configJson : ControllerObject} (load : Loading configJson) {m : ControllerMapping}
  (hm : load.config.SameChannels m)
include hm

theorem requestedValue_of_selectedBy {e : Entry} (he : e ∈ configJson.entries)
    {data : Vector Byte 8} (hdata : e.SelectedBy data) :
    ∃ channel, TMqttChannel.fromString e.channel = .ok channel ∧
      requestedValue w m i data = mqttValue w i channel.device channel.control := by
  obtain ⟨channel, hchannel, hlookup⟩ := load.loaded.mapping.mapped e he
  refine ⟨channel, hchannel, ?_⟩
  rw [requestedValue, hm.parameterMapping, Entry.selectedBy_iff.mpr hdata, hlookup]

theorem requestedValue_of_not_selectedBy {data : Vector Byte 8}
    (hdata : ∀ e ∈ configJson.entries, ¬ e.SelectedBy data) :
    requestedValue w m i data = sensorUndefined := by
  have hlookup : m.parameterMapping.lookup (requestedParameter data).rawInfo = none := by
    rw [hm.parameterMapping, Option.eq_none_iff_forall_ne_some]
    intro channel hsome
    obtain ⟨e, he, hraw, _⟩ := load.loaded.mapping.mappedOnly _ channel hsome
    exact hdata e he (Entry.selectedBy_iff.mp hraw.symm)
  rw [requestedValue, hlookup]

end Answers

section Rounds

variable {w : ℕ → World} {i : ℕ} {s : TaskState} {f : TFrame}

def TaskState.received (s : TaskState) (w : ℕ → World) (i : ℕ) (f : TFrame) : TaskState :=
  TaskState.logged (.handled (i + 1) f)
    { s with status := .running, resetConnectionTime := (w i).clock + connectionTimeout }

@[simp] theorem TaskState.received_driverState :
    (s.received w i f).driverState = s.driverState := rfl

theorem wp_iteration_received {Q : ℕ → TaskState → Prop}
    (h : (handleRequest f.header f.data).wp w
      (fun _ j t => Program.wp (do
          sendScheduledOutputs
          sendScheduledIAmHere) w (fun _ => Q) (fun e j t => e.IsDriverError ∧ Q j t) j t)
      (fun e j t => e.IsDriverError ∧ Q j t) (i + 1) (s.received w i f)) :
    (iteration (some f)).wp w (fun _ => Q) (fun _ _ _ => False) i s := by
  apply wp_iteration_frame
  simp only [running, handleFrame, postponeConnectionReset, now, Program.wp_bind,
    Program.wp_observe, Program.wp_modify, Program.wp_position]
  exact h

theorem RequestOutcome.of_served {outcome : Except Exc Unit} {j : ℕ} {t : TaskState}
    (h : RequestOutcome w i s f outcome j t) (hcovered : ∀ k, s.driverState.Covered (w k).timing)
    (hf : f.AsksForParameter) (hdata : f.data[0]! = ptController)
    (hrequest : f.IsRequestTo s.driverState.programId) :
    outcome = .ok () ∧ t = s.logged
      (.sent (f.parameterAnswer (requestedValue w s.driverState i f.data)) .parameterResponse) := by
  cases h with
  | rejected he hij hnot => exact absurd (Or.inr (Or.inr (Or.inr ⟨hf, hdata, hrequest⟩))) hnot
  | replied frame purpose hframe hcontroller => exact absurd hcontroller.1 hf.not_controller
  | answered => exact ⟨rfl, by rw [TaskState.requested_of_covered hcovered]⟩
  | subscribed houtput => exact absurd houtput.1 hf.not_controller
  | unmapped houtput => exact absurd houtput.1 hf.not_controller
  | announced hhere => exact absurd hhere.1 hf.not_controller

theorem RequestOutcome.parameterEffect {outcome : Except Exc Unit} {j : ℕ} {t : TaskState}
    (h : RequestOutcome w i s f outcome j t) (hf : f.AsksForParameter) :
    t.sentFrames =
      (if f.header.messageType = mtMsgRequest ∧ f.header.programId = s.driverState.programId ∧
          f.data[0]! = ptController then
        [(f.parameterAnswer (requestedValue w s.driverState i f.data), .parameterResponse)]
        else []) ++ s.sentFrames ∧ t.driverState = s.driverState := by
  have hserved := TFrame.served_remoteControl s.driverState.programId hf.1
  cases h with
  | rejected he hij hnot ht =>
    rw [if_neg (fun h => hnot (hserved.mpr ⟨hf.2, h.2.2, h.1, h.2.1⟩))]
    rcases ht with rfl | ⟨_, rfl⟩ <;> simp
  | answered hij hf hdata hrequest =>
    rw [if_pos ⟨hrequest.1, hrequest.2, hdata⟩]
    simp
  | replied frame purpose hframe hcontroller => exact absurd hcontroller.1 hf.not_controller
  | subscribed houtput => exact absurd houtput.1 hf.not_controller
  | unmapped houtput => exact absurd houtput.1 hf.not_controller
  | announced hhere => exact absurd hhere.1 hf.not_controller

theorem wp_iteration_answered (hcovered : ∀ k, s.driverState.Covered (w k).timing)
    (hf : f.AsksForParameter) (hdata : f.data[0]! = ptController)
    (hrequest : f.IsRequestTo s.driverState.programId) :
    (iteration (some f)).wp w (fun _ _ t =>
      (.sent (f.parameterAnswer (requestedValue w s.driverState (i + 1) f.data))
        .parameterResponse :: .handled (i + 1) f :: s.log) <:+ t.log)
      (fun _ _ _ => False) i s := by
  apply wp_iteration_received
  apply Program.wp_mono (wp_handleRequest w (i + 1) _ f)
  · intro _ j t _ houtcome
    obtain ⟨_, rfl⟩ := houtcome.of_served hcovered hf hdata hrequest
    refine Program.wp_mono (wp_scheduled hcovered .refl) ?_ (fun _ _ _ _ he => he)
    intro _ k u _ hacts
    exact hacts.log_suffix
  · intro e j t _ houtcome
    exact absurd (houtcome.of_served hcovered hf hdata hrequest).1 (by simp)

end Rounds

/-- A parameter request is answered exactly when it is a request to this controller about
`PT_CONTROLLER`, with the value of the one entry it selects; nothing else changes. -/
theorem get_parameter_value_sound {configJson : ControllerObject} (load : Loading configJson)
    (w : ℕ → World) (i : ℕ) (s : TaskState) (hs : load.config.SameChannels s.driverState)
    (f : TFrame) (hf : f.AsksForParameter) :
    ∃ value outcome j t, (handleRequest f.header f.data).run w i s = (outcome, j, t) ∧
      t.sentFrames =
        (if f.header.messageType = mtMsgRequest ∧ f.header.programId = load.config.programId ∧
            f.data[0]! = ptController then
          [(f.parameterAnswer value, .parameterResponse)] else []) ++ s.sentFrames ∧
      t.driverState = s.driverState ∧
      (∀ e ∈ configJson.entries, e.SelectedBy f.data →
        (∀ e' ∈ configJson.entries, e'.SelectedBy f.data → e' = e) ∧
        ∃ channel, TMqttChannel.fromString e.channel = .ok channel ∧
          value = mqttValue w i channel.device channel.control) ∧
      ((∀ e ∈ configJson.entries, ¬ e.SelectedBy f.data) → value = sensorUndefined) := by
  rcases hrun : (handleRequest f.header f.data).run w i s with ⟨outcome, j, t⟩
  have heffect := (handleRequest_outcome hrun).parameterEffect hf
  refine ⟨requestedValue w s.driverState i f.data, outcome, j, t, rfl, ?_, heffect.2, ?_, ?_⟩
  · rw [← hs.programId]
    exact heffect.1
  · intro e he hdata
    refine ⟨?_, requestedValue_of_selectedBy load hs he hdata⟩
    intro e' he' hdata'
    exact load.entry_unique he' he (hdata'.1.trans hdata.1.symm)
  · exact requestedValue_of_not_selectedBy load hs

def roomSensorRequest : TFrame := parameterRequest 7 roomSensor.info

theorem get_parameter_value_sound_room :
    ∃ value outcome j t, (handleRequest roomSensorRequest.header roomSensorRequest.data).run
        roomEnvironment.world 0 (TaskState.initial roomLoading.config) = (outcome, j, t) ∧
      t.sentFrames = [(roomSensorRequest.parameterAnswer value, .parameterResponse)] := by
  obtain ⟨value, outcome, j, t, hrun, hsent, _⟩ := get_parameter_value_sound roomLoading
    roomEnvironment.world 0 (TaskState.initial roomLoading.config) .refl roomSensorRequest
    ⟨by decide, by decide⟩
  refine ⟨value, outcome, j, t, hrun, ?_⟩
  rw [hsent, if_pos (by decide +kernel)]
  rfl

/-- Handling a frame sent nothing and left the subscriptions and the announcement timer alone. -/
structure NoEffect (s t : TaskState) : Prop where
  sent : t.sentFrames = s.sentFrames
  sendTime : ∀ c, (t.driverState.outputMapping c).sendTimePoint =
    (s.driverState.outputMapping c).sendTimePoint
  sendEnd : ∀ c, (t.driverState.outputMapping c).sendEndTimePoint =
    (s.driverState.outputMapping c).sendEndTimePoint
  mappingPoint : ∀ c, (t.driverState.outputMapping c).mappingPoint =
    (s.driverState.outputMapping c).mappingPoint
  iAmHere : t.sendIAmHereTime = s.sendIAmHereTime

section NoRequest

variable {w : ℕ → World} {i j : ℕ} {s t : TaskState} {f : TFrame} {outcome : Except Exc Unit}

theorem NoEffect.refl : NoEffect s s := ⟨rfl, fun _ => rfl, fun _ => rfl, fun _ => rfl, rfl⟩

theorem NoEffect.requested (data : Vector Byte 8) : NoEffect s (s.requested w i data) := by
  constructor <;> simp

theorem RequestOutcome.noEffect (h : RequestOutcome w i s f outcome j t)
    (htype : f.header.messageType ≠ mtMsgRequest) (hhere : ¬ f.SaysIAmHere)
    (houtput : ¬ (f.AsksForOutput s.driverState.programId ∧
      (s.driverState.outputMapping f.askedOutput).isInitialized)) : NoEffect s t := by
  cases h with
  | rejected he hij hf ht =>
    rcases ht with rfl | ⟨_, rfl⟩
    · exact .refl
    · exact .requested f.data
  | replied frame purpose hframe hf hrequest => exact absurd hrequest.1 htype
  | answered hij hf hdata hrequest => exact absurd hrequest.1 htype
  | subscribed hf hc => exact absurd ⟨hf, hc⟩ houtput
  | unmapped hf hc => exact .refl
  | announced hf => exact absurd hf hhere

theorem RequestOutcome.of_saysIAmHere (h : RequestOutcome w i s f outcome j t)
    (hf : f.SaysIAmHere) : outcome = .ok () ∧ t =
      { s with sendIAmHereTime := (w i).clock + keepAliveInterval }.logged
        (.sent (iAmHereFrame s.driverState.programId (w (i + 1)).stack) .iAmHere) := by
  cases h with
  | rejected he hij hnot ht => exact absurd (Or.inr (Or.inr (Or.inl hf))) hnot
  | replied frame purpose hframe hcontroller => exact absurd hcontroller hf.not_asksForController
  | answered hij hparameter => exact absurd hf.1 hparameter.not_controller
  | subscribed houtput => exact absurd houtput hf.not_asksForOutput
  | unmapped houtput => exact absurd houtput hf.not_asksForOutput
  | announced => exact ⟨rfl, rfl⟩

theorem RequestOutcome.of_asksForOutput (h : RequestOutcome w i s f outcome j t)
    (hf : f.AsksForOutput s.driverState.programId)
    (hc : (s.driverState.outputMapping f.askedOutput).isInitialized) :
    outcome = .ok () ∧ j = i + 2 ∧ t = s.subscribed f.askedOutput (mappingPointOf f.data)
      (w i).clock ((w (i + 1)).clock + sendMessagesTime) := by
  cases h with
  | rejected he hij hnot ht => exact absurd (Or.inr (Or.inl hf)) hnot
  | replied frame purpose hframe hcontroller => exact absurd hcontroller hf.not_asksForController
  | answered hij hparameter => exact absurd hf.1 hparameter.not_controller
  | subscribed => exact ⟨rfl, rfl, rfl⟩
  | unmapped _ hnot => exact absurd hc (by simp [hnot])
  | announced hhere => exact absurd hf hhere.not_asksForOutput

end NoRequest

def roomWorldAt (clock : TTimePoint) (h : 0 < clock ∧ clock < 2 ^ 63) : World :=
  { roomWorld with clock := clock, clockBounds := h }

theorem noEffect_iff (s : TaskState) (f : TFrame) (htype : f.header.messageType ≠ mtMsgRequest) :
    (∀ (env : Environment) i, NoEffect s
      ((handleRequest f.header f.data).run env.world i s).2.2) ↔
    ¬ f.SaysIAmHere ∧ ¬ (f.AsksForOutput s.driverState.programId ∧
      (s.driverState.outputMapping f.askedOutput).isInitialized) := by
  have houtcome : ∀ (env : Environment) i, RequestOutcome env.world i s f _ _ _ :=
    fun env i => handleRequest_outcome (w := env.world) (i := i) (s := s) rfl
  constructor
  · intro h
    constructor
    · intro hhere
      have hsent := (h roomEnvironment 0).sent
      rw [((houtcome roomEnvironment 0).of_saysIAmHere hhere).2] at hsent
      exact absurd hsent (List.cons_ne_self _ _)
    · rintro ⟨hf, hc⟩
      have hclock : ∀ clock (_ : 0 < clock ∧ clock < 2 ^ 63), clock =
          (s.driverState.outputMapping f.askedOutput).sendTimePoint := by
        intro clock hclock
        have hsend := (h (Evolution.constant (roomWorldAt clock hclock)) 0).sendTime f.askedOutput
        obtain ⟨_, _, hsubscribed⟩ := (houtcome _ 0).of_asksForOutput hf hc
        rw [hsubscribed] at hsend
        simp only [TaskState.subscribed, TaskState.updateOutput, Function.update_self] at hsend
        exact hsend
      have h12 := (hclock 1 (by decide)).trans (hclock 2 (by decide)).symm
      exact absurd h12 (by decide)
  · rintro ⟨hhere, houtput⟩ env i
    exact (houtcome env i).noEffect htype hhere houtput

/-- One turn of an exchange: a round takes a frame, and its call of `handle_request`, which no
timer has a part in, sends the answer. -/
structure Turn (w : ℕ → World) (before after : ℕ × TaskState) (frame answer : TFrame) : Prop where
  accepted : isForMe before.2.driverState.programId frame.header frame.data
  notRequest : frame.header.messageType ≠ mtMsgRequest
  round : (iteration (some frame)).run w before.1 before.2 = (.ok (), after)
  answers : ∃ j t purpose,
    (handleRequest frame.header frame.data).run w (before.1 + 1)
      (before.2.received w before.1 frame) = (.ok (), j, t) ∧
    t.sentFrames = (answer, purpose) :: before.2.sentFrames ∧ t.log <:+ after.2.log

/-- Two gateways answer each other forever: party `n` takes frame `n`, is party `n + 2` after
that, and its answer is frame `n + 1`. -/
structure Exchange (worlds : ℕ → ℕ → World) where
  party : ℕ → ℕ × TaskState
  frame : ℕ → TFrame
  turn : ∀ n, Turn (worlds (n % 2)) (party n) (party (n + 2)) (frame n) (frame (n + 1))

/-- An exchange about to go on: who takes the next frame, who waits, and the frame. -/
structure Volley where
  receiver : ℕ × TaskState
  other : ℕ × TaskState
  frame : TFrame

/-- The frame is an announcement under the id that both parties have. -/
structure Volley.Live (x : Volley) (worlds : ℕ → ℕ → World) (n : ℕ) : Prop where
  sameId : x.other.2.driverState.programId = x.receiver.2.driverState.programId
  receiver : ∀ k, x.receiver.2.driverState.Covered (worlds (n % 2) k).timing
  other : ∀ k, x.other.2.driverState.Covered (worlds ((n + 1) % 2) k).timing
  announces : x.frame.SaysIAmHere
  addressed : x.frame.header.programId = x.receiver.2.driverState.programId
  notRequest : x.frame.header.messageType ≠ mtMsgRequest

section Exchanges

variable {w : ℕ → World} {i : ℕ} {s : TaskState} {f : TFrame}

@[simp] theorem iAmHereFrame_header (programId : Byte) (stack : BitVec 32) :
    (iAmHereFrame programId stack).header =
      { programType := ptController
        programId := programId
        functionId := Controller.Function.iAmHere
        messageFormat := mfFormat0
        messageType := mtMsgResponse
        unused := (TCanHeader.ofRaw stack).unused ||| 4 } := by
  simp [iAmHereFrame, TFrame.header]

theorem iAmHereFrame_saysIAmHere (programId : Byte) (stack : BitVec 32) :
    (iAmHereFrame programId stack).SaysIAmHere := by
  simp [TFrame.SaysIAmHere]

theorem iAmHereFrame_not_request (programId : Byte) (stack : BitVec 32) :
    (iAmHereFrame programId stack).header.messageType ≠ mtMsgRequest := by
  rw [iAmHereFrame_header]
  exact (by decide : mtMsgResponse ≠ mtMsgRequest)

/-- An announcement under our own id is answered by an announcement under our own id. -/
theorem exists_turn (hcovered : ∀ k, s.driverState.Covered (w k).timing) (hf : f.SaysIAmHere)
    (hid : f.header.programId = s.driverState.programId)
    (htype : f.header.messageType ≠ mtMsgRequest) :
    ∃ after stack, Turn w (i, s) after f (iAmHereFrame s.driverState.programId stack) ∧
      s.driverState.SameChannels after.2.driverState := by
  rcases hrun : (handleRequest f.header f.data).run w (i + 1) (s.received w i f) with
    ⟨outcome, j, t⟩
  obtain ⟨rfl, ht⟩ := (handleRequest_outcome hrun).of_saysIAmHere hf
  have hround : (iteration (some f)).wp w (fun _ k u => Acts w (j, t) (k, u))
      (fun _ _ _ => False) i s := by
    apply wp_iteration_received
    unfold Program.wp
    rw [hrun]
    refine wp_scheduled ?_ .refl
    rw [ht]
    exact hcovered
  obtain ⟨_, k, u, hiteration, hacts⟩ := Program.returns_of_wp hround
  refine ⟨(k, u), (w (i + 1 + 1)).stack, ⟨?_, htype, hiteration, j, t, .iAmHere, hrun, ?_,
    hacts.log_suffix⟩, ?_⟩
  · simp [isForMe, hid]
  · rw [ht]
    rfl
  · refine ControllerMapping.SameChannels.trans ?_ hacts.sameChannels
    rw [ht]
    exact .refl

/-- The receiver answers, and then the other party is to answer that. -/
theorem Volley.Live.next {worlds : ℕ → ℕ → World} {n : ℕ} {x : Volley} (h : x.Live worlds n) :
    ∃ y : Volley, y.Live worlds (n + 1) ∧
      Turn (worlds (n % 2)) x.receiver y.other x.frame y.frame ∧ y.receiver = x.other := by
  obtain ⟨after, stack, hturn, hsame⟩ :=
    exists_turn h.receiver h.announces h.addressed h.notRequest
  refine ⟨⟨x.other, after, iAmHereFrame x.receiver.2.driverState.programId stack⟩, ?_, hturn, rfl⟩
  constructor
  case sameId => exact hsame.programId.trans h.sameId.symm
  case receiver => exact h.other
  case other =>
    intro k
    have hturns : (n + 1 + 1) % 2 = n % 2 := by omega
    rw [hturns]
    exact hsame.covered (h.receiver k)
  case announces => exact iAmHereFrame_saysIAmHere _ _
  case addressed =>
    rw [iAmHereFrame_header]
    exact h.sameId.symm
  case notRequest => exact iAmHereFrame_not_request _ _

/-- Two gateways of one id never stop once one of them announces itself to the other. -/
theorem exists_exchange {worlds : ℕ → ℕ → World} {a b : ℕ × TaskState}
    (hid : b.2.driverState.programId = a.2.driverState.programId)
    (ha : ∀ k, a.2.driverState.Covered (worlds 0 k).timing)
    (hb : ∀ k, b.2.driverState.Covered (worlds 1 k).timing) :
    ∃ x : Exchange worlds, x.party 0 = a ∧ x.party 1 = b := by
  have hstart : (Volley.mk a b (iAmHereFrame a.2.driverState.programId 0)).Live worlds 0 := by
    refine ⟨hid, ha, hb, iAmHereFrame_saysIAmHere _ _, ?_, iAmHereFrame_not_request _ _⟩
    rw [iAmHereFrame_header]
  obtain ⟨seq, hzero, hseq⟩ := exists_forever (P := fun n (x : Volley) => x.Live worlds n)
    (R := fun n x y => Turn (worlds (n % 2)) x.receiver y.other x.frame y.frame ∧
      y.receiver = x.other) hstart (fun _ _ h => h.next)
  have hnext : ∀ n, (seq (n + 1)).receiver = (seq n).other := fun n => (hseq n).2.2
  refine ⟨⟨fun n => (seq n).receiver, fun n => (seq n).frame, fun n => ?_⟩, ?_, ?_⟩
  · have hturn := (hseq n).2.1
    rwa [← hnext (n + 1)] at hturn
  · exact congrArg Volley.receiver hzero
  · exact (hnext 0).trans (congrArg Volley.other hzero)

end Exchanges

/-- A frame that is no request has no effect exactly when it neither announces a controller nor
asks for a mapped output of our own; and two controllers of one id, in whatever states, can
exchange frames forever with no request at all. -/
theorem only_requests_served_iff {jsonA jsonB : ControllerObject} {loadA : Loading jsonA}
    {loadB : Loading jsonB} {envA envB : Environment} (hA : Deployed loadA envA)
    (hB : Deployed loadB envB) (hid : loadB.config.programId = loadA.config.programId)
    {inputsA inputsB : ℕ → Option TFrame} {nA nB iA iB : ℕ} {a b : TaskState}
    (ha : Reaches loadA envA inputsA nA iA a) (hb : Reaches loadB envB inputsB nB iB b) :
    (∀ (s : TaskState) (f : TFrame), f.header.messageType ≠ mtMsgRequest →
      ((∀ (env : Environment) i,
          NoEffect s ((handleRequest f.header f.data).run env.world i s).2.2) ↔
        ¬ f.SaysIAmHere ∧ ¬ (f.AsksForOutput s.driverState.programId ∧
          (s.driverState.outputMapping f.askedOutput).isInitialized))) ∧
    ∃ x : Exchange (fun side => if side = 0 then envA.world else envB.world),
      x.party 0 = (iA, a) ∧ x.party 1 = (iB, b) := by
  refine ⟨noEffect_iff, ?_⟩
  have hactsA := hA.acts ha
  have hactsB := hB.acts hb
  apply exists_exchange
  · exact (hactsB.sameChannels.programId.trans hid).trans hactsA.sameChannels.programId.symm
  · exact fun k => hactsA.sameChannels.covered (hA.covered k)
  · exact fun k => hactsB.sameChannels.covered (hB.covered k)

def roomResponse : TFrame where
  canId := TCanHeader.raw ⟨ptController, 7, Controller.Function.getControllerType, 0,
    mtMsgResponse, 4⟩
  canDlc := 0
  data := TFrame.zero.data

theorem only_requests_served_room :
    NoEffect roomStart ((handleRequest roomResponse.header roomResponse.data).run
      roomEnvironment.world 1 roomStart).2.2 ∧
    ∃ x : Exchange (fun side => if side = 0 then roomEnvironment.world else roomEnvironment.world),
      x.party 0 = (1, roomStart) ∧ x.party 1 = (1, roomStart) := by
  have hreaches := roomEnvironment_deployed.reaches (fun _ => none) 0
  obtain ⟨hiff, hexchange⟩ := only_requests_served_iff roomEnvironment_deployed
    roomEnvironment_deployed rfl hreaches hreaches
  refine ⟨(hiff roomStart roomResponse (by decide +kernel)).mpr ⟨?_, ?_⟩ roomEnvironment 1,
    hexchange⟩
  · rintro ⟨_, hfunction⟩
    exact absurd hfunction (by decide +kernel)
  · rintro ⟨⟨_, hfunction, _⟩, _⟩
    exact absurd hfunction (by decide +kernel)

def roomAnnouncement : TFrame := iAmHereFrame 7 0

/-- It is no request, and yet it is answered at once. -/
theorem announcement_is_answered :
    Reaches roomLoading roomEnvironment (fun _ => none) 0 1 roomStart ∧
      isForMe roomLoading.config.programId roomAnnouncement.header roomAnnouncement.data ∧
      roomAnnouncement.header.messageType ≠ mtMsgRequest ∧
      ¬ NoEffect roomStart ((handleRequest roomAnnouncement.header roomAnnouncement.data).run
        roomEnvironment.world 1 roomStart).2.2 := by
  refine ⟨roomEnvironment_deployed.reaches (fun _ => none) 0, by decide +kernel,
    by decide +kernel, ?_⟩
  intro h
  have hlength := congrArg List.length h.sent
  revert hlength
  decide +kernel

end SmartWebGateway
