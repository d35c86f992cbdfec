import SmartWebGateway.Gateway.Dispatch
import SmartWebGateway.Gateway.Service
import Mathlib.Tactic

/-!
# From the configuration to the answer

The kept controllers register after the reader and in the order of the
configuration, so of two controllers with one id only the first gets frames.
What a controller answers is narrower than what the loader accepts: entries of
program types other than `PT_CONTROLLER` are loaded and never answered.
-/
namespace SmartWebGateway

open Foundation
open TMqttToSmartWebGateway

/-- The handlers that `main` registers for the configurations of the kept controllers: the reader,
then the controllers in their order, all with any queues. -/
def RegisteredFrom (configs : List TMqttToSmartWebConfig) (handlers : List IFrameHandler) : Prop :=
  ∃ frames controllers, handlers = .reader frames :: controllers ∧
    controllers.map IFrameHandler.programId? = configs.map fun config => some config.programId

/-- The request for the entry's value, to a controller. -/
structure TFrame.RequestsEntry (f : TFrame) (programId : Byte) (e : Entry) : Prop where
  asks : f.AsksForParameter
  request : f.IsRequestTo programId
  selected : e.SelectedBy f.data

theorem parameterRequest_requestsEntry (programId : Byte) (e : Entry) :
    (parameterRequest programId e.selector).RequestsEntry programId e :=
  ⟨parameterRequest_asksForParameter _ _, parameterRequest_isRequestTo _ _,
    e.selectedBy_parameterRequest _⟩

section Delivery

variable {f : TFrame} {programId : Byte}

theorem TFrame.AsksForParameter.isForMe_iff (hf : f.AsksForParameter) :
    isForMe programId f.header f.data ↔ f.header.programId = programId := by
  by_cases hid : f.header.programId = programId
  · simp [isForMe, hid]
  · simp [isForMe, hid, hf.not_controller]

/-- The first controller of an id gets the parameter requests to the id. -/
theorem runHandlers_parameter_request (hf : f.AsksForParameter) (hrequest : f.IsRequestTo programId)
    {before after : List IFrameHandler}
    (hbefore : programId ∉ before.filterMap IFrameHandler.programId?) (canFrames : List TFrame) :
    runHandlers f (before ++ .controller programId canFrames :: after) =
      before ++ .controller programId (canFrames ++ [f]) :: after := by
  apply offer_taken
  · intro h hh
    rw [IFrameHandler.handle_eq_none_iff hrequest.1]
    intro id' hid'
    rw [Bool.eq_false_iff, Ne, hf.isForMe_iff, hrequest.2]
    rintro rfl
    exact hbefore (List.mem_filterMap.mpr ⟨h, hh, hid'⟩)
  · rw [IFrameHandler.handle, if_pos (hf.isForMe_iff.mpr hrequest.2)]

theorem RegisteredFrom.split {before after : List TMqttToSmartWebConfig}
    {config : TMqttToSmartWebConfig} {handlers : List IFrameHandler}
    (h : RegisteredFrom (before ++ config :: after) handlers) :
    ∃ pre canFrames post, handlers = pre ++ .controller config.programId canFrames :: post ∧
      pre.length = before.length + 1 ∧
      pre.filterMap IFrameHandler.programId? = before.map fun config => config.programId := by
  obtain ⟨frames, controllers, rfl, hids⟩ := h
  rw [List.map_append, List.map_cons] at hids
  obtain ⟨pre, rest, rfl, hpre, hrest⟩ := List.map_eq_append_iff.mp hids
  obtain ⟨handler, post, rfl, hhandler, hpost⟩ := List.map_eq_cons_iff.mp hrest
  cases handler with
  | reader frames' => exact absurd hhandler (by simp [IFrameHandler.programId?])
  | controller programId canFrames =>
    obtain rfl : programId = config.programId := Option.some.inj hhandler
    refine ⟨.reader frames :: pre, canFrames, post, rfl, ?_, ?_⟩
    · have hlength := congrArg List.length hpre
      simpa using hlength
    · have hsome := congrArg (List.filterMap id) hpre
      rw [List.filterMap_map, List.filterMap_map] at hsome
      rw [List.filterMap_cons_none rfl]
      simpa using hsome

theorem Deployed.entry_answered {controller : ControllerObject} {load : Loading controller}
    {env : Environment} (h : Deployed load env) {inputs : ℕ → Option TFrame} {n i : ℕ}
    {s : TaskState} (hreaches : Reaches load env inputs n i s) {e : Entry}
    (he : e ∈ controller.entries) (hprogram : e.selector.programType = ptController)
    (hf : f.RequestsEntry load.config.programId e) :
    ∃ channel j t, TMqttChannel.fromString e.channel = .ok channel ∧
      (iteration (some f)).run env.world i s = (.ok (), j, t) ∧
      (.sent (f.parameterAnswer (mqttValue env.world (i + 1) channel.device channel.control))
        .parameterResponse :: .handled (i + 1) f :: s.log) <:+ t.log := by
  have hacts := h.acts hreaches
  have hcovered : ∀ k, s.driverState.Covered (env.world k).timing :=
    fun k => hacts.sameChannels.covered (h.covered k)
  have hdata : f.data[0]! = ptController := by
    rw [← hprogram, hf.selected.1]
  have hrequest : f.IsRequestTo s.driverState.programId := by
    rw [hacts.sameChannels.programId]
    exact hf.request
  obtain ⟨channel, hchannel, hvalue⟩ :=
    requestedValue_of_selectedBy load hacts.sameChannels he hf.selected (w := env.world)
      (i := i + 1)
  obtain ⟨_, j, t, hrun, hsuffix⟩ :=
    Program.returns_of_wp (wp_iteration_answered (i := i) hcovered hf.asks hdata hrequest)
  rw [hvalue] at hsuffix
  exact ⟨channel, j, t, hchannel, hrun, hsuffix⟩

end Delivery

/-- A configured entry is served if it is of type `PT_CONTROLLER` and no controller that was kept
before has the same id: its request ends up in the queue of its controller, and the round that
takes it answers it with the current value of its channel. -/
theorem mapping_served {clock : ℕ → TTimePoint} (hmono : Monotone clock)
    (hpositive : ∀ k, 0 < clock k) {garbage : ℕ → Output → TMappingPoint} {start : ℕ}
    {objects : List ControllerObject}
    {before after : List (ControllerObject × TMqttToSmartWebConfig)} {controller : ControllerObject}
    {config : TMqttToSmartWebConfig}
    (hkept : keptControllers clock garbage start objects = before ++ (controller, config) :: after)
    (hfirst : ∀ kept ∈ before, kept.2.programId ≠ config.programId) {e : Entry}
    (he : e ∈ controller.entries) (hprogram : e.selector.programType = ptController) {f : TFrame}
    (hf : f.RequestsEntry config.programId e) :
    (∀ handlers, RegisteredFrom (loadMqttToSmartWebConfig clock garbage start objects) handlers →
      ∃ pre canFrames post, handlers = pre ++ .controller config.programId canFrames :: post ∧
        pre.length = before.length + 1 ∧
        runHandlers f handlers = pre ++ .controller config.programId (canFrames ++ [f]) :: post) ∧
    ∃ load : Loading controller, load.clock = clock ∧ load.config = config ∧
      ∀ env, Deployed load env → ∀ inputs n i s, Reaches load env inputs n i s →
        ∃ channel j t, TMqttChannel.fromString e.channel = .ok channel ∧
          (iteration (some f)).run env.world i s = (.ok (), j, t) ∧
          (.sent (f.parameterAnswer (mqttValue env.world (i + 1) channel.device channel.control))
            .parameterResponse :: .handled (i + 1) f :: s.log) <:+ t.log := by
  constructor
  · intro handlers hregistered
    rw [← keptControllers_config, hkept, List.map_append, List.map_cons] at hregistered
    obtain ⟨pre, canFrames, post, rfl, hlength, hids⟩ := hregistered.split
    refine ⟨pre, canFrames, post, rfl, by simpa using hlength, ?_⟩
    apply runHandlers_parameter_request hf.asks hf.request
    rw [hids]
    simpa using hfirst
  · have hmem : (controller, config) ∈ keptControllers clock garbage start objects :=
      hkept ▸ List.mem_append_right before List.mem_cons_self
    obtain ⟨_, load, hclock, rfl⟩ := exists_loading hmono hpositive hmem
    refine ⟨load, hclock, rfl, ?_⟩
    intro env h inputs n i s hreaches
    exact h.entry_answered hreaches he hprogram hf

theorem mapping_served_room :
    ∃ (load : Loading roomController) (channel : TMqttChannel) (p : ℕ) (t : TaskState),
      load.config = roomLoading.config ∧ TMqttChannel.fromString roomSensor.channel = .ok channel ∧
      .sent (roomSensorRequest.parameterAnswer
        (mqttValue roomEnvironment.world p channel.device channel.control)) .parameterResponse ∈
          t.log := by
  have hkept : keptControllers roomLoading.clock (fun _ _ => ⟨0, 0, 0⟩) roomLoading.start
      [roomController] = [] ++ [(roomController, roomLoading.config)] := roomLoading.kept rfl []
  obtain ⟨_, load, hclock, hconfig, hserved⟩ := mapping_served roomLoading.monotone
    roomLoading.positive hkept (by simp) (List.mem_singleton_self roomSensor.entry) rfl
    (parameterRequest_requestsEntry 7 roomSensor.entry)
  have hdeployed : Deployed load roomEnvironment := by
    refine ⟨?_, rfl, ?_⟩
    · rw [hconfig]
      rfl
    · rw [Loading.time, hclock]
      exact le_rfl
  obtain ⟨channel, j, t, hchannel, _, hsuffix⟩ :=
    hserved _ hdeployed (fun _ => none) 0 _ _ (hdeployed.reaches _ 0)
  exact ⟨load, channel, _, t, hconfig, hchannel, hsuffix.subset List.mem_cons_self⟩

/-! A damper of the room, as a parameter of another program type. -/

def deviceDamper : ParamMapping where
  channel := "room/damper"
  valueTimeoutMin := none
  programType := 5
  parameterId := 2
  parameterIndex := 0
  channelLength := by decide

def deviceController : ControllerObject where
  controllerId := 7
  sensors := none
  parameters := some [deviceDamper]
  valueTimeoutMin := none
  controllerIdBounds := room_idBounds

theorem deviceController_acceptable : deviceController.Acceptable where
  mapping := Or.inr rfl
  distinct := List.nodup_singleton _
  named e he := by
    rw [List.mem_singleton.mp he]
    exact ⟨⟨"room", "damper"⟩, by decide⟩
  timed e he value hvalue := by
    rw [List.mem_singleton.mp he] at hvalue
    exact absurd hvalue (by simp [ParamMapping.entry, deviceController])

def deviceLoading : Loading deviceController :=
  .standing deviceController_acceptable fun _ => ⟨0, 0, 0⟩

def deviceEnvironment : Environment :=
  Evolution.constant { roomWorld with timing := deviceLoading.config.mqttChannelsTiming }

theorem deviceEnvironment_deployed : Deployed deviceLoading deviceEnvironment :=
  ⟨rfl, rfl, le_rfl⟩

def deviceRequest : TFrame := parameterRequest 7 deviceDamper.info

/-- The entry of another program type is loaded, and the request for it is taken and not answered;
and of two controllers with one id the second one gets no request. -/
theorem mappings_unserved :
    (deviceDamper.entry deviceController ∈ deviceController.entries ∧
      deviceRequest.RequestsEntry deviceLoading.config.programId
        (deviceDamper.entry deviceController) ∧
      Deployed deviceLoading deviceEnvironment ∧
      (runState deviceLoading deviceEnvironment (fun _ => some deviceRequest) 1).log =
        [.handled 2 deviceRequest]) ∧
    RegisteredFrom [deviceLoading.config, roomLoading.config]
        [.reader [], .controller 7 [], .controller 7 []] ∧
      roomSensorRequest.RequestsEntry roomLoading.config.programId roomSensor.entry ∧
      runHandlers roomSensorRequest [.reader [], .controller 7 [], .controller 7 []] =
        [.reader [], .controller 7 [roomSensorRequest], .controller 7 []] := by
  refine ⟨⟨List.mem_singleton_self _, ?_, deviceEnvironment_deployed, by decide +kernel⟩,
    ⟨[], _, rfl, rfl⟩, ?_, by decide +kernel⟩
  · exact parameterRequest_requestsEntry 7 (deviceDamper.entry deviceController)
  · exact parameterRequest_requestsEntry 7 roomSensor.entry

end SmartWebGateway
