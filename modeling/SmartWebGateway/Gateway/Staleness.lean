import SmartWebGateway.Gateway.Service
import Mathlib.Tactic

/-!
# Stale values, from the configuration to the answer

A timeout passes the two loops of the loader, the table that all entries of one
channel share, the event handler and the reader. The handler and the reader
keep what the table says; the loader does not always put into the table what
the entry says.
-/
namespace SmartWebGateway

open Foundation
open TMqttToSmartWebGateway
open TMqttChannelTiming

/-- The answer to the request that was handled at a position. -/
def TaskState.AnsweredAt (s : TaskState) (p : ℕ) (response : TFrame) : Prop :=
  ∃ f earlier, (.sent response .parameterResponse :: .handled p f :: earlier) <:+ s.log

/-- An answer directly follows its request about `PT_CONTROLLER`, and its value was read right
then. -/
def AnswersRequest (w : ℕ → World) (m : ControllerMapping) (e : Event) (earlier : List Event) :
    Prop :=
  ∀ response, e = .sent response .parameterResponse →
    ∃ p f rest, earlier = .handled p f :: rest ∧ f.data[0]! = ptController ∧
      response = f.parameterAnswer (requestedValue w m p f.data)

section Answers

variable {w : ℕ → World} {a b : ℕ × TaskState} {m : ControllerMapping}

theorem AnswersRequest.other {e : Event} (he : ∀ response, e ≠ .sent response .parameterResponse)
    (earlier : List Event) : AnswersRequest w m e earlier :=
  fun response heq => absurd heq (he response)

theorem Act.answersRequests (h : Act w a b) (hsame : m.SameChannels a.2.driverState)
    (ha : AtEach (AnswersRequest w m) a.2.log) : AtEach (AnswersRequest w m) b.2.log := by
  cases h with
  | wait => exact ha
  | timers => exact ha
  | reply frame purpose hpurpose =>
    refine atEach_cons.mpr ⟨.other ?_ _, ha⟩
    rintro response ⟨⟩
    simp at hpurpose
  | handle f => exact atEach_cons.mpr ⟨.other (by simp) _, ha⟩
  | answer f _ _ hdata =>
    refine atEach_cons.mpr ⟨?_, atEach_cons.mpr ⟨.other (by simp) _, ha⟩⟩
    rintro response ⟨⟩
    refine ⟨_, f, _, rfl, hdata, ?_⟩
    rw [hsame.requestedValue_eq]
  | subscribe f => exact atEach_cons.mpr ⟨.other (by simp) _, ha⟩
  | broadcast b =>
    exact atEach_cons.mpr ⟨.other (by simp) _, atEach_cons.mpr ⟨.other (by simp) _, ha⟩⟩

theorem Acts.answersRequests (h : Acts w a b) (ha : a.2.log = []) :
    AtEach (AnswersRequest w a.2.driverState) b.2.log := by
  induction h with
  | refl =>
    rw [ha]
    exact atEach_nil
  | tail hab hbc ih => exact hbc.answersRequests (Acts.sameChannels hab) ih

end Answers

section Reading

variable {configJson : ControllerObject} {load : Loading configJson} {env : Environment}

theorem Loading.valueTimeoutMin_eq {e : Entry} (he : e ∈ configJson.entries)
    {timing : TMqttChannelTiming}
    (hlookup : load.config.mqttChannelsTiming.lookup e.channel = some timing) :
    timing.valueTimeoutMin = governingTimeout e.channel configJson.entries := by
  have htimeout := load.loaded.timing.timeout e.channel
  rw [if_pos (List.mem_map_of_mem he), hlookup] at htimeout
  exact Option.some.inj htimeout

theorem Deployed.exists_timing (h : Deployed load env) (p : ℕ) {e : Entry}
    (he : e ∈ configJson.entries) :
    ∃ timing, (env.world p).timing.lookup e.channel = some timing ∧
      timing.valueTimeoutMin = governingTimeout e.channel configJson.entries := by
  have hsome : ((env.world p).timing.lookup e.channel).isSome := by
    rw [(h.sound p).lookup_isSome]
    exact Loading.entry_timed he
  obtain ⟨timing, hlookup⟩ := Option.isSome_iff_exists.mp hsome
  have htimed : (load.config.mqttChannelsTiming.lookup e.channel).isSome := Loading.entry_timed he
  obtain ⟨loaded, hloaded⟩ := Option.isSome_iff_exists.mp htimed
  refine ⟨timing, hlookup, ?_⟩
  have htimeout := (h.sound p).timeout e.channel
  rw [hlookup, hloaded] at htimeout
  exact (Option.some.inj htimeout).trans (load.valueTimeoutMin_eq he hloaded)

theorem Deployed.timedOutAt (h : Deployed load env) {p : ℕ} {e : Entry}
    (he : e ∈ configJson.entries) {channel : TMqttChannel}
    (hchannel : TMqttChannel.fromString e.channel = .ok channel) {minutes : ℤ}
    (hgoverning : 0 ≤ governingTimeout e.channel configJson.entries)
    (hle : toNanoseconds (governingTimeout e.channel configJson.entries) ≤
      minutes * nanosecondsPerMinute)
    (hstale : (env.world p).StaleFor load.time channel minutes) :
    SmartWebGateway.timedOutAt env.world p channel.device channel.control = true := by
  obtain ⟨htext, hslash, _⟩ := TMqttChannel.fromString_eq_ok.mp hchannel
  obtain ⟨timing, hlookup, htimeout⟩ := h.exists_timing p he
  have hlast : minutes * nanosecondsPerMinute <
      (env.world p).clock - timing.lastUpdateTimePoint := by
    rcases (h.sound p).origin _ _ hlookup with ⟨loaded, hloaded, hsame⟩ | ⟨u, hu, hkey, hsame⟩
    · have hload := load.lastUpdate_le_time hloaded
      have hstart := hstale.1
      rw [hsame]
      linarith
    · rw [← hsame]
      exact hstale.2 u hu (MqttUpdate.isOf_of_text hslash (hkey.trans htext.symm))
  have hkey : TMqttChannel.joined channel.device channel.control = e.channel := htext
  rw [SmartWebGateway.timedOutAt, hkey, hlookup, Option.any_some, isTimedOut, htimeout,
    if_neg (not_lt.mpr hgoverning)]
  exact decide_eq_true (hle.trans_lt hlast)

end Reading

/-- Whatever the gateway answers for an entry while its channel has been without an update for
longer than the entry's own timeout is `SENSOR_UNDEFINED`. -/
def StaleValuesUndefined (configJson : ControllerObject) : Prop :=
  ∀ (load : Loading configJson) (env : Environment), Deployed load env →
    ∀ inputs n i s, Reaches load env inputs n i s →
      ∀ response, .sent response .parameterResponse ∈ s.log →
        (∃ p, s.AnsweredAt p response) ∧
        ∀ p, s.AnsweredAt p response → ∀ e ∈ configJson.entries,
          e.selector = ⟨response.data[0]!, response.data[1]!, response.data[2]!⟩ →
          ∀ channel, TMqttChannel.fromString e.channel = .ok channel →
          ∀ minutes, e.valueTimeoutMin = some minutes → 0 ≤ minutes →
          (env.world p).StaleFor load.time channel minutes →
            response.data[3]! = lowByte sensorUndefined ∧
              response.data[4]! = highByte sensorUndefined

/-- What governs a channel keeps every timeout, written in an entry that is ever answered, which a
clock of 64 bits can run out. A governing timeout that 64 bits do not hold counts as the conversion
of the machine leaves it; `isTimedOut?` has no result for it. -/
def TimeoutsKept (configJson : ControllerObject) : Prop :=
  ∀ e ∈ configJson.entries, e.selector.programType = ptController →
    ∀ minutes, e.valueTimeoutMin = some minutes → 0 ≤ minutes → minutes ≤ maxTimeoutMin →
      0 ≤ governingTimeout e.channel configJson.entries ∧
        toNanoseconds (governingTimeout e.channel configJson.entries) ≤
          minutes * nanosecondsPerMinute

section Sufficient

variable {configJson : ControllerObject} {load : Loading configJson} {env : Environment}

theorem Loading.le_maxTimeoutMin {w : World} {channel : TMqttChannel} {minutes : ℤ}
    (hstale : w.StaleFor load.time channel minutes) : minutes ≤ maxTimeoutMin := by
  have hclock := w.clockBounds.2
  have hload : 0 < load.time := load.positive load.finish
  have hrun := hstale.1
  unfold nanosecondsPerMinute at hrun
  unfold maxTimeoutMin
  unfold TTimePoint at *
  omega

theorem Deployed.requestedValue_stale (h : Deployed load env) (hkept : TimeoutsKept configJson)
    {p : ℕ} {data : Vector Byte 8} (hdata : data[0]! = ptController) {e : Entry}
    (he : e ∈ configJson.entries) (hselector : e.selector = ⟨data[0]!, data[1]!, data[2]!⟩)
    {channel : TMqttChannel} (hchannel : TMqttChannel.fromString e.channel = .ok channel)
    {minutes : ℤ} (hminutes : e.valueTimeoutMin = some minutes) (h0 : 0 ≤ minutes)
    (hstale : (env.world p).StaleFor load.time channel minutes) :
    requestedValue env.world load.config.toControllerMapping p data = sensorUndefined := by
  by_cases hzero : data[3]! = 0
  · obtain ⟨channel', hchannel', hvalue⟩ :=
      requestedValue_of_selectedBy (w := env.world) (i := p) load .refl he ⟨hselector, hzero⟩
    obtain rfl : channel' = channel := by
      rw [hchannel] at hchannel'
      exact (Except.ok.inj hchannel').symm
    have hprogram : e.selector.programType = ptController := by rw [hselector, hdata]
    obtain ⟨hgoverning, hle⟩ :=
      hkept e he hprogram minutes hminutes h0 (Loading.le_maxTimeoutMin hstale)
    rw [hvalue, mqttValue, if_pos (h.timedOutAt he hchannel hgoverning hle hstale)]
  · apply requestedValue_of_not_selectedBy load .refl
    intro e' _ hselected
    exact hzero hselected.2

theorem TimeoutsKept.staleValuesUndefined (hkept : TimeoutsKept configJson) :
    StaleValuesUndefined configJson := by
  intro load env h inputs n i s hreaches response hresponse
  have hanswers : AtEach (AnswersRequest env.world load.config.toControllerMapping) s.log :=
    (h.acts hreaches).answersRequests rfl
  constructor
  · obtain ⟨recent, earlier, hlog⟩ := List.append_of_mem hresponse
    obtain ⟨p, f, rest, rfl, _⟩ := hanswers _ earlier ⟨recent, hlog.symm⟩ response rfl
    exact ⟨p, f, rest, recent, hlog.symm⟩
  · rintro p ⟨f, earlier, hsuffix⟩ e he hselector channel hchannel minutes hminutes h0 hstale
    obtain ⟨p', f', rest, hrequest, hdata, rfl⟩ := hanswers _ _ hsuffix response rfl
    obtain ⟨⟨rfl, rfl⟩, rfl⟩ : (p = p' ∧ f = f') ∧ earlier = rest := by simpa using hrequest
    rw [h.requestedValue_stale hkept hdata he hselector hchannel hminutes h0 hstale]
    exact ⟨rfl, rfl⟩

end Sufficient

/-! A timeout that is not kept shows when every control holds zero and falls silent. -/

section Necessary

def zeroWorld (timing : MqttChannelsTiming) (clock : TTimePoint) (h : 0 < clock ∧ clock < 2 ^ 63) :
    World where
  clock := clock
  clockBounds := h
  driver := ⟨.ok (), fun _ => some fun _ => some ⟨"", .ok (.finite 0 Double.representable_zero)⟩⟩
  timing := timing
  updates := []
  stack := 0
  undefinedCast := 0

theorem silence_bounds {minutes : ℤ} (h : 0 ≤ minutes ∧ minutes ≤ maxTimeoutMin) :
    0 < 2 + minutes * nanosecondsPerMinute ∧ 2 + minutes * nanosecondsPerMinute < 2 ^ 63 := by
  unfold maxTimeoutMin at h
  unfold nanosecondsPerMinute
  omega

/-- Right after its first reading the clock runs on for some minutes, and nothing else happens. -/
def silentEnvironment (timing : MqttChannelsTiming) {minutes : ℤ}
    (h : 0 ≤ minutes ∧ minutes ≤ maxTimeoutMin) : Environment :=
  Evolution.jump (a := zeroWorld timing 1 World.one_clockBounds)
    (b := zeroWorld timing (2 + minutes * nanosecondsPerMinute) (silence_bounds h)) 0
    (.single (.advance _ _ (by
      have hlater := (silence_bounds h).1
      change 1 ≤ 2 + minutes * nanosecondsPerMinute
      omega) (silence_bounds h)))

variable {configJson : ControllerObject} {minutes : ℤ}

theorem silentEnvironment_deployed (load : Loading configJson) (htime : load.time = 1)
    (h : 0 ≤ minutes ∧ minutes ≤ maxTimeoutMin) :
    Deployed load (silentEnvironment load.config.mqttChannelsTiming h) :=
  ⟨rfl, rfl, htime.le⟩

/-- The first frame of a run is answered with the value that its third observation begins. -/
theorem Deployed.first_answer {load : Loading configJson} {env : Environment}
    (h : Deployed load env) {f : TFrame} (hf : f.AsksForParameter)
    (hdata : f.data[0]! = ptController) (hrequest : f.IsRequestTo load.config.programId) {i : ℕ}
    {s : TaskState} (hreaches : Reaches load env (fun _ => some f) 1 i s) :
    [.sent (f.parameterAnswer
        (requestedValue env.world load.config.toControllerMapping 2 f.data)) .parameterResponse,
      .handled 2 f] <:+ s.log := by
  have hrun : (taskFn (fun _ => some f) 1).wp env.world (fun _ _ t =>
      [.sent (f.parameterAnswer
          (requestedValue env.world load.config.toControllerMapping 2 f.data)) .parameterResponse,
        .handled 2 f] <:+ t.log) (fun _ _ _ => False) 0 (TaskState.initial load.config) := by
    rw [taskFn, Program.rounds, Program.wp_bind]
    exact wp_iteration_answered (i := 1)
      (s := { TaskState.initial load.config with sendIAmHereTime := (env.world 0).clock })
      h.covered hf hdata hrequest
  exact Program.wp_ok hrun hreaches

theorem silent_not_timedOut (load : Loading configJson) (hclock : load.clock = fun _ => 1)
    (h : 0 ≤ minutes ∧ minutes ≤ maxTimeoutMin) {e : Entry} (he : e ∈ configJson.entries)
    {channel : TMqttChannel} (hchannel : TMqttChannel.fromString e.channel = .ok channel)
    (hnot : ¬ (0 ≤ governingTimeout e.channel configJson.entries ∧
      toNanoseconds (governingTimeout e.channel configJson.entries) ≤
        minutes * nanosecondsPerMinute)) :
    timedOutAt (silentEnvironment load.config.mqttChannelsTiming h).world 2 channel.device
      channel.control = false := by
  have htext := (TMqttChannel.fromString_eq_ok.mp hchannel).1
  have hkey : TMqttChannel.joined channel.device channel.control = e.channel := htext
  have htimed : (load.config.mqttChannelsTiming.lookup e.channel).isSome := Loading.entry_timed he
  obtain ⟨timing, hlookup⟩ := Option.isSome_iff_exists.mp htimed
  have htimeout := load.valueTimeoutMin_eq he hlookup
  obtain ⟨k, _, hlast⟩ := load.loaded.timing.stamped _ _ hlookup
  rw [hclock] at hlast
  change ((load.config.mqttChannelsTiming.lookup _).any fun timing =>
    timing.isTimedOut (2 + minutes * nanosecondsPerMinute)) = false
  rw [hkey, hlookup, Option.any_some, isTimedOut, htimeout, hlast]
  split_ifs with hnegative
  · rfl
  · apply decide_eq_false
    have hlong := not_le.mp (not_and.mp hnot (not_lt.mp hnegative))
    linarith

theorem StaleValuesUndefined.timeoutsKept (load : Loading configJson)
    (h : StaleValuesUndefined configJson) : TimeoutsKept configJson := by
  intro e he hprogram minutes hminutes h0 hmax
  by_contra hnot
  obtain ⟨channel, hchannel⟩ := load.spec.1.named e he
  let quiet : Loading configJson := .standing load.spec.1 load.garbage
  let f := parameterRequest quiet.config.programId e.selector
  have hdeployed := silentEnvironment_deployed quiet rfl ⟨h0, hmax⟩
  obtain ⟨i, s, hreaches, _⟩ := hdeployed.run_acts (fun _ => some f) 1
  have hanswer := hdeployed.first_answer (parameterRequest_asksForParameter _ _) hprogram
    (parameterRequest_isRequestTo _ _) hreaches
  have hvalue : requestedValue (silentEnvironment quiet.config.mqttChannelsTiming ⟨h0, hmax⟩).world
      quiet.config.toControllerMapping 2 f.data = 0 := by
    obtain ⟨channel', hchannel', hvalue⟩ :=
      requestedValue_of_selectedBy quiet .refl he (e.selectedBy_parameterRequest _)
    obtain rfl : channel' = channel := by
      rw [hchannel] at hchannel'
      exact (Except.ok.inj hchannel').symm
    rw [hvalue, mqttValue, silent_not_timedOut quiet rfl ⟨h0, hmax⟩ he hchannel hnot]
    exact SensorData.fromDouble_zero 0
  rw [hvalue] at hanswer
  have hstale : ((silentEnvironment quiet.config.mqttChannelsTiming ⟨h0, hmax⟩).world 2).StaleFor
      quiet.time channel minutes := by
    constructor
    · change minutes * nanosecondsPerMinute < 2 + minutes * nanosecondsPerMinute - 1
      omega
    · intro u hu
      exact absurd hu List.not_mem_nil
  obtain ⟨_, hundefined⟩ :=
    h quiet _ hdeployed _ _ _ _ hreaches _ (hanswer.subset List.mem_cons_self)
  obtain ⟨hlow, _⟩ := hundefined 2 ⟨f, [], hanswer⟩ e he rfl channel hchannel minutes hminutes h0
    hstale
  exact absurd hlow (by decide : lowByte 0 ≠ lowByte sensorUndefined)

end Necessary

/-- Stale values are answered as undefined exactly when the loader keeps the timeouts. -/
theorem stale_values_undefined_iff {configJson : ControllerObject} (load : Loading configJson) :
    StaleValuesUndefined configJson ↔ TimeoutsKept configJson :=
  ⟨StaleValuesUndefined.timeoutsKept load, TimeoutsKept.staleValuesUndefined⟩

theorem stale_values_undefined_room : StaleValuesUndefined roomController := by
  apply (stale_values_undefined_iff roomLoading).mpr
  intro e he _ minutes hminutes _ _
  rw [List.mem_singleton.mp he] at hminutes ⊢
  rw [← Option.some.inj hminutes]
  decide

/-! A setpoint of the room, as a parameter with a timeout of its own. -/

def roomSetpoint : ParamMapping where
  channel := "room/setpoint"
  valueTimeoutMin := some 5
  programType := ptController
  parameterId := 2
  parameterIndex := 0
  channelLength := by decide

def setpointController : ControllerObject where
  controllerId := 7
  sensors := none
  parameters := some [roomSetpoint]
  valueTimeoutMin := none
  controllerIdBounds := room_idBounds

theorem setpointController_acceptable : setpointController.Acceptable where
  mapping := Or.inr rfl
  distinct := List.nodup_singleton _
  named e he := by
    rw [List.mem_singleton.mp he]
    exact ⟨⟨"room", "setpoint"⟩, by decide⟩
  timed e he value hvalue := by
    rw [List.mem_singleton.mp he] at hvalue
    exact absurd hvalue (by simp [ParamMapping.entry, setpointController])

/-- The timeout of a parameter is looked for in the controller object, so this one has none. -/
theorem parameter_timeout_ignored : ¬ StaleValuesUndefined setpointController := by
  intro h
  have hkept := h.timeoutsKept (.standing setpointController_acceptable fun _ => ⟨0, 0, 0⟩)
  obtain ⟨hgoverning, _⟩ := hkept (roomSetpoint.entry setpointController)
    (List.mem_singleton_self _) rfl 5 rfl (by decide) (by decide)
  exact absurd hgoverning (by decide)

end SmartWebGateway
