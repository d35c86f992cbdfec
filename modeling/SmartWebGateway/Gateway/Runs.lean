import SmartWebGateway.Config.Loaded
import SmartWebGateway.Gateway.Actions
import Mathlib.Tactic

/-!
# Runs of a deployed controller

The thread of a controller starts with a copy of what the loader made. The
channels of its mappings were cut out of the texts that key the table of
timings; joined again they give the same texts, so no look-up of the thread
ever misses.
-/
namespace SmartWebGateway

open Foundation
open TMqttToSmartWebGateway

/-- The world at the start of the thread holds a copy of the loaded table, and loading is over. -/
structure Deployed {configJson : ControllerObject} (load : Loading configJson)
    (env : Environment) : Prop where
  timing : (env.world 0).timing = load.config.mqttChannelsTiming
  updates : (env.world 0).updates = []
  clock : load.time ≤ (env.world 0).clock

variable {configJson : ControllerObject} {load : Loading configJson} {env : Environment}

theorem Deployed.startsFrom (h : Deployed load env) :
    StartsFrom env load.config.mqttChannelsTiming :=
  ⟨h.timing, h.updates, fun _ _ hentry => (load.lastUpdate_le_time hentry).trans h.clock⟩

/-- The state after `n` rounds of the loop and the position of the next observation. -/
def Reaches (load : Loading configJson) (env : Environment) (inputs : ℕ → Option TFrame) (n : ℕ)
    (j : ℕ) (s : TaskState) : Prop :=
  (taskFn inputs n).run env.world 0 (TaskState.initial load.config) = (.ok (), j, s)

/-- The state that the thread is in after `n` rounds. -/
def runState (load : Loading configJson) (env : Environment) (inputs : ℕ → Option TFrame)
    (n : ℕ) : TaskState :=
  ((taskFn inputs n).run env.world 0 (TaskState.initial load.config)).2.2

def runPosition (load : Loading configJson) (env : Environment) (inputs : ℕ → Option TFrame)
    (n : ℕ) : ℕ :=
  ((taskFn inputs n).run env.world 0 (TaskState.initial load.config)).2.1

theorem Loading.entry_timed {e : Entry} (he : e ∈ configJson.entries) :
    (load.config.mqttChannelsTiming.lookup e.channel).isSome := by
  have h := load.loaded.timing.timeout e.channel
  rw [if_pos (List.mem_map_of_mem he)] at h
  simpa using congrArg Option.isSome h

theorem Loading.covered : load.config.Covered load.config.mqttChannelsTiming := by
  constructor
  · intro key channel hlookup
    obtain ⟨e, he, _, hchannel⟩ := load.loaded.mapping.mappedOnly key channel hlookup
    rw [(TMqttChannel.fromString_eq_ok.mp hchannel).1]
    exact entry_timed he
  · intro o hinit
    by_cases ho : ∃ e ∈ configJson.entries, o ∈ e.output
    · obtain ⟨e, he, heo⟩ := ho
      have hchannel := load.loaded.outputs.named e he o heo
      rw [(TMqttChannel.fromString_eq_ok.mp hchannel).1]
      exact entry_timed he
    · push Not at ho
      rw [load.loaded.outputs.not_isInitialized ho] at hinit
      exact absurd hinit (by simp)

namespace Deployed

theorem sound (h : Deployed load env) (k : ℕ) :
    TimingSound load.config.mqttChannelsTiming (env.world k) := h.startsFrom.sound k

theorem covered (h : Deployed load env) (k : ℕ) :
    load.config.Covered (env.world k).timing := by
  constructor
  · intro key channel hlookup
    rw [(h.sound k).lookup_isSome]
    exact load.covered.parameters key channel hlookup
  · intro o hinit
    rw [(h.sound k).lookup_isSome]
    exact load.covered.outputs o hinit

theorem run_acts (h : Deployed load env) (inputs : ℕ → Option TFrame) (n : ℕ) :
    ∃ j s, Reaches load env inputs n j s ∧
      Acts env.world (0, TaskState.initial load.config) (j, s) := by
  obtain ⟨_, j, s, hrun, hacts⟩ := Program.returns_of_wp
    (wp_taskFn (w := env.world) (i := 0) (s := TaskState.initial load.config) h.covered inputs n)
  exact ⟨j, s, hrun, hacts⟩

theorem reaches (h : Deployed load env) (inputs : ℕ → Option TFrame) (n : ℕ) :
    Reaches load env inputs n (runPosition load env inputs n) (runState load env inputs n) := by
  obtain ⟨j, s, hreaches, _⟩ := h.run_acts inputs n
  unfold Reaches runPosition runState at *
  rw [hreaches]

theorem acts (h : Deployed load env) {inputs : ℕ → Option TFrame} {n j : ℕ} {s : TaskState}
    (hreaches : Reaches load env inputs n j s) :
    Acts env.world (0, TaskState.initial load.config) (j, s) := by
  obtain ⟨j', s', hrun, hacts⟩ := h.run_acts inputs n
  obtain ⟨hj, hs⟩ : j' = j ∧ s' = s := by
    simpa using hrun.symm.trans hreaches
  subst hj hs
  exact hacts

theorem exists_update (h : Deployed load env) {k q : ℕ} {key : String}
    {timing : TMqttChannelTiming} (hlookup : (env.world k).timing.lookup key = some timing)
    (hlater : (env.world q).clock < timing.lastUpdateTimePoint) :
    ∃ u ∈ (env.world k).updates, u.text = key ∧ u.time = timing.lastUpdateTimePoint := by
  rcases (h.sound k).origin key timing hlookup with ⟨entry, hentry, hlast⟩ | hupdate
  · have hload : timing.lastUpdateTimePoint ≤ load.time :=
      hlast.trans_le (load.lastUpdate_le_time hentry)
    have hstart := h.clock.trans (env.clock_mono (Nat.zero_le q))
    exact absurd hlater (not_lt.mpr (hload.trans hstart))
  · exact hupdate

end Deployed

theorem Act.errorCode1_not_mem {w : ℕ → World} {a b : ℕ × TaskState} (h : Act w a b)
    (ha : Event.errorCode1 ∉ a.2.log) : Event.errorCode1 ∉ b.2.log := by
  cases h <;> simpa using ha

theorem Acts.errorCode1_not_mem {w : ℕ → World} {a b : ℕ × TaskState} (h : Acts w a b)
    (ha : Event.errorCode1 ∉ a.2.log) : Event.errorCode1 ∉ b.2.log := by
  induction h with
  | refl => exact ha
  | tail _ hbc ih => exact hbc.errorCode1_not_mem ih

/-- No frame and no MQTT event kills the process: every run of every length goes on, never meets
the state that it reports as error code 1, and keeps every stored channel timed. -/
theorem run_survives (h : Deployed load env) (inputs : ℕ → Option TFrame) (n : ℕ) :
    (∃ j s, Reaches load env inputs n j s ∧ Event.errorCode1 ∉ s.log ∧
      ∀ k, s.driverState.Covered (env.world k).timing) ∧
    ∀ (f : TFrame) i s e j t,
      (handleRequest f.header f.data).run env.world i s = (.error e, j, t) → e.IsDriverError := by
  constructor
  · obtain ⟨j, s, hreaches, hacts⟩ := h.run_acts inputs n
    exact ⟨j, s, hreaches, hacts.errorCode1_not_mem (by simp [TaskState.initial]),
      fun k => hacts.sameChannels.covered (h.covered k)⟩
  · intro f i s e j t hrun
    exact (Program.wp_error (wp_handleRequest env.world i s f) hrun).isDriverError

/-! A controller with one sensor, in a world where nothing happens and no device exists. -/

def roomSensor : SensorMapping where
  channel := "room/temperature"
  valueTimeoutMin := some 5
  sensorIndex := 1
  channelLength := by decide
  sensorIndexBounds := by decide

theorem room_idBounds : 1 ≤ 7 ∧ 7 ≤ 255 := by decide

def roomController : ControllerObject where
  controllerId := 7
  sensors := some [roomSensor]
  parameters := none
  valueTimeoutMin := none
  controllerIdBounds := room_idBounds

theorem roomController_acceptable : roomController.Acceptable where
  mapping := Or.inl rfl
  distinct := List.nodup_singleton _
  named e he := by
    rw [List.mem_singleton.mp he]
    exact ⟨⟨"room", "temperature"⟩, by decide⟩
  timed e he value hvalue := by
    rw [List.mem_singleton.mp he] at hvalue
    rw [← Option.some.inj hvalue]
    exact ⟨5, by decide⟩

def roomLoading : Loading roomController :=
  .standing roomController_acceptable fun _ => ⟨0, 0, 0⟩

def roomWorld : World where
  clock := 1
  clockBounds := World.one_clockBounds
  driver := ⟨.ok (), fun _ => none⟩
  timing := roomLoading.config.mqttChannelsTiming
  updates := []
  stack := 0
  undefinedCast := 0

def roomEnvironment : Environment := Evolution.constant roomWorld

theorem roomEnvironment_deployed : Deployed roomLoading roomEnvironment := ⟨rfl, rfl, le_rfl⟩

def roomOutputRequest : TFrame := TFrame.outputRequest 7 ⟨7, 0, 0⟩

def roomUpdate : MqttUpdate where
  device := "room"
  control := "temperature"
  time := 2
  slashless := by decide

/-- The clock goes to 2, the update comes, and the clock goes to 3. -/
def roomUpdated : World :=
  { { roomWorld with clock := 2, clockBounds := by decide }.update roomUpdate (.ok (.ofRat 21)) with
    clock := 3
    clockBounds := by decide }

theorem roomWorld_steps : Relation.ReflTransGen WorldStep roomWorld roomUpdated := by
  have h2 : WorldStep roomWorld { roomWorld with clock := 2, clockBounds := by decide } :=
    .advance roomWorld 2 (by decide) (by decide)
  have hu := WorldStep.update { roomWorld with clock := 2, clockBounds := by decide } roomUpdate
    (.ok (.ofRat 21)) rfl
  exact ((Relation.ReflTransGen.single h2).tail hu).tail (.advance _ 3 (by decide) (by decide))

def roomUpdatedAfter (n : ℕ) : Environment := Evolution.jump n roomWorld_steps

theorem roomUpdatedAfter_deployed (n : ℕ) : Deployed roomLoading (roomUpdatedAfter n) :=
  ⟨rfl, rfl, le_rfl⟩

theorem roomUpdatedAfter_world {n p : ℕ} (h : n < p) :
    (roomUpdatedAfter n).world p = roomUpdated := by
  simp only [roomUpdatedAfter, Evolution.jump, if_neg (not_le.mpr h)]

/-- Each round takes a request for the output, and in the first the sensor is updated. -/
theorem run_survives_room :
    ∃ j s, Reaches roomLoading (roomUpdatedAfter 8) (fun _ => some roomOutputRequest) 2 j s ∧
      Event.errorCode1 ∉ s.log ∧ .handled 2 roomOutputRequest ∈ s.log ∧
      roomUpdate ∈ ((roomUpdatedAfter 8).world j).updates := by
  obtain ⟨⟨j, s, hreaches, hlog, _⟩, _⟩ :=
    run_survives (roomUpdatedAfter_deployed 8) (fun _ => some roomOutputRequest) 2
  have hposition : runPosition roomLoading (roomUpdatedAfter 8)
      (fun _ => some roomOutputRequest) 2 = j := congrArg (·.2.1) hreaches
  have hstate : runState roomLoading (roomUpdatedAfter 8)
      (fun _ => some roomOutputRequest) 2 = s := congrArg (·.2.2) hreaches
  subst hposition hstate
  refine ⟨_, _, hreaches, hlog, by decide +kernel, ?_⟩
  have hlate : 8 < runPosition roomLoading (roomUpdatedAfter 8)
      (fun _ => some roomOutputRequest) 2 := by
    decide +kernel
  rw [roomUpdatedAfter_world hlate]
  exact List.mem_singleton_self _

end SmartWebGateway
