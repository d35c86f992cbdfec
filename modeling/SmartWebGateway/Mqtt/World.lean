import SmartWebGateway.Foundation.Evolution
import SmartWebGateway.Mqtt.Channel
import Mathlib.Tactic

/-!
# The world around one controller thread

The steady clock, the MQTT driver's devices and the table of channel timings
change while the thread runs: the clock advances, the driver's own thread
takes updates and calls the event handler that refreshes the table. The
updates raised so far are kept as history, so that what the table says can be
compared with what really arrived.
-/
namespace SmartWebGateway

open Foundation

/-- A control of the driver: `GetError()`, and what `GetValue().As<double>()` does. -/
structure TControl where
  error : String
  value : Except String Double

/-- What the driver library answers. Its failures are `TBaseException`s with their text. -/
structure TDeviceDriver where
  beginTx : Except String Unit
  device : String → Option (String → Option TControl)

namespace TDeviceDriver

/-- A control takes a new value; a control that was not there appears without an error. -/
def setValue (driver : TDeviceDriver) (device control : String) (value : Except String Double) :
    TDeviceDriver :=
  let controls := (driver.device device).getD fun _ => none
  let error := ((controls control).map TControl.error).getD ""
  { driver with
    device := Function.update driver.device device
      (some (Function.update controls control (some ⟨error, value⟩))) }

/-- Anything that leaves the value of every control that stays. -/
def KeepsValues (driver driver' : TDeviceDriver) : Prop :=
  ∀ device controls controls', driver.device device = some controls →
    driver'.device device = some controls' →
    ∀ name control control', controls name = some control → controls' name = some control' →
      control.value = control'.value

end TDeviceDriver

/-- One `TControlValueEvent`. A device id is one level of an MQTT topic, so it has no slash. -/
structure MqttUpdate where
  device : String
  control : String
  time : TTimePoint
  slashless : '/' ∉ device.toList

namespace MqttUpdate

/-- The text under which the event handler looks the update up. -/
def text (u : MqttUpdate) : String := TMqttChannel.joined u.device u.control

def IsOf (u : MqttUpdate) (channel : TMqttChannel) : Prop :=
  u.device = channel.device ∧ u.control = channel.control

instance (u : MqttUpdate) (channel : TMqttChannel) : Decidable (u.IsOf channel) :=
  inferInstanceAs (Decidable (_ ∧ _))

theorem text_eq_of_isOf {u : MqttUpdate} {channel : TMqttChannel} (h : u.IsOf channel) :
    u.text = channel.toString := by
  rw [text, h.1, h.2]
  rfl

theorem isOf_of_text {u : MqttUpdate} {channel : TMqttChannel}
    (hslash : '/' ∉ channel.device.toList) (h : u.text = channel.toString) : u.IsOf channel :=
  TMqttChannel.joined_inj u.slashless hslash h

end MqttUpdate

/-- `onHandler`: an update refreshes its entry, and `out_of_range` is swallowed. -/
def onHandler (now : TTimePoint) (device control : String) (timing : MqttChannelsTiming) :
    MqttChannelsTiming :=
  match timing.lookup (TMqttChannel.joined device control) with
  | some entry =>
    timing.insert (TMqttChannel.joined device control) (entry.refreshLastUpdateTimepoint now)
  | none => timing

/-- `stack` and `undefinedCast` stand for what the program must not rely on:
the content of a local without initialiser, the result of a conversion out of range. -/
structure World where
  clock : TTimePoint
  clockBounds : 0 < clock ∧ clock < 2 ^ 63
  driver : TDeviceDriver
  timing : MqttChannelsTiming
  updates : List MqttUpdate
  stack : BitVec 32
  undefinedCast : BitVec 16

namespace World

theorem one_clockBounds : (0 : TTimePoint) < 1 ∧ (1 : TTimePoint) < 2 ^ 63 := by decide

/-- What `read_mqtt_value` does once the value is known to be fresh. -/
def readControl (w : World) (deviceId controlId : String) : BitVec 16 :=
  match w.driver.beginTx with
  | .error _ => sensorUndefined
  | .ok () =>
    match w.driver.device deviceId with
    | none => sensorUndefined
    | some device =>
      match device controlId with
      | none => sensorUndefined
      | some control =>
        if control.error = "" then
          match control.value with
          | .ok value => SensorData.fromDouble w.undefinedCast value
          | .error _ => sensorUndefined
        else sensorUndefined

def update (w : World) (u : MqttUpdate) (value : Except String Double) : World :=
  { w with
    driver := w.driver.setValue u.device u.control value
    timing := onHandler u.time u.device u.control w.timing
    updates := u :: w.updates }

/-- A channel got an update after the first of two worlds and not after the second. -/
def UpdatedSince (w w' : World) (channel : TMqttChannel) : Prop :=
  ∃ recent, w'.updates = recent ++ w.updates ∧ ∃ u ∈ recent, u.IsOf channel

/-- For more than `minutes` there was no update, counted from `start` when there was none at all. -/
def StaleFor (w : World) (start : TTimePoint) (channel : TMqttChannel) (minutes : ℤ) : Prop :=
  minutes * nanosecondsPerMinute < w.clock - start ∧
    ∀ u ∈ w.updates, u.IsOf channel → minutes * nanosecondsPerMinute < w.clock - u.time

end World

/-- The steps the world takes on its own. -/
inductive WorldStep : World → World → Prop
  | advance (w : World) (t : TTimePoint) (h : w.clock ≤ t) (ht : 0 < t ∧ t < 2 ^ 63) :
      WorldStep w { w with clock := t, clockBounds := ht }
  | update (w : World) (u : MqttUpdate) (value : Except String Double) (h : u.time = w.clock) :
      WorldStep w (w.update u value)
  | reconfigure (w : World) (driver : TDeviceDriver) (h : w.driver.KeepsValues driver) :
      WorldStep w { w with driver := driver }
  | scribble (w : World) (stack : BitVec 32) (undefinedCast : BitVec 16) :
      WorldStep w { w with stack := stack, undefinedCast := undefinedCast }

abbrev Environment := Evolution WorldStep

namespace Environment

variable (env : Environment)

theorem clock_mono {i j : ℕ} (h : i ≤ j) : (env.world i).clock ≤ (env.world j).clock := by
  refine env.monotone World.clock ?_ h
  intro a b hab
  cases hab with
  | advance t hle _ => exact hle
  | update u value _ => exact le_rfl
  | reconfigure driver _ => exact le_rfl
  | scribble stack cast => exact le_rfl

theorem updates_since {i j : ℕ} (h : i ≤ j) :
    ∃ recent, (env.world j).updates = recent ++ (env.world i).updates ∧
      ∀ u ∈ recent, (env.world i).clock ≤ u.time := by
  let R : World → World → Prop := fun a b => a.clock ≤ b.clock ∧
    ∃ recent, b.updates = recent ++ a.updates ∧ ∀ u ∈ recent, a.clock ≤ u.time
  have hR : R (env.world i) (env.world j) := by
    refine env.relates (R := R) ?_ ?_ ?_ h
    · intro a
      exact ⟨le_rfl, [], rfl, by simp⟩
    · rintro a b c ⟨hab, recent, hb, htime⟩ ⟨hbc, recent', hc, htime'⟩
      refine ⟨hab.trans hbc, recent' ++ recent, by rw [hc, hb, List.append_assoc], ?_⟩
      intro u hu
      rcases List.mem_append.mp hu with hu | hu
      · exact hab.trans (htime' u hu)
      · exact htime u hu
    · intro a b hab
      cases hab with
      | advance t hle _ => exact ⟨hle, [], rfl, by simp⟩
      | update u value hu => exact ⟨le_rfl, [u], rfl, by simp [hu]⟩
      | reconfigure driver _ => exact ⟨le_rfl, [], rfl, by simp⟩
      | scribble stack cast => exact ⟨le_rfl, [], rfl, by simp⟩
  exact hR.2

end Environment

/-- What the table of timings has to do with the table that was loaded and
with the updates since. -/
structure TimingSound (loaded : MqttChannelsTiming) (w : World) : Prop where
  timeout : ∀ key, (w.timing.lookup key).map TMqttChannelTiming.valueTimeoutMin =
    (loaded.lookup key).map TMqttChannelTiming.valueTimeoutMin
  origin : ∀ key entry, w.timing.lookup key = some entry →
    (∃ entry0, loaded.lookup key = some entry0 ∧
      entry.lastUpdateTimePoint = entry0.lastUpdateTimePoint) ∨
    ∃ u ∈ w.updates, u.text = key ∧ u.time = entry.lastUpdateTimePoint
  past : ∀ key entry, w.timing.lookup key = some entry → entry.lastUpdateTimePoint ≤ w.clock
  latest : ∀ key entry, w.timing.lookup key = some entry →
    ∀ u ∈ w.updates, u.text = key → u.time ≤ entry.lastUpdateTimePoint
  updatesPast : ∀ u ∈ w.updates, u.time ≤ w.clock

namespace TimingSound

variable {loaded : MqttChannelsTiming} {w : World}

theorem lookup_onHandler (now : TTimePoint) (device control : String)
    (timing : MqttChannelsTiming) (key : String) :
    (onHandler now device control timing).lookup key =
      if key = TMqttChannel.joined device control then
        (timing.lookup key).map (TMqttChannelTiming.refreshLastUpdateTimepoint now)
      else timing.lookup key := by
  unfold onHandler
  by_cases hkey : key = TMqttChannel.joined device control
  · subst hkey
    cases h : timing.lookup (TMqttChannel.joined device control) <;> simp [h]
  · cases h : timing.lookup (TMqttChannel.joined device control) with
    | none => simp [hkey]
    | some entry => simp [hkey, AList.lookup_insert_ne hkey]

theorem update (h : TimingSound loaded w) (u : MqttUpdate) (value : Except String Double)
    (hu : u.time = w.clock) : TimingSound loaded (w.update u value) := by
  have hlookup := lookup_onHandler u.time u.device u.control w.timing
  have hcases : ∀ key entry, (w.update u value).timing.lookup key = some entry →
      (key = u.text ∧ entry.lastUpdateTimePoint = u.time) ∨
        key ≠ u.text ∧ w.timing.lookup key = some entry := by
    intro key entry hentry
    change (onHandler u.time u.device u.control w.timing).lookup key = some entry at hentry
    rw [hlookup] at hentry
    split_ifs at hentry with hkey
    · obtain ⟨old, _, rfl⟩ := Option.map_eq_some_iff.mp hentry
      exact Or.inl ⟨hkey, rfl⟩
    · exact Or.inr ⟨hkey, hentry⟩
  constructor
  · intro key
    change ((onHandler u.time u.device u.control w.timing).lookup key).map _ = _
    rw [hlookup, ← h.timeout key]
    split_ifs
    · rw [Option.map_map]
      rfl
    · rfl
  · intro key entry hentry
    rcases hcases key entry hentry with ⟨rfl, htime⟩ | ⟨_, hold⟩
    · exact Or.inr ⟨u, List.mem_cons_self, rfl, htime.symm⟩
    · rcases h.origin key entry hold with hload | ⟨v, hv, htext, htime⟩
      · exact Or.inl hload
      · exact Or.inr ⟨v, List.mem_cons_of_mem _ hv, htext, htime⟩
  · intro key entry hentry
    rcases hcases key entry hentry with ⟨_, htime⟩ | ⟨_, hold⟩
    · exact (htime.trans hu).le
    · exact h.past key entry hold
  · intro key entry hentry v hv htext
    rcases hcases key entry hentry with ⟨_, htime⟩ | ⟨hne, hold⟩
    · rcases List.mem_cons.mp hv with rfl | hv
      · exact htime.ge
      · exact (h.updatesPast v hv).trans (hu.symm.trans htime.symm).le
    · rcases List.mem_cons.mp hv with rfl | hv
      · exact absurd htext.symm hne
      · exact h.latest key entry hold v hv htext
  · intro v hv
    rcases List.mem_cons.mp hv with rfl | hv
    · exact hu.le
    · exact h.updatesPast v hv

theorem step {w' : World} (h : TimingSound loaded w) (hstep : WorldStep w w') :
    TimingSound loaded w' := by
  cases hstep with
  | advance t hle _ =>
    exact ⟨h.timeout, h.origin, fun key entry he => (h.past key entry he).trans hle, h.latest,
      fun u hu => (h.updatesPast u hu).trans hle⟩
  | update u value hu => exact h.update u value hu
  | reconfigure driver _ => exact ⟨h.timeout, h.origin, h.past, h.latest, h.updatesPast⟩
  | scribble stack cast => exact ⟨h.timeout, h.origin, h.past, h.latest, h.updatesPast⟩

theorem lookup_isSome (h : TimingSound loaded w) (key : String) :
    (w.timing.lookup key).isSome = (loaded.lookup key).isSome := by
  have := congrArg Option.isSome (h.timeout key)
  simpa using this

end TimingSound

/-- The thread of a controller starts with the table that the loader filled. -/
structure StartsFrom (env : Environment) (loaded : MqttChannelsTiming) : Prop where
  timing : (env.world 0).timing = loaded
  updates : (env.world 0).updates = []
  past : ∀ key entry, loaded.lookup key = some entry →
    entry.lastUpdateTimePoint ≤ (env.world 0).clock

theorem StartsFrom.sound {env : Environment} {loaded : MqttChannelsTiming}
    (h : StartsFrom env loaded) (i : ℕ) : TimingSound loaded (env.world i) := by
  refine env.invariant ?_ (fun _ _ hstep hsound => hsound.step hstep) i
  constructor
  · intro key
    rw [h.timing]
  · intro key entry hentry
    exact Or.inl ⟨entry, by rwa [h.timing] at hentry, rfl⟩
  · intro key entry hentry
    exact h.past key entry (by rwa [h.timing] at hentry)
  · simp [h.updates]
  · simp [h.updates]

theorem StartsFrom.lastUpdate_mono {env : Environment} {loaded : MqttChannelsTiming}
    (h : StartsFrom env loaded) {i j : ℕ} (hij : i ≤ j) {key : String}
    {entry : TMqttChannelTiming} (hentry : (env.world i).timing.lookup key = some entry) :
    ∃ entry', (env.world j).timing.lookup key = some entry' ∧
      entry.lastUpdateTimePoint ≤ entry'.lastUpdateTimePoint := by
  have hsome : ((env.world j).timing.lookup key).isSome := by
    rw [(h.sound j).lookup_isSome, ← (h.sound i).lookup_isSome, hentry]
    rfl
  obtain ⟨entry', hentry'⟩ := Option.isSome_iff_exists.mp hsome
  refine ⟨entry', hentry', ?_⟩
  have hlatest := (h.sound j).latest key entry' hentry'
  rcases (h.sound i).origin key entry hentry with ⟨entry0, hload, hlast⟩ | ⟨u, hu, htext, htime⟩
  · rcases (h.sound j).origin key entry' hentry' with ⟨entry0', hload', hlast'⟩ | ⟨u, hu, -, htime⟩
    · rw [hload, Option.some.injEq] at hload'
      rw [hlast, hlast', hload']
    · obtain ⟨recent, hupdates, hrecent⟩ := env.updates_since (Nat.zero_le j)
      rw [hupdates, h.updates, List.append_nil] at hu
      rw [hlast, ← htime]
      exact (h.past key entry0 hload).trans (hrecent u hu)
  · obtain ⟨recent, hupdates, -⟩ := env.updates_since hij
    rw [← htime]
    exact hlatest u (hupdates ▸ List.mem_append_right recent hu) htext

end SmartWebGateway
