import SmartWebGateway.Can.Conventions
import Mathlib.Data.List.AList
import Mathlib.Data.List.TakeWhile
import Mathlib.Tactic

/-!
# Channels, their timing, and what one virtual controller is configured with

A channel is named in the configuration by one text, `device/control`, and is
looked up later by the text that is joined again from its two parts. The
round trip between the two is proved here for every text.
-/
namespace SmartWebGateway

/-- The exceptions of the program, by class. -/
inductive Exc where
  | unsupported (what : String)
  | frame (what : String)
  | driver (what : String)
  | outOfRange
  | runtime (what : String)
  | jsonLogic (what : String)
  deriving DecidableEq

/-- `TUnsupportedError` and `TFrameError` derive from `TDriverError`. -/
def Exc.IsDriverError : Exc → Prop
  | .unsupported _ | .frame _ | .driver _ => True
  | _ => False

instance : DecidablePred Exc.IsDriverError := fun e => by
  cases e <;> unfold Exc.IsDriverError <;> infer_instance

/-- A reading of the steady clock, in nanoseconds. -/
abbrev TTimePoint := ℤ

def nanosecondsPerMinute : ℤ := 60000000000

/-- Without anything else to do, `I_AM_HERE` is sent every 10 seconds. -/
def keepAliveInterval : ℤ := 10000000000
/-- After 10 minutes without messages the connection is considered lost. -/
def connectionTimeout : ℤ := 10 * nanosecondsPerMinute
/-- A requested value is sent during 10 minutes. -/
def sendMessagesTime : ℤ := 10 * nanosecondsPerMinute
/-- Interval between two messages, 30000 milliseconds. -/
def sendMessagesInterval : ℤ := 30000000000

structure TMqttChannel where
  device : String
  control : String
  deriving DecidableEq

namespace TMqttChannel

/-- `TMqttChannel::to_string(device, control)` -/
def joined (device control : String) : String := device ++ "/" ++ control

def toString (channel : TMqttChannel) : String := joined channel.device channel.control

/-- The two parts of a text around its first slash. -/
def cut (deviceControl : String) : TMqttChannel where
  device := String.ofList (deviceControl.toList.takeWhile (· ≠ '/'))
  control := String.ofList (deviceControl.toList.dropWhile (· ≠ '/')).tail

/-- The text needs a slash, and neither part may be empty. -/
def fromString (deviceControl : String) : Except Exc TMqttChannel :=
  if '/' ∉ deviceControl.toList then
    .error (.driver ("unable to determine device id and control id from string '" ++
      deviceControl ++ "'"))
  else if (cut deviceControl).device = "" ∨ (cut deviceControl).control = "" then
    .error (.driver ("unable to determine device id or control id from string '" ++
      deviceControl ++ "'"))
  else .ok (cut deviceControl)

def isInitialized (channel : TMqttChannel) : Bool := channel.device ≠ "" ∨ channel.control ≠ ""

theorem joined_toList (device control : String) :
    (joined device control).toList = device.toList ++ '/' :: control.toList := by
  simp [joined]

theorem takeWhile_joined {device : String} (h : '/' ∉ device.toList) (control : String) :
    (joined device control).toList.takeWhile (· ≠ '/') = device.toList := by
  have hall : ∀ a ∈ device.toList, decide (a ≠ '/') = true := by
    intro a ha
    exact decide_eq_true (ne_of_mem_of_not_mem ha h)
  rw [joined_toList, List.takeWhile_append_of_pos hall]
  simp

theorem dropWhile_joined {device : String} (h : '/' ∉ device.toList) (control : String) :
    (joined device control).toList.dropWhile (· ≠ '/') = '/' :: control.toList := by
  have hall : ∀ a ∈ device.toList, decide (a ≠ '/') = true := by
    intro a ha
    exact decide_eq_true (ne_of_mem_of_not_mem ha h)
  rw [joined_toList, List.dropWhile_append_of_pos hall]
  simp

theorem cut_joined {device : String} (h : '/' ∉ device.toList) (control : String) :
    cut (joined device control) = ⟨device, control⟩ := by
  simp only [cut, takeWhile_joined h, dropWhile_joined h, List.tail_cons, String.ofList_toList]

theorem cut_toString {text : String} (h : '/' ∈ text.toList) : (cut text).toString = text := by
  have hne : text.toList.dropWhile (· ≠ '/') ≠ [] := by
    intro hnil
    rw [List.dropWhile_eq_nil_iff] at hnil
    simpa using hnil '/' h
  have hhead : (text.toList.dropWhile (· ≠ '/')).head hne = '/' := by
    simpa using List.head_dropWhile_not (· ≠ '/') hne
  apply String.ext
  calc
    (cut text).toString.toList =
        text.toList.takeWhile (· ≠ '/') ++ '/' :: (text.toList.dropWhile (· ≠ '/')).tail := by
      simp only [cut, toString, joined_toList, String.toList_ofList]
    _ = text.toList.takeWhile (· ≠ '/') ++ text.toList.dropWhile (· ≠ '/') := by
      conv_rhs => rw [← List.cons_head_tail hne, hhead]
    _ = text.toList := List.takeWhile_append_dropWhile

theorem slash_not_mem_cut (text : String) : '/' ∉ (cut text).device.toList := by
  intro h
  rw [cut, String.toList_ofList] at h
  simpa using List.mem_takeWhile_imp h

/-- Device ids without a slash leave only one way to read a joined text. -/
theorem joined_inj {d d' c c' : String} (hd : '/' ∉ d.toList) (hd' : '/' ∉ d'.toList)
    (h : joined d c = joined d' c') : d = d' ∧ c = c' := by
  have hcut := cut_joined hd c
  rw [h, cut_joined hd' c', TMqttChannel.mk.injEq] at hcut
  exact ⟨hcut.1.symm, hcut.2.symm⟩

/-- A text is accepted exactly when it joins a nonempty device id without
slashes and a nonempty control id, and then it is cut into these two. -/
theorem fromString_eq_ok {text : String} {channel : TMqttChannel} :
    fromString text = .ok channel ↔
      channel.toString = text ∧ '/' ∉ channel.device.toList ∧
        channel.device ≠ "" ∧ channel.control ≠ "" := by
  constructor
  · intro h
    unfold fromString at h
    split_ifs at h with hslash hempty
    · cases h
      exact ⟨cut_toString hslash, slash_not_mem_cut text, not_or.mp hempty⟩
  · rintro ⟨rfl, hslash, hparts⟩
    have hmem : '/' ∈ channel.toString.toList := by simp [toString, joined_toList]
    have hcut : cut channel.toString = channel := cut_joined hslash channel.control
    rw [fromString, if_neg (not_not.mpr hmem), hcut, if_neg (by tauto)]

end TMqttChannel

/-- When a channel last had an update, and for how many minutes that counts. -/
structure TMqttChannelTiming where
  lastUpdateTimePoint : TTimePoint
  valueTimeoutMin : ℤ
  deriving DecidableEq

namespace TMqttChannelTiming

/-- The entry that `operator[]` creates: epoch, and no timeout. -/
def initial : TMqttChannelTiming := ⟨0, -1⟩

def refreshLastUpdateTimepoint (now : TTimePoint) (timing : TMqttChannelTiming) :
    TMqttChannelTiming :=
  { timing with lastUpdateTimePoint := now }

/-- Minutes in nanoseconds, as the comparison of two durations converts them:
in 64-bit arithmetic, where the machine wraps what C++ leaves undefined. -/
def toNanoseconds (minutes : ℤ) : ℤ := (minutes * nanosecondsPerMinute).bmod (2 ^ 64)

def isTimedOut (now : TTimePoint) (timing : TMqttChannelTiming) : Bool :=
  if timing.valueTimeoutMin < 0 then false
  else toNanoseconds timing.valueTimeoutMin < now - timing.lastUpdateTimePoint

/-- The largest number of minutes whose nanoseconds a 64-bit clock can count. -/
def maxTimeoutMin : ℤ := 153722867

end TMqttChannelTiming

abbrev MqttChannelsTiming := AList fun _ : String => TMqttChannelTiming

structure TChannelState where
  sendTimePoint : TTimePoint
  sendEndTimePoint : TTimePoint
  lastSendTimePoint : TTimePoint
  deriving DecidableEq

structure TBroadcastChannel extends TMqttChannel, TChannelState where
  mappingPoint : TMappingPoint
  deriving DecidableEq

namespace TBroadcastChannel

/-- A slot before anything is written to it; the mapping point has no initialiser. -/
def uninitialized (garbage : TMappingPoint) : TBroadcastChannel where
  device := ""
  control := ""
  sendTimePoint := 0
  sendEndTimePoint := 0
  lastSendTimePoint := 0
  mappingPoint := garbage

end TBroadcastChannel

/-- `CONTROLLER_OUTPUT_MAX` -/
abbrev Output := Fin 32

/-- What the thread of one controller keeps to itself. -/
structure ControllerMapping where
  programId : Byte
  parameterMapping : AList fun _ : BitVec 32 => TMqttChannel
  outputMapping : Output → TBroadcastChannel
  parameterCount : Byte

structure TMqttToSmartWebConfig extends ControllerMapping where
  mqttChannelsTiming : MqttChannelsTiming

end SmartWebGateway
