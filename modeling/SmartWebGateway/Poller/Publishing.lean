import SmartWebGateway.Poller.ShortResponses
import Mathlib.Tactic

/-!
# Publishing through a driver that may fail

`SetParameter` makes one or two calls to the driver inside a `try`. Each of them
may throw: the exception is logged, and what would have come after it is left
out. The id of a device is kept once the driver has made the device. The driver
itself is not part of the program; what is used of it stands in its interface,
and what is asked of it in the two properties below.
-/
namespace SmartWebGateway

open Foundation

/-- What the gateway uses of the driver: the devices that it has in a state, and where a call may
lead from there, by returning (`true`) or by an exception (`false`). -/
structure DeviceDriver (D : Type*) where
  devices : D → LocalDevices
  call : D → DriverCall → Bool → D → Prop

namespace LocalDevices

def valueAt (devices : LocalDevices) (path : ControlPath) : Option String :=
  (devices.control? path).map LocalControl.rawValue

def userData? (devices : LocalDevices) (path : ControlPath) : Option TSmartWebParameterControl :=
  (devices.control? path).bind LocalControl.userData

/-- A control of a device that is there is made or changed. -/
def setControl (devices : LocalDevices) (path : ControlPath) (control : LocalControl) :
    LocalDevices :=
  Function.update devices path.deviceName
    ((devices path.deviceName).map fun device =>
      Function.update device path.controlName (some control))

end LocalDevices

/-- What a call does to the devices. An error is kept beside the value of its control. -/
def DriverCall.apply (devices : LocalDevices) : DriverCall → LocalDevices
  | .createDevice deviceName => Function.update devices deviceName (some fun _ => none)
  | .createControl deviceName args =>
    devices.setControl ⟨deviceName, args.id⟩ ⟨args.rawValue, args.userData⟩
  | .setError _ _ => devices
  | .setRawValue control value => devices.setControl control ⟨value, devices.userData? control⟩
  | .removeDevice deviceName => Function.update devices deviceName none

def DriverCall.created : DriverCall → Option String
  | .createDevice deviceName => some deviceName
  | _ => none

namespace DeviceDriver

variable {D : Type*}

/-- A call that returns has done what it is for, and one that throws has done nothing. -/
structure Documented (driver : DeviceDriver D) : Prop where
  returned : ∀ {d : D} {call : DriverCall} {d' : D}, driver.call d call true d' →
    driver.devices d' = call.apply (driver.devices d)
  thrown : ∀ {d : D} {call : DriverCall} {d' : D}, driver.call d call false d' →
    driver.devices d' = driver.devices d

/-- User data comes to a control only from the call that makes it, whether or not that throws. -/
def KeepsUserData (driver : DeviceDriver D) : Prop :=
  ∀ {d : D} {call : DriverCall} {completed : Bool} {d' : D}, driver.call d call completed d' →
    ∀ path param, (driver.devices d').userData? path = some param →
      (driver.devices d).userData? path = some param ∨
        ∃ args, call = .createControl path.deviceName args ∧ args.id = path.controlName ∧
          args.userData = some param

/-- Calls are made one after the other until one throws; the ids of the devices that were made are
kept. -/
inductive Performs (driver : DeviceDriver D) :
    D → List DriverCall → Bool → List String → D → Prop
  | finished (d : D) : Performs driver d [] true [] d
  | thrown {d d' : D} {call : DriverCall} {calls : List DriverCall}
      (h : driver.call d call false d') : Performs driver d (call :: calls) false [] d'
  | returned {d d' d'' : D} {call : DriverCall} {calls : List DriverCall} {completed : Bool}
      {made : List String} (h : driver.call d call true d')
      (hrest : Performs driver d' calls completed made d'') :
      Performs driver d (call :: calls) completed (call.created.toList ++ made) d''

end DeviceDriver

namespace ParameterUpdate

/-- The `try` of `SetParameter`: `BeginTx` throws, or the calls are made. -/
inductive Publishes {D : Type*} (driver : DeviceDriver D) (formatFloat : Double → String)
    (update : ParameterUpdate) (frame : TFrame) : D → Bool → List String → D → Prop
  | refused (d : D) : Publishes driver formatFloat update frame d false [] d
  | performed {d d' : D} {completed : Bool} {made : List String}
      (h : driver.Performs d (update.publish formatFloat (driver.devices d) frame) completed made
        d') : Publishes driver formatFloat update frame d completed made d'

variable (formatFloat : Double → String) (update : ParameterUpdate) (frame : TFrame)

/-- The text that is decoded, if the bytes mean one. -/
def decoded : Except String String :=
  update.parameter.codec.decode formatFloat (frame.data.toList.drop update.valueOffset)

def path : ControlPath := update.parameter.control update.programId

def controlArgs : TControlArgs :=
  makeControlArgs update.programId update.parameter
    ((update.decoded formatFloat frame).toOption.getD "") (!(update.decoded formatFloat frame).isOk)

/-- The call that writes to the control or makes it. -/
def lastCall (devices : LocalDevices) : DriverCall :=
  if (devices.control? update.path).isSome then
    match update.decoded formatFloat frame with
    | .error _ => .setError update.path "r"
    | .ok value => .setRawValue update.path value
  else .createControl update.path.deviceName (update.controlArgs formatFloat frame)

def controlAfter (before : Option LocalControl) : LocalControl :=
  match before with
  | none =>
    let args := update.controlArgs formatFloat frame
    ⟨args.rawValue, args.userData⟩
  | some control =>
    match update.decoded formatFloat frame with
    | .error _ => control
    | .ok value => ⟨value, control.userData⟩

end ParameterUpdate

namespace LocalDevices

variable {devices : LocalDevices} {path path' : ControlPath} {control : LocalControl}
  {deviceName name : String}

theorem control?_setControl : (devices.setControl path control).control? path' =
    if path' = path then (devices path.deviceName).map fun _ => control
    else devices.control? path' := by
  obtain ⟨deviceName, controlName⟩ := path
  obtain ⟨deviceName', controlName'⟩ := path'
  unfold control? setControl
  dsimp only
  by_cases hname : deviceName' = deviceName
  · subst hname
    rw [Function.update_self]
    by_cases hcontrol : controlName' = controlName
    · rw [hcontrol, if_pos rfl]
      cases devices deviceName' with
      | none => rfl
      | some device => exact Function.update_self _ _ _
    · have hpath : (⟨deviceName', controlName'⟩ : ControlPath) ≠ ⟨deviceName', controlName⟩ :=
        fun h => hcontrol (congrArg ControlPath.controlName h)
      rw [if_neg hpath]
      cases devices deviceName' with
      | none => rfl
      | some device => exact Function.update_of_ne hcontrol _ _
  · have hpath : (⟨deviceName', controlName'⟩ : ControlPath) ≠ ⟨deviceName, controlName⟩ :=
      fun h => hname (congrArg ControlPath.deviceName h)
    rw [Function.update_of_ne hname, if_neg hpath]

theorem isSome_setControl :
    (devices.setControl path control name).isSome = (devices name).isSome := by
  unfold setControl
  by_cases hname : name = path.deviceName
  · rw [hname, Function.update_self, Option.isSome_map]
  · rw [Function.update_of_ne hname]

/-- A device in another's place that has no control. -/
theorem control?_update {device : Option (String → Option LocalControl)}
    (hnone : ∀ name, (device.bind fun controls => controls name) = none) :
    control? (Function.update devices deviceName device) path =
      if path.deviceName = deviceName then none else devices.control? path := by
  unfold control?
  split_ifs with hname
  · rw [hname, Function.update_self, hnone]
  · rw [Function.update_of_ne hname]

theorem control?_createDevice :
    ((DriverCall.createDevice deviceName).apply devices).control? path =
      if path.deviceName = deviceName then none else devices.control? path :=
  control?_update fun _ => rfl

theorem isSome_createDevice :
    ((DriverCall.createDevice deviceName).apply devices name).isSome ↔
      (devices name).isSome ∨ name = deviceName := by
  change (Function.update devices deviceName _ name).isSome ↔ _
  by_cases hname : name = deviceName
  · simp [hname]
  · simp [hname]

theorem control?_removeDevice :
    ((DriverCall.removeDevice deviceName).apply devices).control? path =
      if path.deviceName = deviceName then none else devices.control? path :=
  control?_update fun _ => rfl

theorem isSome_removeDevice :
    ((DriverCall.removeDevice deviceName).apply devices name).isSome ↔
      name ≠ deviceName ∧ (devices name).isSome := by
  change (Function.update devices deviceName _ name).isSome ↔ _
  by_cases hname : name = deviceName
  · simp [hname]
  · simp [hname]

theorem userData?_setControl {param : TSmartWebParameterControl}
    (h : (devices.setControl path control).userData? path' = some param) :
    path' = path ∧ control.userData = some param ∨ devices.userData? path' = some param := by
  unfold userData? at h
  rw [control?_setControl] at h
  split_ifs at h with hpath
  · obtain ⟨_, hcontrol, hparam⟩ := Option.bind_eq_some_iff.mp h
    obtain ⟨_, _, rfl⟩ := Option.map_eq_some_iff.mp hcontrol
    exact Or.inl ⟨hpath, hparam⟩
  · exact Or.inr h

theorem userData?_of_ite {param : TSmartWebParameterControl}
    (hcontrol : (if path.deviceName = deviceName then none else devices.control? path).bind
      LocalControl.userData = some param) : devices.userData? path = some param := by
  split_ifs at hcontrol
  · cases hcontrol
  · exact hcontrol

end LocalDevices

section Calls

variable {D : Type*} {driver : DeviceDriver D} {formatFloat : Double → String}
  {update : ParameterUpdate} {frame : TFrame} {devices base : LocalDevices} {d d' : D}
  {completed : Bool} {made : List String} {calls : List DriverCall} {name : String}
  {path : ControlPath}

/-- No call but the one that makes a control gives it user data. -/
theorem DeviceDriver.Documented.keepsUserData (hdriver : driver.Documented) :
    driver.KeepsUserData := by
  intro d call completed d' hcall path param hdata
  cases completed with
  | false => exact Or.inl (hdriver.thrown hcall ▸ hdata)
  | true =>
    rw [hdriver.returned hcall] at hdata
    cases call with
    | createDevice deviceName =>
      rw [LocalDevices.userData?, LocalDevices.control?_createDevice] at hdata
      exact Or.inl (LocalDevices.userData?_of_ite hdata)
    | createControl deviceName args =>
      rcases LocalDevices.userData?_setControl hdata with ⟨hpath, hparam⟩ | hold
      · exact Or.inr ⟨args, by rw [hpath], by rw [hpath], hparam⟩
      · exact Or.inl hold
    | setError control error => exact Or.inl hdata
    | setRawValue written value =>
      rcases LocalDevices.userData?_setControl hdata with ⟨hpath, hparam⟩ | hold
      · exact Or.inl (hpath ▸ hparam)
      · exact Or.inl hold
    | removeDevice deviceName =>
      rw [LocalDevices.userData?, LocalDevices.control?_removeDevice] at hdata
      exact Or.inl (LocalDevices.userData?_of_ite hdata)

/-- Whatever the calls did, user data that is new is from one that made the control. -/
theorem DeviceDriver.Performs.userData (hdriver : driver.KeepsUserData)
    (h : driver.Performs d calls completed made d') {param : TSmartWebParameterControl}
    (hdata : (driver.devices d').userData? path = some param) :
    (driver.devices d).userData? path = some param ∨
      ∃ args, .createControl path.deviceName args ∈ calls ∧ args.id = path.controlName ∧
        args.userData = some param := by
  induction h with
  | finished d => exact Or.inl hdata
  | thrown hcall =>
    rcases hdriver hcall path param hdata with hold | ⟨args, rfl, hnew⟩
    · exact Or.inl hold
    · exact Or.inr ⟨args, List.mem_cons_self, hnew⟩
  | returned hcall _ ih =>
    rcases ih hdata with hmiddle | ⟨args, hargs, hnew⟩
    · rcases hdriver hcall path param hmiddle with hold | ⟨args, rfl, hnew⟩
      · exact Or.inl hold
      · exact Or.inr ⟨args, List.mem_cons_self, hnew⟩
    · exact Or.inr ⟨args, List.mem_cons_of_mem _ hargs, hnew⟩

namespace ParameterUpdate

theorem publish_eq (formatFloat : Double → String) (devices : LocalDevices)
    (update : ParameterUpdate) (frame : TFrame) :
    update.publish formatFloat devices frame =
      (if (devices update.path.deviceName).isSome then []
        else [.createDevice update.path.deviceName]) ++
        [update.lastCall formatFloat frame devices] := by
  unfold publish lastCall
  dsimp only
  congr 1
  unfold path
  split_ifs
  · unfold decoded
    cases update.parameter.codec.decode formatFloat
      (frame.data.toList.drop update.valueOffset) with
    | error what => rfl
    | ok value => rfl
  · rfl

@[simp] theorem created_createDevice (deviceName : String) :
    (DriverCall.createDevice deviceName).created = some deviceName := rfl

@[simp] theorem created_lastCall : (update.lastCall formatFloat frame devices).created = none := by
  unfold lastCall
  split_ifs
  · cases update.decoded formatFloat frame with
    | error what => rfl
    | ok value => rfl
  · rfl

theorem isSome_apply_lastCall :
    ((update.lastCall formatFloat frame devices).apply base name).isSome = (base name).isSome := by
  unfold lastCall
  split_ifs
  · cases update.decoded formatFloat frame with
    | error what => rfl
    | ok value => exact LocalDevices.isSome_setControl
  · exact LocalDevices.isSome_setControl

theorem control?_apply_lastCall (hdevice : (base update.path.deviceName).isSome)
    (hsame : ∀ path, base.control? path = devices.control? path) :
    ((update.lastCall formatFloat frame devices).apply base).control? path =
      if path = update.path then
        some (update.controlAfter formatFloat frame (devices.control? update.path))
      else devices.control? path := by
  obtain ⟨device, hdevice⟩ := Option.isSome_iff_exists.mp hdevice
  unfold lastCall controlAfter
  cases hcontrol : devices.control? update.path with
  | none =>
    change (LocalDevices.setControl base update.path _).control? path = _
    rw [LocalDevices.control?_setControl, hdevice, hsame, Option.map_some]
  | some control =>
    rw [Option.isSome_some, if_pos rfl]
    cases update.decoded formatFloat frame with
    | error what =>
      change base.control? path = _
      rw [hsame]
      split_ifs with hpath
      · rw [hpath, hcontrol]
      · rfl
    | ok value =>
      change (LocalDevices.setControl base update.path ⟨value, _⟩).control? path = _
      rw [LocalDevices.control?_setControl, hdevice, hsame, Option.map_some,
        LocalDevices.userData?, hsame, hcontrol, Option.bind_some]

/-- Either all went well; or nothing was done, or only the device was made. -/
theorem Publishes.outcome (hdriver : driver.Documented)
    (h : update.Publishes driver formatFloat frame d completed made d') :
    ∃ base : LocalDevices,
      (made = [] ∧ base = driver.devices d ∨
        driver.devices d update.path.deviceName = none ∧ made = [update.path.deviceName] ∧
          base = (DriverCall.createDevice update.path.deviceName).apply (driver.devices d)) ∧
      (completed = false ∧ driver.devices d' = base ∨
        completed = true ∧ (base update.path.deviceName).isSome ∧
          driver.devices d' =
            (update.lastCall formatFloat frame (driver.devices d)).apply base) := by
  cases h with
  | refused => exact ⟨_, Or.inl ⟨rfl, rfl⟩, Or.inl ⟨rfl, rfl⟩⟩
  | performed h =>
    rw [publish_eq] at h
    split_ifs at h with hdevice
    · cases h with
      | thrown hlast => exact ⟨_, Or.inl ⟨rfl, rfl⟩, Or.inl ⟨rfl, hdriver.thrown hlast⟩⟩
      | returned hlast hrest =>
        cases hrest
        exact ⟨_, Or.inl ⟨by simp, rfl⟩, Or.inr ⟨rfl, hdevice, hdriver.returned hlast⟩⟩
    · have hmissing := Option.not_isSome_iff_eq_none.mp hdevice
      cases h with
      | thrown hcreate => exact ⟨_, Or.inl ⟨rfl, rfl⟩, Or.inl ⟨rfl, hdriver.thrown hcreate⟩⟩
      | returned hcreate hrest =>
        have hbase := hdriver.returned hcreate
        cases hrest with
        | thrown hlast =>
          exact ⟨_, Or.inr ⟨hmissing, rfl, rfl⟩,
            Or.inl ⟨rfl, (hdriver.thrown hlast).trans hbase⟩⟩
        | returned hlast hnone =>
          cases hnone
          refine ⟨_, Or.inr ⟨hmissing, by simp, rfl⟩, Or.inr ⟨rfl, ?_, ?_⟩⟩
          · exact LocalDevices.isSome_createDevice.mpr (Or.inr rfl)
          · rw [hdriver.returned hlast, hbase]

/-- A device is made only where there was none, and then it is the one of the control. -/
theorem Publishes.made_cases (hdriver : driver.Documented)
    (h : update.Publishes driver formatFloat frame d completed made d') :
    made = [] ∨ driver.devices d update.path.deviceName = none ∧
      made = [update.path.deviceName] := by
  obtain ⟨_, ⟨hmade, _⟩ | ⟨hmissing, hmade, _⟩, _⟩ := h.outcome hdriver
  · exact Or.inl hmade
  · exact Or.inr ⟨hmissing, hmade⟩

theorem Publishes.isSome_devices (hdriver : driver.Documented)
    (h : update.Publishes driver formatFloat frame d completed made d') :
    (driver.devices d' name).isSome ↔ (driver.devices d name).isSome ∨ name ∈ made := by
  obtain ⟨base, hbase, hafter⟩ := h.outcome hdriver
  have hdevices : (driver.devices d' name).isSome = (base name).isSome := by
    rcases hafter with ⟨_, hafter⟩ | ⟨_, _, hafter⟩
    · rw [hafter]
    · rw [hafter, isSome_apply_lastCall]
  rw [hdevices]
  rcases hbase with ⟨rfl, rfl⟩ | ⟨_, rfl, rfl⟩
  · simp
  · rw [LocalDevices.isSome_createDevice, List.mem_singleton]

theorem Publishes.control?_devices (hdriver : driver.Documented)
    (h : update.Publishes driver formatFloat frame d completed made d') (path : ControlPath) :
    (driver.devices d').control? path =
      if completed = true ∧ path = update.path then
        some (update.controlAfter formatFloat frame ((driver.devices d).control? update.path))
      else (driver.devices d).control? path := by
  obtain ⟨base, hbase, hafter⟩ := h.outcome hdriver
  have hsame : ∀ path, base.control? path = (driver.devices d).control? path := by
    intro path
    rcases hbase with ⟨_, rfl⟩ | ⟨hmissing, _, rfl⟩
    · rfl
    · rw [LocalDevices.control?_createDevice]
      split_ifs with hname
      · rw [LocalDevices.control?, hname, hmissing, Option.bind_none]
      · rfl
  rcases hafter with ⟨rfl, hafter⟩ | ⟨rfl, hdevice, hafter⟩
  · rw [hafter, hsame]
    simp
  · rw [hafter, control?_apply_lastCall hdevice hsame]
    simp

theorem Publishes.valueAt_devices (hdriver : driver.Documented)
    (h : update.Publishes driver formatFloat frame d completed made d') (path : ControlPath) :
    (driver.devices d').valueAt path =
      if completed = true ∧ path = update.path then
        some (match update.decoded formatFloat frame with
          | .ok value => value
          | .error _ => ((driver.devices d).valueAt path).getD "0")
      else (driver.devices d).valueAt path := by
  unfold LocalDevices.valueAt
  rw [h.control?_devices hdriver]
  split_ifs with hwrites
  · rw [hwrites.2, Option.map_some]
    unfold controlAfter
    cases hcontrol : (driver.devices d).control? update.path with
    | none =>
      unfold controlArgs makeControlArgs
      cases update.decoded formatFloat frame with
      | error what => rfl
      | ok value => rfl
    | some control =>
      cases update.decoded formatFloat frame with
      | error what => rfl
      | ok value => rfl
  · rfl

end ParameterUpdate

end Calls

end SmartWebGateway
