import SmartWebGateway.Poller.Codecs
import SmartWebGateway.Poller.Precedence
import SmartWebGateway.Poller.Reader
import Mathlib.Tactic

/-!
# The controls that values are published to

A value goes to the control of its entry. The device of the control is named
after the class of the entry and the number of the program, the control itself
after the entry. A class name may be any text, yet name and number can be told
apart, since a number has no blanks. The names themselves are another matter:
the three sections of a class, and all classes of one name, share them.
-/
namespace SmartWebGateway

open Foundation

/-- The ids under which the driver knows a control. -/
structure ControlPath where
  deviceName : String
  controlName : String
  deriving DecidableEq

/-- `"sw " + ProgramClass->Name + " " + std::to_string(programId)` -/
def deviceName (className : String) (programId : Byte) : String :=
  "sw " ++ className ++ " " ++ toString programId.toNat

/-- The control that the value of an entry is published to. -/
def TSmartWebParameter.control (p : TSmartWebParameter) (programId : Byte) : ControlPath :=
  ⟨deviceName p.programClass.name programId, p.name⟩

structure TControlArgs where
  id : String
  order : ℕ
  readOnly : Bool
  type : String
  userData : Option TSmartWebParameterControl
  max : Option ℕ
  units : Option String
  error : Option String
  rawValue : String

/-- The type of a control by the type of its entry. -/
def controlTypes : List (String × String) :=
  [("temperature", "temperature"), ("humidity", "rel_humidity"), ("onOff", "switch"),
    ("relay", "switch"), ("PWM", "range"), ("%", "range"), ("id", "text"), ("picklist", "text")]

def makeControlArgs (programId : Byte) (param : TSmartWebParameter) (value : String)
    (error : Bool) : TControlArgs where
  id := param.name
  order := param.order
  readOnly := param.readOnly
  type := (controlTypes.lookup param.type).getD "value"
  userData := if param.readOnly then none else some ⟨programId, param⟩
  max := if param.type = "PWM" ∨ param.type = "%" then some 100 else none
  units :=
    if param.type = "pressure" then some "bar"
    else if param.type = "minutes" then some "min"
    else if param.type = "PWM" ∨ param.type = "%" then some "%"
    else none
  error := if error then some "r" else none
  rawValue := if error ∧ value = "" then "0" else value

/-- A control of a local device, as far as the gateway uses it. -/
structure LocalControl where
  rawValue : String
  userData : Option TSmartWebParameterControl

/-- What `GetDevice` finds under an id, and `GetControl` of it under a name. -/
abbrev LocalDevices := String → Option (String → Option LocalControl)

def LocalDevices.control? (devices : LocalDevices) (path : ControlPath) : Option LocalControl :=
  (devices path.deviceName).bind fun device => device path.controlName

/-- The calls that change something in the driver. -/
inductive DriverCall where
  | createDevice (deviceName : String)
  | createControl (deviceName : String) (args : TControlArgs)
  | setError (control : ControlPath) (error : String)
  | setRawValue (control : ControlPath) (value : String)
  | removeDevice (deviceName : String)

def DriverCall.written : DriverCall → Option ControlPath
  | .createDevice _ | .removeDevice _ => none
  | .createControl deviceName args => some ⟨deviceName, args.id⟩
  | .setError control _ | .setRawValue control _ => some control

/-- The rest of `SetParameter`, once an entry was found: its value is decoded from the data of the
frame, and a device or a control that is missing is made. -/
def ParameterUpdate.publish (formatFloat : Double → String) (devices : LocalDevices)
    (update : ParameterUpdate) (frame : TFrame) : List DriverCall :=
  let p := update.parameter
  let res := p.codec.decode formatFloat (frame.data.toList.drop update.valueOffset)
  let path := p.control update.programId
  let error := !res.isOk
  (if (devices path.deviceName).isSome then [] else [.createDevice path.deviceName]) ++
    if (devices.control? path).isSome then
      match res with
      | .error _ => [.setError path "r"]
      | .ok value => [.setRawValue path value]
    else [.createControl path.deviceName
      (makeControlArgs update.programId p (res.toOption.getD "") error)]

/-- The place of an entry in the table of classes. -/
structure EntryKey where
  type : Byte
  part : Section
  id : ℕ
  deriving DecidableEq

def TSmartWebToMqttConfig.entryAt (config : TSmartWebToMqttConfig) (key : EntryKey) :
    Option TSmartWebParameter :=
  (config.classes.lookup key.type).bind fun cl => (cl.members key.part)[key.id]?

/-- The members of a JSON object have different names. -/
structure ClassObject.NamesDistinct (data : ClassObject) : Prop where
  inputs : ∀ ar ∈ data.inputs, (ar.map Prod.fst).Nodup
  outputs : ∀ ar ∈ data.outputs, (ar.map Prod.fst).Nodup
  parameters : ∀ ar ∈ data.parameters, (ar.map Prod.fst).Nodup

theorem written_publish (formatFloat : Double → String) (devices : LocalDevices)
    (update : ParameterUpdate) (frame : TFrame) :
    (update.publish formatFloat devices frame).filterMap DriverCall.written =
      [update.parameter.control update.programId] := by
  have hcreated : ∀ (present : Bool) (name : String),
      (if present then [] else [DriverCall.createDevice name]).filterMap DriverCall.written =
        [] := by
    intro present name
    cases present with
    | false => rfl
    | true => rfl
  unfold ParameterUpdate.publish
  dsimp only
  rw [List.filterMap_append, hcreated, List.nil_append]
  split_ifs with hcontrol
  · cases update.parameter.codec.decode formatFloat (frame.data.toList.drop update.valueOffset) with
    | error what => rfl
    | ok value => rfl
  · rfl

section Names

variable {α : Type*} {a : α} {as as' bs bs' : List α}

theorem append_cons_inj_of_notMem_right (hbs : a ∉ bs) (hbs' : a ∉ bs')
    (h : as ++ a :: bs = as' ++ a :: bs') : as = as' ∧ bs = bs' := by
  rcases List.append_eq_append_iff.mp h with ⟨cs, rfl, hcs⟩ | ⟨cs, rfl, hcs⟩
  · cases cs with
    | nil => simpa using hcs
    | cons c cs =>
      have htail : bs = cs ++ a :: bs' := (List.cons.inj hcs).2
      exact absurd (htail ▸ by simp) hbs
  · cases cs with
    | nil => simpa using hcs.symm
    | cons c cs =>
      have htail : bs' = cs ++ a :: bs := (List.cons.inj hcs).2
      exact absurd (htail ▸ by simp) hbs'

theorem blank_notMem_toDigits (n : ℕ) : ' ' ∉ Nat.toDigits 10 n := by
  intro hmem
  have hdigit : ' '.isDigit = true := Nat.isDigit_of_mem_toDigits (by decide) (by decide) hmem
  exact absurd hdigit (by decide)

theorem deviceName_toList (className : String) (programId : Byte) :
    (deviceName className programId).toList =
      ("sw ".toList ++ className.toList) ++ ' ' :: Nat.toDigits 10 programId.toNat := by
  simp [deviceName]

/-- Class and program can be read back from the name of a device. -/
theorem deviceName_inj {className className' : String} {programId programId' : Byte} :
    deviceName className programId = deviceName className' programId' ↔
      className = className' ∧ programId = programId' := by
  constructor
  · intro h
    have hlist := congrArg String.toList h
    rw [deviceName_toList, deviceName_toList] at hlist
    obtain ⟨hclass, hdigits⟩ := append_cons_inj_of_notMem_right (blank_notMem_toDigits _)
      (blank_notMem_toDigits _) hlist
    have hnumber : programId.toNat = programId'.toNat := by
      have hread := congrArg (fun digits => Nat.ofDigitChars 10 digits 0) hdigits
      simpa only [Nat.ofDigitChars_ten_toDigits] using hread
    exact ⟨String.toList_injective (List.append_cancel_left hclass), BitVec.eq_of_toNat_eq hnumber⟩
  · rintro ⟨rfl, rfl⟩
    rfl

theorem TSmartWebParameter.control_eq_iff {p p' : TSmartWebParameter}
    {programId programId' : Byte} :
    p.control programId = p'.control programId' ↔
      programId = programId' ∧ p.programClass.name = p'.programClass.name ∧ p.name = p'.name := by
  rw [control, control, ControlPath.mk.injEq, deviceName_inj]
  tauto

end Names

section Loaded

namespace TSmartWebClass

theorem names_loadParameter_sublist (programClass : TSmartWebClassRef) (orderBase : ℕ)
    (ar : List (String × ParameterObject)) :
    ((ar.filterMap fun member => (loadParameter programClass orderBase member).toOption).map
      (·.name)).Sublist (ar.map Prod.fst) := by
  induction ar with
  | nil => exact .slnil
  | cons member ar ih =>
    rw [List.filterMap_cons]
    cases hload : (loadParameter programClass orderBase member).toOption with
    | none => exact ih.cons member.1
    | some p =>
      obtain ⟨_, hname, _⟩ := of_loadParameter hload
      simp only [List.map_cons, hname]
      exact ih.cons_cons member.1

theorem nodup_names_loadedMembers {data : ClassObject} (hdata : data.NamesDistinct)
    (programClass : TSmartWebClassRef) (part : Section) :
    ((loadedMembers data programClass part).map (·.name)).Nodup := by
  have hsection : ∀ {β : Type} {members : Option (List (String × β))},
      (∀ ar ∈ members, (ar.map Prod.fst).Nodup) → ((members.getD []).map Prod.fst).Nodup := by
    intro β members hmembers
    cases members with
    | none => exact List.nodup_nil
    | some ar => exact hmembers ar rfl
  cases part with
  | inputs =>
    rw [loadedMembers, List.map_map]
    exact hsection hdata.inputs
  | outputs =>
    rw [loadedMembers, List.map_map]
    exact hsection hdata.outputs
  | parameters =>
    exact (hsection hdata.parameters).sublist (names_loadParameter_sublist _ _ _)

theorem ofObject_id_eq_of_name_eq {data : ClassObject} (hdata : data.NamesDistinct) (object : ℕ)
    (source : TDeviceClassSource) (part : Section) {id id' : ℕ} {x y : TSmartWebParameter}
    (hx : ((ofObject object data source).members part)[id]? = some x)
    (hy : ((ofObject object data source).members part)[id']? = some y) (hname : x.name = y.name) :
    id = id' := by
  rw [members_ofObject] at hx hy
  obtain ⟨hxid, hxmem⟩ := members_keep (fun p hp => hp) hx
  obtain ⟨hyid, hymem⟩ := members_keep (fun p hp => hp) hy
  have hxy : x = y :=
    List.inj_on_of_nodup_map (nodup_names_loadedMembers hdata _ part) hxmem hymem hname
  rw [← hxid, hxy, hyid]

end TSmartWebClass

variable {files : List (ClassObject × TDeviceClassSource)}

theorem exists_file_of_lookup {type : Byte} {cl : TSmartWebClass}
    (h : (loadClasses files).classes.lookup type = some cl) :
    ∃ file ∈ files, ∃ object, cl = .ofObject object file.1 file.2 := by
  have hfold : ∀ config : TSmartWebToMqttConfig,
      (files.foldl (fun config file => loadSmartWebClass config file.1 file.2)
        config).classes.lookup type = some cl →
      config.classes.lookup type = some cl ∨
        ∃ file ∈ files, ∃ object, cl = .ofObject object file.1 file.2 := by
    clear h
    induction files with
    | nil => exact fun config h => Or.inl h
    | cons file files ih =>
      intro config h
      rcases ih _ h with hfile | ⟨later, hlater, hobject⟩
      · rw [lookup_loadSmartWebClass] at hfile
        split_ifs at hfile
        · exact Or.inr ⟨file, List.mem_cons_self, config.objects, (Option.some.inj hfile).symm⟩
        · exact Or.inl hfile
      · exact Or.inr ⟨later, List.mem_cons_of_mem file hlater, hobject⟩
  rcases hfold ⟨∅, 0⟩ h with hempty | hfile
  · exact absurd hempty (by simp)
  · exact hfile

theorem key_eq_of_name_eq (hfiles : ∀ file ∈ files, file.1.NamesDistinct) {key key' : EntryKey}
    {x x' : TSmartWebParameter} (hx : (loadClasses files).entryAt key = some x)
    (hx' : (loadClasses files).entryAt key' = some x') (hname : x.name = x'.name)
    (htype : key.type = key'.type) (hpart : key.part = key'.part) : key = key' := by
  obtain ⟨type, part, id⟩ := key
  obtain ⟨type', part', id'⟩ := key'
  obtain rfl : type = type' := htype
  obtain rfl : part = part' := hpart
  obtain ⟨cl, hcl, hmember⟩ := Option.bind_eq_some_iff.mp hx
  obtain ⟨cl', hcl', hmember'⟩ := Option.bind_eq_some_iff.mp hx'
  obtain rfl : cl = cl' := Option.some.inj (hcl.symm.trans hcl')
  obtain ⟨file, hfile, object, rfl⟩ := exists_file_of_lookup hcl
  have hid : id = id' := TSmartWebClass.ofObject_id_eq_of_name_eq (hfiles file hfile) object file.2
    part hmember hmember' hname
  rw [hid]

/-- Two different pairs of a program and an entry of the table share their control exactly when the
program, the name of the class and the name of the entry are the same, and then the entries are in
different classes of that name or in different sections of one class. -/
theorem controls_shared_iff (hfiles : ∀ file ∈ files, file.1.NamesDistinct)
    {programId programId' : Byte} {key key' : EntryKey} {x x' : TSmartWebParameter}
    (hx : (loadClasses files).entryAt key = some x)
    (hx' : (loadClasses files).entryAt key' = some x')
    (hdistinct : (programId, key) ≠ (programId', key')) :
    x.control programId = x'.control programId' ↔
      programId = programId' ∧ x.programClass.name = x'.programClass.name ∧ x.name = x'.name ∧
        (key.type ≠ key'.type ∨ key.part ≠ key'.part) := by
  rw [TSmartWebParameter.control_eq_iff]
  constructor
  · rintro ⟨rfl, hclass, hname⟩
    have hkey : key.type ≠ key'.type ∨ key.part ≠ key'.part := by
      by_contra hsame
      rw [not_or, not_not, not_not] at hsame
      have heq := key_eq_of_name_eq hfiles hx hx' hname hsame.1 hsame.2
      exact hdistinct (by rw [heq])
    exact ⟨rfl, hclass, hname, hkey⟩
  · rintro ⟨hprogram, hclass, hname, _⟩
    exact ⟨hprogram, hclass, hname⟩

end Loaded

def relay : ClassObject where
  className := "RELAY"
  programType := 13
  implements := []
  inputs := some [("State", ⟨1, "onOff", by decide⟩)]
  outputs := some [("State", ⟨3, "relay", by decide⟩)]
  parameters := none

def relayConfig : TSmartWebToMqttConfig := loadClasses [(relay, .builtin)]

theorem relay_namesDistinct : ∀ file ∈ [(relay, TDeviceClassSource.builtin)],
    file.1.NamesDistinct := by
  intro file hfile
  obtain rfl := List.mem_singleton.mp hfile
  constructor
  · rintro _ ⟨⟩
    decide
  · rintro _ ⟨⟩
    decide
  · rintro _ ⟨⟩

theorem relay_entry {key : EntryKey} (hkey : key = ⟨13, .inputs, 1⟩ ∨ key = ⟨13, .outputs, 3⟩) :
    ∃ x, relayConfig.entryAt key = some x ∧ x.programClass.name = "RELAY" ∧ x.name = "State" := by
  have hnames : (relayConfig.entryAt key).map (fun x => (x.programClass.name, x.name)) =
      some ("RELAY", "State") := by
    rcases hkey with rfl | rfl
    · decide +kernel
    · decide +kernel
  obtain ⟨x, hx, hpair⟩ := Option.map_eq_some_iff.mp hnames
  rw [Prod.mk.injEq] at hpair
  exact ⟨x, hx, hpair.1, hpair.2⟩

theorem controls_shared_relay :
    ∃ x x', relayConfig.entryAt ⟨13, .inputs, 1⟩ = some x ∧
      relayConfig.entryAt ⟨13, .outputs, 3⟩ = some x' ∧ x.control 7 = x'.control 7 := by
  obtain ⟨x, hx, hclass, hname⟩ := relay_entry (Or.inl rfl)
  obtain ⟨x', hx', hclass', hname'⟩ := relay_entry (Or.inr rfl)
  have hshared := @controls_shared_iff _ relay_namesDistinct 7 7 _ _ x x' hx hx' (by decide)
  exact ⟨x, x', hx, hx', hshared.mpr
    ⟨rfl, hclass.trans hclass'.symm, hname.trans hname'.symm, Or.inr (by decide)⟩⟩

/-- The relay's input and its output share a control. -/
theorem controls_clash :
    ¬ ∀ files : List (ClassObject × TDeviceClassSource), (∀ file ∈ files, file.1.NamesDistinct) →
      ∀ (programId programId' : Byte) (key key' : EntryKey) (x x' : TSmartWebParameter),
        (loadClasses files).entryAt key = some x → (loadClasses files).entryAt key' = some x' →
        (programId, key) ≠ (programId', key') → x.control programId ≠ x'.control programId' := by
  intro hclaim
  obtain ⟨x, hx, hclass, hname⟩ := relay_entry (Or.inl rfl)
  obtain ⟨x', hx', hclass', hname'⟩ := relay_entry (Or.inr rfl)
  have hequal : x.control 7 = x'.control 7 := by
    rw [TSmartWebParameter.control_eq_iff]
    exact ⟨rfl, hclass.trans hclass'.symm, hname.trans hname'.symm⟩
  exact hclaim _ relay_namesDistinct 7 7 _ _ x x' hx hx' (by decide) hequal

end SmartWebGateway
