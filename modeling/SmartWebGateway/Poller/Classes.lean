import SmartWebGateway.Can.Conventions
import Mathlib.Data.List.AList
import Mathlib.Tactic

/-!
# Device classes and their files

A class file that passed validation is an object with up to three sections of
named members. The loader turns each section into a map by id, in which the
first member with an id wins, and puts the class into the table under its
program type; a user class replaces a built-in one and nothing else does.
-/
namespace SmartWebGateway

open Foundation

/-- The integer types that `TIntCodec` is used with. -/
inductive IntType where
  | int8
  | uint8
  | int16
  | uint16
  | uint32
  deriving DecidableEq

def IntType.size : IntType → ℕ
  | .int8 | .uint8 => 1
  | .int16 | .uint16 => 2
  | .uint32 => 4

/-- The codecs; `div` is the second parameter of `TIntCodec`, and an enumeration has the map that
its constructor gets. -/
inductive ISmartWebCodec where
  | int (type : IntType) (div : ℕ)
  | enum (values : List (Byte × String))
  | sensor
  | onOffSensor
  | pwm
  | output
  deriving DecidableEq

/-- The number of bytes that `Decode` reads. -/
def ISmartWebCodec.size : ISmartWebCodec → ℕ
  | .int type _ => type.size
  | .enum _ => 1
  | .sensor | .onOffSensor => 2
  | .pwm | .output => 1

theorem ISmartWebCodec.size_le (codec : ISmartWebCodec) : codec.size ≤ 4 := by
  cases codec with
  | int type div => cases type <;> simp [size, IntType.size]
  | _ => simp [size]

inductive TDeviceClassSource where
  | builtin
  | user
  deriving DecidableEq

/-- What a member of a class reads through its pointer to the class; `object` is the identity of
the object that the pointer points to. -/
structure TSmartWebClassRef where
  object : ℕ
  type : Byte
  name : String
  deriving DecidableEq

structure TSmartWebParameter where
  id : ℕ
  name : String
  type : String
  readOnly : Bool
  codec : ISmartWebCodec
  programClass : TSmartWebClassRef
  order : ℕ
  deriving DecidableEq

/-- `std::map<uint32_t, std::shared_ptr<TSmartWebParameter>>` -/
abbrev ParameterMap := Std.TreeMap ℕ TSmartWebParameter

structure TSmartWebClass extends TSmartWebClassRef where
  parentClasses : List String
  source : TDeviceClassSource
  inputs : ParameterMap
  outputs : ParameterMap
  parameters : ParameterMap

inductive Section where
  | inputs
  | outputs
  | parameters
  deriving DecidableEq

def TSmartWebClass.members (cl : TSmartWebClass) : Section → ParameterMap
  | .inputs => cl.inputs
  | .outputs => cl.outputs
  | .parameters => cl.parameters

/-- `#/definitions/input` and `#/definitions/output` -/
structure ChannelObject where
  id : ℕ
  type : String
  idBounds : id ≤ 255

/-- `#/definitions/parameter` -/
structure ParameterObject where
  id : ℕ
  type : Option String
  encoding : Option String
  readOnly : Option Bool
  values : Option (List (String × String))
  idBounds : id ≤ 255

/-- A channel whose id is a byte, as every id that the schema admits. -/
def ChannelObject.ofByte (id : Byte) (type : String) : ChannelObject :=
  ⟨id.toNat, type, Nat.le_of_lt_succ id.isLt⟩

def ParameterObject.ofByte (id : Byte) (type encoding : Option String) : ParameterObject :=
  ⟨id.toNat, type, encoding, none, none, Nat.le_of_lt_succ id.isLt⟩

/-- A class file. The members of a section are listed as the JSON library iterates over them. -/
structure ClassObject where
  className : String
  programType : Byte
  implements : List String
  inputs : Option (List (String × ChannelObject))
  outputs : Option (List (String × ChannelObject))
  parameters : Option (List (String × ParameterObject))

/-- The part of the configuration that class files go to. `objects` counts the class objects that
were made. -/
structure TSmartWebToMqttConfig where
  classes : AList fun _ : Byte => TSmartWebClass
  objects : ℕ

namespace TSmartWebClass

/-- The value of a run of digits in front of a text. -/
def leadingNumber (number : ℤ) : List Char → ℤ
  | c :: rest =>
    if c.isDigit then leadingNumber (10 * number + (c.toNat - '0'.toNat : ℕ)) rest else number
  | [] => number

/-- `static_cast<uint8_t>(atoi(text))`: blanks, a sign and digits, in 64 bits and then cut down. -/
def atoi (text : String) : Byte :=
  let clamp (n : ℤ) : Byte := BitVec.ofInt 8 (max (-2 ^ 63) (min n (2 ^ 63 - 1)))
  match text.toList.dropWhile (· ∈ [' ', '\t', '\n', '\x0b', '\x0c', '\r']) with
  | '-' :: rest => clamp (-leadingNumber 0 rest)
  | '+' :: rest => clamp (leadingNumber 0 rest)
  | rest => clamp (leadingNumber 0 rest)

/-- `std::map::insert` on the values of an enumeration: the first label of a value stays. -/
def insertValue (values : List (Byte × String)) (value : Byte) (label : String) :
    List (Byte × String) :=
  if (values.lookup value).isSome then values
  else values.filter (·.1 < value) ++ (value, label) :: values.filter (value < ·.1)

def getCodec (data : ParameterObject) : Except String ISmartWebCodec :=
  match data.encoding with
  | none => .ok (.int .int16 10)
  | some enc =>
    if "schedule".toList.isPrefixOf enc.toList then
      .error ("Encoding '" ++ enc ++ "' is not supported")
    else if enc = "byte" then .ok (.int .int8 1)
    else if enc = "short" then .ok (.int .int16 1)
    else if enc = "short10" then .ok (.int .int16 10)
    else if enc = "short100" then .ok (.int .int16 100)
    else if enc = "ushort" then .ok (.int .uint16 1)
    else if enc = "uint1K" then .ok (.int .uint32 1000)
    else if enc = "uint60K" then .ok (.int .uint32 60000)
    else if enc = "ubyte" then
      match data.values with
      | some members =>
        .ok (.enum (members.foldl (fun values member =>
          insertValue values (atoi member.1) member.2) []))
      | none => .ok (.int .uint8 1)
    else .ok (.int .int16 10)

/-- `programClass->Inputs.insert({p->Id, p})` and the running maximum, for any section. -/
def insertParameter (acc : ParameterMap × ℕ) (p : TSmartWebParameter) : ParameterMap × ℕ :=
  (acc.1.insertIfNew p.id p, max acc.2 p.id)

def loadInput (programClass : TSmartWebClassRef) (member : String × ChannelObject) :
    TSmartWebParameter where
  id := member.2.id
  name := member.1
  type := member.2.type
  readOnly := true
  codec := if member.2.type = "onOff" then .onOffSensor else .sensor
  programClass := programClass
  order := member.2.id

def loadInputs (data : ClassObject) (programClass : TSmartWebClassRef) : ParameterMap × ℕ :=
  match data.inputs with
  | none => (∅, 0)
  | some ar =>
    let (inputs, maxId) := (ar.map (loadInput programClass)).foldl insertParameter (∅, 0)
    (inputs, maxId + 1)

def loadOutput (programClass : TSmartWebClassRef) (orderBase : ℕ)
    (member : String × ChannelObject) : TSmartWebParameter where
  id := member.2.id
  name := member.1
  type := member.2.type
  readOnly := true
  codec := if member.2.type = "PWM" then .pwm else .output
  programClass := programClass
  order := orderBase + member.2.id

def loadOutputs (data : ClassObject) (programClass : TSmartWebClassRef) (orderBase : ℕ) :
    ParameterMap × ℕ :=
  match data.outputs with
  | none => (∅, orderBase)
  | some ar =>
    let (outputs, maxId) :=
      (ar.map (loadOutput programClass orderBase)).foldl insertParameter (∅, 0)
    (outputs, orderBase + maxId + 1)

/-- A parameter with its codec, unless the encoding is not supported. The type goes before the
encoding for switches and for temperatures that cannot be written. -/
def loadParameter (programClass : TSmartWebClassRef) (orderBase : ℕ)
    (member : String × ParameterObject) : Except String TSmartWebParameter := do
  let type := member.2.type.getD "value"
  let readOnly := member.2.readOnly.getD false
  let codec ← getCodec member.2
  .ok
    { id := member.2.id
      name := member.1
      type := type
      readOnly := readOnly
      codec :=
        if type = "temperature" ∧ readOnly then .sensor
        else if type = "onOff" then .onOffSensor
        else codec
      programClass := programClass
      order := orderBase + member.2.id }

/-- Parameters that do not load are left out. -/
def loadParameters (data : ClassObject) (programClass : TSmartWebClassRef) (orderBase : ℕ) :
    ParameterMap × ℕ :=
  match data.parameters with
  | none => (∅, orderBase)
  | some ar =>
    let loaded := ar.filterMap fun member => (loadParameter programClass orderBase member).toOption
    let (parameters, maxId) := loaded.foldl insertParameter (∅, 0)
    (parameters, orderBase + maxId + 1)

def ofObject (object : ℕ) (data : ClassObject) (source : TDeviceClassSource) : TSmartWebClass :=
  let cl : TSmartWebClassRef := ⟨object, data.programType, data.className⟩
  let (inputs, orderBase) := loadInputs data cl
  let (outputs, orderBase) := loadOutputs data cl orderBase
  let (parameters, _) := loadParameters data cl orderBase
  { toTSmartWebClassRef := cl
    parentClasses := data.implements
    source := source
    inputs := inputs
    outputs := outputs
    parameters := parameters }

end TSmartWebClass

def loadSmartWebClass (config : TSmartWebToMqttConfig) (data : ClassObject)
    (source : TDeviceClassSource) : TSmartWebToMqttConfig :=
  let loaded : TSmartWebToMqttConfig :=
    { classes := config.classes.insert data.programType
        (.ofObject config.objects data source)
      objects := config.objects + 1 }
  match config.classes.lookup data.programType with
  | none => loaded
  | some old =>
    if old.source = source then config
    else if old.source = .user then config
    else loaded

/-- The table that a list of class files leaves, each with the directory that it comes from. -/
def loadClasses (files : List (ClassObject × TDeviceClassSource)) : TSmartWebToMqttConfig :=
  files.foldl (fun config file => loadSmartWebClass config file.1 file.2) ⟨∅, 0⟩

/-- Every member of a class stands under its id, fits into a byte and points to the class. -/
def TSmartWebClass.WellFormed (cl : TSmartWebClass) : Prop :=
  ∀ s id x, (cl.members s)[id]? = some x →
    x.id = id ∧ id ≤ 255 ∧ x.programClass = cl.toTSmartWebClassRef

/-- Every class of the table is well formed and stands under its type. -/
def TSmartWebToMqttConfig.WellFormed (config : TSmartWebToMqttConfig) : Prop :=
  ∀ type cl, config.classes.lookup type = some cl → cl.type = type ∧ cl.WellFormed

section WellFormed

namespace TSmartWebClass

variable {ps : List TSmartWebParameter} {acc : ParameterMap × ℕ} {data : ClassObject}
  {programClass : TSmartWebClassRef} {orderBase : ℕ}

theorem of_mem_foldl {id : ℕ} {x : TSmartWebParameter}
    (h : (ps.foldl insertParameter acc).1[id]? = some x) :
    acc.1[id]? = some x ∨ x ∈ ps ∧ x.id = id := by
  induction ps generalizing acc with
  | nil => exact Or.inl h
  | cons p ps ih =>
    rcases ih h with hacc | ⟨hmem, hid⟩
    · rw [insertParameter, Std.TreeMap.getElem?_insertIfNew] at hacc
      split_ifs at hacc with hp
      · cases hacc
        exact Or.inr ⟨List.mem_cons_self, by simpa using hp.1⟩
      · exact Or.inl hacc
    · exact Or.inr ⟨List.mem_cons_of_mem p hmem, hid⟩

theorem members_keep {P : TSmartWebParameter → Prop} (hps : ∀ p ∈ ps, P p) {id : ℕ}
    {x : TSmartWebParameter} (h : (ps.foldl insertParameter (∅, 0)).1[id]? = some x) :
    x.id = id ∧ P x := by
  rcases of_mem_foldl h with hempty | ⟨hmem, hid⟩
  · exact absurd hempty (by simp)
  · exact ⟨hid, hps x hmem⟩

/-- The members that a section's map is made of, in the order of their insertion. -/
def loadedMembers (data : ClassObject) (programClass : TSmartWebClassRef) :
    Section → List TSmartWebParameter
  | .inputs => (data.inputs.getD []).map (loadInput programClass)
  | .outputs =>
    (data.outputs.getD []).map (loadOutput programClass (loadInputs data programClass).2)
  | .parameters => (data.parameters.getD []).filterMap fun member =>
    (loadParameter programClass (loadOutputs data programClass (loadInputs data programClass).2).2
      member).toOption

theorem members_ofObject (object : ℕ) (data : ClassObject) (source : TDeviceClassSource)
    (s : Section) :
    (ofObject object data source).members s =
      ((loadedMembers data ⟨object, data.programType, data.className⟩ s).foldl insertParameter
        (∅, 0)).1 := by
  cases s with
  | inputs =>
    change (loadInputs data _).1 = _
    rw [loadInputs, loadedMembers]
    cases data.inputs with
    | none => rfl
    | some ar => rfl
  | outputs =>
    change (loadOutputs data _ _).1 = _
    rw [loadOutputs, loadedMembers]
    cases data.outputs with
    | none => rfl
    | some ar => rfl
  | parameters =>
    change (loadParameters data _ _).1 = _
    rw [loadParameters, loadedMembers]
    cases data.parameters with
    | none => rfl
    | some ar => rfl

theorem of_loadParameter {member : String × ParameterObject} {p : TSmartWebParameter}
    (h : (loadParameter programClass orderBase member).toOption = some p) :
    p.id = member.2.id ∧ p.name = member.1 ∧ p.programClass = programClass := by
  unfold loadParameter at h
  cases hcodec : getCodec member.2 with
  | error what =>
    rw [hcodec] at h
    cases h
  | ok codec =>
    rw [hcodec] at h
    cases h
    exact ⟨rfl, rfl, rfl⟩

/-- What a loaded member has in common with every other one of its class. -/
def BelongsTo (programClass : TSmartWebClassRef) (x : TSmartWebParameter) : Prop :=
  x.id ≤ 255 ∧ x.programClass = programClass

theorem loadedMembers_belong (s : Section) :
    ∀ p ∈ loadedMembers data programClass s, BelongsTo programClass p := by
  intro p hp
  cases s with
  | inputs =>
    obtain ⟨member, _, rfl⟩ := List.mem_map.mp hp
    exact ⟨member.2.idBounds, rfl⟩
  | outputs =>
    obtain ⟨member, _, rfl⟩ := List.mem_map.mp hp
    exact ⟨member.2.idBounds, rfl⟩
  | parameters =>
    obtain ⟨member, _, hmember⟩ := List.mem_filterMap.mp hp
    obtain ⟨hid, _, hclass⟩ := of_loadParameter hmember
    exact ⟨hid ▸ member.2.idBounds, hclass⟩

theorem wellFormed_ofObject (object : ℕ) (data : ClassObject) (source : TDeviceClassSource) :
    (ofObject object data source).WellFormed := by
  intro s id x h
  rw [members_ofObject] at h
  obtain ⟨hid, hbound, hclass⟩ := members_keep (loadedMembers_belong s) h
  exact ⟨hid, hid ▸ hbound, hclass⟩

end TSmartWebClass

/-- A class file changes nothing or puts its class into the table. -/
theorem loadSmartWebClass_cases {config : TSmartWebToMqttConfig} {source : TDeviceClassSource}
    (data : ClassObject) :
    loadSmartWebClass config data source = config ∨
      loadSmartWebClass config data source =
        { classes := config.classes.insert data.programType (.ofObject config.objects data source)
          objects := config.objects + 1 } := by
  unfold loadSmartWebClass
  cases config.classes.lookup data.programType with
  | none => exact Or.inr rfl
  | some old =>
    dsimp only
    split_ifs
    · exact Or.inl rfl
    · exact Or.inl rfl
    · exact Or.inr rfl

theorem TSmartWebToMqttConfig.WellFormed.load {config : TSmartWebToMqttConfig}
    (h : config.WellFormed) (data : ClassObject) (source : TDeviceClassSource) :
    (loadSmartWebClass config data source).WellFormed := by
  rcases @loadSmartWebClass_cases config source data with hsame | hloaded
  · rwa [hsame]
  rw [hloaded]
  intro type cl hlookup
  by_cases htype : type = data.programType
  · subst htype
    rw [AList.lookup_insert, Option.some.injEq] at hlookup
    rw [← hlookup]
    exact ⟨rfl, TSmartWebClass.wellFormed_ofObject _ _ _⟩
  · rw [AList.lookup_insert_ne htype] at hlookup
    exact h type cl hlookup

theorem wellFormed_loadClasses (files : List (ClassObject × TDeviceClassSource)) :
    (loadClasses files).WellFormed := by
  have hfold : ∀ config : TSmartWebToMqttConfig, config.WellFormed →
      (files.foldl (fun config file => loadSmartWebClass config file.1 file.2)
        config).WellFormed := by
    induction files with
    | nil => exact fun config h => h
    | cons file files ih => exact fun config h => ih _ (h.load file.1 file.2)
  exact hfold ⟨∅, 0⟩ (fun type cl h => absurd h (by simp))

end WellFormed

end SmartWebGateway
