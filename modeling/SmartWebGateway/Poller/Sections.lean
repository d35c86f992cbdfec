import SmartWebGateway.Poller.Controls
import Mathlib.Tactic

/-!
# From the members of a class file to its entries

The three sections of a file are keyed by name, those of a class by id, and the
first member with an id is the one that stays. A parameter that does not load
is left out with a warning, and another one that finds its id taken without.
The controls of a class are ordered by number, one range of numbers after the
other for the three sections.
-/
namespace SmartWebGateway

open Foundation

namespace TSmartWebClass

section Insertion

variable {ps : List TSmartWebParameter} {acc : ParameterMap × ℕ} {p : TSmartWebParameter}

theorem getElem?_foldl_insertParameter (ps : List TSmartWebParameter) (acc : ParameterMap × ℕ)
    (id : ℕ) :
    (ps.foldl insertParameter acc).1[id]? = acc.1[id]?.or (ps.find? fun p => p.id = id) := by
  induction ps generalizing acc with
  | nil => simp
  | cons p rest ih =>
    rw [List.foldl_cons, ih, insertParameter, Std.TreeMap.getElem?_insertIfNew, List.find?_cons]
    by_cases hp : p.id = id
    · subst hp
      by_cases htaken : p.id ∈ acc.1
      · simp [htaken]
      · simp [htaken]
    · simp [hp]

theorem foldl_insertParameter_mono (ps : List TSmartWebParameter) (acc : ParameterMap × ℕ) :
    acc.2 ≤ (ps.foldl insertParameter acc).2 := by
  induction ps generalizing acc with
  | nil => exact le_rfl
  | cons p rest ih => exact (le_max_left acc.2 p.id).trans (ih (insertParameter acc p))

theorem id_le_foldl_insertParameter (h : p ∈ ps) : p.id ≤ (ps.foldl insertParameter acc).2 := by
  induction ps generalizing acc with
  | nil => exact absurd h List.not_mem_nil
  | cons first rest ih =>
    rcases List.mem_cons.mp h with rfl | h
    · exact (le_max_right acc.2 p.id).trans
        (foldl_insertParameter_mono rest (insertParameter acc p))
    · exact ih h

/-- Members of different names all stay exactly if they have different ids. -/
theorem stay_iff_nodup (hnames : (ps.map (·.name)).Nodup) :
    (∀ p ∈ ps, ∃ x, (ps.foldl insertParameter (∅, 0)).1[p.id]? = some x ∧ x.name = p.name ∧
      x.type = p.type) ↔ (ps.map (·.id)).Nodup := by
  have hlookup : ∀ id, (ps.foldl insertParameter (∅, 0)).1[id]? = ps.find? fun p => p.id = id := by
    intro id
    rw [getElem?_foldl_insertParameter]
    simp
  constructor
  · intro hstay
    apply List.Nodup.map_on _ (List.Nodup.of_map _ hnames)
    intro p hp p' hp' hid
    obtain ⟨x, hx, hname, _⟩ := hstay p hp
    obtain ⟨x', hx', hname', _⟩ := hstay p' hp'
    rw [hid, hx', Option.some.injEq] at hx
    apply List.inj_on_of_nodup_map hnames hp hp'
    rw [← hname, ← hname', hx]
  · intro hids p hp
    refine ⟨p, ?_, rfl, rfl⟩
    have hsome : (ps.find? fun p' => p'.id = p.id).isSome := by
      rw [List.find?_isSome]
      exact ⟨p, hp, decide_eq_true rfl⟩
    obtain ⟨x, hx⟩ := Option.isSome_iff_exists.mp hsome
    have hid : x.id = p.id := by simpa using List.find?_some hx
    have hsame : x = p :=
      List.inj_on_of_nodup_map hids (List.mem_of_find?_eq_some hx) hp hid
    rw [hlookup, hx, hsame]

end Insertion

section Loop

/-- The loop of `LoadParameters`: the map and the running maximum so far, and what it warned of. -/
structure ParametersLoop where
  parameters : ParameterMap
  maxId : ℕ
  warnings : List String

/-- The warning about a parameter whose loading threw. -/
def ignoredWarning (name what : String) : String :=
  "Parameter '" ++ name ++ "' is ignored. " ++ what

def ParametersLoop.step (programClass : TSmartWebClassRef) (orderBase : ℕ) (acc : ParametersLoop)
    (member : String × ParameterObject) : ParametersLoop :=
  match loadParameter programClass orderBase member with
  | .ok p =>
    { acc with
      parameters := acc.parameters.insertIfNew p.id p
      maxId := max acc.maxId p.id }
  | .error what => { acc with warnings := acc.warnings ++ [ignoredWarning member.1 what] }

variable {programClass : TSmartWebClassRef} {orderBase : ℕ} {ar : List (String × ParameterObject)}
  {acc : ParametersLoop}

/-- The loop that catches makes the map that is made of the parameters that load. -/
theorem foldl_step (programClass : TSmartWebClassRef) (orderBase : ℕ)
    (ar : List (String × ParameterObject)) (acc : ParametersLoop) :
    let loop := ar.foldl (ParametersLoop.step programClass orderBase) acc
    (loop.parameters, loop.maxId) =
      (ar.filterMap fun member => (loadParameter programClass orderBase member).toOption).foldl
        insertParameter (acc.parameters, acc.maxId) := by
  induction ar generalizing acc with
  | nil => rfl
  | cons member rest ih =>
    rw [List.foldl_cons, List.filterMap_cons]
    dsimp only at ih ⊢
    rw [ih, ParametersLoop.step]
    cases loadParameter programClass orderBase member with
    | error what => rfl
    | ok p => rfl

theorem warnings_foldl_step (programClass : TSmartWebClassRef) (orderBase : ℕ)
    (ar : List (String × ParameterObject)) (acc : ParametersLoop) :
    (ar.foldl (ParametersLoop.step programClass orderBase) acc).warnings =
      acc.warnings ++ ar.filterMap fun member =>
        match getCodec member.2 with
        | .ok _ => none
        | .error what => some (ignoredWarning member.1 what) := by
  induction ar generalizing acc with
  | nil => simp
  | cons member rest ih =>
    rw [List.foldl_cons, ih, List.filterMap_cons, ParametersLoop.step, loadParameter]
    cases getCodec member.2 with
    | error what => simp [bind, Except.bind]
    | ok codec => simp [bind, Except.bind]

end Loop

/-- The numbers from which those of a section are counted. -/
def sectionBase (data : ClassObject) (programClass : TSmartWebClassRef) : Section → ℕ
  | .inputs => 0
  | .outputs => (loadInputs data programClass).2
  | .parameters => (loadOutputs data programClass (loadInputs data programClass).2).2

/-- What `LoadParameters` does with the parameters of a file. -/
def parametersLoop (data : ClassObject) (programClass : TSmartWebClassRef) : ParametersLoop :=
  (data.parameters.getD []).foldl
    (ParametersLoop.step programClass (sectionBase data programClass .parameters)) ⟨∅, 0, []⟩

theorem parameters_parametersLoop (object : ℕ) (data : ClassObject) (source : TDeviceClassSource) :
    (parametersLoop data ⟨object, data.programType, data.className⟩).parameters =
      (ofObject object data source).parameters := by
  have hloop := foldl_step ⟨object, data.programType, data.className⟩
    (sectionBase data ⟨object, data.programType, data.className⟩ .parameters)
    (data.parameters.getD []) ⟨∅, 0, []⟩
  exact (congrArg Prod.fst hloop).trans (members_ofObject object data source .parameters).symm

section Orders

variable {data : ClassObject} {programClass : TSmartWebClassRef} {p : TSmartWebParameter}
  {s s' : Section}

theorem order_of_mem_loadedMembers (h : p ∈ loadedMembers data programClass s) :
    p.order = sectionBase data programClass s + p.id := by
  cases s with
  | inputs =>
    obtain ⟨member, _, rfl⟩ := List.mem_map.mp h
    exact (Nat.zero_add _).symm
  | outputs =>
    obtain ⟨member, _, rfl⟩ := List.mem_map.mp h
    rfl
  | parameters =>
    obtain ⟨member, _, hmember⟩ := List.mem_filterMap.mp h
    unfold loadParameter at hmember
    cases hcodec : getCodec member.2 with
    | error what =>
      rw [hcodec] at hmember
      cases hmember
    | ok codec =>
      rw [hcodec] at hmember
      cases hmember
      rfl

theorem id_lt_base_outputs (h : p ∈ loadedMembers data programClass .inputs) :
    p.id < sectionBase data programClass .outputs := by
  rw [loadedMembers] at h
  rw [sectionBase, loadInputs]
  cases hinputs : data.inputs with
  | none => simp [hinputs] at h
  | some ar =>
    rw [hinputs, Option.getD_some] at h
    exact Nat.lt_succ_of_le (id_le_foldl_insertParameter h)

theorem base_outputs_le (data : ClassObject) (programClass : TSmartWebClassRef) :
    sectionBase data programClass .outputs ≤ sectionBase data programClass .parameters := by
  rw [sectionBase, sectionBase, loadOutputs]
  cases data.outputs with
  | none => exact le_rfl
  | some ar =>
    dsimp only
    omega

theorem id_lt_base_parameters (h : p ∈ loadedMembers data programClass .outputs) :
    sectionBase data programClass .outputs + p.id < sectionBase data programClass .parameters := by
  rw [loadedMembers] at h
  rw [sectionBase, sectionBase, loadOutputs]
  cases houtputs : data.outputs with
  | none => simp [houtputs] at h
  | some ar =>
    rw [houtputs, Option.getD_some] at h
    have hle := @id_le_foldl_insertParameter _ (∅, 0) _ h
    dsimp only
    omega

theorem foldl_insertParameter_le {bound : ℕ} {ps : List TSmartWebParameter}
    {acc : ParameterMap × ℕ} (hps : ∀ p ∈ ps, p.id ≤ bound) (hacc : acc.2 ≤ bound) :
    (ps.foldl insertParameter acc).2 ≤ bound := by
  induction ps generalizing acc with
  | nil => exact hacc
  | cons first rest ih =>
    apply ih
    · exact fun p hp => hps p (List.mem_cons_of_mem first hp)
    · exact max_le hacc (hps first List.mem_cons_self)

theorem sectionBase_le (data : ClassObject) (programClass : TSmartWebClassRef) (s : Section) :
    sectionBase data programClass s ≤ 512 := by
  have hinputs : sectionBase data programClass .outputs ≤ 256 := by
    rw [sectionBase, loadInputs]
    cases hsection : data.inputs with
    | none => exact Nat.zero_le _
    | some ar =>
      refine Nat.succ_le_succ (foldl_insertParameter_le ?_ (Nat.zero_le 255))
      have hbelong := @loadedMembers_belong data programClass .inputs
      rw [loadedMembers, hsection] at hbelong
      exact fun p hp => (hbelong p hp).1
  cases s with
  | inputs => exact Nat.zero_le _
  | outputs => exact hinputs.trans (by decide)
  | parameters =>
    change (loadInputs data programClass).2 ≤ 256 at hinputs
    rw [sectionBase, loadOutputs]
    cases hsection : data.outputs with
    | none => exact hinputs.trans (by decide)
    | some ar =>
      have hbelong := @loadedMembers_belong data programClass .outputs
      rw [loadedMembers, hsection] at hbelong
      rw [Option.getD_some] at hbelong
      have hmax := @foldl_insertParameter_le 255 _ (∅, 0) (fun p hp => (hbelong p hp).1)
        (Nat.zero_le 255)
      dsimp only
      omega

end Orders

end TSmartWebClass

/-- A class goes into the table if its type is free there, or has a built-in class and the new one
is the user's. -/
def TSmartWebToMqttConfig.Adds (config : TSmartWebToMqttConfig) (data : ClassObject)
    (source : TDeviceClassSource) : Prop :=
  ∀ old ∈ config.classes.lookup data.programType, old.source ≠ source ∧ old.source ≠ .user

theorem TSmartWebToMqttConfig.Adds.lookup {config : TSmartWebToMqttConfig} {data : ClassObject}
    {source : TDeviceClassSource} (h : config.Adds data source) :
    (loadSmartWebClass config data source).classes.lookup data.programType =
      some (.ofObject config.objects data source) := by
  rw [lookup_loadSmartWebClass, if_pos ⟨rfl, h⟩]

def Section.Before : Section → Section → Prop
  | .inputs, .outputs | .inputs, .parameters | .outputs, .parameters => True
  | _, _ => False

theorem Section.before_or_before {s s' : Section} (h : s ≠ s') : s.Before s' ∨ s'.Before s := by
  cases s <;> cases s' <;> simp_all [Before]

/-- The controls of a class are numbered by section and then by id, in 32 bits. -/
structure TSmartWebClass.OrdersApart (cl : TSmartWebClass) : Prop where
  distinct : ∀ s s' (id id' : ℕ) (x x' : TSmartWebParameter), (cl.members s)[id]? = some x →
    (cl.members s')[id']? = some x' → x.order = x'.order → s = s' ∧ id = id'
  increasing : ∀ s (id id' : ℕ) (x x' : TSmartWebParameter), (cl.members s)[id]? = some x →
    (cl.members s)[id']? = some x' → id < id' → x.order < x'.order
  sections : ∀ s s' (id id' : ℕ) (x x' : TSmartWebParameter), (cl.members s)[id]? = some x →
    (cl.members s')[id']? = some x' → s.Before s' → x.order < x'.order
  fits : ∀ s (id : ℕ) (x : TSmartWebParameter), (cl.members s)[id]? = some x → x.order < 2 ^ 32

section OrdersApart

namespace TSmartWebClass

variable {data : ClassObject} {programClass : TSmartWebClassRef} {p p' : TSmartWebParameter}
  {s s' : Section}

theorem order_lt_of_before (h : s.Before s') (hp : p ∈ loadedMembers data programClass s)
    (hp' : p' ∈ loadedMembers data programClass s') : p.order < p'.order := by
  rw [order_of_mem_loadedMembers hp, order_of_mem_loadedMembers hp']
  have hbase := base_outputs_le data programClass
  cases s with
  | inputs =>
    have hid := id_lt_base_outputs hp
    change 0 + p.id < _
    cases s' with
    | inputs => exact h.elim
    | outputs => omega
    | parameters => omega
  | outputs =>
    have hid := id_lt_base_parameters hp
    cases s' with
    | inputs => exact h.elim
    | outputs => exact h.elim
    | parameters => omega
  | parameters => cases s' <;> exact h.elim

theorem mem_loadedMembers {object : ℕ} {source : TDeviceClassSource} {id : ℕ}
    {x : TSmartWebParameter} (h : ((ofObject object data source).members s)[id]? = some x) :
    x.id = id ∧ x ∈ loadedMembers data ⟨object, data.programType, data.className⟩ s := by
  rw [members_ofObject] at h
  exact members_keep (fun _ hp => hp) h

theorem ordersApart_ofObject (object : ℕ) (data : ClassObject) (source : TDeviceClassSource) :
    (ofObject object data source).OrdersApart := by
  have hsections : ∀ s s' (id id' : ℕ) (x x' : TSmartWebParameter),
      ((ofObject object data source).members s)[id]? = some x →
      ((ofObject object data source).members s')[id']? = some x' → s.Before s' →
      x.order < x'.order := by
    intro s s' id id' x x' hx hx' hbefore
    exact order_lt_of_before hbefore (mem_loadedMembers hx).2 (mem_loadedMembers hx').2
  constructor
  · intro s s' id id' x x' hx hx' horder
    have hs : s = s' := by
      by_contra hne
      rcases Section.before_or_before hne with hbefore | hbefore
      · exact (hsections s s' id id' x x' hx hx' hbefore).ne horder
      · exact (hsections s' s id' id x' x hx' hx hbefore).ne horder.symm
    subst hs
    obtain ⟨hid, hmem⟩ := mem_loadedMembers hx
    obtain ⟨hid', hmem'⟩ := mem_loadedMembers hx'
    rw [order_of_mem_loadedMembers hmem, order_of_mem_loadedMembers hmem', hid, hid'] at horder
    exact ⟨rfl, Nat.add_left_cancel horder⟩
  · intro s id id' x x' hx hx' hlt
    obtain ⟨hid, hmem⟩ := mem_loadedMembers hx
    obtain ⟨hid', hmem'⟩ := mem_loadedMembers hx'
    rw [order_of_mem_loadedMembers hmem, order_of_mem_loadedMembers hmem', hid, hid']
    exact Nat.add_lt_add_left hlt _
  · exact hsections
  · intro s id x hx
    obtain ⟨_, hmem⟩ := mem_loadedMembers hx
    have hbase := sectionBase_le data ⟨object, data.programType, data.className⟩ s
    have hid := (loadedMembers_belong s x hmem).1
    rw [order_of_mem_loadedMembers hmem]
    omega

end TSmartWebClass

/-- Whatever the sections hold, the orders of a class that is added keep them apart. -/
theorem orders_keep_sections_apart (config : TSmartWebToMqttConfig) (data : ClassObject)
    (source : TDeviceClassSource) (h : config.Adds data source) :
    ∃ cl, (loadSmartWebClass config data source).classes.lookup data.programType = some cl ∧
      cl.OrdersApart :=
  ⟨_, h.lookup, TSmartWebClass.ordersApart_ofObject config.objects data source⟩

end OrdersApart

/-- A relay that has ids with gaps, an encoding that is not supported, and an id that occurs twice;
all of this is in one of the built-in class files. -/
def genericRelay : ClassObject where
  className := "GENERIC_RELAY"
  programType := 27
  implements := ["PROGRAM"]
  inputs := some
    [("input_1", .ofByte 0 "onOff"), ("input_8", .ofByte 7 "onOff")]
  outputs := some
    [("aOutput", .ofByte 1 "PWM"), ("dOutput", .ofByte 0 "relay")]
  parameters := some
    [("minOnTime", .ofByte 5 (some "minutes") (some "uint60K")),
      ("periodicOnTime", .ofByte 5 (some "minutes") (some "uint60K")),
      ("schedule", .ofByte 7 none (some "schedule1"))]

theorem adds_of_empty (data : ClassObject) (source : TDeviceClassSource) (objects : ℕ) :
    TSmartWebToMqttConfig.Adds ⟨∅, objects⟩ data source :=
  fun _ hold => absurd hold (by simp)

theorem orders_keep_sections_apart_genericRelay :
    ∃ cl, (loadSmartWebClass ⟨∅, 0⟩ genericRelay .builtin).classes.lookup 27 = some cl ∧
      cl.OrdersApart :=
  orders_keep_sections_apart ⟨∅, 0⟩ genericRelay .builtin (adds_of_empty _ _ _)

/-- Every member of the file is in the class, under its id and with its name and type, or is a
parameter without a codec that was warned of. -/
structure ClassObject.LosesNothing (data : ClassObject) (cl : TSmartWebClass)
    (warnings : List String) : Prop where
  inputs : ∀ member ∈ data.inputs.getD [], ∃ x, cl.inputs[member.2.id]? = some x ∧
    x.name = member.1 ∧ x.type = member.2.type
  outputs : ∀ member ∈ data.outputs.getD [], ∃ x, cl.outputs[member.2.id]? = some x ∧
    x.name = member.1 ∧ x.type = member.2.type
  parameters : ∀ member ∈ data.parameters.getD [],
    (∃ x, cl.parameters[member.2.id]? = some x ∧ x.name = member.1 ∧
      x.type = member.2.type.getD "value") ∨
    ∃ what, TSmartWebClass.getCodec member.2 = .error what ∧
      TSmartWebClass.ignoredWarning member.1 what ∈ warnings

/-- The encoding is none of those for schedules. -/
def ParameterObject.Supported (parameter : ParameterObject) : Prop :=
  ∀ enc ∈ parameter.encoding, "schedule".toList.isPrefixOf enc.toList = false

instance (parameter : ParameterObject) : Decidable parameter.Supported := by
  unfold ParameterObject.Supported
  infer_instance

/-- No id occurs twice in a section, parameters of unsupported encodings aside. -/
structure ClassObject.IdsDistinct (data : ClassObject) : Prop where
  inputs : ((data.inputs.getD []).map fun member => member.2.id).Nodup
  outputs : ((data.outputs.getD []).map fun member => member.2.id).Nodup
  parameters : (((data.parameters.getD []).filter fun member => member.2.Supported).map
    fun member => member.2.id).Nodup

section LosesNothing

namespace TSmartWebClass

variable {data : ClassObject} {programClass : TSmartWebClassRef} {orderBase : ℕ}

theorem getCodec_of_supported {parameter : ParameterObject} (h : parameter.Supported) :
    ∃ codec, getCodec parameter = .ok codec := by
  unfold getCodec
  cases hencoding : parameter.encoding with
  | none => exact ⟨_, rfl⟩
  | some enc =>
    have hschedule : ¬ "schedule".toList.isPrefixOf enc.toList = true := by
      rw [h enc hencoding]
      decide
    dsimp only
    rw [if_neg hschedule]
    repeat' split
    all_goals exact ⟨_, rfl⟩

theorem getCodec_of_not_supported {parameter : ParameterObject} (h : ¬ parameter.Supported) :
    ∃ what, getCodec parameter = .error what := by
  unfold ParameterObject.Supported at h
  push Not at h
  obtain ⟨enc, hencoding, hschedule⟩ := h
  rw [Bool.ne_false_iff] at hschedule
  refine ⟨"Encoding '" ++ enc ++ "' is not supported", ?_⟩
  rw [getCodec, Option.mem_def.mp hencoding]
  exact if_pos hschedule

theorem loadParameter_of_supported (programClass : TSmartWebClassRef) (orderBase : ℕ)
    {member : String × ParameterObject} (h : member.2.Supported) :
    ∃ p, (loadParameter programClass orderBase member).toOption = some p ∧ p.id = member.2.id ∧
      p.name = member.1 ∧ p.type = member.2.type.getD "value" := by
  obtain ⟨codec, hcodec⟩ := getCodec_of_supported h
  unfold loadParameter
  rw [hcodec]
  exact ⟨_, rfl, rfl, rfl, rfl⟩

theorem loadParameter_of_not_supported (programClass : TSmartWebClassRef) (orderBase : ℕ)
    {member : String × ParameterObject} (h : ¬ member.2.Supported) :
    (loadParameter programClass orderBase member).toOption = none := by
  obtain ⟨what, hwhat⟩ := getCodec_of_not_supported h
  unfold loadParameter
  rw [hwhat]
  rfl

theorem ids_filterMap_loadParameter (programClass : TSmartWebClassRef) (orderBase : ℕ)
    (ar : List (String × ParameterObject)) :
    (ar.filterMap fun member => (loadParameter programClass orderBase member).toOption).map
      (·.id) = (ar.filter fun member => member.2.Supported).map fun member => member.2.id := by
  induction ar with
  | nil => rfl
  | cons member rest ih =>
    rw [List.filterMap_cons, List.filter_cons]
    by_cases hsupported : member.2.Supported
    · obtain ⟨p, hp, hid, _⟩ := loadParameter_of_supported programClass orderBase hsupported
      rw [hp, if_pos (decide_eq_true hsupported), List.map_cons, List.map_cons, hid, ih]
    · rw [loadParameter_of_not_supported programClass orderBase hsupported, if_neg (by simpa), ih]

theorem warning_mem_parametersLoop {member : String × ParameterObject}
    (hmember : member ∈ data.parameters.getD []) {what : String}
    (hwhat : getCodec member.2 = .error what) :
    ignoredWarning member.1 what ∈ (parametersLoop data programClass).warnings := by
  rw [parametersLoop, warnings_foldl_step]
  refine List.mem_append_right _ (List.mem_filterMap.mpr ⟨member, hmember, ?_⟩)
  rw [hwhat]

theorem section_stays_iff (hnames : data.NamesDistinct) (object : ℕ) (source : TDeviceClassSource)
    (s : Section) :
    (∀ p ∈ loadedMembers data ⟨object, data.programType, data.className⟩ s,
      ∃ x, ((ofObject object data source).members s)[p.id]? = some x ∧ x.name = p.name ∧
        x.type = p.type) ↔
      ((loadedMembers data ⟨object, data.programType, data.className⟩ s).map (·.id)).Nodup := by
  rw [members_ofObject]
  exact stay_iff_nodup (nodup_names_loadedMembers hnames _ s)

variable {object : ℕ} {source : TDeviceClassSource}

theorem inputs_stay_iff (hnames : data.NamesDistinct) :
    (∀ member ∈ data.inputs.getD [], ∃ x,
      (ofObject object data source).inputs[member.2.id]? = some x ∧ x.name = member.1 ∧
        x.type = member.2.type) ↔
      ((data.inputs.getD []).map fun member => member.2.id).Nodup := by
  have hstays := section_stays_iff hnames object source .inputs
  rw [loadedMembers, List.forall_mem_map, List.map_map] at hstays
  exact hstays

theorem outputs_stay_iff (hnames : data.NamesDistinct) :
    (∀ member ∈ data.outputs.getD [], ∃ x,
      (ofObject object data source).outputs[member.2.id]? = some x ∧ x.name = member.1 ∧
        x.type = member.2.type) ↔
      ((data.outputs.getD []).map fun member => member.2.id).Nodup := by
  have hstays := section_stays_iff hnames object source .outputs
  rw [loadedMembers, List.forall_mem_map, List.map_map] at hstays
  exact hstays

theorem parameters_stay_iff (hnames : data.NamesDistinct) :
    (∀ member ∈ data.parameters.getD [],
      (∃ x, (ofObject object data source).parameters[member.2.id]? = some x ∧
        x.name = member.1 ∧ x.type = member.2.type.getD "value") ∨
      ∃ what, getCodec member.2 = .error what ∧ ignoredWarning member.1 what ∈
        (parametersLoop data ⟨object, data.programType, data.className⟩).warnings) ↔
      (((data.parameters.getD []).filter fun member => member.2.Supported).map
        fun member => member.2.id).Nodup := by
  have hstays := section_stays_iff hnames object source .parameters
  rw [loadedMembers, ids_filterMap_loadParameter] at hstays
  rw [← hstays]
  constructor
  · intro hkept p hp
    obtain ⟨member, hmember, hload⟩ := List.mem_filterMap.mp hp
    by_cases hsupported : member.2.Supported
    · obtain ⟨p', hp', hid, hname, htype⟩ := loadParameter_of_supported _ _ hsupported
      rw [hload, Option.some.injEq] at hp'
      rw [hp', hid, hname, htype]
      rcases hkept member hmember with hx | ⟨what, hwhat, _⟩
      · exact hx
      · obtain ⟨codec, hcodec⟩ := getCodec_of_supported hsupported
        rw [hcodec] at hwhat
        cases hwhat
    · rw [loadParameter_of_not_supported _ _ hsupported] at hload
      cases hload
  · intro hkept member hmember
    by_cases hsupported : member.2.Supported
    · left
      obtain ⟨p, hp, hid, hname, htype⟩ := loadParameter_of_supported _ _ hsupported
      obtain ⟨x, hx, hxname, hxtype⟩ :=
        hkept p (List.mem_filterMap.mpr ⟨member, hmember, hp⟩)
      exact ⟨x, hid ▸ hx, hxname.trans hname, hxtype.trans htype⟩
    · right
      obtain ⟨what, hwhat⟩ := getCodec_of_not_supported hsupported
      exact ⟨what, hwhat, warning_mem_parametersLoop hmember hwhat⟩

theorem losesNothing_ofObject_iff (object : ℕ) (source : TDeviceClassSource)
    (hnames : data.NamesDistinct) :
    data.LosesNothing (ofObject object data source)
      (parametersLoop data ⟨object, data.programType, data.className⟩).warnings ↔
      data.IdsDistinct := by
  constructor
  · intro h
    constructor
    · exact (inputs_stay_iff hnames).mp h.inputs
    · exact (outputs_stay_iff hnames).mp h.outputs
    · exact (parameters_stay_iff hnames).mp h.parameters
  · intro h
    constructor
    · exact (inputs_stay_iff hnames).mpr h.inputs
    · exact (outputs_stay_iff hnames).mpr h.outputs
    · exact (parameters_stay_iff hnames).mpr h.parameters

end TSmartWebClass

end LosesNothing

open TSmartWebClass in
/-- A class that is added loses nothing silently exactly if no id occurs twice in a section. -/
theorem class_loses_nothing_iff (config : TSmartWebToMqttConfig) (data : ClassObject)
    (source : TDeviceClassSource) (hnames : data.NamesDistinct) (hadds : config.Adds data source) :
    (∃ cl, (loadSmartWebClass config data source).classes.lookup data.programType = some cl ∧
      data.LosesNothing cl
        (parametersLoop data ⟨config.objects, data.programType, data.className⟩).warnings) ↔
      data.IdsDistinct := by
  rw [hadds.lookup, ← losesNothing_ofObject_iff config.objects source hnames]
  simp

def scheduledPump : ClassObject where
  className := "PUMP"
  programType := 12
  implements := []
  inputs := some [("flow", .ofByte 3 "temperature")]
  outputs := none
  parameters := some
    [("night", .ofByte 3 none (some "schedule1")),
      ("speed", .ofByte 3 (some "%") (some "ubyte"))]

theorem class_loses_nothing_scheduledPump :
    ∃ cl, (loadSmartWebClass ⟨∅, 0⟩ scheduledPump .user).classes.lookup 12 = some cl ∧
      scheduledPump.LosesNothing cl
        (TSmartWebClass.parametersLoop scheduledPump ⟨0, 12, "PUMP"⟩).warnings := by
  apply (class_loses_nothing_iff ⟨∅, 0⟩ scheduledPump .user _ (adds_of_empty _ _ _)).mpr
  · constructor <;> decide
  · constructor <;> intro ar har <;> cases har <;> decide

/-- Of two parameters with one id the second is neither in the class nor warned of. -/
theorem periodicOnTime_lost :
    ∃ cl, (loadSmartWebClass ⟨∅, 0⟩ genericRelay .builtin).classes.lookup 27 = some cl ∧
      (cl.parameters[5]?.map (·.name)) = some "minOnTime" ∧
      (TSmartWebClass.parametersLoop genericRelay ⟨0, 27, "GENERIC_RELAY"⟩).warnings =
        [TSmartWebClass.ignoredWarning "schedule" "Encoding 'schedule1' is not supported"] ∧
      ¬ genericRelay.LosesNothing cl
        (TSmartWebClass.parametersLoop genericRelay ⟨0, 27, "GENERIC_RELAY"⟩).warnings := by
  have hname : (TSmartWebClass.ofObject 0 genericRelay .builtin).parameters[5]?.map (·.name) =
      some "minOnTime" := by decide +kernel
  refine ⟨_, (adds_of_empty genericRelay .builtin 0).lookup, hname, by decide +kernel, ?_⟩
  intro h
  have hmember : ("periodicOnTime", ParameterObject.ofByte 5 (some "minutes") (some "uint60K")) ∈
      genericRelay.parameters.getD [] := by simp [genericRelay]
  rcases h.parameters _ hmember with ⟨x, hx, hxname, _⟩ | ⟨what, hwhat, _⟩
  · rw [show (TSmartWebClass.ofObject 0 genericRelay .builtin).parameters[5]? = some x from hx,
      Option.map_some, hxname] at hname
    exact absurd hname (by decide)
  · cases hwhat

end SmartWebGateway
