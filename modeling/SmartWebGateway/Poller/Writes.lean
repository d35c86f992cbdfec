import SmartWebGateway.Poller.Lifetime
import SmartWebGateway.Poller.Picklists
import Mathlib.Tactic

/-!
# What is written to a control

A control is made with the program and the entry that it is for, and a text that
is written to it is sent as a set request to just these. When the program
answers with the bytes that it was sent, the answer is looked up by the type of
the entry's class, and what is shown is what the bytes mean.
-/
namespace SmartWebGateway

open Foundation
open TSmartWebToMqttGateway

/-- A parameter of the table that may be written to, of a program that has been announced, and
shown by the control. -/
structure IsBehind (config : TSmartWebToMqttConfig) (received : List TFrame) (path : ControlPath)
    (param : TSmartWebParameterControl) : Prop where
  entry : ∃ type id, config.entryAt ⟨type, .parameters, id⟩ = some param.parameter
  writable : param.parameter.readOnly = false
  shown : param.parameter.control param.programId = path
  announced : param.programId ∈ (announcedPrograms config.classes received).keys

/-- The codecs that a parameter can be written with. -/
def ISmartWebCodec.Writable : ISmartWebCodec → Prop
  | .int _ _ => True
  | .enum values => TSmartWebClass.Functional values
  | .onOffSensor => True
  | .sensor | .pwm | .output => False

/-- What a written text is shown as when it comes back: a number as it was cut down, a label as it
is, and whatever is not zero as one. -/
inductive ISmartWebCodec.ShownAs (formatFloat : Double → String)
    (stod : String → Except String Double) : ISmartWebCodec → String → String → Prop
  | whole {type : IntType} {text : String} {x : Double} {n : ℤ} (hstod : stod text = .ok x)
      (hn : x.truncated? = some n) (hvalue : type.IsValue n) :
      ShownAs formatFloat stod (.int type 1) text (toString n)
  | fixed {type : IntType} {div : ℕ} {text : String} {x : Double} {n : ℤ} (hdiv : div ≠ 1)
      (hstod : stod text = .ok x) (hn : (x.mul (.ofInt div)).truncated? = some n)
      (hvalue : type.IsValue n) :
      ShownAs formatFloat stod (.int type div) text
        (formatFloat ((Double.ofInt n).div (.ofInt div)))
  | label (values : List (Byte × String)) (text : String) :
      ShownAs formatFloat stod (.enum values) text text
  | off : ShownAs formatFloat stod .onOffSensor "0" "0"
  | on {text : String} (h : text ≠ "0") : ShownAs formatFloat stod .onOffSensor text "1"

/-- A program's answer that repeats the data of a set request to it. -/
structure TFrame.Confirms (answer request : TFrame) : Prop where
  accepted : acceptFrame answer
  programType : answer.header.programType = ptRemoteControl
  functionId : answer.header.functionId = RemoteControl.Function.getParameterValue
  programId : answer.header.programId = request.header.programId
  data : answer.data = request.data

/-- What every run keeps of what controls are made with and of what is sent. -/
structure LifeState.Grounded {D : Type*} (driver : DeviceDriver D) (config : TSmartWebToMqttConfig)
    (stod : String → Except String Double) (s : LifeState D) : Prop where
  sameClasses : s.gateway.classes = config.classes
  knows : s.gateway.Knows (announcedPrograms config.classes s.received)
  userData : ∀ path param, (driver.devices s.driver).userData? path = some param →
    IsBehind config s.received path param
  requested : ∀ path text frame, .setRequested path text frame ∈ s.log →
    ∃ param bytes, IsBehind config s.received path param ∧
      param.parameter.codec.encode stod text = .ok bytes ∧ frame = setRequestFrame param bytes

section Codecs

variable {formatFloat : Double → String} {stod : String → Except String Double}
  {codec : ISmartWebCodec} {text : String} {bytes rest : List Byte}

theorem ISmartWebCodec.encode_int_eq_ok {type : IntType} {div : ℕ}
    (h : (ISmartWebCodec.int type div).encode stod text = .ok bytes) :
    ∃ x n, stod text = .ok x ∧ (if div = 1 then x else x.mul (.ofInt div)).truncated? = some n ∧
      type.IsValue n ∧ bytes = type.bytes n := by
  unfold encode at h
  cases hstod : stod text with
  | error what =>
    rw [hstod] at h
    cases h
  | ok x =>
    simp only [hstod, IntType.convert] at h
    cases hn : (if div = 1 then x else x.mul (.ofInt div)).truncated? with
    | none =>
      simp only [hn] at h
      cases h
    | some n =>
      simp only [hn] at h
      split_ifs at h with hvalue
      · cases h
        exact ⟨x, n, rfl, hn, hvalue, emitBytes_eq_bytes type n⟩
      · cases h

theorem ISmartWebCodec.length_of_encode (h : codec.encode stod text = .ok bytes) :
    bytes.length ≤ 4 := by
  cases codec with
  | int type div =>
    obtain ⟨_, n, _, _, _, rfl⟩ := encode_int_eq_ok h
    have hsize : type.size ≤ 4 := by cases type <;> simp [IntType.size]
    simpa [IntType.bytes] using hsize
  | enum values =>
    unfold encode at h
    cases hkey : (values.map Prod.swap).lookup text with
    | none =>
      simp only [hkey] at h
      cases h
    | some key =>
      simp only [hkey] at h
      cases h
      simp
  | onOffSensor =>
    cases h
    simp
  | sensor => cases h
  | pwm => cases h
  | output => cases h

/-- A switch is written in one byte and read in two. -/
theorem ISmartWebCodec.decode_onOffSensor {b : Byte} (hb : b = 0 ∨ b = 1) :
    ISmartWebCodec.onOffSensor.decode formatFloat (b :: 0 :: rest) =
      .ok (if b = 0 then "0" else "1") := by
  have hread : IntType.int16.ofBytes (b :: 0 :: rest) = b.toNat := by
    rcases hb with rfl | rfl
    · simp [IntType.ofBytes, IntType.size, IntType.signed, IntType.bits, littleEndian]
    · simp [IntType.ofBytes, IntType.size, IntType.signed, IntType.bits, littleEndian]
  rw [decode, hread]
  rcases hb with rfl | rfl
  · rfl
  · rfl

theorem ISmartWebCodec.decode_encode (hcodec : codec.Writable)
    (h : codec.encode stod text = .ok bytes) :
    ∃ shown, codec.decode formatFloat (bytes ++ 0 :: rest) = .ok shown ∧
      codec.ShownAs formatFloat stod text shown := by
  cases codec with
  | int type div =>
    obtain ⟨x, n, hstod, hn, hvalue, rfl⟩ := encode_int_eq_ok h
    have hread : type.ofBytes (type.bytes n ++ 0 :: rest) = n := IntType.ofBytes_bytes hvalue _
    simp only [decode, hread]
    by_cases hdiv : div = 1
    · subst hdiv
      exact ⟨toString n, if_pos rfl, .whole hstod hn hvalue⟩
    · rw [if_neg hdiv] at hn
      exact ⟨_, if_neg hdiv, .fixed hdiv hstod hn hvalue⟩
  | enum values =>
    unfold encode at h
    cases hkey : (values.map Prod.swap).lookup text with
    | none =>
      simp only [hkey] at h
      cases h
    | some key =>
      simp only [hkey] at h
      cases h
      obtain ⟨entry, hentry, hswap⟩ := List.mem_map.mp (mem_of_lookup hkey)
      obtain rfl : entry = (key, text) := by rw [← Prod.swap_swap entry, hswap, Prod.swap_prod_mk]
      have hlabel : values.lookup key = some text := hcodec (key, text) hentry
      refine ⟨text, ?_, .label values text⟩
      simp only [decode, List.singleton_append, List.headD_cons, hlabel]
  | onOffSensor =>
    cases h
    by_cases htext : text = "0"
    · subst htext
      exact ⟨"0", decode_onOffSensor (Or.inl rfl), .off⟩
    · rw [if_neg htext]
      exact ⟨"1", decode_onOffSensor (Or.inr rfl), .on htext⟩
  | sensor => exact hcodec.elim
  | pwm => exact hcodec.elim
  | output => exact hcodec.elim

end Codecs

/-- Encodings stand for integers, whole or fixed-point, or for the values of an enumeration. -/
theorem writable_of_getCodec {data : ParameterObject} {codec : ISmartWebCodec}
    (h : TSmartWebClass.getCodec data = .ok codec) : codec.Writable := by
  unfold TSmartWebClass.getCodec at h
  cases hencoding : data.encoding with
  | none =>
    rw [hencoding] at h
    cases h
    trivial
  | some enc =>
    simp only [hencoding] at h
    split_ifs at h
    all_goals try (cases h; exact trivial)
    cases hvalues : data.values with
    | none =>
      rw [hvalues] at h
      cases h
      trivial
    | some members =>
      rw [hvalues] at h
      cases h
      exact TSmartWebClass.functional_enumValues members

section Entries

variable {files : List (ClassObject × TDeviceClassSource)} {gateway : TSmartWebToMqttGateway}
  {frame : TFrame} {update : ParameterUpdate} {x : TSmartWebParameter} {type : Byte} {id : ℕ}
  {part : Section}

/-- Inputs and outputs cannot be written to, and a parameter that loads has a codec for writing
unless it is read-only. -/
theorem writable_of_mem_loadedMembers {data : ClassObject} {programClass : TSmartWebClassRef}
    (hx : x ∈ TSmartWebClass.loadedMembers data programClass part)
    (hwritable : x.readOnly = false) : part = .parameters ∧ x.codec.Writable := by
  cases part with
  | inputs =>
    obtain ⟨member, _, rfl⟩ := List.mem_map.mp hx
    cases hwritable
  | outputs =>
    obtain ⟨member, _, rfl⟩ := List.mem_map.mp hx
    cases hwritable
  | parameters =>
    obtain ⟨member, _, hload⟩ := List.mem_filterMap.mp hx
    refine ⟨rfl, ?_⟩
    unfold TSmartWebClass.loadParameter at hload
    cases hcodec : TSmartWebClass.getCodec member.2 with
    | error what =>
      rw [hcodec] at hload
      cases hload
    | ok codec =>
      rw [hcodec] at hload
      cases hload
      have hreadOnly : ¬ (member.2.type.getD "value" = "temperature" ∧
          member.2.readOnly.getD false = true) := by
        rintro ⟨_, htrue⟩
        exact absurd (htrue.symm.trans hwritable) (by decide)
      dsimp only
      rw [if_neg hreadOnly]
      split_ifs
      · exact trivial
      · exact writable_of_getCodec hcodec

theorem writable_of_mem_ofObject {object : ℕ} {data : ClassObject} {source : TDeviceClassSource}
    (hx : ((TSmartWebClass.ofObject object data source).members part)[id]? = some x)
    (hwritable : x.readOnly = false) : part = .parameters ∧ x.codec.Writable := by
  rw [TSmartWebClass.members_ofObject] at hx
  exact writable_of_mem_loadedMembers (TSmartWebClass.members_keep (fun _ hp => hp) hx).2 hwritable

/-- What is written to is a parameter of the table, and has a codec for it. -/
theorem IsBehind.codec_writable {received : List TFrame} {path : ControlPath}
    {param : TSmartWebParameterControl} (h : IsBehind (loadClasses files) received path param) :
    param.parameter.codec.Writable := by
  obtain ⟨type, id, hentry⟩ := h.entry
  obtain ⟨cl, hcl, hmember⟩ := Option.bind_eq_some_iff.mp hentry
  obtain ⟨file, _, object, rfl⟩ := exists_file_of_lookup hcl
  exact (writable_of_mem_ofObject hmember h.writable).2

theorem handleGetValueResponse_entry (h : handleGetValueResponse gateway frame = some update) :
    ∃ (known cl : TSmartWebClass) (part : Section) (id : ℕ),
      gateway.knownPrograms.lookup update.programId = some known ∧
      (cl = known ∨ ∃ type, gateway.classes.lookup type = some cl) ∧
      (cl.members part)[id]? = some update.parameter := by
  unfold handleGetValueResponse at h
  cases hknown : gateway.knownPrograms.lookup frame.header.programId with
  | none =>
    rw [hknown] at h
    cases h
  | some known =>
    simp only [hknown] at h
    split_ifs at h
    · obtain ⟨p, hp, rfl⟩ := Option.map_eq_some_iff.mp h
      exact ⟨known, known, .inputs, _, hknown, Or.inl rfl, hp⟩
    · obtain ⟨p, hp, rfl⟩ := Option.map_eq_some_iff.mp h
      exact ⟨known, known, .outputs, _, hknown, Or.inl rfl, hp⟩
    · cases hcl : gateway.classes.lookup (TParameterData.mk frame.data).programType with
      | none =>
        rw [hcl] at h
        cases h
      | some cl =>
        rw [hcl] at h
        obtain ⟨p, hp, rfl⟩ := Option.map_eq_some_iff.mp h
        exact ⟨known, cl, .parameters, _, hknown, Or.inr ⟨_, hcl⟩, hp⟩

theorem lookup_of_mem_announcedPrograms {classes : AList fun _ : Byte => TSmartWebClass}
    {received : List TFrame} {program : AnnouncedProgram}
    (h : program ∈ announcedPrograms classes received) :
    ∃ type, classes.lookup type = some program.2 := by
  obtain ⟨programId, cl⟩ := program
  have hfound := List.mem_dlookup (List.nodupKeys_dedupKeys _) h
  rw [List.dlookup_dedupKeys] at hfound
  have hmem := List.of_mem_dlookup hfound
  obtain ⟨frame, _, hannounced⟩ := List.mem_filterMap.mp hmem
  unfold TFrame.announced? at hannounced
  split_ifs at hannounced
  obtain ⟨cl, hcl, heq⟩ := Option.map_eq_some_iff.mp hannounced
  cases heq
  exact ⟨_, hcl⟩

theorem announcedPrograms_mono (classes : AList fun _ : Byte => TSmartWebClass) (frame : TFrame)
    {received : List TFrame} {programId : Byte}
    (h : programId ∈ (announcedPrograms classes received).keys) :
    programId ∈ (announcedPrograms classes (frame :: received)).keys := by
  rw [announcedPrograms_cons]
  cases frame.announced? classes with
  | none => exact h
  | some program =>
    dsimp only
    split_ifs
    · exact h
    · rw [List.keys, List.map_append]
      exact List.mem_append_left _ h

theorem isBehind_of_update {received : List TFrame}
    (hclasses : gateway.classes = (loadClasses files).classes)
    (hknows : gateway.Knows (announcedPrograms (loadClasses files).classes received))
    (h : handleGetValueResponse gateway frame = some update)
    (hwritable : update.parameter.readOnly = false) :
    IsBehind (loadClasses files) received update.path ⟨update.programId, update.parameter⟩ := by
  obtain ⟨known, cl, part, id, hknown, hcl, hmember⟩ := handleGetValueResponse_entry h
  have hprogram : ⟨update.programId, known⟩ ∈
      announcedPrograms (loadClasses files).classes received := by
    rw [← hknows.known, List.mem_reverse]
    exact AList.mem_lookup_iff.mp hknown
  have htable : ∃ type, (loadClasses files).classes.lookup type = some cl := by
    rcases hcl with rfl | ⟨type, hcl⟩
    · exact lookup_of_mem_announcedPrograms hprogram
    · exact ⟨type, hclasses ▸ hcl⟩
  obtain ⟨type, hlookup⟩ := htable
  obtain ⟨file, _, object, rfl⟩ := exists_file_of_lookup hlookup
  obtain ⟨rfl, _⟩ := writable_of_mem_ofObject hmember hwritable
  constructor
  case entry =>
    refine ⟨type, id, ?_⟩
    rw [TSmartWebToMqttConfig.entryAt, hlookup, Option.bind_some]
    exact hmember
  case writable => exact hwritable
  case shown => rfl
  case announced => exact List.mem_map_of_mem hprogram

end Entries

section Steps

variable {D : Type*} {driver : DeviceDriver D} {files : List (ClassObject × TDeviceClassSource)}
  {formatFloat : Double → String} {stod : String → Except String Double} {s t : LifeState D}
  {l : LifeLabel} {path : ControlPath} {text : String}

theorem IsBehind.mono {config : TSmartWebToMqttConfig} {received : List TFrame}
    {param : TSmartWebParameterControl} (h : IsBehind config received path param)
    (frame : TFrame) : IsBehind config (frame :: received) path param :=
  ⟨h.entry, h.writable, h.shown, announcedPrograms_mono _ frame h.announced⟩

theorem ParameterUpdate.of_mem_publish {devices : LocalDevices} {update : ParameterUpdate}
    {frame : TFrame} {deviceName : String} {args : TControlArgs}
    (h : .createControl deviceName args ∈ update.publish formatFloat devices frame) :
    deviceName = update.path.deviceName ∧ args = update.controlArgs formatFloat frame := by
  rw [publish_eq, List.mem_append] at h
  rcases h with hdevice | hlast
  · split_ifs at hdevice
    · cases hdevice
    · cases List.mem_singleton.mp hdevice
  · have heq := List.mem_singleton.mp hlast
    unfold lastCall at heq
    split_ifs at heq
    · cases hdecoded : update.decoded formatFloat frame with
      | error what =>
        rw [hdecoded] at heq
        cases heq
      | ok value =>
        rw [hdecoded] at heq
        cases heq
    · cases heq
      exact ⟨rfl, rfl⟩

theorem ParameterUpdate.Publishes.userData (hdriver : driver.KeepsUserData)
    {update : ParameterUpdate} {frame : TFrame} {d d' : D} {completed : Bool} {made : List String}
    (h : update.Publishes driver formatFloat frame d completed made d')
    {param : TSmartWebParameterControl}
    (hdata : (driver.devices d').userData? path = some param) :
    (driver.devices d).userData? path = some param ∨
      path = update.path ∧ update.parameter.readOnly = false ∧
        param = ⟨update.programId, update.parameter⟩ := by
  cases h with
  | refused => exact Or.inl hdata
  | performed h =>
    rcases h.userData hdriver hdata with hold | ⟨args, hmem, hid, hparam⟩
    · exact Or.inl hold
    · obtain ⟨hdevice, rfl⟩ := of_mem_publish hmem
      change (if update.parameter.readOnly then none else some _) = some param at hparam
      split_ifs at hparam with hreadOnly
      have hpath : path = update.path := by
        obtain ⟨deviceName, controlName⟩ := path
        obtain rfl : deviceName = update.path.deviceName := hdevice
        obtain rfl : update.path.controlName = controlName := hid
        rfl
      exact Or.inr ⟨hpath, Bool.eq_false_of_not_eq_true hreadOnly, (Option.some.inj hparam).symm⟩

namespace LifeState.Grounded

theorem ignored (h : s.Grounded driver (loadClasses files) stod) {fuel : ℕ} {frame : TFrame}
    {gateway : TSmartWebToMqttGateway} {update : Option ParameterUpdate}
    (haccepted : acceptFrame frame)
    (hhandle : handleFrame fuel s.gateway frame = some (gateway, update)) :
    (s.ignored frame gateway).Grounded driver (loadClasses files) stod := by
  have hknows := h.knows
  rw [← h.sameClasses] at hknows
  obtain ⟨hclasses, _, _, hknows'⟩ := hknows.receive (receive_of_handleFrame haccepted hhandle)
  rw [h.sameClasses] at hclasses hknows'
  constructor
  case sameClasses => exact hclasses
  case knows => exact hknows'
  case userData =>
    intro path param hdata
    exact (h.userData path param hdata).mono frame
  case requested =>
    intro path text request hmem
    obtain ⟨param, bytes, hbehind, hrest⟩ := h.requested path text request hmem
    exact ⟨param, bytes, hbehind.mono frame, hrest⟩

theorem published (hdriver : driver.KeepsUserData)
    (h : s.Grounded driver (loadClasses files) stod) {fuel : ℕ} {frame : TFrame}
    {gateway : TSmartWebToMqttGateway} {update : ParameterUpdate} {completed : Bool}
    {made : List String} {d : D} (haccepted : acceptFrame frame)
    (hhandle : handleFrame fuel s.gateway frame = some (gateway, some update))
    (hpublishes : update.Publishes driver formatFloat frame s.driver completed made d) :
    (s.published frame gateway update completed made d).Grounded driver (loadClasses files)
      stod := by
  have hignored := h.ignored haccepted hhandle
  obtain ⟨rfl, hupdate⟩ := update_of_handleFrame hhandle
  constructor
  case sameClasses => exact hignored.sameClasses
  case knows => exact hignored.knows
  case userData =>
    intro path param hdata
    rcases hpublishes.userData hdriver hdata with hold | ⟨rfl, hwritable, rfl⟩
    · exact hignored.userData path param hold
    · exact isBehind_of_update hignored.sameClasses hignored.knows hupdate hwritable
  case requested =>
    intro path text request hmem
    rcases List.mem_cons.mp hmem with heq | hmem
    · cases heq
    · exact hignored.requested path text request hmem

theorem onValue_cases (h : s.Grounded driver (loadClasses files) stod) {frames : List TFrame}
    (hvalue : s.onValue driver stod path text = .ok frames) :
    frames = [] ∨ ∃ param bytes, IsBehind (loadClasses files) s.received path param ∧
      param.parameter.codec.encode stod text = .ok bytes ∧
      frames = [setRequestFrame param bytes] := by
  unfold LifeState.onValue at hvalue
  cases hdata : (driver.devices s.driver).userData? path with
  | none =>
    rw [hdata] at hvalue
    cases hvalue
    exact Or.inl rfl
  | some param =>
    simp only [hdata, onControlValue, makeSetParameterValueRequest] at hvalue
    cases hencode : param.parameter.codec.encode stod text with
    | ok bytes =>
      simp only [hencode] at hvalue
      cases hvalue
      exact Or.inr ⟨param, bytes, h.userData path param hdata, hencode, rfl⟩
    | error failure =>
      cases failure with
      | thrown what =>
        simp only [hencode] at hvalue
        cases hvalue
        exact Or.inl rfl
      | undefinedConversion =>
        simp only [hencode] at hvalue
        cases hvalue

theorem removeDevice (hdriver : driver.KeepsUserData)
    (h : s.Grounded driver (loadClasses files) stod) {deviceName : String} {completed : Bool}
    {d : D} (hcall : driver.call s.driver (.removeDevice deviceName) completed d)
    (phase : LifePhase) :
    LifeState.Grounded driver (loadClasses files) stod { s with driver := d, phase := phase } := by
  refine ⟨h.sameClasses, h.knows, ?_, h.requested⟩
  intro path param hdata
  rcases hdriver hcall path param hdata with hold | ⟨_, hcreate, _⟩
  · exact h.userData path param hold
  · cases hcreate

end LifeState.Grounded

theorem LifeStep.grounded (hdriver : driver.KeepsUserData)
    (h : LifeStep driver formatFloat stod s l t)
    (hs : s.Grounded driver (loadClasses files) stod) :
    t.Grounded driver (loadClasses files) stod := by
  cases h with
  | ignored _ haccepted hhandle => exact hs.ignored haccepted hhandle
  | published _ haccepted hhandle hpublishes =>
    exact hs.published hdriver haccepted hhandle hpublishes
  | @written path text frames _ _ hvalue =>
    refine ⟨hs.sameClasses, hs.knows, hs.userData, ?_⟩
    intro path' text' request hmem
    rcases List.mem_append.mp hmem with hnew | hold
    · obtain ⟨frame, hframe, heq⟩ := List.mem_map.mp hnew
      cases heq
      rcases hs.onValue_cases hvalue with rfl | ⟨param, bytes, hbehind, hencode, rfl⟩
      · cases hframe
      · exact ⟨param, bytes, hbehind, hencode, List.mem_singleton.mp hframe⟩
    · exact hs.requested path' text' request hold
  | removeDevice _ hcall => exact hs.removeDevice hdriver hcall _
  | removeDeviceFailed _ hcall => exact hs.removeDevice hdriver hcall _
  | _ => exact ⟨hs.sameClasses, hs.knows, hs.userData, hs.requested⟩

end Steps

section Answers

variable {files : List (ClassObject × TDeviceClassSource)} {formatFloat : Double → String}
  {stod : String → Except String Double} {param : TSmartWebParameterControl} {bytes : List Byte}
  {path : ControlPath} {text : String} {answer request : TFrame} {received : List TFrame}
  {gateway : TSmartWebToMqttGateway}

@[simp] theorem setRequestFrame_programId :
    (setRequestFrame param bytes).header.programId = param.programId := by
  simp [setRequestFrame, TFrame.header]

theorem drop_setRequestFrame (h : bytes.length ≤ 4) :
    ∃ rest, (setRequestFrame param bytes).data.toList.drop 2 = bytes ++ 0 :: rest := by
  refine ⟨List.replicate (5 - bytes.length) 0, ?_⟩
  apply List.ext_getElem?
  intro i
  rw [List.getElem?_append, setRequestFrame]
  simp only [Vector.toList_ofFn, List.getElem?_drop, List.getElem?_ofFn]
  by_cases hi : i < bytes.length
  · have hroom : i < 6 := by omega
    have hplace : 2 + i = i + 1 + 1 := by omega
    simp [hi, hroom, hplace]
  · rw [if_neg hi, ← List.replicate_succ, List.getElem?_replicate]
    by_cases hroom : i < 6
    · have hzeros : i - bytes.length < 5 - bytes.length + 1 := by omega
      have hplace : 2 + i = i + 1 + 1 := by omega
      have hbeyond : bytes[i]? = none := List.getElem?_eq_none (by omega)
      simp [hroom, hzeros, hplace, hbeyond]
    · have hzeros : ¬ i - bytes.length < 5 - bytes.length + 1 := by omega
      have hend : 8 ≤ 2 + i := by omega
      simp [hzeros, hend]

/-- An answer that repeats a set request is taken for the parameter that was set, by the type of its
class: not if that is the type of programs in general, whose values are inputs and outputs. -/
theorem handleGetValueResponse_confirms
    (hclasses : gateway.classes = (loadClasses files).classes)
    (hknows : gateway.Knows (announcedPrograms (loadClasses files).classes received))
    (hbehind : IsBehind (loadClasses files) received path param)
    (hanswer : answer.Confirms (setRequestFrame param bytes)) :
    handleGetValueResponse gateway answer = some ⟨param.parameter, 2, param.programId⟩ ↔
      param.parameter.programClass.type ≠ ptProgram := by
  have htype : answer.data[0]! = param.parameter.programClass.type := by
    rw [hanswer.data]
    simp [setRequestFrame]
  have hid : answer.data[1]! = BitVec.ofNat 8 param.parameter.id := by
    rw [hanswer.data]
    simp [setRequestFrame]
  constructor
  · intro hupdate hprogram
    have hoffset := valueOffset_of_ptProgram (htype.trans hprogram) hupdate
    cases hoffset
  · intro hother
    obtain ⟨type, id, hentry⟩ := hbehind.entry
    obtain ⟨cl, hcl, hmember⟩ := Option.bind_eq_some_iff.mp hentry
    obtain ⟨htypeEq, hwellFormed⟩ := wellFormed_loadClasses files type cl hcl
    obtain ⟨hidEq, hbound, hclass⟩ := hwellFormed .parameters id param.parameter hmember
    have hclassType : param.parameter.programClass.type = type := by rw [hclass, htypeEq]
    have hprogramId : answer.header.programId = param.programId := by
      rw [hanswer.programId, setRequestFrame_programId]
    have hknown := (hknows.mem_keys param.programId).mpr hbehind.announced
    rw [← AList.lookup_isSome, Option.isSome_iff_exists] at hknown
    obtain ⟨known, hknown⟩ := hknown
    have hindex : (BitVec.ofNat 8 param.parameter.id).toNat = id := by
      rw [BitVec.toNat_ofNat, hidEq]
      exact Nat.mod_eq_of_lt (by omega)
    unfold handleGetValueResponse
    rw [hprogramId, hknown]
    simp only [TParameterData.programType, TParameterData.parameterId, htype, if_neg hother, hid]
    rw [hclasses, htype, hclassType, hcl]
    simp only [setParameter, hindex]
    change (cl.members .parameters)[id]?.map _ = _
    rw [hmember, Option.map_some]

/-- What the answer to a set request shows. -/
theorem decoded_confirms (hbehind : IsBehind (loadClasses files) received path param)
    (hencode : param.parameter.codec.encode stod text = .ok bytes)
    (hanswer : answer.Confirms (setRequestFrame param bytes)) :
    ∃ shown, (⟨param.parameter, 2, param.programId⟩ : ParameterUpdate).decoded formatFloat answer =
        .ok shown ∧
      param.parameter.codec.ShownAs formatFloat stod text shown := by
  have hlength := ISmartWebCodec.length_of_encode hencode
  obtain ⟨rest, hdata⟩ := @drop_setRequestFrame param bytes hlength
  rw [ParameterUpdate.decoded, hanswer.data, hdata]
  exact ISmartWebCodec.decode_encode hbehind.codec_writable hencode

end Answers

section Runs

variable {D : Type*} {driver : DeviceDriver D} {files : List (ClassObject × TDeviceClassSource)}
  {order : List TSmartWebClass}
  {orderPerm : order.Perm ((loadClasses files).classes.entries.map fun entry => entry.2)}
  {formatFloat : Double → String} {stod : String → Except String Double} {d : D}
  {s : LifeState D} {path : ControlPath} {text : String}

theorem grounded_of_leads (hdriver : driver.KeepsUserData)
    (hothers : ∀ path, (driver.devices d).userData? path = none)
    (h : Leads (LifeStep driver formatFloat stod) Anyhow
      (.initial (.initial (loadClasses files).classes order orderPerm) d) s) :
    s.Grounded driver (loadClasses files) stod := by
  refine h.invariant (fun _ _ _ hs _ hstep => hstep.grounded hdriver hs) ?_
  constructor
  case sameClasses => rfl
  case knows => exact ⟨rfl, [], .nil, rfl⟩
  case userData =>
    intro path param hdata
    cases (hothers path).symm.trans hdata
  case requested =>
    intro path text request hmem
    cases hmem

/-- Whatever is written to whatever control in whatever order: what is sent for it sets the entry
that the control shows, of the program that it shows, which has been announced, to the bytes that
the text stands for. -/
theorem written_values_reach_their_entry (hdriver : driver.KeepsUserData)
    (hothers : ∀ path, (driver.devices d).userData? path = none)
    (h : Leads (LifeStep driver formatFloat stod) Anyhow
      (.initial (.initial (loadClasses files).classes order orderPerm) d) s) :
    (∀ path text request, .setRequested path text request ∈ s.log →
      ∃ param bytes, IsBehind (loadClasses files) s.received path param ∧
        param.parameter.codec.encode stod text = .ok bytes ∧
        request = setRequestFrame param bytes) ∧
    ∀ path text frames, s.onValue driver stod path text = .ok frames →
      frames = [] ∨ ∃ param bytes, IsBehind (loadClasses files) s.received path param ∧
        param.parameter.codec.encode stod text = .ok bytes ∧
        frames = [setRequestFrame param bytes] := by
  have hs := grounded_of_leads hdriver hothers h
  exact ⟨hs.requested, fun _ _ _ => hs.onValue_cases⟩

/-- When a program repeats what it was sent, at any time afterwards, the answer is taken for the
parameter that was set, and the control that the text was written to shows what its bytes mean,
unless the entry is of a class with the type of programs in general. -/
theorem confirmed_value_is_shown (hdriver : driver.Documented)
    (hothers : ∀ path, (driver.devices d).userData? path = none)
    (h : Leads (LifeStep driver formatFloat stod) Anyhow
      (.initial (.initial (loadClasses files).classes order orderPerm) d) s)
    {request answer : TFrame} (hrequested : .setRequested path text request ∈ s.log)
    (hanswer : answer.Confirms request) :
    ∃ param bytes, IsBehind (loadClasses files) s.received path param ∧
      param.parameter.codec.encode stod text = .ok bytes ∧ request = setRequestFrame param bytes ∧
      (handleGetValueResponse s.gateway answer = some ⟨param.parameter, 2, param.programId⟩ ↔
        param.parameter.programClass.type ≠ ptProgram) ∧
      ∃ shown, param.parameter.codec.ShownAs formatFloat stod text shown ∧
        ∀ before made after, let update : ParameterUpdate := ⟨param.parameter, 2, param.programId⟩
          update.Publishes driver formatFloat answer before true made after →
            (driver.devices after).valueAt path = some shown := by
  have hs := grounded_of_leads hdriver.keepsUserData hothers h
  obtain ⟨param, bytes, hbehind, hencode, rfl⟩ := hs.requested path text request hrequested
  have hiff := handleGetValueResponse_confirms hs.sameClasses hs.knows hbehind hanswer
  obtain ⟨shown, hdecoded, hshown⟩ := @decoded_confirms files formatFloat stod param bytes path text
    answer s.received hbehind hencode hanswer
  refine ⟨param, bytes, hbehind, hencode, rfl, hiff, shown, hshown, ?_⟩
  intro before made after update hpublishes
  rw [hpublishes.valueAt_devices hdriver, if_pos ⟨rfl, hbehind.shown.symm⟩, hdecoded]

end Runs

/-! The work mode of a heating circuit is polled, written, and answered again. -/

def modeCircuit : ClassObject where
  className := "HEATING_CIRCUIT"
  programType := 14
  implements := ["PROGRAM"]
  inputs := none
  outputs := none
  parameters := some [("workMode", picklist workModes)]

def modeClass : TSmartWebClass := .ofObject 0 modeCircuit .builtin

def modeControl : ControlPath := ⟨"sw HEATING_CIRCUIT 7", "workMode"⟩

/-- `std::stod`, of which nothing is asked here. -/
def modeStod : String → Except String Double := fun _ => .error "stod"

def modeStart : LifeState LocalDevices :=
  .initial (.initial (loadClasses [(modeCircuit, .builtin)]).classes [modeClass]
    (List.Perm.refl _)) noDevices

def modeShown : LifeState LocalDevices :=
  (modeStart.taking (fun _ => "") circuitAnnouncement).taking (fun _ => "")
    ((typedRequest 14 (requestBuffer 7) 8).fullAnswer 7)

def modeRequests : List TFrame :=
  (modeShown.onValue memoryDriver modeStod modeControl "Standby").toOption.getD []

def modeWritten : LifeState LocalDevices :=
  { modeShown with log := modeRequests.map (.setRequested modeControl "Standby") ++ modeShown.log }

theorem modeRequests_length : modeRequests.length = 1 := by
  decide +kernel

theorem noDevices_userData (path : ControlPath) :
    (memoryDriver.devices noDevices).userData? path = none := rfl

theorem modeWritten_leads :
    Leads (LifeStep memoryDriver (fun _ => "") modeStod) Anyhow modeStart modeWritten := by
  have hstart : Leads (LifeStep memoryDriver (fun _ => "") modeStod) Anyhow modeStart modeStart :=
    .refl
  have hannounced := LifeState.leads_taking hstart rfl
    (show acceptFrame circuitAnnouncement by decide +kernel)
  have hannouncedPhase := LifeState.phase_taking (fun _ => "") modeStart circuitAnnouncement
  have hshown : Leads (LifeStep memoryDriver (fun _ => "") modeStod) Anyhow modeStart modeShown :=
    LifeState.leads_taking hannounced hannouncedPhase (by decide +kernel)
  have hphase : modeShown.phase = .running :=
    (LifeState.phase_taking _ _ _).trans hannouncedPhase
  have hcontrol : ((memoryDriver.devices modeShown.driver).control? modeControl).isSome := by
    decide +kernel
  refine hshown.step (.written (Or.inl (Or.inl hphase)) hcontrol ?_)
  have hlength := modeRequests_length
  unfold modeRequests at hlength ⊢
  cases hvalue : modeShown.onValue memoryDriver modeStod modeControl "Standby" with
  | ok frames => rfl
  | error failure =>
    rw [hvalue] at hlength
    cases hlength

theorem modeRequests_sent :
    ∃ request, modeRequests = [request] ∧
      .setRequested modeControl "Standby" request ∈ modeWritten.log := by
  obtain ⟨request, hrequest⟩ := List.length_eq_one_iff.mp modeRequests_length
  refine ⟨request, hrequest, List.mem_append_left _ ?_⟩
  rw [hrequest]
  exact List.mem_singleton_self _

theorem written_values_reach_their_entry_mode :
    ∃ request param bytes, modeRequests = [request] ∧
      IsBehind (loadClasses [(modeCircuit, .builtin)]) modeWritten.received modeControl param ∧
      param.parameter.codec.encode modeStod "Standby" = .ok bytes ∧
      request = setRequestFrame param bytes := by
  obtain ⟨request, hrequest, hmem⟩ := modeRequests_sent
  obtain ⟨param, bytes, hbehind, hencode, hframe⟩ := (written_values_reach_their_entry
    memoryDriver_documented.keepsUserData noDevices_userData modeWritten_leads).1 _ _ _ hmem
  exact ⟨request, param, bytes, hrequest, hbehind, hencode, hframe⟩

theorem TFrame.fullAnswer_confirms (request : TFrame) :
    (request.fullAnswer request.header.programId).Confirms request := by
  have hlength : (0 : Byte).toNat + 0 ≤ 8 := by decide
  have hanswer := @TFrame.fullAnswer_answersPoll { request with canDlc := 0 }
    request.header.programId 0 hlength
  exact ⟨hanswer.accepted, hanswer.programType, hanswer.functionId, hanswer.programId, rfl⟩

/-- The mode that was written is shown as soon as the program repeats it. -/
theorem confirmed_value_is_shown_mode :
    ∃ (request : TFrame) (param : TSmartWebParameterControl) (bytes : List Byte),
      modeRequests = [request] ∧ request = setRequestFrame param bytes ∧
      (handleGetValueResponse modeWritten.gateway (request.fullAnswer request.header.programId) =
          some ⟨param.parameter, 2, param.programId⟩ ↔
        param.parameter.programClass.type ≠ ptProgram) := by
  obtain ⟨request, hrequest, hmem⟩ := modeRequests_sent
  obtain ⟨param, bytes, _, _, hframe, hiff, _⟩ := confirmed_value_is_shown memoryDriver_documented
    noDevices_userData modeWritten_leads hmem request.fullAnswer_confirms
  exact ⟨request, param, bytes, hrequest, hframe, hiff⟩

end SmartWebGateway
