import SmartWebGateway.Poller.Reader
import Mathlib.Tactic

/-!
# What a poll asks for and where its answer goes

A poll names an input or an output by its id alone, and a parameter by the type
of the class that lists it. The reader looks an input or an output up in the
program's own class, and a parameter in the class of the type, where the type
of a program in general stands for inputs and outputs. The two agree for the
own inputs and outputs, and for the parameters of every other type.
-/
namespace SmartWebGateway

open Foundation
open TSmartWebToMqttGateway

/-- A program's answer to a poll: its response repeats the bytes of the poll, and at least the bytes
of the value follow. -/
structure TFrame.AnswersPoll (response poll : TFrame) (programId : Byte) (size : ℕ) : Prop where
  extended : response.Extended
  programType : response.header.programType = ptRemoteControl
  functionId : response.header.functionId = RemoteControl.Function.getParameterValue
  messageType : response.header.messageType = mtMsgResponse
  programId : response.header.programId = programId
  repeats : ∀ i < poll.canDlc.toNat, response.data[i]! = poll.data[i]!
  long : poll.canDlc.toNat + size ≤ response.canDlc.toNat
  short : response.canDlc.toNat ≤ 8

/-- Whatever answers the poll is accepted and leads to the update of `x` from the byte right after
those of the poll. -/
def TSmartWebToMqttGateway.Agrees (gateway : TSmartWebToMqttGateway) (programId : Byte)
    (poll : TFrame) (x : TSmartWebParameter) : Prop :=
  ∀ response : TFrame, response.AnswersPoll poll programId x.codec.size →
    acceptFrame response ∧ ∀ fuel, handleFrame fuel gateway response =
      some (gateway, some ⟨x, poll.canDlc.toNat, programId⟩)

section Table

variable {gateway : TSmartWebToMqttGateway} {files : List (ClassObject × TDeviceClassSource)}
  (htable : gateway.classes = (loadClasses files).classes) {C D : TSmartWebClass}
include htable

theorem lookup_of_mem_order (hD : D ∈ gateway.order) :
    gateway.classes.lookup D.type = some D ∧ D.WellFormed := by
  obtain ⟨⟨type, D'⟩, hentry, rfl⟩ := List.mem_map.mp (gateway.orderPerm.mem_iff.mp hD)
  have hlookup : gateway.classes.lookup type = some D' := AList.mem_lookup_iff.mpr hentry
  obtain ⟨htype, hwell⟩ := wellFormed_loadClasses files type D' (htable ▸ hlookup)
  exact ⟨htype ▸ hlookup, hwell⟩

omit htable in
theorem mem_order_of_visits (hC : C ∈ gateway.order)
    (hD : Visits (TSmartWebClass.parents gateway.order) C D) : D ∈ gateway.order := by
  induction hD with
  | refl => exact hC
  | tail _ hparent _ =>
    obtain ⟨c, _, hc⟩ := List.mem_filterMap.mp hparent
    exact List.mem_of_find?_eq_some hc

theorem eq_of_type_eq (hC : C ∈ gateway.order) (hD : D ∈ gateway.order)
    (htype : D.type = C.type) : D = C := by
  have hlookup := (lookup_of_mem_order htable hD).1
  rw [htype, (lookup_of_mem_order htable hC).1] at hlookup
  exact (Option.some.inj hlookup).symm

end Table

section Responses

variable {gateway : TSmartWebToMqttGateway} {programId : Byte} {C D : TSmartWebClass} {id size : ℕ}
  {poll response : TFrame}

theorem TFrame.AnswersPoll.accepted (h : response.AnswersPoll poll programId size) :
    acceptFrame response := by
  have hother : ptRemoteControl ≠ ptProgram := by decide
  simp [acceptFrame, h.extended, h.messageType, h.programType, h.functionId, hother]

theorem TFrame.AnswersPoll.handleFrame_eq (h : response.AnswersPoll poll programId size)
    (fuel : ℕ) :
    handleFrame fuel gateway response =
      some (gateway, handleGetValueResponse gateway response) := by
  have hother : ptRemoteControl ≠ ptProgram := by decide
  simp [handleFrame, h.programType, h.functionId, hother]

theorem setParameter_eq {params : ParameterMap} {x : TSmartWebParameter}
    (hx : params[id]? = some x) (hid : id ≤ 255) (valueOffset : ℕ) :
    setParameter params (BitVec.ofNat 8 id) valueOffset programId =
      some ⟨x, valueOffset, programId⟩ := by
  have htoNat : (BitVec.ofNat 8 id).toNat = id := by
    rw [BitVec.toNat_ofNat]
    omega
  rw [setParameter, htoNat, hx, Option.map_some]

variable (hknown : gateway.knownPrograms.lookup programId = some C) {s : Section}
include hknown

theorem handleGetValueResponse_indexed (h : response.AnswersPoll poll programId size)
    {parameterId : Byte} (hs : s.parameterId? = some parameterId) (hpoll : poll.Selects D id s) :
    handleGetValueResponse gateway response =
      setParameter (C.members s) (BitVec.ofNat 8 id) 3 programId := by
  rw [TFrame.Selects, hs] at hpoll
  obtain ⟨hdlc, h0, h1, h2⟩ := hpoll
  have hrepeats := h.repeats
  rw [hdlc] at hrepeats
  have hdata0 := (hrepeats 0 (by decide)).trans h0
  have hdata1 := (hrepeats 1 (by decide)).trans h1
  have hdata2 := (hrepeats 2 (by decide)).trans h2
  have hkinds : RemoteControl.Parameters.output ≠ RemoteControl.Parameters.sensor := by decide
  rw [handleGetValueResponse, h.programId, hknown]
  simp only [TParameterData.programType, TParameterData.parameterId, TParameterData.index, hdata0,
    hdata1, hdata2, if_true]
  cases s with
  | inputs =>
    cases hs
    rw [if_pos rfl, TSmartWebClass.members]
  | outputs =>
    cases hs
    rw [if_neg hkinds, if_pos rfl, TSmartWebClass.members]
  | parameters => cases hs

/-- The answer to a poll for a parameter is looked up in the class of its type, unless the type is
that of a program in general. -/
theorem handleGetValueResponse_typed (h : response.AnswersPoll poll programId size)
    (hlookup : gateway.classes.lookup D.type = some D) (htype : D.type ≠ ptProgram)
    (hpoll : poll.Selects D id .parameters) :
    handleGetValueResponse gateway response =
      setParameter (D.members .parameters) (BitVec.ofNat 8 id) 2 programId := by
  obtain ⟨hdlc, h0, h1⟩ := hpoll
  have hrepeats := h.repeats
  rw [hdlc] at hrepeats
  have hdata0 := (hrepeats 0 (by decide)).trans h0
  have hdata1 := (hrepeats 1 (by decide)).trans h1
  rw [handleGetValueResponse, h.programId, hknown]
  simp only [TParameterData.programType, TParameterData.parameterId, hdata0, hdata1,
    if_neg htype]
  rw [hdata0, hlookup, TSmartWebClass.members]

omit hknown in
/-- Under the type of a program in general a value begins after an index. -/
theorem valueOffset_of_ptProgram (h0 : response.data[0]! = ptProgram) {update : ParameterUpdate}
    (hupdate : handleGetValueResponse gateway response = some update) :
    update.valueOffset = 3 := by
  unfold handleGetValueResponse at hupdate
  cases hlookup : gateway.knownPrograms.lookup response.header.programId with
  | none => simp [hlookup] at hupdate
  | some cl =>
    simp only [hlookup, TParameterData.programType, h0, if_true] at hupdate
    split_ifs at hupdate
    · obtain ⟨p, _, rfl⟩ := Option.map_eq_some_iff.mp hupdate
      rfl
    · obtain ⟨p, _, rfl⟩ := Option.map_eq_some_iff.mp hupdate
      rfl

end Responses

/-- A program's answer of full length to a poll. -/
def TFrame.fullAnswer (poll : TFrame) (programId : Byte) : TFrame :=
  { poll with
    canId := { TCanHeader.ofRaw 0 with
      programType := ptRemoteControl
      programId := programId
      functionId := RemoteControl.Function.getParameterValue
      messageType := mtMsgResponse }.raw ||| canEffFlag
    canDlc := 8 }

theorem TFrame.fullAnswer_answersPoll {poll : TFrame} (programId : Byte) {size : ℕ}
    (hsize : poll.canDlc.toNat + size ≤ 8) :
    (poll.fullAnswer programId).AnswersPoll poll programId size where
  extended := TFrame.extended_of_or_eff rfl
  programType := by simp [fullAnswer, header]
  functionId := by simp [fullAnswer, header]
  messageType := by simp [fullAnswer, header]
  programId := by simp [fullAnswer, header]
  repeats _ _ := rfl
  long := hsize
  short := le_rfl

theorem TSmartWebToMqttGateway.Agrees.fullAnswer {gateway : TSmartWebToMqttGateway}
    {programId : Byte} {poll : TFrame} {x : TSmartWebParameter}
    (h : gateway.Agrees programId poll x) (hdlc : poll.canDlc.toNat ≤ 3) :
    (poll.fullAnswer programId).AnswersPoll poll programId x.codec.size ∧
      handleGetValueResponse gateway (poll.fullAnswer programId) =
        some ⟨x, poll.canDlc.toNat, programId⟩ := by
  have hsize := x.codec.size_le
  have hanswer := TFrame.fullAnswer_answersPoll programId
    (show poll.canDlc.toNat + x.codec.size ≤ 8 by omega)
  have hupdate := (h _ hanswer).2 0
  rw [hanswer.handleFrame_eq] at hupdate
  obtain ⟨_, hresponse⟩ := Prod.mk.inj (Option.some.inj hupdate)
  exact ⟨hanswer, hresponse⟩

section Agreement

variable {files : List (ClassObject × TDeviceClassSource)} {gateway : TSmartWebToMqttGateway}
  (htable : gateway.classes = (loadClasses files).classes) {programId : Byte} {C : TSmartWebClass}
  (hknown : gateway.knownPrograms.lookup programId = some C) {D : TSmartWebClass}
  (hD : D ∈ gateway.order) {s : Section} {id : ℕ} {x : TSmartWebParameter}
  (hx : (D.members s)[id]? = some x) {poll : TFrame} (hpoll : poll.Selects D id s)
include htable hknown hD hx hpoll

theorem agrees_indexed_iff (hC : C ∈ gateway.order) {parameterId : Byte}
    (hs : s.parameterId? = some parameterId) : gateway.Agrees programId poll x ↔ D = C := by
  have hdlc : poll.canDlc.toNat = 3 := by
    rw [TFrame.Selects, hs] at hpoll
    rw [hpoll.1]
    rfl
  obtain ⟨_, hid, hclass⟩ := (lookup_of_mem_order htable hD).2 s id x hx
  constructor
  · intro hagrees
    obtain ⟨hanswer, hset⟩ := hagrees.fullAnswer hdlc.le
    rw [handleGetValueResponse_indexed hknown hanswer hs hpoll] at hset
    obtain ⟨y, hy, hyx⟩ := Option.map_eq_some_iff.mp hset
    rw [(ParameterUpdate.mk.inj hyx).1] at hy
    obtain ⟨_, _, hclass'⟩ := (lookup_of_mem_order htable hC).2 s _ x hy
    apply eq_of_type_eq htable hC hD
    exact congrArg TSmartWebClassRef.type (hclass.symm.trans hclass')
  · intro hDC response hresponse
    refine ⟨hresponse.accepted, fun fuel => ?_⟩
    rw [hresponse.handleFrame_eq, handleGetValueResponse_indexed hknown hresponse hs hpoll, ← hDC,
      setParameter_eq hx hid, hdlc]

omit hpoll in
theorem agrees_typed_iff (hs : s = .parameters) (hpoll : poll.Selects D id .parameters) :
    gateway.Agrees programId poll x ↔ D.type ≠ ptProgram := by
  subst hs
  have hdlc : poll.canDlc.toNat = 2 := congrArg BitVec.toNat hpoll.1
  obtain ⟨hlookup, hwell⟩ := lookup_of_mem_order htable hD
  obtain ⟨_, hid, _⟩ := hwell .parameters id x hx
  constructor
  · intro hagrees htype
    obtain ⟨_, hset⟩ := hagrees.fullAnswer (by omega)
    have hdata : (poll.fullAnswer programId).data[0]! = ptProgram := hpoll.2.1.trans htype
    have hoffset := valueOffset_of_ptProgram hdata hset
    change poll.canDlc.toNat = 3 at hoffset
    omega
  · intro htype response hresponse
    refine ⟨hresponse.accepted, fun fuel => ?_⟩
    rw [hresponse.handleFrame_eq, handleGetValueResponse_typed hknown hresponse hlookup htype hpoll,
      setParameter_eq hx hid, hdlc]

end Agreement

/-- For every class table that is loaded, `AddRequests` polls a known program for the members of its
class and of the classes that its class comes to, and for nothing else. A poll agrees with its
answers if the member is a parameter of another type than that of a program in general, or an
input or an output of the program's own class, and only then. -/
theorem poll_response_agree_iff {files : List (ClassObject × TDeviceClassSource)}
    {gateway : TSmartWebToMqttGateway} (htable : gateway.classes = (loadClasses files).classes)
    {programId : Byte} {C : TSmartWebClass}
    (hknown : gateway.knownPrograms.lookup programId = some C) (hC : C ∈ gateway.order)
    {fuel : ℕ} {requests result : List TFrame}
    (hadd : addRequests gateway.order programId fuel C requests = some result) :
    ∃ added, result = requests ++ added ∧
      (∀ f ∈ added, ∃ D, Visits (TSmartWebClass.parents gateway.order) C D ∧
        ∃ s id x, (D.members s)[id]? = some x ∧ f.Polls programId D id s) ∧
      ∀ D, Visits (TSmartWebClass.parents gateway.order) C D →
        ∀ s id x, (D.members s)[id]? = some x →
          (∃ f ∈ added, f.Polls programId D id s) ∧
          ∀ f ∈ added, f.Polls programId D id s →
            (gateway.Agrees programId f x ↔
              if s = .parameters then D.type ≠ ptProgram else D = C) := by
  obtain ⟨added, hresult, hfor, hall⟩ := mem_addRequests hadd
  refine ⟨added, hresult, ?_, ?_⟩
  · intro f hf
    obtain ⟨D, hD, s, id, hid, hpolls⟩ := hfor f hf
    rw [Std.TreeMap.mem_keys, Std.TreeMap.mem_iff_isSome_getElem?] at hid
    obtain ⟨x, hx⟩ := Option.isSome_iff_exists.mp hid
    exact ⟨D, hD, s, id, x, hx, hpolls⟩
  · intro D hD s id x hx
    have hmem := mem_order_of_visits hC hD
    have hkey : id ∈ (D.members s).keys := by
      rw [Std.TreeMap.mem_keys, Std.TreeMap.mem_iff_isSome_getElem?, hx]
      rfl
    refine ⟨hall D hD s id hkey, ?_⟩
    intro f _ hpolls
    cases s with
    | inputs => exact agrees_indexed_iff htable hknown hmem hx hpolls.2 hC rfl
    | outputs => exact agrees_indexed_iff htable hknown hmem hx hpolls.2 hC rfl
    | parameters => exact agrees_typed_iff htable hknown hmem hx rfl hpolls.2

/-! A heating circuit with a flow sensor implements a circuit with a return sensor. -/

def circuit : ClassObject where
  className := "CIRCUIT"
  programType := 12
  implements := ["PROGRAM"]
  inputs := some [("returnTemperature", ⟨4, "temperature", by decide⟩)]
  outputs := none
  parameters := none

def heatingCircuit : ClassObject where
  className := "HEATING_CIRCUIT"
  programType := 14
  implements := ["PROGRAM", "CIRCUIT"]
  inputs := some [("flowTemperature", ⟨0, "temperature", by decide⟩)]
  outputs := none
  parameters := none

def circuitClass : TSmartWebClass := .ofObject 0 circuit .user
def heatingCircuitClass : TSmartWebClass := .ofObject 1 heatingCircuit .user

def circuitGateway : TSmartWebToMqttGateway where
  classes := (loadClasses [(circuit, .user), (heatingCircuit, .user)]).classes
  order := [heatingCircuitClass, circuitClass]
  knownPrograms := (∅ : AList fun _ : Byte => TSmartWebClass).insert 7 heatingCircuitClass
  requests := []
  orderPerm := List.Perm.refl _

def circuitRequests : Option (List TFrame) :=
  addRequests circuitGateway.order 7 2 heatingCircuitClass []

theorem poll_response_agree_circuit :
    ∃ f ∈ circuitRequests.getD [], f.Polls 7 heatingCircuitClass 0 .inputs ∧
      ∀ x, heatingCircuitClass.inputs[0]? = some x → circuitGateway.Agrees 7 f x := by
  obtain ⟨result, hresult⟩ : ∃ result, circuitRequests = some result :=
    Option.isSome_iff_exists.mp (by decide +kernel)
  obtain ⟨x, hx⟩ : ∃ x, heatingCircuitClass.inputs[0]? = some x :=
    Option.isSome_iff_exists.mp (by decide +kernel)
  have hknown : circuitGateway.knownPrograms.lookup 7 = some heatingCircuitClass :=
    AList.lookup_insert _
  obtain ⟨added, rfl, _, hall⟩ := poll_response_agree_iff rfl hknown List.mem_cons_self hresult
  obtain ⟨⟨f, hf, hpolls⟩, hagrees⟩ := hall heatingCircuitClass .refl .inputs 0 x hx
  refine ⟨f, ?_, hpolls, ?_⟩
  · rw [hresult]
    exact hf
  · intro y hy
    rw [hx] at hy
    exact Option.some.inj hy ▸ (hagrees f hf hpolls).mpr rfl

def circuitPoll : TFrame :=
  indexedRequest RemoteControl.Parameters.sensor (requestBuffer 7) 4

/-- The heating circuit is asked for the circuit's input, and what it answers is dropped. -/
theorem parent_input_dropped :
    circuitClass ∈ heatingCircuitClass.parents circuitGateway.order ∧
      (circuitClass.inputs[4]?.map (·.codec)) = some .sensor ∧
      circuitPoll ∈ circuitRequests.getD [] ∧ circuitPoll.Polls 7 circuitClass 4 .inputs ∧
      (circuitPoll.fullAnswer 7).AnswersPoll circuitPoll 7 2 ∧
      handleGetValueResponse circuitGateway (circuitPoll.fullAnswer 7) = none := by
  refine ⟨List.mem_singleton_self _, by decide +kernel, by decide +kernel, ?_,
    TFrame.fullAnswer_answersPoll 7 (by decide +kernel), by decide +kernel⟩
  exact ⟨rfl, indexedRequest_selects RemoteControl.Parameters.sensor (requestBuffer 7) 4 |>.2⟩

end SmartWebGateway
