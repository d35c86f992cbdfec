import SmartWebGateway.Foundation.Paths
import SmartWebGateway.Poller.RoundTrip
import Mathlib.Tactic

/-!
# What is polled for a class and its ancestors

The requests for one class are written out here, byte by byte. The walk over
the classes then tells everything that is polled for a program: which requests
there are, whether there is an end to them, and whether one comes twice.
-/
namespace SmartWebGateway

open Foundation

/-- A request as `AddRequests` writes it: at most three bytes of the buffer are ever used. -/
def requestFrame (programId dlc b0 b1 b2 : Byte) : TFrame where
  canId := getParameterValueId programId
  canDlc := dlc
  data := #v[b0, b1, b2, 0, 0, 0, 0, 0]

/-- What a request names the member by, of an input or an output and of a parameter. -/
def TSmartWebClass.payload (cl : TSmartWebClass) (s : Section) (id : ℕ) : List ℕ :=
  match s.parameterId? with
  | some parameterId => [ptProgram.toNat, parameterId.toNat, id]
  | none => [cl.type.toNat, id]

def TSmartWebClass.payloads (cl : TSmartWebClass) : List (List ℕ) :=
  [Section.inputs, .outputs, .parameters].flatMap fun s => (cl.members s).keys.map (cl.payload s)

def TFrame.payload (f : TFrame) : List ℕ :=
  (f.data.toList.take f.canDlc.toNat).map BitVec.toNat

/-- A `GET_PARAMETER_VALUE` request to a program, as long as what it holds. -/
structure TFrame.AsksProgram (f : TFrame) (programId : Byte) : Prop where
  extended : f.Extended
  programType : f.header.programType = ptRemoteControl
  programId : f.header.programId = programId
  functionId : f.header.functionId = RemoteControl.Function.getParameterValue
  messageType : f.header.messageType = mtMsgRequest
  length : f.canDlc.toNat = f.payload.length

section Own

variable {programId : Byte}

theorem requestBuffer_eq (programId : Byte) :
    requestBuffer programId = requestFrame programId 0 0 0 0 := rfl

theorem indexedRequest_requestFrame (parameterId dlc b0 b1 b2 : Byte) (id : ℕ) :
    indexedRequest parameterId (requestFrame programId dlc b0 b1 b2) id =
      requestFrame programId 3 ptProgram parameterId (BitVec.ofNat 8 id) := rfl

theorem typedRequest_requestFrame (type dlc b0 b1 b2 : Byte) (id : ℕ) :
    typedRequest type (requestFrame programId dlc b0 b1 b2) id =
      requestFrame programId 2 type (BitVec.ofNat 8 id) b2 := rfl

theorem foldl_indexedRequest (parameterId : Byte) (ids : List ℕ) (requests : List TFrame)
    (dlc b0 b1 b2 : Byte) :
    ∃ dlc' b0' b1' b2', ids.foldl (pushRequest (indexedRequest parameterId))
        (requests, requestFrame programId dlc b0 b1 b2) =
      (requests ++ ids.map fun id => requestFrame programId 3 ptProgram parameterId
        (BitVec.ofNat 8 id), requestFrame programId dlc' b0' b1' b2') := by
  induction ids generalizing requests dlc b0 b1 b2 with
  | nil => exact ⟨dlc, b0, b1, b2, by simp⟩
  | cons id ids ih =>
    obtain ⟨dlc', b0', b1', b2', hrest⟩ :=
      ih (requests ++ [requestFrame programId 3 ptProgram parameterId (BitVec.ofNat 8 id)]) 3
        ptProgram parameterId (BitVec.ofNat 8 id)
    refine ⟨dlc', b0', b1', b2', ?_⟩
    rw [List.foldl_cons, pushRequest, indexedRequest_requestFrame, hrest, List.map_cons,
      List.append_assoc, List.singleton_append]

theorem foldl_typedRequest (type : Byte) (ids : List ℕ) (requests : List TFrame)
    (dlc b0 b1 b2 : Byte) :
    (ids.foldl (pushRequest (typedRequest type))
      (requests, requestFrame programId dlc b0 b1 b2)).1 =
      requests ++ ids.map fun id => requestFrame programId 2 type (BitVec.ofNat 8 id) b2 := by
  induction ids generalizing requests dlc b0 b1 with
  | nil => simp
  | cons id ids ih =>
    rw [List.foldl_cons, pushRequest, typedRequest_requestFrame, ih, List.map_cons,
      List.append_assoc, List.singleton_append]

/-- The request for a member of a class; `residue` is what a request for a parameter leaves in
the byte after it. -/
def TSmartWebClass.request (cl : TSmartWebClass) (programId residue : Byte) (s : Section)
    (id : ℕ) : TFrame :=
  match s.parameterId? with
  | some parameterId => requestFrame programId 3 ptProgram parameterId (BitVec.ofNat 8 id)
  | none => requestFrame programId 2 cl.type (BitVec.ofNat 8 id) residue

theorem exists_addOwnRequests_eq (programId : Byte) (cl : TSmartWebClass) :
    ∃ residue, addOwnRequests programId cl [] =
      [Section.inputs, .outputs, .parameters].flatMap fun s =>
        (cl.members s).keys.map (cl.request programId residue s) := by
  obtain ⟨dlc, b0, b1, b2, hinputs⟩ := @foldl_indexedRequest programId
    RemoteControl.Parameters.sensor cl.inputs.keys [] 0 0 0 0
  obtain ⟨dlc', b0', b1', residue, houtputs⟩ := @foldl_indexedRequest programId
    RemoteControl.Parameters.output cl.outputs.keys
    (cl.inputs.keys.map fun id => requestFrame programId 3 ptProgram
      RemoteControl.Parameters.sensor (BitVec.ofNat 8 id)) dlc b0 b1 b2
  refine ⟨residue, ?_⟩
  rw [List.nil_append] at hinputs
  rw [addOwnRequests, requestBuffer_eq, hinputs, houtputs, foldl_typedRequest]
  simp only [List.flatMap_cons, List.flatMap_nil, List.append_nil, List.append_assoc]
  rfl

theorem requestFrame_payload (dlc b0 b1 b2 : Byte) :
    (requestFrame programId dlc b0 b1 b2).payload =
      ([b0, b1, b2, 0, 0, 0, 0, 0].take dlc.toNat).map BitVec.toNat := rfl

theorem TSmartWebClass.request_payload {cl : TSmartWebClass} {residue : Byte} {s : Section}
    {id : ℕ} (hid : id ≤ 255) :
    (cl.request programId residue s id).payload = cl.payload s id := by
  have hbyte : (BitVec.ofNat 8 id).toNat = id := by
    rw [BitVec.toNat_ofNat]
    omega
  cases s <;> simp [request, payload, Section.parameterId?, requestFrame_payload, hbyte]

theorem requestFrame_asksProgram {dlc : Byte} (hdlc : dlc.toNat ≤ 8) (b0 b1 b2 : Byte) :
    (requestFrame programId dlc b0 b1 b2).AsksProgram programId where
  extended := TFrame.extended_of_or_eff rfl
  programType := by simp [TFrame.header, requestFrame, getParameterValueId]
  programId := by simp [TFrame.header, requestFrame, getParameterValueId]
  functionId := by simp [TFrame.header, requestFrame, getParameterValueId]
  messageType := by simp [TFrame.header, requestFrame, getParameterValueId]
  length := by
    rw [requestFrame_payload, List.length_map, List.length_take]
    exact (min_eq_left hdlc).symm

theorem TSmartWebClass.request_asksProgram (cl : TSmartWebClass) (residue : Byte) (s : Section)
    (id : ℕ) : (cl.request programId residue s id).AsksProgram programId := by
  cases s with
  | inputs => exact requestFrame_asksProgram (by decide) _ _ _
  | outputs => exact requestFrame_asksProgram (by decide) _ _ _
  | parameters => exact requestFrame_asksProgram (by decide) _ _ _

theorem TSmartWebClass.mem_payloads {cl : TSmartWebClass} {payload : List ℕ} :
    payload ∈ cl.payloads ↔ ∃ s, ∃ id ∈ (cl.members s).keys, payload = cl.payload s id := by
  constructor
  · intro hmem
    obtain ⟨s, _, hmem⟩ := List.mem_flatMap.mp hmem
    obtain ⟨id, hid, rfl⟩ := List.mem_map.mp hmem
    exact ⟨s, id, hid, rfl⟩
  · rintro ⟨s, id, hid, rfl⟩
    apply List.mem_flatMap.mpr
    exact ⟨s, by cases s <;> simp, List.mem_map_of_mem hid⟩

/-- A payload tells the section and the id, and of a parameter the type of its class. -/
theorem TSmartWebClass.payload_inj {cl cl' : TSmartWebClass} {s s' : Section} {id id' : ℕ}
    (h : cl.payload s id = cl'.payload s' id') :
    s = s' ∧ id = id' ∧ (s = .parameters → cl.type = cl'.type) := by
  cases s <;> cases s' <;>
    simp_all [payload, Section.parameterId?, RemoteControl.Parameters.sensor,
      RemoteControl.Parameters.output, BitVec.toNat_inj]

theorem mem_addOwnRequests_iff (programId : Byte) (cl : TSmartWebClass) :
    ∃ residue, ∀ f, f ∈ addOwnRequests programId cl [] ↔
      ∃ s, ∃ id ∈ (cl.members s).keys, f = cl.request programId residue s id := by
  obtain ⟨residue, hown⟩ := exists_addOwnRequests_eq programId cl
  refine ⟨residue, fun f => ?_⟩
  rw [hown]
  constructor
  · intro hf
    obtain ⟨s, _, hf⟩ := List.mem_flatMap.mp hf
    obtain ⟨id, hid, rfl⟩ := List.mem_map.mp hf
    exact ⟨s, id, hid, rfl⟩
  · rintro ⟨s, id, hid, rfl⟩
    apply List.mem_flatMap.mpr
    exact ⟨s, by cases s <;> simp, List.mem_map_of_mem hid⟩

theorem map_payload_addOwnRequests {cl : TSmartWebClass}
    (hids : ∀ s, ∀ id ∈ (cl.members s).keys, id ≤ 255) :
    (addOwnRequests programId cl []).map TFrame.payload = cl.payloads := by
  obtain ⟨residue, hown⟩ := exists_addOwnRequests_eq programId cl
  rw [hown, TSmartWebClass.payloads, List.map_flatMap]
  congr 1
  funext s
  rw [List.map_map]
  exact List.map_congr_left fun id hid => TSmartWebClass.request_payload (hids s id hid)

end Own

section Exact

variable {classes : List TSmartWebClass} {programId : Byte} {fuel : ℕ} {cl : TSmartWebClass}
  {requests result : List TFrame}

theorem addRequests_eq_some_iff :
    (∃ fuel, addRequests classes programId fuel cl requests = some result) ↔
      ∃ added, Emits (TSmartWebClass.parents classes) (fun D => addOwnRequests programId D []) cl
        added ∧ result = requests ++ added := by
  simp only [addRequests_eq_walk, walk_eq_map _ cl requests, Option.map_eq_some_iff, Emits]
  constructor
  · rintro ⟨fuel, added, hadded, rfl⟩
    exact ⟨added, ⟨fuel, hadded⟩, rfl⟩
  · rintro ⟨added, ⟨fuel, hadded⟩, rfl⟩
    exact ⟨fuel, added, hadded, rfl⟩

theorem of_mem_parents {D : TSmartWebClass} (hD : D ∈ cl.parents classes) :
    D ∈ classes ∧ D.name ∈ cl.parentClasses := by
  obtain ⟨c, hc, hfound⟩ := List.mem_filterMap.mp hD
  have hname : D.name = c := by simpa using List.find?_some hfound
  exact ⟨List.mem_of_find?_eq_some hfound, hname ▸ hc⟩

theorem mem_cons_of_visits {D : TSmartWebClass}
    (hD : Visits (TSmartWebClass.parents classes) cl D) : D ∈ cl :: classes := by
  cases hD with
  | refl => exact List.mem_cons_self
  | tail _ hparent => exact List.mem_cons_of_mem cl (of_mem_parents hparent).1

/-- Whenever `AddRequests` returns, it has appended to the list, which stays in front, exactly the
requests for the members of the class and of the classes that it comes to. -/
theorem addRequests_exact
    (hids : ∀ D ∈ cl :: classes, ∀ s, ∀ id ∈ (D.members s).keys, id ≤ 255)
    (h : addRequests classes programId fuel cl requests = some result) :
    ∃ added, result = requests ++ added ∧ (∀ f ∈ added, f.AsksProgram programId) ∧
      ∀ payload, payload ∈ added.map TFrame.payload ↔
        ∃ D, Visits (TSmartWebClass.parents classes) cl D ∧
          ∃ s, ∃ id ∈ (D.members s).keys, payload = D.payload s id := by
  obtain ⟨added, hadded, rfl⟩ := addRequests_eq_some_iff.mp ⟨fuel, h⟩
  refine ⟨added, rfl, ?_, ?_⟩
  · intro f hf
    obtain ⟨D, _, hown⟩ := (mem_of_emits hadded f).mp hf
    obtain ⟨residue, hiff⟩ := mem_addOwnRequests_iff programId D
    obtain ⟨s, id, _, rfl⟩ := (hiff f).mp hown
    exact D.request_asksProgram residue s id
  · intro payload
    rw [mem_of_emits (hadded.map TFrame.payload)]
    refine exists_congr fun D => and_congr_right fun hD => ?_
    rw [map_payload_addOwnRequests (hids D (mem_cons_of_visits hD)), TSmartWebClass.mem_payloads]

end Exact

/-- An order in which the table that some files leave may be iterated over. -/
def IteratesOver (files : List (ClassObject × TDeviceClassSource)) (order : List TSmartWebClass) :
    Prop :=
  order.Perm ((loadClasses files).classes.entries.map fun entry => entry.2)

section Tables

variable {files : List (ClassObject × TDeviceClassSource)} {order : List TSmartWebClass}
  {C D : TSmartWebClass}

def IteratesOver.gateway (h : IteratesOver files order) : TSmartWebToMqttGateway where
  classes := (loadClasses files).classes
  order := order
  knownPrograms := ∅
  requests := []
  orderPerm := h

theorem IteratesOver.keys_le (h : IteratesOver files order) (hD : D ∈ order) (s : Section) :
    ∀ id ∈ (D.members s).keys, id ≤ 255 := by
  intro id hid
  rw [Std.TreeMap.mem_keys, Std.TreeMap.mem_iff_isSome_getElem?] at hid
  obtain ⟨x, hx⟩ := Option.isSome_iff_exists.mp hid
  exact ((@lookup_of_mem_order h.gateway files rfl D hD).2 s id x hx).2.1

theorem IteratesOver.eq_of_type_eq (h : IteratesOver files order) (hC : C ∈ order)
    (hD : D ∈ order) (htype : D.type = C.type) : D = C :=
  @SmartWebGateway.eq_of_type_eq h.gateway files rfl C D hC hD htype

/-- In a table, what is sent of a request tells the rest of its buffer. -/
theorem IteratesOver.request_ext (h : IteratesOver files order) {programId : Byte} (hC : C ∈ order)
    (hD : D ∈ order) {f g : TFrame} (hf : f ∈ addOwnRequests programId C [])
    (hg : g ∈ addOwnRequests programId D []) (hpayload : f.payload = g.payload) : f = g := by
  obtain ⟨residue, hiff⟩ := mem_addOwnRequests_iff programId C
  obtain ⟨s, id, hid, rfl⟩ := (hiff f).mp hf
  rw [C.request_payload (h.keys_le hC s id hid)] at hpayload
  by_cases hCD : C = D
  · subst hCD
    obtain ⟨s', id', hid', rfl⟩ := (hiff g).mp hg
    rw [C.request_payload (h.keys_le hC s' id' hid')] at hpayload
    obtain ⟨rfl, rfl, _⟩ := TSmartWebClass.payload_inj hpayload
    rfl
  · obtain ⟨residue', hiff'⟩ := mem_addOwnRequests_iff programId D
    obtain ⟨s', id', hid', rfl⟩ := (hiff' g).mp hg
    rw [D.request_payload (h.keys_le hD s' id' hid')] at hpayload
    obtain ⟨rfl, rfl, htype⟩ := TSmartWebClass.payload_inj hpayload
    cases s with
    | inputs => rfl
    | outputs => rfl
    | parameters => exact absurd (h.eq_of_type_eq hD hC (htype rfl)) hCD

theorem mem_of_visits (hC : C ∈ order) (hD : Visits (TSmartWebClass.parents order) C D) :
    D ∈ order := by
  rcases List.mem_cons.mp (mem_cons_of_visits hD) with rfl | hmem
  · exact hC
  · exact hmem

theorem exists_emits_iff_acyclic (hC : C ∈ order) (programId : Byte) :
    (∃ added, Emits (TSmartWebClass.parents order) (fun D => addOwnRequests programId D []) C
      added) ↔ Acyclic (TSmartWebClass.parents order) C := by
  rw [exists_emits_iff_acc, acc_iff_acyclic (finite_visits (fun _ _ h => (of_mem_parents h).1) hC)]

theorem acyclic_of_addRequests (hC : C ∈ order) {programId : Byte} {fuel : ℕ}
    {requests result : List TFrame}
    (h : addRequests order programId fuel C requests = some result) :
    Acyclic (TSmartWebClass.parents order) C := by
  obtain ⟨added, hadded, _⟩ := addRequests_eq_some_iff.mp ⟨fuel, h⟩
  exact (exists_emits_iff_acyclic hC programId).mp ⟨added, hadded⟩

/-- Whatever files the table is made of, `AddRequests` returns for a class of it exactly when no
class that it comes to, itself included, comes back to itself. -/
theorem addRequests_returns_iff (hC : C ∈ order) (programId : Byte) (requests : List TFrame) :
    (∃ fuel result, addRequests order programId fuel C requests = some result) ↔
      Acyclic (TSmartWebClass.parents order) C := by
  constructor
  · rintro ⟨fuel, result, hresult⟩
    exact acyclic_of_addRequests hC hresult
  · intro hacyclic
    obtain ⟨added, hadded⟩ := (exists_emits_iff_acyclic hC programId).mpr hacyclic
    obtain ⟨fuel, hfuel⟩ := addRequests_eq_some_iff.mpr ⟨added, hadded, rfl⟩
    exact ⟨fuel, requests ++ added, hfuel⟩

end Tables

/-! The heating circuit comes to the circuit and ends there. -/

theorem circuitOrder_iterates :
    IteratesOver [(circuit, .user), (heatingCircuit, .user)] circuitGateway.order :=
  circuitGateway.orderPerm

theorem addRequests_exact_circuit :
    ∃ added, circuitRequests = some added ∧ [1, 1, 0] ∈ added.map TFrame.payload ∧
      [1, 1, 4] ∈ added.map TFrame.payload ∧ ∀ f ∈ added, f.AsksProgram 7 := by
  obtain ⟨result, hresult⟩ : ∃ result, circuitRequests = some result :=
    Option.isSome_iff_exists.mp (by decide +kernel)
  have hids : ∀ D ∈ heatingCircuitClass :: circuitGateway.order, ∀ s,
      ∀ id ∈ (D.members s).keys, id ≤ 255 := by
    intro D hD s
    apply circuitOrder_iterates.keys_le
    rcases List.mem_cons.mp hD with rfl | hD
    · exact List.mem_cons_self
    · exact hD
  obtain ⟨added, hadded, hasks, hexact⟩ := addRequests_exact hids hresult
  rw [List.nil_append] at hadded
  rw [hadded] at hresult
  have hown : 0 ∈ (heatingCircuitClass.members .inputs).keys := by decide +kernel
  have hinherited : 4 ∈ (circuitClass.members .inputs).keys := by decide +kernel
  refine ⟨added, hresult, ?_, ?_, hasks⟩
  · exact (hexact _).mpr ⟨heatingCircuitClass, .refl, .inputs, 0, hown, rfl⟩
  · have hstep : circuitClass ∈ heatingCircuitClass.parents circuitGateway.order :=
      List.mem_singleton_self _
    exact (hexact _).mpr ⟨circuitClass, .single hstep, .inputs, 4, hinherited, rfl⟩

theorem circuit_acyclic :
    Acyclic (TSmartWebClass.parents circuitGateway.order) heatingCircuitClass := by
  obtain ⟨result, hresult⟩ : ∃ result, circuitRequests = some result :=
    Option.isSome_iff_exists.mp (by decide +kernel)
  exact acyclic_of_addRequests List.mem_cons_self hresult

theorem addRequests_returns_circuit :
    ∃ fuel result, addRequests circuitGateway.order 7 fuel heatingCircuitClass [] = some result :=
  (addRequests_returns_iff List.mem_cons_self 7 []).mpr circuit_acyclic

def loop : ClassObject where
  className := "LOOP"
  programType := 30
  implements := ["LOOP"]
  inputs := none
  outputs := none
  parameters := none

def loopClass : TSmartWebClass := .ofObject 0 loop .user

theorem loopOrder_iterates : IteratesOver [(loop, .user)] [loopClass] := List.Perm.refl _

/-- The class file of a loop is loaded, and then `AddRequests` never returns. -/
theorem addRequests_loops :
    IteratesOver [(loop, .user)] [loopClass] ∧
      ∀ fuel, addRequests [loopClass] 7 fuel loopClass [] = none := by
  refine ⟨loopOrder_iterates, fun fuel => ?_⟩
  have hparents : loopClass.parents [loopClass] = [loopClass] := rfl
  have hwalk : ∀ acc, walk (TSmartWebClass.parents [loopClass])
      (fun cl => addOwnRequests 7 cl []) fuel loopClass acc = none := by
    induction fuel with
    | zero => exact fun acc => rfl
    | succ fuel ih =>
      intro acc
      rw [walk, hparents, List.foldlM_cons, ih]
      rfl
  rw [addRequests_eq_walk, hwalk]

end SmartWebGateway
