import SmartWebGateway.Foundation.DepthFirst
import SmartWebGateway.Poller.Classes
import Mathlib.Tactic

/-!
# The requests that poll a program

A known program is polled for everything that its class lists, and for what
the classes list that its class implements. All requests of one class are
written into one buffer, so the third byte of a request for a parameter, which
the length leaves out, is what the request before it held there.
-/
namespace SmartWebGateway

open Foundation

/-- The identifier of a `GET_PARAMETER_VALUE` request. -/
def getParameterValueId (programId : Byte) : BitVec 32 :=
  { TCanHeader.ofRaw 0 with
    programType := ptRemoteControl
    programId := programId
    functionId := RemoteControl.Function.getParameterValue
    messageType := mtMsgRequest }.raw ||| canEffFlag

/-- `memcpy` of three bytes: the index is the id of an input or an output. -/
def indexedRequest (parameterId : Byte) (frame : TFrame) (id : ℕ) : TFrame :=
  { frame with
    canDlc := 3
    data := ((frame.data.set! 0 ptProgram).set! 1 parameterId).set! 2 (BitVec.ofNat 8 id) }

def typedRequest (type : Byte) (frame : TFrame) (id : ℕ) : TFrame :=
  { frame with
    canDlc := 2
    data := (frame.data.set! 0 type).set! 1 (BitVec.ofNat 8 id) }

/-- The body of the three loops: the buffer is written and a copy of it is pushed. -/
def pushRequest (write : TFrame → ℕ → TFrame) (acc : List TFrame × TFrame) (id : ℕ) :
    List TFrame × TFrame :=
  (acc.1 ++ [write acc.2 id], write acc.2 id)

/-- The buffer as the call begins with it. -/
def requestBuffer (programId : Byte) : TFrame :=
  { TFrame.zero with canId := getParameterValueId programId }

/-- What `AddRequests` does before it turns to the parent classes. -/
def addOwnRequests (programId : Byte) (cl : TSmartWebClass) (requests : List TFrame) :
    List TFrame :=
  let acc := cl.inputs.keys.foldl
    (pushRequest (indexedRequest RemoteControl.Parameters.sensor))
    (requests, requestBuffer programId)
  let acc := cl.outputs.keys.foldl
    (pushRequest (indexedRequest RemoteControl.Parameters.output)) acc
  (cl.parameters.keys.foldl (pushRequest (typedRequest cl.type)) acc).1

/-- The first class of a name, in the order in which the table is iterated over. -/
def findClass (classes : List TSmartWebClass) (name : String) : Option TSmartWebClass :=
  classes.find? fun cl => cl.name = name

/-- `classes` is the table in its order of iteration; the recursion ends after `fuel` calls in one
another or not at all. -/
def addRequests (classes : List TSmartWebClass) (programId : Byte) :
    ℕ → TSmartWebClass → List TFrame → Option (List TFrame)
  | 0, _, _ => none
  | fuel + 1, cl, requests =>
    cl.parentClasses.foldlM (fun requests c =>
      match findClass classes c with
      | some parent => addRequests classes programId fuel parent requests
      | none => some requests) (addOwnRequests programId cl requests)

/-- The classes that `AddRequests` goes on with. -/
def TSmartWebClass.parents (classes : List TSmartWebClass) (cl : TSmartWebClass) :
    List TSmartWebClass :=
  cl.parentClasses.filterMap (findClass classes)

/-- The parameter id under which inputs and outputs are asked for. -/
def Section.parameterId? : Section → Option Byte
  | .inputs => some RemoteControl.Parameters.sensor
  | .outputs => some RemoteControl.Parameters.output
  | .parameters => none

/-- The frame's bytes, up to its length, are those of the request for a member of a class. -/
def TFrame.Selects (f : TFrame) (cl : TSmartWebClass) (id : ℕ) (s : Section) : Prop :=
  match s.parameterId? with
  | some parameterId =>
    f.canDlc = 3 ∧ f.data[0]! = ptProgram ∧ f.data[1]! = parameterId ∧
      f.data[2]! = BitVec.ofNat 8 id
  | none => f.canDlc = 2 ∧ f.data[0]! = cl.type ∧ f.data[1]! = BitVec.ofNat 8 id

/-- The frame polls a program for a member of a class. -/
def TFrame.Polls (f : TFrame) (programId : Byte) (cl : TSmartWebClass) (id : ℕ) (s : Section) :
    Prop :=
  f.canId = getParameterValueId programId ∧ f.Selects cl id s

section Own

theorem foldl_pushRequest {write : TFrame → ℕ → TFrame} {P : ℕ → TFrame → Prop}
    (hwrite : ∀ buffer id, (write buffer id).canId = buffer.canId ∧ P id (write buffer id))
    (ids : List ℕ) (requests : List TFrame) (frame : TFrame) :
    ∃ added last, ids.foldl (pushRequest write) (requests, frame) = (requests ++ added, last) ∧
      last.canId = frame.canId ∧
      List.Forall₂ (fun id f => f.canId = frame.canId ∧ P id f) ids added := by
  induction ids generalizing requests frame with
  | nil => exact ⟨[], frame, by simp, rfl, .nil⟩
  | cons id ids ih =>
    obtain ⟨hcanId, hP⟩ := hwrite frame id
    obtain ⟨added, last, hfold, hlast, hadded⟩ :=
      ih (requests ++ [write frame id]) (write frame id)
    rw [hcanId] at hlast hadded
    refine ⟨write frame id :: added, last, ?_, hlast, .cons ⟨hcanId, hP⟩ hadded⟩
    rw [List.foldl_cons, pushRequest, hfold, List.append_assoc, List.singleton_append]

theorem indexedRequest_selects (parameterId : Byte) (buffer : TFrame) (id : ℕ) :
    (indexedRequest parameterId buffer id).canId = buffer.canId ∧
      (indexedRequest parameterId buffer id).canDlc = 3 ∧
      (indexedRequest parameterId buffer id).data[0]! = ptProgram ∧
      (indexedRequest parameterId buffer id).data[1]! = parameterId ∧
      (indexedRequest parameterId buffer id).data[2]! = BitVec.ofNat 8 id := by
  refine ⟨rfl, rfl, ?_, ?_, ?_⟩ <;> simp [indexedRequest]

theorem typedRequest_selects (type : Byte) (buffer : TFrame) (id : ℕ) :
    (typedRequest type buffer id).canId = buffer.canId ∧
      (typedRequest type buffer id).canDlc = 2 ∧
      (typedRequest type buffer id).data[0]! = type ∧
      (typedRequest type buffer id).data[1]! = BitVec.ofNat 8 id := by
  refine ⟨rfl, rfl, ?_, ?_⟩ <;> simp [typedRequest]

theorem foldl_pushRequest_prepend (write : TFrame → ℕ → TFrame) (ids : List ℕ)
    (requests : List TFrame) (acc : List TFrame × TFrame) :
    ids.foldl (pushRequest write) (requests ++ acc.1, acc.2) =
      (requests ++ (ids.foldl (pushRequest write) acc).1,
        (ids.foldl (pushRequest write) acc).2) := by
  induction ids generalizing acc with
  | nil => rfl
  | cons id ids ih =>
    have hstep : pushRequest write (requests ++ acc.1, acc.2) id =
        (requests ++ (pushRequest write acc id).1, (pushRequest write acc id).2) := by
      simp [pushRequest]
    rw [List.foldl_cons, hstep, ih, List.foldl_cons]

theorem addOwnRequests_append (programId : Byte) (cl : TSmartWebClass) (requests : List TFrame) :
    addOwnRequests programId cl requests = requests ++ addOwnRequests programId cl [] := by
  have hprepend := fun write ids acc => foldl_pushRequest_prepend write ids requests acc
  have hstart := hprepend (indexedRequest RemoteControl.Parameters.sensor) cl.inputs.keys
    ([], requestBuffer programId)
  rw [List.append_nil] at hstart
  simp only [addOwnRequests, hstart, hprepend]

theorem mem_addOwnRequests (programId : Byte) (cl : TSmartWebClass) :
    (∀ f ∈ addOwnRequests programId cl [], ∃ s, ∃ id ∈ (cl.members s).keys,
      f.Polls programId cl id s) ∧
    ∀ s, ∀ id ∈ (cl.members s).keys, ∃ f ∈ addOwnRequests programId cl [],
      f.Polls programId cl id s := by
  obtain ⟨inputs, buffer, hinputs, hbuffer, hin⟩ := foldl_pushRequest
    (P := fun id f => f.Selects cl id .inputs)
    (indexedRequest_selects RemoteControl.Parameters.sensor) cl.inputs.keys []
    (requestBuffer programId)
  obtain ⟨outputs, buffer', houtputs, hbuffer', hout⟩ := foldl_pushRequest
    (P := fun id f => f.Selects cl id .outputs)
    (indexedRequest_selects RemoteControl.Parameters.output) cl.outputs.keys ([] ++ inputs) buffer
  obtain ⟨parameters, last, hparameters, _, hparam⟩ := foldl_pushRequest
    (P := fun id f => f.Selects cl id .parameters) (typedRequest_selects cl.type)
    cl.parameters.keys ([] ++ inputs ++ outputs) buffer'
  have hadded : addOwnRequests programId cl [] = inputs ++ outputs ++ parameters := by
    rw [addOwnRequests, hinputs, houtputs, hparameters, List.nil_append]
  rw [hbuffer'.trans hbuffer] at hparam
  rw [hbuffer] at hout
  rw [hadded]
  constructor
  · intro f hf
    rcases List.mem_append.mp hf with hf | hf
    · rcases List.mem_append.mp hf with hf | hf
      · exact ⟨.inputs, exists_of_mem_right hin hf⟩
      · exact ⟨.outputs, exists_of_mem_right hout hf⟩
    · exact ⟨.parameters, exists_of_mem_right hparam hf⟩
  · intro s id hid
    cases s with
    | inputs =>
      obtain ⟨f, hf, hpolls⟩ := exists_of_mem_left hin hid
      exact ⟨f, List.mem_append_left _ (List.mem_append_left _ hf), hpolls⟩
    | outputs =>
      obtain ⟨f, hf, hpolls⟩ := exists_of_mem_left hout hid
      exact ⟨f, List.mem_append_left _ (List.mem_append_right _ hf), hpolls⟩
    | parameters =>
      obtain ⟨f, hf, hpolls⟩ := exists_of_mem_left hparam hid
      exact ⟨f, List.mem_append_right _ hf, hpolls⟩

end Own

section Walk

variable {classes : List TSmartWebClass} {programId : Byte} {fuel : ℕ} {cl : TSmartWebClass}
  {requests result : List TFrame}

/-- The recursion is a depth-first walk over the classes. -/
theorem addRequests_eq_walk :
    addRequests classes programId fuel cl requests =
      walk (TSmartWebClass.parents classes) (fun cl => addOwnRequests programId cl []) fuel cl
        requests := by
  induction fuel generalizing cl requests with
  | zero => rfl
  | succ fuel ih =>
    rw [addRequests, walk, TSmartWebClass.parents, ← addOwnRequests_append]
    simp only [ih]
    generalize addOwnRequests programId cl requests = acc
    induction cl.parentClasses generalizing acc with
    | nil => rfl
    | cons c names ihnames =>
      cases hc : findClass classes c with
      | none => simpa [hc] using ihnames acc
      | some parent =>
        simp only [List.foldlM_cons, hc, List.filterMap_cons_some hc]
        congr 1
        funext acc
        exact ihnames acc

/-- A list of requests that is ever finished holds, after what it held before, requests for the
members of the class and of the classes that it comes to, one at least for each of them. -/
theorem mem_addRequests (h : addRequests classes programId fuel cl requests = some result) :
    ∃ added, result = requests ++ added ∧
      (∀ f ∈ added, ∃ D, Visits (TSmartWebClass.parents classes) cl D ∧
        ∃ s, ∃ id ∈ (D.members s).keys, f.Polls programId D id s) ∧
      ∀ D, Visits (TSmartWebClass.parents classes) cl D → ∀ s, ∀ id ∈ (D.members s).keys,
        ∃ f ∈ added, f.Polls programId D id s := by
  rw [addRequests_eq_walk] at h
  obtain ⟨added, hresult, hadded⟩ := mem_walk h
  refine ⟨added, hresult, ?_, ?_⟩
  · intro f hf
    obtain ⟨D, hD, hown⟩ := (hadded f).mp hf
    exact ⟨D, hD, (mem_addOwnRequests programId D).1 f hown⟩
  · intro D hD s id hid
    obtain ⟨f, hown, hpolls⟩ := (mem_addOwnRequests programId D).2 s id hid
    exact ⟨f, (hadded f).mpr ⟨D, hD, hown⟩, hpolls⟩

end Walk
end SmartWebGateway
