import SmartWebGateway.Gateway.Service
import SmartWebGateway.Poller.Codecs
import SmartWebGateway.Poller.Polling
import Mathlib.Tactic

/-!
# Which frames that are sent are plain data frames

Every header that is sent was made over some word. The poller zeroes it first;
two handlers of a controller leave in it what the stack held, and the answers to
requests leave in it what the request had there. All fields but the flags RTR
and ERR are assigned in each case, so the flags are those of the word.
-/
namespace SmartWebGateway

open Foundation
open TMqttToSmartWebGateway

structure HeaderFields where
  programType : Byte
  programId : Byte
  functionId : Byte
  messageType : BitVec 2
  deriving DecidableEq

def TCanHeader.fields (header : TCanHeader) : HeaderFields where
  programType := header.programType
  programId := header.programId
  functionId := header.functionId
  messageType := header.messageType

/-- A short extended frame with the given fields, whose RTR and ERR flags are those of a word. -/
structure TFrame.MadeOver (frame : TFrame) (word : BitVec 32) (fields : HeaderFields) : Prop where
  extended : frame.Extended
  short : frame.canDlc.toNat ≤ 8
  fields : frame.header.fields = fields
  flags : FlagsClear frame.canId ↔ FlagsClear word

/-- A plain extended data frame with the given fields. -/
structure TFrame.Plain (frame : TFrame) (fields : HeaderFields) : Prop where
  extended : frame.Extended
  flags : FlagsClear frame.canId
  short : frame.canDlc.toNat ≤ 8
  fields : frame.header.fields = fields

theorem TFrame.MadeOver.plain {frame : TFrame} {word : BitVec 32} {fields : HeaderFields}
    (h : frame.MadeOver word fields) (hword : FlagsClear word) : frame.Plain fields :=
  ⟨h.extended, h.flags.mpr hword, h.short, h.fields⟩

/-- The header that two handlers declare: all fields are assigned but the unused bits. -/
def TCanHeader.overStack (stack : BitVec 32) (programId functionId : Byte) : TCanHeader :=
  { TCanHeader.ofRaw stack with
    programType := ptController
    programId := programId
    functionId := functionId
    messageFormat := mfFormat0
    messageType := mtMsgResponse }

theorem TFrame.madeOver_of_header {frame : TFrame} {word : BitVec 32} (header : TCanHeader)
    (hcanId : frame.canId = header.raw ||| canEffFlag)
    (hunused : header.unused = (TCanHeader.ofRaw word).unused) (hshort : frame.canDlc.toNat ≤ 8) :
    frame.MadeOver word header.fields where
  extended := TFrame.extended_of_or_eff hcanId
  short := hshort
  fields := by
    rw [TFrame.header, hcanId, TCanHeader.ofRaw_or_eff, TCanHeader.ofRaw_raw]
    rfl
  flags := by
    rw [hcanId]
    exact TCanHeader.flagsClear_raw_or_eff hunused

/-- The requests that `get_response_frame` answers. -/
def TFrame.Answered (f : TFrame) (programId : Byte) : Prop :=
  (f.AsksForController ∨ f.AsksForParameter) ∧ f.IsRequestTo programId

/-- The frame is one that `get_response_frame` began. -/
def Purpose.IsAnswer (purpose : Purpose) : Prop :=
  purpose = .channelNumber ∨ purpose = .controllerType ∨ purpose = .parameterResponse

/-- The word that the header of a sent frame was made over and the fields that its handler gave it:
the stack at an observation, or the identifier of the request handled just before. -/
inductive HeaderSource (w : ℕ → World) (programId : Byte) :
    Purpose → List Event → BitVec 32 → HeaderFields → Prop
  | iAmHere (k : ℕ) (earlier : List Event) :
      HeaderSource w programId .iAmHere earlier (w k).stack
        ⟨ptController, programId, Controller.Function.iAmHere, mtMsgResponse⟩
  | output (k : ℕ) (b : Broadcast) (earlier : List Event) (hk : k < b.checkedAt) :
      HeaderSource w programId (.output b) earlier (w k).stack
        ⟨ptController, programId, Controller.Function.getOutputValue, mtMsgResponse⟩
  | response (purpose : Purpose) (p : ℕ) (f : TFrame) (older : List Event)
      (hpurpose : purpose.IsAnswer) (hf : f.Answered programId) :
      HeaderSource w programId purpose (.handled p f :: older) f.canId
        ⟨f.header.programType, programId, f.header.functionId, mtMsgResponse⟩

def AllMadeOver (w : ℕ → World) (programId : Byte) : List Event → Prop :=
  AtEach fun e earlier => ∀ frame purpose, e = .sent frame purpose →
    ∃ word fields, HeaderSource w programId purpose earlier word fields ∧
      frame.MadeOver word fields

section Controllers

variable {w : ℕ → World} {m : ControllerMapping} {programId : Byte} {log : List Event}

theorem AllMadeOver.push (h : AllMadeOver w programId log) {e : Event}
    (he : ∀ frame purpose, e ≠ .sent frame purpose) : AllMadeOver w programId (e :: log) :=
  atEach_cons.mpr ⟨fun frame purpose heq => absurd heq (he frame purpose), h⟩

theorem AllMadeOver.send (h : AllMadeOver w programId log) {frame : TFrame} {purpose : Purpose}
    {word : BitVec 32} {fields : HeaderFields}
    (hsource : HeaderSource w programId purpose log word fields)
    (hframe : frame.MadeOver word fields) :
    AllMadeOver w programId (.sent frame purpose :: log) := by
  refine atEach_cons.mpr ⟨?_, h⟩
  rintro _ _ ⟨⟩
  exact ⟨word, fields, hsource, hframe⟩

theorem iAmHereFrame_madeOver (programId : Byte) (stack : BitVec 32) :
    (iAmHereFrame programId stack).MadeOver stack
      ⟨ptController, programId, Controller.Function.iAmHere, mtMsgResponse⟩ :=
  TFrame.madeOver_of_header (.overStack stack programId Controller.Function.iAmHere) rfl rfl
    (show (1#8).toNat ≤ 8 by decide)

theorem TFrame.madeOver_of_answerId {f frame : TFrame} (hcanId : frame.canId = f.answerId)
    (hf : f.IsRequestTo programId) (hshort : frame.canDlc.toNat ≤ 8) :
    frame.MadeOver f.canId
      ⟨f.header.programType, programId, f.header.functionId, mtMsgResponse⟩ := by
  rw [← hf.2]
  exact TFrame.madeOver_of_header { f.header with messageType := mtMsgResponse } hcanId rfl hshort

theorem RequestOutcome.allMadeOver {i j : ℕ} {s t : TaskState} {f : TFrame}
    {outcome : Except Exc Unit} (hcovered : ∀ k, s.driverState.Covered (w k).timing)
    (h : RequestOutcome w i (s.logged (.handled i f)) f outcome j t)
    (hs : AllMadeOver w s.driverState.programId s.log) :
    AllMadeOver w s.driverState.programId t.log := by
  have hhandled : AllMadeOver w s.driverState.programId (.handled i f :: s.log) :=
    hs.push (by simp)
  have hcovered' : ∀ k, (s.logged (.handled i f)).driverState.Covered (w k).timing := hcovered
  cases h with
  | rejected he hij hf ht =>
    rcases ht with rfl | ⟨_, rfl⟩
    · exact hhandled
    · rw [TaskState.requested_of_covered hcovered']
      exact hhandled
  | replied frame purpose hframe hf hrequest =>
    have hpurpose : purpose.IsAnswer := by
      unfold Purpose.IsAnswer
      tauto
    refine hhandled.send (.response purpose i f s.log hpurpose ⟨Or.inl hf, hrequest⟩) ?_
    rcases hframe with ⟨_, rfl⟩ | ⟨_, rfl⟩
    · exact TFrame.madeOver_of_answerId rfl hrequest (show (2#8).toNat ≤ 8 by decide)
    · exact TFrame.madeOver_of_answerId rfl hrequest (show (1#8).toNat ≤ 8 by decide)
  | answered hij hf hdata hrequest =>
    rw [TaskState.requested_of_covered hcovered']
    have hpurpose : Purpose.parameterResponse.IsAnswer := Or.inr (Or.inr rfl)
    refine hhandled.send (.response _ i f s.log hpurpose ⟨Or.inr hf, hrequest⟩) ?_
    exact TFrame.madeOver_of_answerId rfl hrequest (show (5#8).toNat ≤ 8 by decide)
  | subscribed hf hc => exact hhandled
  | unmapped hf hc => exact hhandled
  | announced hf => exact hhandled.send (.iAmHere (i + 1) _) (iAmHereFrame_madeOver _ _)

structure TaskState.Sourced (s : TaskState) (w : ℕ → World) (m : ControllerMapping) : Prop where
  same : m.SameChannels s.driverState
  made : AllMadeOver w m.programId s.log

/-- The loop makes one header over the stack, and one buffer of four bytes, for all its frames. -/
theorem wp_sendScheduledOutputs_sourced {E : Exc → ℕ → TaskState → Prop} {i : ℕ} {s : TaskState}
    (hcovered : ∀ k, m.Covered (w k).timing) (hs : s.Sourced w m) :
    sendScheduledOutputs.wp w (fun _ _ t => t.Sourced w m) E i s := by
  simp only [sendScheduledOutputs, Program.wp_bind, Program.wp_observe, Program.wp_get]
  suffices hloop : Program.wp (Program.foldl (sendScheduledOutput (.overStack (w i).stack
      s.driverState.programId Controller.Function.getOutputValue)) { TFrame.zero with canDlc := 4 }
      (List.finRange 32)) w (fun buffer _ t => buffer.canDlc = 4 ∧ t.Sourced w m) E (i + 1) s from
    Program.wp_mono hloop (fun _ _ _ _ h => h.2) (fun _ _ _ _ he => he)
  apply Program.wp_foldl (fun _ (buffer : TFrame) _ (t : TaskState) =>
    buffer.canDlc = 4 ∧ t.Sourced w m) ⟨rfl, hs⟩
  rintro _ c _ buffer j t - hij ⟨hbuffer, ht⟩
  apply wp_sendScheduledOutput (fun k => ht.same.covered (hcovered k))
  · intro _ _ _
    exact ⟨hbuffer, ht⟩
  · rintro b q frame rfl hdue hq rfl
    refine ⟨hbuffer, ht.same.trans (TaskState.postponed_sameChannels b.channelId _), ?_⟩
    have hk : i < b.checkedAt := lt_of_lt_of_le hij hdue.start
    refine AllMadeOver.push (ht.made.send (.output i b _ hk) ?_) (by simp)
    rw [← hs.same.programId]
    apply TFrame.madeOver_of_header (.overStack (w i).stack s.driverState.programId
      Controller.Function.getOutputValue) rfl rfl
    change buffer.canDlc.toNat ≤ 8
    rw [hbuffer]
    decide

theorem kept_sourced (hcovered : ∀ k, m.Covered (w k).timing) :
    Kept w fun _ s => s.Sourced w m where
  wait _ h := h
  timers _ _ _ h := ⟨h.same, h.made⟩
  announced {i s} k h := by
    refine ⟨h.same, ?_⟩
    rw [h.same.programId]
    exact h.made.send (.iAmHere k s.log) (iAmHereFrame_madeOver m.programId (w k).stack)
  requested {i s f outcome j t} h houtcome := by
    have hcovered' := fun k => h.same.covered (hcovered k)
    refine ⟨h.same.trans (houtcome.acts hcovered').sameChannels, ?_⟩
    have hmade := houtcome.allMadeOver hcovered' (h.same.programId ▸ h.made)
    rwa [h.same.programId] at hmade
  outputs h := wp_sendScheduledOutputs_sourced hcovered h

theorem Deployed.allMadeOver {configJson : ControllerObject} {load : Loading configJson}
    {env : Environment} (h : Deployed load env) {inputs : ℕ → Option TFrame} {n j : ℕ}
    {s : TaskState} (hreaches : Reaches load env inputs n j s) :
    AllMadeOver env.world load.config.programId s.log := by
  have hstart : (TaskState.initial load.config).Sourced env.world load.config.toControllerMapping :=
    ⟨.refl, atEach_nil⟩
  have hrun := (kept_sourced h.covered).wp_taskFn hstart inputs n (i := 0)
  exact (Program.wp_ok hrun hreaches).made

end Controllers

section Poller

variable {gateway : TSmartWebToMqttGateway} {programs : List AnnouncedProgram}

theorem TSmartWebToMqttGateway.Knows.plain (h : gateway.Knows programs) {frame : TFrame}
    (hframe : frame ∈ gateway.requests) :
    ∃ programId ∈ gateway.knownPrograms, frame.Plain
      ⟨ptRemoteControl, programId, RemoteControl.Function.getParameterValue, mtMsgRequest⟩ := by
  obtain ⟨blocks, hblocks, hrequests⟩ := h.blocks
  rw [hrequests, List.mem_flatten] at hframe
  obtain ⟨block, hblock, hframe⟩ := hframe
  obtain ⟨program, hprogram, fuel, hadd⟩ := exists_of_mem_right hblocks hblock
  obtain ⟨added, rfl, hfor, _⟩ := mem_addRequests hadd
  obtain ⟨D, _, s, id, _, hcanId, hselects⟩ := hfor frame hframe
  refine ⟨program.1, (h.mem_keys program.1).mpr (List.mem_map_of_mem hprogram), ?_⟩
  have hshort : frame.canDlc.toNat ≤ 8 := by
    cases s <;> simp [TFrame.Selects, Section.parameterId?] at hselects <;> simp [hselects]
  have hmade : frame.MadeOver 0
      ⟨ptRemoteControl, program.1, RemoteControl.Function.getParameterValue, mtMsgRequest⟩ :=
    TFrame.madeOver_of_header { TCanHeader.ofRaw 0 with
      programType := ptRemoteControl
      programId := program.1
      functionId := RemoteControl.Function.getParameterValue
      messageType := mtMsgRequest } hcanId rfl hshort
  exact hmade.plain (by decide)

theorem ISmartWebCodec.length_encode {stod : String → Except String Double}
    {codec : ISmartWebCodec} {value : String} {bytes : List Byte}
    (h : codec.encode stod value = .ok bytes) : bytes.length ≤ 4 := by
  have hsize := codec.size_le
  cases codec with
  | int type div =>
    cases hstod : stod value with
    | error what => simp [encode, hstod] at h
    | ok x =>
      rw [encode_int hstod] at h
      cases hconvert : type.convert (x.mul (.ofInt div)) with
      | error failure => simp [hconvert, Except.map] at h
      | ok n =>
        simp only [hconvert, Except.map, Except.ok.injEq] at h
        rw [← h, ← emitBytes_eq_bytes, length_emitBytes]
        exact hsize
  | enum values =>
    unfold encode at h
    dsimp only at h
    split at h
    next key _ =>
      cases h
      simp
    next => cases h
  | onOffSensor =>
    cases h
    simp
  | sensor => cases h
  | pwm => cases h
  | output => cases h

theorem onControlValue_plain {stod : String → Except String Double}
    {param : TSmartWebParameterControl} {value : String} {frames : List TFrame}
    (h : onControlValue stod param value = .ok frames) {frame : TFrame} (hframe : frame ∈ frames) :
    frame.Plain ⟨ptRemoteControl, param.programId, RemoteControl.Function.setParameterValue,
      mtMsgRequest⟩ := by
  unfold onControlValue makeSetParameterValueRequest at h
  cases hencode : param.parameter.codec.encode stod value with
  | error failure =>
    cases failure with
    | thrown what =>
      simp only [hencode] at h
      cases h
      cases hframe
    | undefinedConversion =>
      simp only [hencode] at h
      cases h
  | ok bytes =>
    simp only [hencode] at h
    cases h
    rw [List.mem_singleton.mp hframe]
    have hlength := ISmartWebCodec.length_encode hencode
    have hshort : (setRequestFrame param bytes).canDlc.toNat ≤ 8 := by
      simp only [setRequestFrame, BitVec.toNat_ofNat]
      omega
    have hmade : (setRequestFrame param bytes).MadeOver 0
        ⟨ptRemoteControl, param.programId, RemoteControl.Function.setParameterValue,
          mtMsgRequest⟩ :=
      TFrame.madeOver_of_header { TCanHeader.ofRaw 0 with
        programType := ptRemoteControl
        programId := param.programId
        functionId := RemoteControl.Function.setParameterValue
        messageType := mtMsgRequest } rfl rfl hshort
    exact hmade.plain (by decide)

end Poller

/-- Every frame in the log is a plain data frame with the fields that its handler gave it. -/
def AllPlain (w : ℕ → World) (programId : Byte) (log : List Event) : Prop :=
  ∀ frame purpose earlier, (.sent frame purpose :: earlier) <:+ log →
    ∃ word fields, HeaderSource w programId purpose earlier word fields ∧ frame.Plain fields

/-- The flags were clear in every word that the header of a frame in the log was made over. -/
def ClearSources (w : ℕ → World) (programId : Byte) (log : List Event) : Prop :=
  ∀ frame purpose earlier, (.sent frame purpose :: earlier) <:+ log →
    ∀ word fields, HeaderSource w programId purpose earlier word fields →
      frame.MadeOver word fields → FlagsClear word

section Runs

variable {w : ℕ → World} {programId : Byte} {log : List Event}

theorem allPlain_iff (h : AllMadeOver w programId log) :
    AllPlain w programId log ↔ ClearSources w programId log := by
  constructor
  · intro hplain frame purpose earlier hlog word fields _ hmade
    obtain ⟨_, _, _, hframe⟩ := hplain frame purpose earlier hlog
    exact hmade.flags.mp hframe.flags
  · intro hclear frame purpose earlier hlog
    obtain ⟨word, fields, hsource, hmade⟩ := h _ earlier hlog frame purpose rfl
    have hword := hclear frame purpose earlier hlog word fields hsource hmade
    exact ⟨word, fields, hsource, hmade.plain hword⟩

theorem clearSources_of_clear (hstack : ∀ k, FlagsClear (w k).stack)
    (hrequests : ∀ p f, .handled p f ∈ log → f.Answered programId → FlagsClear f.canId) :
    ClearSources w programId log := by
  intro frame purpose earlier hlog word fields hsource _
  cases hsource with
  | iAmHere k => exact hstack k
  | output k => exact hstack k
  | response _ p f older hpurpose hf =>
    exact hrequests p f (hlog.subset (by simp)) hf

/-- An answer has the flags of its request; any other frame has them where the stack always has. -/
theorem AllMadeOver.flags (h : AllMadeOver w programId log) {frame : TFrame} {purpose : Purpose}
    {earlier : List Event} (hlog : (.sent frame purpose :: earlier) <:+ log) :
    (∀ p f older, earlier = .handled p f :: older → purpose.IsAnswer →
      (FlagsClear frame.canId ↔ FlagsClear f.canId)) ∧
    (¬ purpose.IsAnswer → (∀ k, ¬ FlagsClear (w k).stack) → ¬ FlagsClear frame.canId) := by
  obtain ⟨word, fields, hsource, hmade⟩ := h _ earlier hlog frame purpose rfl
  cases hsource with
  | iAmHere k | output k =>
    refine ⟨?_, fun _ hstack hflags => hstack k (hmade.flags.mp hflags)⟩
    rintro _ _ _ _ (hpurpose | hpurpose | hpurpose)
    all_goals cases hpurpose
  | response _ p f older hpurpose hf =>
    refine ⟨?_, fun hother => absurd hpurpose hother⟩
    rintro _ _ _ ⟨⟩ _
    exact hmade.flags

end Runs

/-- In every run of a controller the frames that it sends are extended, short and have the fields
that their handlers assign, and they are all plain exactly when the flags were clear in what their
headers were made over: for an answer in its request, for any other frame on the stack. In every run
of the poller all frames are plain. -/
theorem frames_plain_iff {configJson : ControllerObject} {load : Loading configJson}
    {env : Environment} (h : Deployed load env) {inputs : ℕ → Option TFrame} {n j : ℕ}
    {s : TaskState} (hreaches : Reaches load env inputs n j s)
    {classes : AList fun _ : Byte => TSmartWebClass} {order : List TSmartWebClass}
    {orderPerm : order.Perm (classes.entries.map fun entry => entry.2)} {polling : PollingState}
    (hpolling : Leads PollingStep Anyhow (.initial (.initial classes order orderPerm)) polling) :
    AllMadeOver env.world load.config.programId s.log ∧
    (AllPlain env.world load.config.programId s.log ↔
      ClearSources env.world load.config.programId s.log) ∧
    ((∀ k, FlagsClear (env.world k).stack) →
      (∀ p f, .handled p f ∈ s.log → f.Answered load.config.programId → FlagsClear f.canId) →
      AllPlain env.world load.config.programId s.log) ∧
    (∀ frame purpose earlier, (.sent frame purpose :: earlier) <:+ s.log →
      (∀ p f older, earlier = .handled p f :: older → purpose.IsAnswer →
        (FlagsClear frame.canId ↔ FlagsClear f.canId)) ∧
      (¬ purpose.IsAnswer → (∀ k, ¬ FlagsClear (env.world k).stack) →
        ¬ FlagsClear frame.canId)) ∧
    (∀ p ∈ polling.polls, ∃ programId ∈ polling.gateway.knownPrograms, p.frame.Plain
      ⟨ptRemoteControl, programId, RemoteControl.Function.getParameterValue, mtMsgRequest⟩) ∧
    ∀ stod param value frames, onControlValue stod param value = .ok frames →
      ∀ frame ∈ frames, frame.Plain
        ⟨ptRemoteControl, param.programId, RemoteControl.Function.setParameterValue,
          mtMsgRequest⟩ := by
  have hmade := h.allMadeOver hreaches
  have hsound := sound_of_leads hpolling
  refine ⟨hmade, allPlain_iff hmade, ?_, fun _ _ _ hlog => hmade.flags hlog, ?_, ?_⟩
  · intro hstack hrequests
    exact (allPlain_iff hmade).mpr (clearSources_of_clear hstack hrequests)
  · intro p hp
    exact hsound.knows.plain (List.mem_of_getElem? (hsound.rotates.polled p hp).2)
  · intro stod param value frames hframes frame hframe
    exact onControlValue_plain hframes hframe

def Event.handledClear : Event → Bool
  | .handled _ frame => decide (FlagsClear frame.canId)
  | _ => true

/-- In the room's world nothing has left bits on the stack, and a plain request is answered. -/
theorem frames_plain_room :
    .sent (roomSensorRequest.parameterAnswer sensorUndefined) .parameterResponse ∈
        (runState roomLoading roomEnvironment (fun _ => some roomSensorRequest) 2).log ∧
      AllPlain roomEnvironment.world roomLoading.config.programId
        (runState roomLoading roomEnvironment (fun _ => some roomSensorRequest) 2).log := by
  refine ⟨by decide +kernel, ?_⟩
  apply (frames_plain_iff roomEnvironment_deployed
    (roomEnvironment_deployed.reaches (fun _ => some roomSensorRequest) 2) circuitPolls_leads).2.2.1
  · intro k
    exact show FlagsClear 0 by decide
  · have hhandled : ((runState roomLoading roomEnvironment
        (fun _ => some roomSensorRequest) 2).log.all Event.handledClear) = true := by
      decide +kernel
    intro p f hmem _
    exact of_decide_eq_true (List.all_eq_true.mp hhandled _ hmem)

def dirtyEnvironment : Environment := Evolution.constant { roomWorld with stack := canRtrFlag }

theorem dirtyEnvironment_deployed : Deployed roomLoading dirtyEnvironment := ⟨rfl, rfl, le_rfl⟩

def remoteSensorRequest : TFrame :=
  { roomSensorRequest with canId := roomSensorRequest.canId ||| canRtrFlag }

theorem not_allPlain_of_mem {w : ℕ → World} {programId : Byte} {log : List Event} {frame : TFrame}
    {purpose : Purpose} (hmem : .sent frame purpose ∈ log) (hframe : ¬ FlagsClear frame.canId) :
    ¬ AllPlain w programId log := by
  intro h
  obtain ⟨newer, earlier, hlog⟩ := List.append_of_mem hmem
  obtain ⟨_, _, _, hplain⟩ := h frame purpose earlier (hlog ▸ List.suffix_append newer _)
  exact hframe hplain.flags

/-- An announcement turns into a remote request when the stack holds the RTR bit, and so does the
answer to a request that came with it. -/
theorem frames_not_plain :
    (∃ j s, Reaches roomLoading dirtyEnvironment (fun _ => none) 1 j s ∧
      ¬ AllPlain dirtyEnvironment.world roomLoading.config.programId s.log) ∧
    ∃ j s, Reaches roomLoading roomEnvironment (fun _ => some remoteSensorRequest) 1 j s ∧
      ¬ AllPlain roomEnvironment.world roomLoading.config.programId s.log := by
  constructor
  · refine ⟨_, _, dirtyEnvironment_deployed.reaches (fun _ => none) 1, ?_⟩
    have hsent : .sent (iAmHereFrame 7 canRtrFlag) .iAmHere ∈
        (runState roomLoading dirtyEnvironment (fun _ => none) 1).log := by decide +kernel
    exact not_allPlain_of_mem hsent (by decide)
  · refine ⟨_, _, roomEnvironment_deployed.reaches (fun _ => some remoteSensorRequest) 1, ?_⟩
    have hsent : .sent (remoteSensorRequest.parameterAnswer sensorUndefined) .parameterResponse ∈
        (runState roomLoading roomEnvironment (fun _ => some remoteSensorRequest) 1).log := by
      decide +kernel
    exact not_allPlain_of_mem hsent (by decide +kernel)

end SmartWebGateway
