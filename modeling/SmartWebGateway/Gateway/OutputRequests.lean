import SmartWebGateway.Gateway.Iteration
import SmartWebGateway.Gateway.Service
import Mathlib.Tactic

/-!
# An output request is answered at once

A request for an output opens the subscription and makes its time come, so that
the loop that ends the same round does not pass over the output. The loop goes
once through all outputs with one frame buffer; what it does for one output
depends on the state of that output only, and leaves that of the others.
-/
namespace SmartWebGateway

open Foundation
open TMqttToSmartWebGateway

def TFrame.BeginsWith (frame : TFrame) (mappingPoint : TMappingPoint) : Prop :=
  frame.data[0]! = mappingPoint.hostID ∧ frame.data[1]! = mappingPoint.rawSecond

theorem outputFrame_beginsWith (frame : TFrame) (header : TCanHeader)
    (mappingPoint : TMappingPoint) (value : BitVec 16) :
    (outputFrame frame header mappingPoint value).BeginsWith mappingPoint := by
  constructor <;> simp [outputFrame]

def Event.outputFrame? (c : Output) : Event → Option TFrame
  | .sent frame (.output b) => if b.channelId = c then some frame else none
  | _ => none

def framesFor (c : Output) (log : List Event) : List TFrame := log.filterMap (Event.outputFrame? c)

section Frames

variable {c : Output} {log : List Event}

theorem mem_framesFor_iff {frame : TFrame} :
    frame ∈ framesFor c log ↔ ∃ b : Broadcast, b.channelId = c ∧ .sent frame (.output b) ∈ log := by
  rw [framesFor, List.mem_filterMap]
  constructor
  · rintro ⟨e, he, hframe⟩
    unfold Event.outputFrame? at hframe
    split at hframe
    next frame' b =>
      split_ifs at hframe with hb
      cases hframe
      exact ⟨b, hb, he⟩
    next => cases hframe
  · rintro ⟨b, hb, he⟩
    exact ⟨_, he, if_pos hb⟩

theorem framesFor_broadcast (b : Broadcast) (frame : TFrame) (q : ℕ) :
    framesFor c (.postponed q b.channelId :: .sent frame (.output b) :: log) =
      if b.channelId = c then frame :: framesFor c log else framesFor c log := by
  have hskip : Event.outputFrame? c (.postponed q b.channelId) = none := rfl
  have hframe : Event.outputFrame? c (.sent frame (.output b)) =
      if b.channelId = c then some frame else none := rfl
  rw [framesFor, List.filterMap_cons_none hskip]
  split_ifs at hframe ⊢ with hb
  · exact List.filterMap_cons_some hframe
  · exact List.filterMap_cons_none hframe

theorem framesFor_append (recent : List Event) :
    framesFor c (recent ++ log) = framesFor c recent ++ framesFor c log :=
  List.filterMap_append

end Frames

/-- What the loop has logged and done once it is through with some outputs. -/
structure OutputsTaken (env : Environment) (i : ℕ) (s : TaskState) (deadline : TTimePoint)
    (done : List Output) (j : ℕ) (t : TaskState) (recent : List Event) : Prop where
  log : t.log = recent ++ s.log
  same : s.driverState.SameChannels t.driverState
  waiting : ∀ c ∉ done, t.driverState.outputMapping c = s.driverState.outputMapping c
  unsent : ∀ c ∉ done, framesFor c recent = []
  once : ∀ c, (framesFor c recent).length ≤ 1
  due : ∀ frame b, .sent frame (.output b) ∈ recent →
    b.Due env.world i (s.driverState.outputMapping b.channelId) ∧
      frame.BeginsWith (s.driverState.outputMapping b.channelId).mappingPoint
  sent : ∀ c ∈ done, (s.driverState.outputMapping c).DueUntil (env.world i) deadline →
    (∀ p < j, (env.world p).clock ≤ deadline) → framesFor c recent ≠ []

section Loop

variable {configJson : ControllerObject} {load : Loading configJson} {env : Environment}
  {i j k : ℕ} {s t : TaskState} {deadline : TTimePoint} {done : List Output} {a : Output}
  {recent : List Event}

theorem OutputsTaken.start : OutputsTaken env i s deadline [] j s [] := by
  constructor
  · rfl
  · exact .refl
  · exact fun _ _ => rfl
  · exact fun _ _ => rfl
  · exact fun _ => Nat.zero_le 1
  · exact fun _ _ he => absurd he List.not_mem_nil
  · exact fun _ hc => absurd hc List.not_mem_nil

theorem OutputsTaken.pass (h : Deployed load env)
    (hdone : OutputsTaken env i s deadline done j t recent) (ha : a ∉ done) (hij : i ≤ j)
    (hjk : j < k) (hpassed : Passed env.world j k (t.driverState.outputMapping a)) :
    OutputsTaken env i s deadline (done ++ [a]) k t recent := by
  constructor
  · exact hdone.log
  · exact hdone.same
  · exact fun c hc => hdone.waiting c fun hmem => hc (List.mem_append_left _ hmem)
  · exact fun c hc => hdone.unsent c fun hmem => hc (List.mem_append_left _ hmem)
  · exact hdone.once
  · exact hdone.due
  · intro c hc hdue hclock
    rcases List.mem_append.mp hc with hc | hc
    · exact hdone.sent c hc hdue fun p hp => hclock p (hp.trans hjk)
    · rw [List.mem_singleton] at hc
      subst hc
      rw [hdone.waiting c ha] at hpassed
      exact absurd hpassed (h.not_passed (h.due_mono hij hdue) (hclock j hjk))

theorem OutputsTaken.send (hdone : OutputsTaken env i s deadline done j t recent) {b : Broadcast}
    {q : ℕ} {frame : TFrame} {sendTime : TTimePoint} (hij : i ≤ j) (hjk : j ≤ k)
    (hb : b.channelId ∉ done)
    (hdue : b.Due env.world j (t.driverState.outputMapping b.channelId))
    (hframe : frame.BeginsWith (t.driverState.outputMapping b.channelId).mappingPoint) :
    OutputsTaken env i s deadline (done ++ [b.channelId]) k (t.broadcasted b frame q sendTime)
      (.postponed q b.channelId :: .sent frame (.output b) :: recent) := by
  rw [hdone.waiting _ hb] at hdue hframe
  have hother : ∀ c ∉ done ++ [b.channelId], c ∉ done ∧ c ≠ b.channelId := by
    intro c hc
    rwa [List.mem_append, List.mem_singleton, not_or] at hc
  constructor
  · rw [TaskState.broadcasted_log, hdone.log]
    rfl
  · exact hdone.same.trans (TaskState.postponed_sameChannels b.channelId sendTime)
  · intro c hc
    rw [TaskState.broadcasted_of_ne (hother c hc).2]
    exact hdone.waiting c (hother c hc).1
  · intro c hc
    rw [framesFor_broadcast, if_neg (Ne.symm (hother c hc).2)]
    exact hdone.unsent c (hother c hc).1
  · intro c
    rw [framesFor_broadcast]
    split_ifs with hc
    · rw [← hc, hdone.unsent _ hb]
      exact le_rfl
    · exact hdone.once c
  · intro frame' b' hmem
    rcases List.mem_cons.mp hmem with hmem | hmem
    · cases hmem
    rcases List.mem_cons.mp hmem with hmem | hmem
    · cases hmem
      exact ⟨⟨hij.trans hdue.start, hdue.order, hdue.notLate, hdue.named, hdue.fresh,
        hdue.readAt⟩, hframe⟩
    · exact hdone.due frame' b' hmem
  · intro c hc hcdue hclock
    rw [framesFor_broadcast]
    split_ifs with hbc
    · exact List.cons_ne_nil _ _
    · rcases List.mem_append.mp hc with hc | hc
      · exact hdone.sent c hc hcdue fun p hp => hclock p (hp.trans_le hjk)
      · exact absurd (List.mem_singleton.mp hc).symm hbc

theorem wp_sendScheduledOutputs_taken {E : Exc → ℕ → TaskState → Prop} (h : Deployed load env)
    (hcovered : ∀ k, s.driverState.Covered (env.world k).timing) (deadline : TTimePoint) :
    sendScheduledOutputs.wp env.world
      (fun _ j t => ∃ recent, OutputsTaken env i s deadline (List.finRange 32) j t recent)
      E i s := by
  simp only [sendScheduledOutputs, Program.wp_bind, Program.wp_observe, Program.wp_get]
  apply Program.wp_foldl (fun done _ j t => ∃ recent, OutputsTaken env i s deadline done j t recent)
    ⟨[], .start⟩
  rintro done a rest buffer j t hxs hij ⟨recent, hdone⟩
  have ha := notMem_of_finRange_eq hxs
  apply wp_sendScheduledOutput (fun k => hdone.same.covered (hcovered k))
  · intro k hjk hpassed
    exact ⟨recent, hdone.pass h ha ((Nat.le_succ i).trans hij) hjk hpassed⟩
  · intro b q frame hb hdue hq hframe
    subst hb
    have hread : b.readFrom ≤ b.readAt := hdue.readAt ▸ mqttReadAt_ge _ _ _
    have hstart := hdue.start
    have horder := hdue.order
    rw [hframe]
    exact ⟨_, hdone.send ((Nat.le_succ i).trans hij) (by omega) ha hdue
      (outputFrame_beginsWith _ _ _ _)⟩

end Loop

/-- The part of a round on a frame up to the end of the loop over the outputs. -/
def handledOutputs (f : TFrame) : TaskM Unit := do
  handleFrame f
  sendScheduledOutputs

section Rounds

variable {configJson : ControllerObject} {load : Loading configJson} {env : Environment}
  {i j : ℕ} {s t : TaskState} {f : TFrame} {c : Output}

/-- The state in which the loop starts in a round on a request for an output. -/
def TaskState.requestedOutput (s : TaskState) (w : ℕ → World) (i : ℕ) (f : TFrame) : TaskState :=
  (s.received w i f).subscribed f.askedOutput (mappingPointOf f.data) (w (i + 1)).clock
    ((w (i + 2)).clock + sendMessagesTime)

theorem TaskState.requestedOutput_due (hsame : load.config.SameChannels s.driverState)
    (hc : (load.config.outputMapping f.askedOutput).isInitialized) :
    ((s.requestedOutput env.world i f).driverState.outputMapping f.askedOutput).DueUntil
      (env.world (i + 3)) ((env.world (i + 2)).clock + sendMessagesTime) := by
  obtain ⟨e, _, _, hchannel⟩ := load.exists_sensor hc
  obtain ⟨_, _, hdevice, hcontrol⟩ := TMqttChannel.fromString_eq_ok.mp hchannel
  rw [← hsame.outputs] at hdevice hcontrol
  simp only [TaskState.requestedOutput, TaskState.subscribed, TaskState.updateOutput,
    Function.update_self]
  exact ⟨hdevice, hcontrol, le_rfl, Or.inl (env.clock_mono (Nat.le_add_right (i + 1) 2))⟩

theorem wp_handledOutputs (h : Deployed load env) (hsame : load.config.SameChannels s.driverState)
    (hf : f.AsksForOutput load.config.programId)
    (hc : (load.config.outputMapping f.askedOutput).isInitialized) :
    (handledOutputs f).wp env.world
      (fun _ k u => ∃ recent, OutputsTaken env (i + 3) (s.requestedOutput env.world i f)
        ((env.world (i + 2)).clock + sendMessagesTime) (List.finRange 32) k u recent)
      (fun _ _ _ => False) i { s with status := .running } := by
  simp only [handledOutputs, handleFrame, postponeConnectionReset, now, Program.wp_bind,
    Program.wp_observe, Program.wp_modify, Program.wp_position]
  have hf' : f.AsksForOutput (s.received env.world i f).driverState.programId := by
    rw [TaskState.received_driverState, hsame.programId]
    exact hf
  have hc' : ((s.received env.world i f).driverState.outputMapping
      f.askedOutput).isInitialized := by
    have hchannel := hsame.outputs f.askedOutput
    rw [TMqttChannel.isInitialized] at hc ⊢
    rwa [TaskState.received_driverState, hchannel]
  have hcovered : ∀ k, (s.requestedOutput env.world i f).driverState.Covered
      (env.world k).timing := by
    intro k
    have hsubscribed := TaskState.subscribed_sameChannels (s := s.received env.world i f)
      f.askedOutput (mappingPointOf f.data) (env.world (i + 1)).clock
      ((env.world (i + 2)).clock + sendMessagesTime)
    exact hsubscribed.covered (hsame.covered (h.covered k))
  apply Program.wp_mono (wp_handleRequest env.world (i + 1) (s.received env.world i f) f)
  · intro _ j t _ houtcome
    obtain ⟨_, rfl, rfl⟩ := houtcome.of_asksForOutput hf' hc'
    exact wp_sendScheduledOutputs_taken h hcovered _
  · intro e j t _ houtcome
    obtain ⟨hok, _⟩ := houtcome.of_asksForOutput hf' hc'
    cases hok

theorem wp_running_frame {w : ℕ → World} {Q : Unit → ℕ → TaskState → Prop}
    {E : Exc → ℕ → TaskState → Prop}
    (h : (handledOutputs f).wp w (fun _ j t => sendScheduledIAmHere.wp w Q E j t) E i s) :
    (running (some f)).wp w Q E i s := by
  rw [handledOutputs, Program.wp_bind] at h
  rw [running, Program.wp_bind]
  apply Program.wp_mono h _ (fun _ _ _ _ he => he)
  intro _ j t _ hloop
  rw [Program.wp_bind]
  exact hloop

theorem wp_sendScheduledIAmHere_announces {w : ℕ → World} {E : Exc → ℕ → TaskState → Prop} :
    sendScheduledIAmHere.wp w
      (fun _ _ t => ∃ later, t.log = later ++ s.log ∧ ∀ e ∈ later, e.Announces) E i s := by
  rw [wp_sendScheduledIAmHere_iff]
  split_ifs
  · refine ⟨[_], rfl, ?_⟩
    intro e he
    rw [List.mem_singleton.mp he]
    trivial
  · exact ⟨[], rfl, by simp⟩

/-- What a round logs on a request for an output: one frame for it, which begins with the two bytes
of the request, and at most one for each of the others, which it has to be due for. -/
structure AnsweredAtOnce (w : ℕ → World) (i : ℕ) (s : TaskState) (f : TFrame) (c : Output)
    (recent : List Event) : Prop where
  answer : ∃ frame, framesFor c recent = [frame] ∧
    frame.data[0]! = f.data[0]! ∧ frame.data[1]! = f.data[1]!
  once : ∀ c' ≠ c, (framesFor c' recent).length ≤ 1
  due : ∀ c' ≠ c, ∀ frame b, .sent frame (.output b) ∈ recent → b.channelId = c' →
    b.Due w i (s.driverState.outputMapping c')

theorem OutputsTaken.answeredAtOnce {k : ℕ} {u : TaskState} {recent later : List Event}
    (hsame : load.config.SameChannels s.driverState)
    (hc : (load.config.outputMapping f.askedOutput).isInitialized)
    (htaken : OutputsTaken env (i + 3) (s.requestedOutput env.world i f)
      ((env.world (i + 2)).clock + sendMessagesTime) (List.finRange 32) k u recent)
    (hloop : ∀ p < k, (env.world p).clock ≤ (env.world (i + 2)).clock + sendMessagesTime)
    (hlater : ∀ e ∈ later, e.Announces) :
    AnsweredAtOnce env.world i s f f.askedOutput (later ++ (recent ++ [.handled (i + 1) f])) := by
  have hquiet : ∀ frame b, Event.sent frame (.output b) ∉ later := fun frame b hmem =>
    hlater _ hmem
  have hnone : ∀ c', framesFor c' later = [] := by
    intro c'
    rw [List.eq_nil_iff_forall_not_mem]
    intro frame hframe
    obtain ⟨b, _, hmem⟩ := mem_framesFor_iff.mp hframe
    exact hquiet frame b hmem
  have hframes : ∀ c', framesFor c' (later ++ (recent ++ [.handled (i + 1) f])) =
      framesFor c' recent := by
    intro c'
    have hhandled : framesFor c' [.handled (i + 1) f] = [] := rfl
    rw [framesFor_append, framesFor_append, hnone, hhandled, List.nil_append, List.append_nil]
  have hmem : ∀ frame b, Event.sent frame (.output b) ∈
      later ++ (recent ++ [.handled (i + 1) f]) → .sent frame (.output b) ∈ recent := by
    intro frame b hframe
    simpa [hquiet frame b] using hframe
  constructor
  · rw [hframes]
    have hsent := htaken.sent f.askedOutput (List.mem_finRange _)
      (TaskState.requestedOutput_due hsame hc) hloop
    obtain ⟨frame, hframe⟩ := List.length_eq_one_iff.mp
      (le_antisymm (htaken.once f.askedOutput) (List.length_pos_iff.mpr hsent))
    obtain ⟨b, hb, hsentFrame⟩ := mem_framesFor_iff.mp (hframe ▸ List.mem_singleton_self frame)
    obtain ⟨hhost, hsecond⟩ := (htaken.due frame b hsentFrame).2
    simp only [hb, TaskState.requestedOutput, TaskState.subscribed, TaskState.updateOutput,
      Function.update_self] at hhost hsecond
    exact ⟨frame, hframe, hhost, hsecond.trans (TMappingPoint.rawSecond_ofRawID _ _)⟩
  · intro c' _
    rw [hframes]
    exact htaken.once c'
  · intro c' hc' frame b hframe hb
    have hdue := (htaken.due frame b (hmem frame b hframe)).1
    rw [hb, TaskState.requestedOutput, TaskState.subscribed_of_ne hc'] at hdue
    exact ⟨(Nat.le_add_right i 3).trans hdue.start, hdue.order, hdue.notLate, hdue.named,
      hdue.fresh, hdue.readAt⟩

/-- A round that takes a request for a mapped output answers it, whatever its time points were, if
the loop gets through before the subscription ends again: no reading of the clock up to the end of
the loop may be ten minutes later than the one that the end is counted from. -/
theorem output_request_answered (h : Deployed load env) {inputs : ℕ → Option TFrame} {n : ℕ}
    (hreaches : Reaches load env inputs n i s) (hf : f.SubscribesTo load.config.programId c)
    (hc : (load.config.outputMapping c).isInitialized)
    (hloop : ∀ k u, (handledOutputs f).run env.world i { s with status := .running } =
      (.ok (), k, u) →
      ∀ p < k, (env.world p).clock ≤ (env.world (i + 2)).clock + sendMessagesTime) :
    ∃ j t recent, (iteration (some f)).run env.world i s = (.ok (), j, t) ∧
      t.log = recent ++ s.log ∧ AnsweredAtOnce env.world i s f c recent := by
  have hsame : load.config.SameChannels s.driverState := (h.acts hreaches).sameChannels
  obtain ⟨hasks, rfl⟩ := hf.asksForOutput
  have hhandled := wp_handledOutputs (i := i) h hsame hasks hc
  have hrunning : (running (some f)).wp env.world
      (fun _ _ t => ∃ recent, t.log = recent ++ s.log ∧
        AnsweredAtOnce env.world i s f f.askedOutput recent)
      (fun e _ t => e.IsDriverError ∧ ∃ recent, t.log = recent ++ s.log ∧
        AnsweredAtOnce env.world i s f f.askedOutput recent) i { s with status := .running } := by
    apply wp_running_frame
    obtain ⟨_, k, u, hrun, recent, htaken⟩ := Program.returns_of_wp hhandled
    apply Program.wp_of_ok hrun
    apply Program.wp_mono wp_sendScheduledIAmHere_announces _ (fun _ _ _ _ he => he)
    rintro _ l v - ⟨later, hlog, hlater⟩
    refine ⟨later ++ (recent ++ [.handled (i + 1) f]), ?_,
      htaken.answeredAtOnce hsame hc (hloop k u hrun) hlater⟩
    rw [hlog, htaken.log]
    simp [TaskState.requestedOutput, TaskState.received]
  obtain ⟨_, j, t, hrun, recent, hlog, hanswered⟩ :=
    Program.returns_of_wp (wp_iteration_frame (s := s) hrunning)
  exact ⟨j, t, recent, hrun, hlog, hanswered⟩

end Rounds

theorem output_request_answered_room :
    ∃ j t recent, (iteration (some roomOutputRequest)).run roomEnvironment.world
        (runPosition roomLoading roomEnvironment (fun _ => none) 0) roomStart = (.ok (), j, t) ∧
      t.log = recent ++ roomStart.log ∧
      AnsweredAtOnce roomEnvironment.world
        (runPosition roomLoading roomEnvironment (fun _ => none) 0) roomStart roomOutputRequest 0
        recent := by
  apply output_request_answered roomEnvironment_deployed
    (roomEnvironment_deployed.reaches (fun _ => none) 0)
  · decide +kernel
  · decide +kernel
  · intro k u _ p _
    exact le_add_of_nonneg_right (by decide)

end SmartWebGateway
