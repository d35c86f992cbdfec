import SmartWebGateway.Gateway.Broadcasts
import Mathlib.Tactic

/-!
# One round of the loop

A round that gets through to the scheduled work sends every output that is due
and announces the controller when it is time. A frame that is refused leaves
the round by an exception, and takes the scheduled work with it.
-/
namespace SmartWebGateway

open Foundation
open TMqttToSmartWebGateway

/-- The channel is broadcast by any check from this world on, as long as no clock reading
passes the deadline. -/
def TBroadcastChannel.DueUntil (channel : TBroadcastChannel) (w : World) (deadline : TTimePoint) :
    Prop :=
  channel.device ≠ "" ∧ channel.control ≠ "" ∧ deadline ≤ channel.sendEndTimePoint ∧
    (channel.sendTimePoint ≤ w.clock ∨ ∃ timing, w.timing.lookup channel.toString = some timing ∧
      channel.lastSendTimePoint < timing.lastUpdateTimePoint)

def LoggedSince (P : Event → Prop) (s t : TaskState) : Prop :=
  ∃ recent, t.log = recent ++ s.log ∧ ∃ e ∈ recent, P e

def Event.Announces : Event → Prop
  | .sent _ .iAmHere => True
  | _ => False

section Journal

variable {P : Event → Prop} {s t u : TaskState}

theorem LoggedSince.suffix (h : LoggedSince P s t) : s.log <:+ t.log := by
  obtain ⟨recent, hlog, _⟩ := h
  exact ⟨recent, hlog.symm⟩

theorem LoggedSince.trans_suffix (h : LoggedSince P s t) (htu : t.log <:+ u.log) :
    LoggedSince P s u := by
  obtain ⟨recent, hlog, e, he, hP⟩ := h
  obtain ⟨later, hlater⟩ := htu
  exact ⟨later ++ recent, by rw [← hlater, hlog, List.append_assoc], e,
    List.mem_append_right later he, hP⟩

theorem LoggedSince.suffix_trans (hst : s.log <:+ t.log) (h : LoggedSince P t u) :
    LoggedSince P s u := by
  obtain ⟨recent, hlog, e, he, hP⟩ := h
  obtain ⟨between, hbetween⟩ := hst
  exact ⟨recent ++ between, by rw [hlog, ← hbetween, List.append_assoc], e,
    List.mem_append_left between he, hP⟩

end Journal

section Due

variable {configJson : ControllerObject} {load : Loading configJson} {env : Environment}
  {i j : ℕ} {s : TaskState} {c : Output} {deadline : TTimePoint} {channel : TBroadcastChannel}
  {E : Exc → ℕ → TaskState → Prop}

theorem Deployed.due_mono (h : Deployed load env) (hij : i ≤ j)
    (hdue : channel.DueUntil (env.world i) deadline) :
    channel.DueUntil (env.world j) deadline := by
  obtain ⟨hdevice, hcontrol, hend, hfresh⟩ := hdue
  refine ⟨hdevice, hcontrol, hend, ?_⟩
  rcases hfresh with htime | ⟨timing, hlookup, hlast⟩
  · exact Or.inl (htime.trans (env.clock_mono hij))
  · obtain ⟨timing', hlookup', hle⟩ := h.startsFrom.lastUpdate_mono hij hlookup
    exact Or.inr ⟨timing', hlookup', hlast.trans_le hle⟩

theorem Deployed.not_passed (h : Deployed load env)
    (hdue : channel.DueUntil (env.world i) deadline) (hclock : (env.world i).clock ≤ deadline) :
    ¬ Passed env.world i j channel := by
  intro hpassed
  obtain ⟨hdevice, hcontrol, hend, hfresh⟩ := hdue
  cases hpassed with
  | tooLate hlate =>
    exact absurd hlate (not_lt.mpr (hclock.trans hend))
  | weird hweird => exact hweird.elim hdevice hcontrol
  | tooSoon timing hlookup hold hj hsoon =>
    rcases hfresh with htime | ⟨timing', hlookup', hlast⟩
    · exact absurd hsoon (not_lt.mpr (htime.trans (env.clock_mono (Nat.le_add_right i 2))))
    · obtain ⟨timing'', hlookup'', hle⟩ :=
        h.startsFrom.lastUpdate_mono (Nat.le_succ i) hlookup'
      rw [hlookup, Option.some.injEq] at hlookup''
      rw [← hlookup''] at hle
      exact absurd hold (not_le.mpr (hlast.trans_le hle))

theorem notMem_of_finRange_eq {n : ℕ} {done rest : List (Fin n)} {a : Fin n}
    (h : List.finRange n = done ++ a :: rest) : a ∉ done := by
  have hnodup := List.nodup_finRange n
  rw [h, List.nodup_middle] at hnodup
  exact fun hmem => (List.nodup_cons.mp hnodup).1 (List.mem_append_left rest hmem)

/-- What one pass of the loop over the outputs does for a channel that may be due. -/
structure OutputsDone (env : Environment) (i : ℕ) (s : TaskState) (c : Output)
    (deadline : TTimePoint) (done : List Output) (j : ℕ) (t : TaskState) : Prop where
  same : s.driverState.SameChannels t.driverState
  suffix : s.log <:+ t.log
  iAmHere : t.sendIAmHereTime = s.sendIAmHereTime
  waiting : c ∉ done → t.driverState.outputMapping c = s.driverState.outputMapping c
  sent : c ∈ done → (s.driverState.outputMapping c).DueUntil (env.world i) deadline →
    (env.world j).clock ≤ deadline → LoggedSince (Event.SendsOutput c) s t

theorem OutputsDone.start : OutputsDone env i s c deadline [] j s :=
  ⟨.refl, List.suffix_rfl, rfl, fun _ => rfl, fun h => absurd h List.not_mem_nil⟩

theorem OutputsDone.pass (h : Deployed load env) {done : List Output} {a : Output} {k : ℕ}
    {t : TaskState} (hdone : OutputsDone env i s c deadline done j t) (ha : a ∉ done) (hij : i ≤ j)
    (hjk : j < k) (hpassed : Passed env.world j k (t.driverState.outputMapping a)) :
    OutputsDone env i s c deadline (done ++ [a]) k t := by
  refine ⟨hdone.same, hdone.suffix, hdone.iAmHere, ?_, ?_⟩
  · intro hc
    exact hdone.waiting fun hmem => hc (List.mem_append_left _ hmem)
  · intro hc hdue hclock
    rcases List.mem_append.mp hc with hc | hc
    · exact hdone.sent hc hdue ((env.clock_mono hjk.le).trans hclock)
    · rw [List.mem_singleton] at hc
      subst hc
      rw [hdone.waiting ha] at hpassed
      exact absurd hpassed (h.not_passed (h.due_mono hij hdue)
        ((env.clock_mono hjk.le).trans hclock))

theorem OutputsDone.send {done : List Output} {b : Broadcast} {k q : ℕ} {t : TaskState}
    {frame : TFrame} {sendTime : TTimePoint}
    (hdone : OutputsDone env i s c deadline done j t) (hjk : j ≤ k) :
    OutputsDone env i s c deadline (done ++ [b.channelId]) k
      (t.broadcasted b frame q sendTime) := by
  have hsuffix : t.log <:+ (t.broadcasted b frame q sendTime).log := List.suffix_append [_, _] _
  refine ⟨?_, hdone.suffix.trans hsuffix, hdone.iAmHere, ?_, ?_⟩
  · exact hdone.same.trans (TaskState.postponed_sameChannels b.channelId sendTime)
  · intro hc
    rw [List.mem_append, List.mem_singleton, not_or] at hc
    rw [TaskState.broadcasted_of_ne hc.2]
    exact hdone.waiting hc.1
  · intro hc hdue hclock
    rcases List.mem_append.mp hc with hc | hc
    · exact (hdone.sent hc hdue ((env.clock_mono hjk).trans hclock)).trans_suffix hsuffix
    · rw [List.mem_singleton] at hc
      refine .suffix_trans hdone.suffix ⟨[_, _], rfl, .sent frame (.output b), by simp, ?_⟩
      exact hc.symm

theorem wp_sendScheduledOutputs_due (h : Deployed load env)
    (hcovered : ∀ k, s.driverState.Covered (env.world k).timing) (c : Output)
    (deadline : TTimePoint) :
    sendScheduledOutputs.wp env.world
      (fun _ j t => OutputsDone env i s c deadline (List.finRange 32) j t) E i s := by
  simp only [sendScheduledOutputs, Program.wp_bind, Program.wp_observe, Program.wp_get]
  apply Program.wp_foldl (fun done _ j t => OutputsDone env i s c deadline done j t) .start
  intro done a rest buffer j t hxs hij hdone
  have ha := notMem_of_finRange_eq hxs
  apply wp_sendScheduledOutput (fun k => hdone.same.covered (hcovered k))
  · intro k hjk hpassed
    exact hdone.pass h ha ((Nat.le_succ i).trans hij) hjk hpassed
  · rintro b q _ rfl hdue hq rfl
    apply hdone.send
    have hread : b.readFrom ≤ b.readAt := hdue.readAt ▸ mqttReadAt_ge _ _ _
    have := hdue.start
    have := hdue.order
    omega

theorem wp_sendScheduledIAmHere_due {w : ℕ → World} :
    sendScheduledIAmHere.wp w
      (fun _ _ t => s.log <:+ t.log ∧
        (s.sendIAmHereTime ≤ (w i).clock → LoggedSince Event.Announces s t)) E i s := by
  rw [wp_sendScheduledIAmHere_iff]
  split_ifs with htime
  · exact ⟨List.suffix_cons _ _, fun _ => ⟨[_], rfl, _, List.mem_singleton_self _, trivial⟩⟩
  · exact ⟨List.suffix_rfl, fun hdue => absurd hdue htime⟩

/-- The scheduled work of a round: what is due when it begins is sent when it ends. -/
theorem wp_scheduledWork (h : Deployed load env)
    (hcovered : ∀ k, s.driverState.Covered (env.world k).timing) (c : Output)
    (deadline : TTimePoint) :
    Program.wp (do
        sendScheduledOutputs
        sendScheduledIAmHere) env.world
      (fun _ j t => s.log <:+ t.log ∧
        ((s.driverState.outputMapping c).DueUntil (env.world i) deadline →
          (env.world j).clock ≤ deadline → LoggedSince (Event.SendsOutput c) s t) ∧
        (s.sendIAmHereTime ≤ (env.world i).clock → LoggedSince Event.Announces s t)) E i s := by
  rw [Program.wp_bind]
  refine Program.wp_mono (wp_sendScheduledOutputs_due h hcovered c deadline) ?_
    (fun _ _ _ _ he => he)
  intro _ j t hij hdone
  refine Program.wp_mono (wp_sendScheduledIAmHere_due (i := j)) ?_ (fun _ _ _ _ he => he)
  rintro _ k u hjk ⟨hsuffix, hannounce⟩
  refine ⟨hdone.suffix.trans hsuffix, ?_, ?_⟩
  · intro hdue hclock
    exact (hdone.sent (List.mem_finRange c) hdue
      ((env.clock_mono hjk).trans hclock)).trans_suffix hsuffix
  · intro htime
    refine .suffix_trans hdone.suffix (hannounce ?_)
    rw [hdone.iAmHere]
    exact htime.trans (env.clock_mono hij)

/-- What a served frame leaves of the work that was due before it. -/
theorem RequestOutcome.keeps_due (h : Deployed load env) (c : Output) (deadline : TTimePoint)
    {f : TFrame} {t : TaskState} (houtcome : RequestOutcome env.world i s f (.ok ()) j t) :
    i ≤ j ∧ s.log <:+ t.log ∧ s.driverState.SameChannels t.driverState ∧
      f.Served s.driverState.programId ∧
      ((s.driverState.outputMapping c).DueUntil (env.world i) deadline →
        deadline ≤ (env.world i).clock + sendMessagesTime →
        (t.driverState.outputMapping c).DueUntil (env.world j) deadline) ∧
      (t.sendIAmHereTime = s.sendIAmHereTime ∨ LoggedSince Event.Announces s t) := by
  cases houtcome with
  | replied frame purpose hframe hf hrequest =>
    exact ⟨le_rfl, List.suffix_cons _ _, .refl, .inl ⟨hf, hrequest⟩, fun hdue _ => hdue, .inl rfl⟩
  | answered hij hf hdata hrequest =>
    refine ⟨hij, ?_, ?_, .inr (.inr (.inr ⟨hf, hdata, hrequest⟩)), ?_,
      .inl (TaskState.requested_sendIAmHereTime f.data)⟩
    · exact (TaskState.requested_log f.data).trans (List.suffix_cons _ _)
    · simpa using ControllerMapping.SameChannels.refl
    · intro hdue _
      simpa using h.due_mono hij hdue
  | subscribed hf hc =>
    refine ⟨Nat.le_add_right i 2, List.suffix_rfl, TaskState.subscribed_sameChannels _ _ _ _,
      .inr (.inl hf), ?_, .inl rfl⟩
    intro hdue hdeadline
    by_cases hchannel : c = f.askedOutput
    · subst hchannel
      obtain ⟨hdevice, hcontrol, _, _⟩ := hdue
      have hlater := env.clock_mono (Nat.le_succ i)
      simp only [TaskState.subscribed, TaskState.updateOutput, Function.update_self]
      exact ⟨hdevice, hcontrol, hdeadline.trans (Int.add_le_add_right hlater _),
        .inl (env.clock_mono (Nat.le_add_right i 2))⟩
    · rw [TaskState.subscribed_of_ne hchannel]
      exact h.due_mono (Nat.le_add_right i 2) hdue
  | unmapped hf hc =>
    exact ⟨le_rfl, List.suffix_rfl, .refl, .inr (.inl hf), fun hdue _ => hdue, .inl rfl⟩
  | announced hf =>
    refine ⟨Nat.le_add_right i 2, List.suffix_cons _ _, .refl, .inr (.inr (.inl hf)), ?_, .inr ?_⟩
    · exact fun hdue _ => h.due_mono (Nat.le_add_right i 2) hdue
    · exact ⟨[_], rfl, _, List.mem_singleton_self _, trivial⟩

/-- What was due in one state and is logged by another. -/
structure WorkDone (env : Environment) (i j : ℕ) (s t : TaskState) (c : Output)
    (deadline : TTimePoint) : Prop where
  output : (s.driverState.outputMapping c).DueUntil (env.world i) deadline →
    deadline ≤ (env.world i).clock + sendMessagesTime → (env.world j).clock ≤ deadline →
    LoggedSince (Event.SendsOutput c) s t
  announcement : s.sendIAmHereTime ≤ (env.world i).clock → LoggedSince Event.Announces s t

/-- A round on a frame serves it and does all scheduled work, or refuses it and does nothing. -/
inductive RoundOnFrame (env : Environment) (i j : ℕ) (s t : TaskState) (f : TFrame) (c : Output)
    (deadline : TTimePoint) : Prop
  | served (hf : f.Served s.driverState.programId) (hwork : WorkDone env i j s t c deadline)
  | refused (hf : ¬ f.Served s.driverState.programId) (p : ℕ) (hlog : t.log = .handled p f :: s.log)

theorem wp_running_some (h : Deployed load env)
    (hcovered : ∀ k, s.driverState.Covered (env.world k).timing) (f : TFrame) (c : Output)
    (deadline : TTimePoint) :
    (running (some f)).wp env.world (fun _ j t => RoundOnFrame env i j s t f c deadline)
      (fun e j t => e.IsDriverError ∧ RoundOnFrame env i j s t f c deadline) i s := by
  simp only [running, handleFrame, postponeConnectionReset, now, Program.wp_bind,
    Program.wp_observe, Program.wp_modify, Program.wp_position]
  have hcovered' : ∀ k, (TaskState.logged (.handled (i + 1) f)
      { s with resetConnectionTime := (env.world i).clock + connectionTimeout }).driverState.Covered
        (env.world k).timing := hcovered
  apply Program.wp_mono (wp_handleRequest env.world (i + 1) _ f)
  · intro _ j t _ houtcome
    obtain ⟨hij, hsuffix, hsame, hserved, hdue, hannounce⟩ :=
      houtcome.keeps_due h c deadline
    have hlog : s.log <:+ t.log := (List.suffix_cons _ _).trans hsuffix
    refine Program.wp_mono (wp_scheduledWork h (fun k => hsame.covered (hcovered' k)) c deadline)
      ?_ (fun _ _ _ _ he => he)
    rintro _ k u hjk ⟨hsuffix', houtput, hwork⟩
    refine .served hserved ⟨?_, ?_⟩
    · intro hdue0 hdeadline hclock
      have hi := env.clock_mono (Nat.le_succ i)
      exact .suffix_trans hlog (houtput (hdue (h.due_mono (Nat.le_succ i) hdue0)
        (hdeadline.trans (Int.add_le_add_right hi _))) hclock)
    · intro htime
      rcases hannounce with hsame' | hlogged
      · refine .suffix_trans hlog (hwork ?_)
        rw [hsame']
        exact htime.trans (env.clock_mono ((Nat.le_succ i).trans hij))
      · exact .suffix_trans (List.suffix_cons _ _) (hlogged.trans_suffix hsuffix')
  · intro e j t _ houtcome
    refine ⟨houtcome.isDriverError, ?_⟩
    cases houtcome with
    | rejected he hij hnot ht =>
      refine .refused hnot (i + 1) ?_
      rcases ht with rfl | ⟨_, rfl⟩
      · rfl
      · rw [TaskState.requested_of_covered hcovered']
        rfl

theorem wp_iteration_some (h : Deployed load env)
    (hcovered : ∀ k, s.driverState.Covered (env.world k).timing) (f : TFrame) (c : Output)
    (deadline : TTimePoint) :
    (iteration (some f)).wp env.world (fun _ j t => RoundOnFrame env i j s t f c deadline)
      (fun _ _ _ => False) i s := by
  have hrunning := wp_running_some (i := i) (s := { s with status := .running }) h hcovered f c
    deadline
  refine wp_iteration_frame (Program.wp_mono hrunning ?_ ?_)
  · rintro _ j t _ (⟨hf, hwork⟩ | ⟨hf, p, hlog⟩)
    · exact .served hf ⟨hwork.output, hwork.announcement⟩
    · exact .refused hf p hlog
  · rintro e j t _ ⟨he, ⟨hf, hwork⟩ | ⟨hf, p, hlog⟩⟩
    · exact ⟨he, .served hf ⟨hwork.output, hwork.announcement⟩⟩
    · exact ⟨he, .refused hf p hlog⟩

theorem wp_switch_idle {w : ℕ → World} (hs : s.status = .idle) :
    (switch none).wp w (fun _ _ t => t.status = .idle) E i s := by
  rw [switch, Program.wp_bind, Program.wp_get, hs]
  apply wp_sendScheduledIAmHere_iff.mpr
  split_ifs
  · exact hs
  · exact hs

theorem wp_switch_running (h : Deployed load env)
    (hcovered : ∀ k, s.driverState.Covered (env.world k).timing) (c : Output)
    (deadline : TTimePoint) (hs : s.status = .running) :
    (switch none).wp env.world (fun _ j t => WorkDone env i j s t c deadline) E i s := by
  rw [switch, Program.wp_bind, Program.wp_get, hs]
  refine Program.wp_mono (wp_scheduledWork h hcovered c deadline) ?_ (fun _ _ _ _ he => he)
  rintro _ j t _ ⟨_, houtput, hannounce⟩
  exact ⟨fun hdue _ hclock => houtput hdue hclock, hannounce⟩

theorem wp_iteration_none (h : Deployed load env)
    (hcovered : ∀ k, s.driverState.Covered (env.world k).timing) (c : Output)
    (deadline : TTimePoint) :
    (iteration none).wp env.world
      (fun _ j t => t.status = .running → WorkDone env i j s t c deadline)
      (fun _ _ _ => False) i s := by
  rw [iteration, Option.isNone_none, if_pos rfl, Program.wp_bind]
  refine Program.wp_mono wp_resetConnection_status ?_ (fun _ _ _ _ he => he)
  intro _ k u hik hu
  apply wp_guarded
  cases hstatus : u.status with
  | idle =>
    refine Program.wp_mono (wp_switch_idle hstatus) ?_ (fun _ _ _ _ he => he)
    intro _ j t _ ht hrun
    rw [ht] at hrun
    exact absurd hrun (by decide)
  | running =>
    obtain rfl : u = s := hu.resolve_left (by rw [hstatus]; decide)
    refine Program.wp_mono (wp_switch_running h hcovered c deadline hstatus) ?_
      (fun _ _ _ _ he => he)
    rintro _ j t _ ⟨houtput, hannounce⟩ _
    exact ⟨fun hdue hdeadline hclock => houtput (h.due_mono hik hdue)
      (hdeadline.trans (Int.add_le_add_right (env.clock_mono hik) _)) hclock,
      fun htime => hannounce (htime.trans (env.clock_mono hik))⟩

end Due

/-- Everything that is due from a world on until a deadline was sent between two states. -/
def ScheduledWorkDone (w : World) (s t : TaskState) (deadline : TTimePoint) : Prop :=
  (∀ c, (s.driverState.outputMapping c).DueUntil w deadline →
    LoggedSince (Event.SendsOutput c) s t) ∧
  (s.sendIAmHereTime ≤ w.clock → LoggedSince Event.Announces s t)

def NothingDue (w : World) (s : TaskState) (deadline : TTimePoint) : Prop :=
  (∀ c, ¬ (s.driverState.outputMapping c).DueUntil w deadline) ∧ ¬ s.sendIAmHereTime ≤ w.clock

section Rounds

variable {configJson : ControllerObject} {load : Loading configJson} {env : Environment}

/-- No subscription of a reachable state ends later than ten minutes from now. -/
theorem Deployed.sendEnd_le (h : Deployed load env) {inputs : ℕ → Option TFrame} {n i : ℕ}
    {s : TaskState} (hreaches : Reaches load env inputs n i s) {c : Output}
    (hnamed : (s.driverState.outputMapping c).device ≠ "") :
    (s.driverState.outputMapping c).sendEndTimePoint ≤
      (env.world i).clock + sendMessagesTime := by
  have hacts := h.acts hreaches
  have hinit : ((TaskState.initial load.config).driverState.outputMapping c).isInitialized := by
    rw [← hacts.sameChannels.outputs c]
    simp [TMqttChannel.isInitialized, hnamed]
  have hsound := hacts.sound_of_fresh env.clock_le load.fresh c hinit
  by_cases hzero : (s.driverState.outputMapping c).sendEndTimePoint = 0
  · rw [hzero]
    have hpos := (env.world i).clockBounds.1
    exact Int.add_nonneg hpos.le (by decide)
  · have hsome : ∃ e ∈ s.log, e.Subscribes load.config.programId c := by
      by_contra hnone
      push Not at hnone
      exact hzero (hsound.unsubscribed hnone)
    obtain ⟨e, he, hsince⟩ := exists_since hsome
    cases e with
    | handled p f =>
      obtain ⟨hp, hend, _⟩ := hsound.subscribed p f hsince he
      rw [hend]
      exact Int.add_le_add_right (env.clock_mono ((Nat.le_succ _).trans hp)) _
    | _ => exact absurd he id

theorem Deployed.round_sends (h : Deployed load env) {inputs : ℕ → Option TFrame} {n i : ℕ}
    {s : TaskState} (hreaches : Reaches load env inputs n i s) {c : Output} {deadline : TTimePoint}
    (hdue : (s.driverState.outputMapping c).DueUntil (env.world i) deadline)
    {input : Option TFrame} {j : ℕ} {t : TaskState}
    (hround : (iteration input).run env.world i s = (.ok (), j, t)) (hrun : t.status = .running)
    (hserved : ∀ f ∈ input, f.Served load.config.programId)
    (hclock : (env.world j).clock ≤ deadline) : LoggedSince (Event.SendsOutput c) s t := by
  have hacts := h.acts hreaches
  have hcovered : ∀ k, s.driverState.Covered (env.world k).timing :=
    hacts.covered (o := (0, TaskState.initial load.config)) h.covered
  have hdeadline : deadline ≤ (env.world i).clock + sendMessagesTime :=
    hdue.2.2.1.trans (h.sendEnd_le hreaches hdue.1)
  cases input with
  | none =>
    have hwork := Program.wp_ok (wp_iteration_none h hcovered c deadline) hround
    exact (hwork hrun).output hdue hdeadline hclock
  | some f =>
    have hf : f.Served s.driverState.programId := by
      rw [hacts.sameChannels.programId]
      exact hserved f rfl
    rcases Program.wp_ok (wp_iteration_some h hcovered f c deadline) hround with
      ⟨_, hwork⟩ | ⟨hnot, _⟩
    · exact hwork.output hdue hdeadline hclock
    · exact absurd hf hnot

/-- A round on a frame does the scheduled work exactly when the frame is served or there is
no such work. -/
theorem scheduled_work_done_iff (h : Deployed load env) {inputs : ℕ → Option TFrame} {n i : ℕ}
    {s : TaskState} (hreaches : Reaches load env inputs n i s) (f : TFrame) {j : ℕ} {t : TaskState}
    (hround : (iteration (some f)).run env.world i s = (.ok (), j, t)) (deadline : TTimePoint)
    (hdeadline : (env.world j).clock ≤ deadline) :
    ScheduledWorkDone (env.world i) s t deadline ↔
      f.Served load.config.programId ∨ NothingDue (env.world i) s deadline := by
  have hacts := h.acts hreaches
  have hcovered : ∀ k, s.driverState.Covered (env.world k).timing :=
    hacts.covered (o := (0, TaskState.initial load.config)) h.covered
  have hid : s.driverState.programId = load.config.programId := hacts.sameChannels.programId
  have hcases : ∀ c, RoundOnFrame env i j s t f c deadline :=
    fun c => Program.wp_ok (wp_iteration_some h hcovered f c deadline) hround
  rw [← hid]
  by_cases hf : f.Served s.driverState.programId
  · simp only [hf, true_or, iff_true]
    have hwork : ∀ c, WorkDone env i j s t c deadline := by
      intro c
      rcases hcases c with ⟨_, hwork⟩ | ⟨hnot, _⟩
      · exact hwork
      · exact absurd hf hnot
    refine ⟨fun c hdue => ?_, (hwork 0).announcement⟩
    exact (hwork c).output hdue (hdue.2.2.1.trans (h.sendEnd_le hreaches hdue.1)) hdeadline
  · simp only [hf, false_or]
    obtain ⟨p, hlog⟩ : ∃ p, t.log = .handled p f :: s.log := by
      rcases hcases 0 with ⟨hserved, _⟩ | ⟨_, p, hlog⟩
      · exact absurd hserved hf
      · exact ⟨p, hlog⟩
    have honly : ∀ P, LoggedSince P s t → P (.handled p f) := by
      rintro P ⟨recent, hrecent, e, he, hP⟩
      have happend : recent ++ s.log = [.handled p f] ++ s.log := hrecent.symm.trans hlog
      have hsingle := List.append_cancel_right happend
      rw [hsingle, List.mem_singleton] at he
      rwa [he] at hP
    constructor
    · rintro ⟨houtputs, hannounce⟩
      exact ⟨fun c hdue => honly _ (houtputs c hdue), fun htime => honly _ (hannounce htime)⟩
    · rintro ⟨houtputs, hannounce⟩
      exact ⟨fun c hdue => absurd hdue (houtputs c), fun htime => absurd htime hannounce⟩

end Rounds

/-! In the room's world the announcement is due at once. -/

def roomUnsupported : TFrame where
  canId := TCanHeader.raw ⟨5, 7, 1, 0, mtMsgRequest, 4⟩
  canDlc := 0
  data := TFrame.zero.data

def roomStart : TaskState := runState roomLoading roomEnvironment (fun _ => none) 0

def roomAfter (f : TFrame) : TaskState :=
  ((iteration (some f)).run roomEnvironment.world 1 roomStart).2.2

theorem scheduled_work_done_room :
    ScheduledWorkDone (roomEnvironment.world 1) roomStart (roomAfter roomOutputRequest) 1 := by
  have hround : ((iteration (some roomOutputRequest)).run roomEnvironment.world 1 roomStart).1 =
      .ok () := by decide +kernel
  refine (scheduled_work_done_iff roomEnvironment_deployed
    (roomEnvironment_deployed.reaches (fun _ => none) 0) roomOutputRequest
    (Prod.ext hround rfl) 1 le_rfl).mpr (Or.inl ?_)
  decide +kernel

/-- The unsupported frame takes the announcement with it. -/
theorem unsupported_frame_suppresses_announcement :
    Reaches roomLoading roomEnvironment (fun _ => none) 0 1 roomStart ∧
      isForMe roomLoading.config.programId roomUnsupported.header roomUnsupported.data ∧
      ((iteration (some roomUnsupported)).run roomEnvironment.world 1 roomStart).1 = .ok () ∧
      roomStart.sendIAmHereTime ≤ (roomEnvironment.world 1).clock ∧
      ¬ ScheduledWorkDone (roomEnvironment.world 1) roomStart (roomAfter roomUnsupported) 1 := by
  refine ⟨roomEnvironment_deployed.reaches (fun _ => none) 0, by decide +kernel,
    by decide +kernel, by decide +kernel, ?_⟩
  rintro ⟨_, hannounce⟩
  obtain ⟨recent, hrecent, e, he, hP⟩ := hannounce (by decide +kernel)
  have hlog : (roomAfter roomUnsupported).log = [.handled 2 roomUnsupported] := by decide +kernel
  have hstart : roomStart.log = [] := by decide +kernel
  rw [hlog, hstart, List.append_nil] at hrecent
  rw [← hrecent, List.mem_singleton] at he
  rw [he] at hP
  exact hP

end SmartWebGateway
