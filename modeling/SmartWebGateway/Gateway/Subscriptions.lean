import SmartWebGateway.Gateway.Connection
import SmartWebGateway.Gateway.LostUpdates
import SmartWebGateway.Gateway.OutputRequests
import SmartWebGateway.Gateway.Sensors
import Mathlib.Tactic

/-!
# Broadcasts while a subscription lasts

A request for an output subscribes to it for ten minutes, and for as long it
keeps the connection up. Whatever else happens, the end of the subscription only
moves away, and the turn of the output comes thirty seconds after a broadcast at
the latest; so no round that gets to its scheduled work passes over the output
for longer.
-/
namespace SmartWebGateway

open Foundation
open TMqttToSmartWebGateway

/-- Between two states a broadcast was sent, and right after it stamped at the observation `q`. -/
def SentAt (b : Broadcast) (q : ℕ) (s t : TaskState) : Prop :=
  ∃ frame older, (.postponed q b.channelId :: .sent frame (.output b) :: older) <:+ t.log ∧
    s.log <:+ older

/-- What work of the thread leaves of a subscription: the end does not come nearer, and the turn is
put off by a broadcast only, counted from its stamp. -/
structure KeepsTurn (w : ℕ → World) (c : Output) (a b : ℕ × TaskState) : Prop where
  forward : a.1 ≤ b.1
  suffix : a.2.log <:+ b.2.log
  lasts : ∀ endTime, endTime ≤ (w a.1).clock + sendMessagesTime →
    endTime ≤ (a.2.driverState.outputMapping c).sendEndTimePoint →
    endTime ≤ (b.2.driverState.outputMapping c).sendEndTimePoint
  turn : (b.2.driverState.outputMapping c).sendTimePoint ≤
      max (a.2.driverState.outputMapping c).sendTimePoint (w b.1).clock ∨
    ∃ broadcast q, broadcast.channelId = c ∧ SentAt broadcast q a.2 b.2 ∧
      (b.2.driverState.outputMapping c).sendTimePoint ≤ (w q).clock + sendMessagesInterval

section Journal

variable {b : Broadcast} {q : ℕ} {s t u : TaskState}

theorem SentAt.suffix_trans (hst : s.log <:+ t.log) (h : SentAt b q t u) : SentAt b q s u := by
  obtain ⟨frame, older, hsent, holder⟩ := h
  exact ⟨frame, older, hsent, hst.trans holder⟩

theorem SentAt.trans_suffix (h : SentAt b q s t) (htu : t.log <:+ u.log) : SentAt b q s u := by
  obtain ⟨frame, older, hsent, holder⟩ := h
  exact ⟨frame, older, hsent.trans htu, holder⟩

theorem SentAt.exists_sent (h : SentAt b q s t) :
    ∃ frame recent, t.log = recent ++ s.log ∧ .sent frame (.output b) ∈ recent := by
  obtain ⟨frame, older, ⟨later, hlater⟩, ⟨earlier, rfl⟩⟩ := h
  refine ⟨frame, later ++ .postponed q b.channelId :: .sent frame (.output b) :: earlier, ?_, ?_⟩
  · rw [← hlater, List.append_assoc]
    rfl
  · exact List.mem_append_right _ (List.mem_cons_of_mem _ List.mem_cons_self)

theorem SentAt.loggedSince (h : SentAt b q s t) :
    LoggedSince (Event.SendsOutput b.channelId) s t := by
  obtain ⟨frame, recent, hlog, hsent⟩ := h.exists_sent
  exact ⟨recent, hlog, _, hsent, rfl⟩

theorem SentAt.recorded (h : SentAt b q s t) : ∃ frame, Recorded q frame b t.log := by
  obtain ⟨frame, older, hsent, _⟩ := h
  exact ⟨frame, older, hsent⟩

end Journal

section Turns

variable {w : ℕ → World} {c : Output} {a b d : ℕ × TaskState}

theorem KeepsTurn.of_eq (hforward : a.1 ≤ b.1) (hsuffix : a.2.log <:+ b.2.log)
    (heq : b.2.driverState.outputMapping c = a.2.driverState.outputMapping c) :
    KeepsTurn w c a b where
  forward := hforward
  suffix := hsuffix
  lasts endTime _ hend := by rwa [heq]
  turn := by
    rw [heq]
    exact Or.inl (le_max_left _ _)

theorem KeepsTurn.refl : KeepsTurn w c a a := .of_eq le_rfl List.suffix_rfl rfl

theorem KeepsTurn.trans (hclock : ∀ q q', q ≤ q' → (w q).clock ≤ (w q').clock)
    (h : KeepsTurn w c a b) (h' : KeepsTurn w c b d) : KeepsTurn w c a d := by
  have hb := hclock _ _ h'.forward
  constructor
  case forward => exact h.forward.trans h'.forward
  case suffix => exact h.suffix.trans h'.suffix
  case lasts =>
    intro endTime hbound hend
    refine h'.lasts endTime (hbound.trans ?_) (h.lasts endTime hbound hend)
    exact Int.add_le_add_right (hclock _ _ h.forward) _
  case turn =>
    rcases h'.turn with hlater | ⟨broadcast, q, hchannel, hsent, hlater⟩
    · rcases h.turn with hturn | ⟨broadcast, q, hchannel, hsent, hturn⟩
      · left
        refine hlater.trans (max_le ?_ (le_max_right _ _))
        exact hturn.trans (max_le_max le_rfl hb)
      · rcases le_max_iff.mp hlater with hkept | hnow
        · exact Or.inr ⟨broadcast, q, hchannel, hsent.trans_suffix h'.suffix, hkept.trans hturn⟩
        · exact Or.inl (hnow.trans (le_max_right _ _))
    · exact Or.inr ⟨broadcast, q, hchannel, .suffix_trans h.suffix hsent, hlater⟩

theorem Act.keepsTurn (hclock : ∀ q q', q ≤ q' → (w q).clock ≤ (w q').clock) (h : Act w a b)
    (c : Output) : KeepsTurn w c a b := by
  have hforward := h.forward
  have hsuffix := h.log_suffix
  cases h with
  | @subscribe i s f c' _ _ =>
    by_cases hc : c = c'
    · subst hc
      constructor
      case forward => exact hforward
      case suffix => exact hsuffix
      case lasts =>
        intro endTime hbound _
        simp only [TaskState.subscribed, TaskState.updateOutput, Function.update_self]
        exact hbound.trans (Int.add_le_add_right (hclock _ _ (Nat.le_succ i)) _)
      case turn =>
        left
        simp only [TaskState.subscribed, TaskState.updateOutput, Function.update_self]
        exact le_max_of_le_right (hclock _ _ (Nat.le_add_right i 2))
    · exact .of_eq hforward hsuffix (TaskState.subscribed_of_ne hc _ _ _)
  | @broadcast i q s b buffer header hdue hq =>
    by_cases hc : c = b.channelId
    · subst hc
      constructor
      case forward => exact hforward
      case suffix => exact hsuffix
      case lasts =>
        intro endTime _ hend
        simpa [TaskState.broadcasted, TaskState.postponed, TaskState.updateOutput] using hend
      case turn =>
        refine Or.inr ⟨b, q, rfl, ⟨_, _, List.suffix_rfl, List.suffix_rfl⟩, ?_⟩
        simp only [TaskState.broadcasted, TaskState.postponed, TaskState.updateOutput,
          TaskState.logged_driverState, Function.update_self]
        exact le_rfl
    · exact .of_eq hforward hsuffix (TaskState.broadcasted_of_ne hc _ _ _)
  | _ => exact .of_eq hforward hsuffix rfl

theorem Acts.keepsTurn (hclock : ∀ q q', q ≤ q' → (w q).clock ≤ (w q').clock) (h : Acts w a b)
    (c : Output) : KeepsTurn w c a b := by
  induction h with
  | refl => exact .refl
  | tail _ hlast ih => exact ih.trans hclock (hlast.keepsTurn hclock c)

theorem Acts.forward (h : Acts w a b) : a.1 ≤ b.1 := by
  induction h with
  | refl => exact le_rfl
  | tail _ hlast ih => exact ih.trans hlast.forward

/-- Every output frame that was sent carries what was read since. -/
def ReadsBetween (a b : ℕ × TaskState) : Prop :=
  ∃ recent, b.2.log = recent ++ a.2.log ∧ ∀ frame broadcast,
    .sent frame (.output broadcast) ∈ recent →
      a.1 ≤ broadcast.readFrom ∧ broadcast.readFrom < b.1

theorem Act.readsBetween (h : Act w a b) : ReadsBetween a b := by
  cases h with
  | wait => exact ⟨[], rfl, nofun⟩
  | timers => exact ⟨[], rfl, nofun⟩
  | reply frame purpose hpurpose =>
    refine ⟨[_], rfl, ?_⟩
    intro frame' broadcast hmem
    rw [List.mem_singleton] at hmem
    cases hmem
    simp at hpurpose
  | handle => exact ⟨[_], rfl, by simp⟩
  | answer => exact ⟨[_, _], rfl, by simp⟩
  | subscribe => exact ⟨[_], rfl, by simp⟩
  | @broadcast i q s b buffer header hdue hq =>
    refine ⟨[_, _], rfl, ?_⟩
    intro frame' broadcast hmem
    have hsame : broadcast = b := by
      simp at hmem
      exact hmem.2
    have hread : b.readFrom ≤ b.readAt := hdue.readAt ▸ mqttReadAt_ge _ _ _
    have hstart := hdue.start
    have horder := hdue.order
    rw [hsame]
    constructor
    · change i ≤ b.readFrom
      omega
    · change b.readFrom < q + 1
      omega

theorem Acts.readsBetween (h : Acts w a b) : ReadsBetween a b := by
  induction h with
  | refl => exact ⟨[], rfl, nofun⟩
  | tail hacts hlast ih =>
    obtain ⟨recent, hlog, hrecent⟩ := ih
    obtain ⟨later, hlater, hreads⟩ := hlast.readsBetween
    refine ⟨later ++ recent, by rw [hlater, hlog, List.append_assoc], ?_⟩
    intro frame broadcast hmem
    rcases List.mem_append.mp hmem with hmem | hmem
    · obtain ⟨hfrom, hto⟩ := hreads frame broadcast hmem
      exact ⟨(Acts.forward hacts).trans hfrom, hto⟩
    · obtain ⟨hfrom, hto⟩ := hrecent frame broadcast hmem
      exact ⟨hfrom, hto.trans_le hlast.forward⟩

end Turns

section Rounds

variable {configJson : ControllerObject} {load : Loading configJson} {env : Environment}
  {i : ℕ} {s : TaskState} {f : TFrame} {c : Output}

theorem TaskState.requestedOutput_sendTimePoint (w : ℕ → World) :
    ((s.requestedOutput w i f).driverState.outputMapping f.askedOutput).sendTimePoint =
      (w (i + 1)).clock := by
  simp [requestedOutput, subscribed, updateOutput]

theorem TaskState.requestedOutput_sendEndTimePoint (w : ℕ → World) :
    ((s.requestedOutput w i f).driverState.outputMapping f.askedOutput).sendEndTimePoint =
      (w (i + 2)).clock + sendMessagesTime := by
  simp [requestedOutput, subscribed, updateOutput]

theorem wp_iteration_subscribes (h : Deployed load env)
    (hsame : load.config.SameChannels s.driverState) (hf : f.AsksForOutput load.config.programId)
    (hc : (load.config.outputMapping f.askedOutput).isInitialized) :
    (iteration (some f)).wp env.world
      (fun _ j t =>
        KeepsTurn env.world f.askedOutput (i + 3, s.requestedOutput env.world i f) (j, t) ∧
        ((env.world j).clock ≤ (env.world (i + 2)).clock + sendMessagesTime →
          LoggedSince (Event.SendsOutput f.askedOutput) s t))
      (fun _ _ _ => False) i s := by
  have hf' : f.AsksForOutput (s.received env.world i f).driverState.programId := by
    rw [TaskState.received_driverState, hsame.programId]
    exact hf
  have hc' : ((s.received env.world i f).driverState.outputMapping
      f.askedOutput).isInitialized := by
    have hchannel := hsame.outputs f.askedOutput
    rw [TMqttChannel.isInitialized] at hc ⊢
    rwa [TaskState.received_driverState, hchannel]
  have hcovered : ∀ k, (s.requestedOutput env.world i f).driverState.Covered
      (env.world k).timing := by
    intro k
    have hsubscribed := TaskState.subscribed_sameChannels (s := s.received env.world i f)
      f.askedOutput (mappingPointOf f.data) (env.world (i + 1)).clock
      ((env.world (i + 2)).clock + sendMessagesTime)
    exact hsubscribed.covered (hsame.covered (h.covered k))
  apply wp_iteration_received
  apply Program.wp_mono (wp_handleRequest env.world (i + 1) _ f)
  · intro _ k u _ houtcome
    obtain ⟨_, rfl, rfl⟩ := houtcome.of_asksForOutput hf' hc'
    have hkeeps := wp_scheduled (E := fun _ _ _ => False) hcovered (i := i + 3) .refl
    have hsends := wp_scheduledWork (E := fun _ _ _ => False) (i := i + 3) h hcovered
      f.askedOutput ((env.world (i + 2)).clock + sendMessagesTime)
    apply Program.wp_mono (Program.wp_and hkeeps hsends)
    · rintro _ j t _ ⟨hacts, _, hsent, _⟩
      refine ⟨hacts.keepsTurn env.clock_le f.askedOutput, ?_⟩
      intro hclock
      have hlogged := hsent (TaskState.requestedOutput_due hsame hc) hclock
      exact .suffix_trans (List.suffix_cons _ _) hlogged
    · exact fun _ _ _ _ hfalse => hfalse.1.elim
  · intro e k u _ houtcome
    obtain ⟨hok, _⟩ := houtcome.of_asksForOutput hf' hc'
    cases hok

end Rounds

section Runs

variable {configJson : ControllerObject} {load : Loading configJson} {env : Environment}
  {inputs : ℕ → Option TFrame} {m n : ℕ} {f : TFrame} {c : Output}

def BroadcastsIn (load : Loading configJson) (env : Environment) (inputs : ℕ → Option TFrame)
    (c : Output) (n : ℕ) : Prop :=
  LoggedSince (Event.SendsOutput c) (runState load env inputs n) (runState load env inputs (n + 1))

/-- Round `n` of a run broadcasts an output, and stamps the broadcast at the observation `q`. -/
structure BroadcastsAt (load : Loading configJson) (env : Environment)
    (inputs : ℕ → Option TFrame) (c : Output) (n : ℕ) (b : Broadcast) (q : ℕ) : Prop where
  channel : b.channelId = c
  sent : SentAt b q (runState load env inputs n) (runState load env inputs (n + 1))

/-- What is left of the subscription in round `m` when round `n` begins. -/
structure SubscribedSince (load : Loading configJson) (env : Environment)
    (inputs : ℕ → Option TFrame) (c : Output) (m n : ℕ) : Prop where
  lasts : roundClock load env inputs m + sendMessagesTime ≤
    ((runState load env inputs n).driverState.outputMapping c).sendEndTimePoint
  turn : ((runState load env inputs n).driverState.outputMapping c).sendTimePoint ≤
      roundClock load env inputs n ∨
    ∃ k b q, m ≤ k ∧ k < n ∧ BroadcastsAt load env inputs c k b q ∧
      ((runState load env inputs n).driverState.outputMapping c).sendTimePoint ≤
        (env.world q).clock + sendMessagesInterval
  connected : roundClock load env inputs n < roundClock load env inputs m + connectionTimeout →
    (runState load env inputs n).status = .running
  reset : roundClock load env inputs m + connectionTimeout ≤
    (runState load env inputs n).resetConnectionTime

theorem Deployed.acts_round (h : Deployed load env) (inputs : ℕ → Option TFrame) (n : ℕ) :
    Acts env.world (runPosition load env inputs n, runState load env inputs n)
      (runPosition load env inputs (n + 1), runState load env inputs (n + 1)) := by
  have hwp := (Acts.kept (h.covered_runState inputs n)).wp_iteration
    (i := runPosition load env inputs n) .refl (inputs n)
  have hacts := Program.wp_ok hwp (h.run_round inputs n)
  exact hacts

theorem Deployed.keepsTurn (h : Deployed load env) (inputs : ℕ → Option TFrame) (c : Output)
    (n : ℕ) :
    KeepsTurn env.world c (runPosition load env inputs n, runState load env inputs n)
      (runPosition load env inputs (n + 1), runState load env inputs (n + 1)) :=
  (h.acts_round inputs n).keepsTurn env.clock_le c

theorem Deployed.runPosition_mono (h : Deployed load env) (hmn : m ≤ n) :
    runPosition load env inputs m ≤ runPosition load env inputs n :=
  monotone_nat_of_le_succ (fun n => Acts.forward (h.acts_round inputs n)) hmn

theorem Deployed.roundClock_mono (h : Deployed load env) (hmn : m ≤ n) :
    roundClock load env inputs m ≤ roundClock load env inputs n :=
  env.clock_mono (h.runPosition_mono hmn)

theorem Deployed.subscribes (h : Deployed load env) (hinput : inputs m = some f)
    (hf : f.SubscribesTo load.config.programId c)
    (hc : (load.config.outputMapping c).isInitialized) :
    SubscribedSince load env inputs c m (m + 1) ∧
      (roundClock load env inputs (m + 1) ≤ roundClock load env inputs m + sendMessagesTime →
        BroadcastsIn load env inputs c m) := by
  obtain ⟨hasks, rfl⟩ := hf.asksForOutput
  have hrun := h.run_round inputs m
  have hround := h.round inputs m
  rw [hinput] at hrun hround
  have hwp := wp_iteration_subscribes (i := runPosition load env inputs m) h
    (h.sameChannels_runState inputs m) hasks hc
  obtain ⟨hkeeps, hsends⟩ := Program.wp_ok hwp hrun
  have hrequest : roundClock load env inputs m + sendMessagesTime ≤
      (env.world (runPosition load env inputs m + 2)).clock + sendMessagesTime :=
    Int.add_le_add_right (env.clock_mono (Nat.le_add_right _ 2)) _
  refine ⟨?_, fun hlasts => hsends (hlasts.trans hrequest)⟩
  obtain ⟨hstatus, hreset⟩ := hround.connected
  constructor
  case lasts =>
    apply hrequest.trans
    apply hkeeps.lasts
    · exact Int.add_le_add_right (env.clock_mono (Nat.le_succ _)) _
    · rw [TaskState.requestedOutput_sendEndTimePoint]
  case turn =>
    rcases hkeeps.turn with hturn | ⟨b, q, hchannel, hsent, hturn⟩
    · left
      refine hturn.trans (max_le ?_ le_rfl)
      rw [TaskState.requestedOutput_sendTimePoint]
      exact env.clock_mono ((Nat.le_add_right _ 2).trans hkeeps.forward)
    · exact Or.inr ⟨m, b, q, le_rfl, Nat.lt_succ_self m,
        ⟨hchannel, .suffix_trans (List.suffix_cons _ _) hsent⟩, hturn⟩
  case connected => exact fun _ => hstatus
  case reset => exact hreset.ge

theorem SubscribedSince.round (h : Deployed load env) (hmn : m ≤ n)
    (hsince : SubscribedSince load env inputs c m n) :
    SubscribedSince load env inputs c m (n + 1) := by
  have hkeeps := h.keepsTurn inputs c n
  have hround := h.round inputs n
  have hclock : roundClock load env inputs n ≤ roundClock load env inputs (n + 1) :=
    h.roundClock_mono (Nat.le_succ n)
  have hstart : roundClock load env inputs m ≤ roundClock load env inputs n :=
    h.roundClock_mono hmn
  constructor
  case lasts =>
    refine hkeeps.lasts _ ?_ hsince.lasts
    exact Int.add_le_add_right hstart _
  case turn =>
    rcases hkeeps.turn with hturn | ⟨b, q, hchannel, hsent, hturn⟩
    · rcases hsince.turn with hnow | ⟨k, b, q, hmk, hkn, hsent, hlast⟩
      · exact Or.inl (hturn.trans (max_le (hnow.trans hclock) le_rfl))
      · rcases le_max_iff.mp hturn with hkept | hnow
        · exact Or.inr ⟨k, b, q, hmk, hkn.trans (Nat.lt_succ_self n), hsent, hkept.trans hlast⟩
        · exact Or.inl hnow
    · exact Or.inr ⟨n, b, q, hmn, Nat.lt_succ_self n, ⟨hchannel, hsent⟩, hturn⟩
  case connected =>
    intro hlasts
    cases hinput : inputs n with
    | some f =>
      rw [hinput] at hround
      exact hround.connected.1
    | none =>
      rw [hinput] at hround
      have hbefore := hclock.trans_lt hlasts
      exact hround.kept.1.mpr ⟨hsince.connected hbefore, hbefore.trans_le hsince.reset⟩
  case reset =>
    cases hinput : inputs n with
    | some f =>
      rw [hinput] at hround
      rw [hround.connected.2]
      exact Int.add_le_add_right hstart _
    | none =>
      rw [hinput] at hround
      rw [hround.kept.2]
      exact hsince.reset

theorem Deployed.subscribedSince (h : Deployed load env) (hinput : inputs m = some f)
    (hf : f.SubscribesTo load.config.programId c)
    (hc : (load.config.outputMapping c).isInitialized) (hmn : m < n) :
    SubscribedSince load env inputs c m n := by
  induction n, hmn using Nat.le_induction with
  | base => exact (h.subscribes hinput hf hc).1
  | succ n hmn ih => exact ih.round h (Nat.le_of_succ_le hmn)

theorem SubscribedSince.broadcasts (h : Deployed load env)
    (hsince : SubscribedSince load env inputs c m n)
    (hc : (load.config.outputMapping c).isInitialized) (hmn : m ≤ n)
    (hserved : ∀ f ∈ inputs n, f.Served load.config.programId)
    (hlasts : roundClock load env inputs (n + 1) < roundClock load env inputs m + sendMessagesTime)
    (hrest : ∀ k b q, m ≤ k → k < n → BroadcastsAt load env inputs c k b q →
      (env.world q).clock + sendMessagesInterval ≤ roundClock load env inputs n) :
    BroadcastsIn load env inputs c n := by
  have hrunning := (hsince.round h hmn).connected hlasts
  have hturn : ((runState load env inputs n).driverState.outputMapping c).sendTimePoint ≤
      roundClock load env inputs n := by
    rcases hsince.turn with hnow | ⟨k, b, q, hmk, hkn, hsent, hlast⟩
    · exact hnow
    · exact hlast.trans (hrest k b q hmk hkn hsent)
  obtain ⟨e, _, _, hchannel⟩ := load.exists_sensor hc
  obtain ⟨_, _, hdevice, hcontrol⟩ := TMqttChannel.fromString_eq_ok.mp hchannel
  rw [← (h.sameChannels_runState inputs n).outputs] at hdevice hcontrol
  have hdue : ((runState load env inputs n).driverState.outputMapping c).DueUntil
      (env.world (runPosition load env inputs n)) (roundClock load env inputs (n + 1)) :=
    ⟨hdevice, hcontrol, hlasts.le.trans hsince.lasts, Or.inl hturn⟩
  exact h.round_sends (h.reaches inputs n) hdue (h.run_round inputs n) hrunning hserved le_rfl

theorem Deployed.broadcastsIn (h : Deployed load env) (hinput : inputs m = some f)
    (hf : f.SubscribesTo load.config.programId c)
    (hc : (load.config.outputMapping c).isInitialized) (hmn : m ≤ n)
    (hserved : ∀ f ∈ inputs n, f.Served load.config.programId)
    (hlasts : roundClock load env inputs (n + 1) < roundClock load env inputs m + sendMessagesTime)
    (hrest : ∀ k b q, m ≤ k → k < n → BroadcastsAt load env inputs c k b q →
      (env.world q).clock + sendMessagesInterval ≤ roundClock load env inputs n) :
    BroadcastsIn load env inputs c n := by
  rcases hmn.eq_or_lt with rfl | hlt
  · exact (h.subscribes hinput hf hc).2 hlasts.le
  · exact (h.subscribedSince hinput hf hc hlt).broadcasts h hc hmn hserved hlasts hrest

/-- For ten minutes after a request for an output, every round that does not refuse its frame
broadcasts the output, unless a broadcast was stamped less than thirty seconds before the round
began. -/
theorem broadcasts_keep_coming (h : Deployed load env) (hinput : inputs m = some f)
    (hf : f.SubscribesTo load.config.programId c)
    (hc : (load.config.outputMapping c).isInitialized) (hmn : m ≤ n)
    (hserved : ∀ f ∈ inputs n, f.Served load.config.programId)
    (hlasts : roundClock load env inputs (n + 1) < roundClock load env inputs m + sendMessagesTime)
    (hrest : ∀ k b q, m ≤ k → k < n → BroadcastsAt load env inputs c k b q →
      (env.world q).clock + sendMessagesInterval ≤ roundClock load env inputs n) :
    BroadcastsIn load env inputs c n :=
  h.broadcastsIn hinput hf hc hmn hserved hlasts hrest

/-- The event is the sending of a value for an output, which was read at the observation `since` or
later. -/
def Event.Broadcasts (c : Output) (value : BitVec 16) (since : ℕ) : Event → Prop
  | .sent frame (.output b) => b.channelId = c ∧ since ≤ b.readFrom ∧ frame.broadcastValue = value
  | _ => False

theorem Deployed.broadcastValue (h : Deployed load env) {recent : List Event}
    (hlog : (runState load env inputs (n + 1)).log = recent ++ (runState load env inputs n).log)
    {frame : TFrame} {b : Broadcast} (hsent : .sent frame (.output b) ∈ recent) :
    runPosition load env inputs n ≤ b.readFrom ∧
      b.readFrom < runPosition load env inputs (n + 1) ∧
      frame.broadcastValue = mqttValue env.world b.readFrom
        (load.config.outputMapping b.channelId).device
        (load.config.outputMapping b.channelId).control := by
  obtain ⟨recent', hlog', hreads⟩ := (h.acts_round inputs n).readsBetween
  dsimp only at hlog'
  rw [hlog] at hlog'
  rw [← List.append_cancel_right hlog'] at hreads
  obtain ⟨hfrom, hto⟩ := hreads frame b hsent
  obtain ⟨newer, older, hsplit⟩ := List.append_of_mem hsent
  have hsuffix : (.sent frame (.output b) :: (older ++ (runState load env inputs n).log)) <:+
      (runState load env inputs (n + 1)).log :=
    ⟨newer, by rw [hlog, hsplit, List.append_assoc, List.cons_append]⟩
  have hjustified := (h.acts (h.reaches inputs (n + 1))).allJustified env.clock_le load.fresh
    _ _ hsuffix frame b rfl
  exact ⟨hfrom, hto, hjustified.broadcastValue⟩

/-- A value that the channel of a subscribed output is read as from some observation on is
broadcast, even if the update that brought it was overlooked: at the latest by the round that begins
thirty seconds after the stamp of a broadcast that was read before. -/
theorem lasting_value_broadcast (h : Deployed load env) (hinput : inputs m = some f)
    (hf : f.SubscribesTo load.config.programId c)
    (hc : (load.config.outputMapping c).isInitialized) (hmn : m ≤ n)
    (hserved : ∀ f ∈ inputs n, f.Served load.config.programId)
    (hlasts : roundClock load env inputs (n + 1) < roundClock load env inputs m + sendMessagesTime)
    {value : BitVec 16} {since : ℕ} (hsince : since ≤ runPosition load env inputs n)
    (hvalue : ∀ p, since ≤ p → p < runPosition load env inputs (n + 1) →
      mqttValue env.world p (load.config.outputMapping c).device
        (load.config.outputMapping c).control = value)
    (hrest : ∀ k b q, m ≤ k → k < n → BroadcastsAt load env inputs c k b q → b.readFrom < since →
      (env.world q).clock + sendMessagesInterval ≤ roundClock load env inputs n) :
    ∃ k, m ≤ k ∧ k ≤ n ∧ LoggedSince (Event.Broadcasts c value since)
      (runState load env inputs k) (runState load env inputs (k + 1)) := by
  have hcarries : ∀ k ≤ n, ∀ {recent : List Event} {frame : TFrame} {b : Broadcast},
      (runState load env inputs (k + 1)).log = recent ++ (runState load env inputs k).log →
      .sent frame (.output b) ∈ recent → b.channelId = c → since ≤ b.readFrom →
      LoggedSince (Event.Broadcasts c value since) (runState load env inputs k)
        (runState load env inputs (k + 1)) := by
    intro k hkn recent frame b hlog hsent hchannel hread
    obtain ⟨_, hto, hcarried⟩ := h.broadcastValue hlog hsent
    have hend : b.readFrom < runPosition load env inputs (n + 1) :=
      hto.trans_le (h.runPosition_mono (Nat.succ_le_succ hkn))
    rw [hchannel, hvalue _ hread hend] at hcarried
    exact ⟨recent, hlog, _, hsent, hchannel, hread, hcarried⟩
  by_cases hearlier : ∃ k b q, m ≤ k ∧ k < n ∧ BroadcastsAt load env inputs c k b q ∧
      since ≤ b.readFrom
  · obtain ⟨k, b, q, hmk, hkn, hsent, hread⟩ := hearlier
    obtain ⟨frame, recent, hlog, hmem⟩ := hsent.sent.exists_sent
    exact ⟨k, hmk, hkn.le, hcarries k hkn.le hlog hmem hsent.channel hread⟩
  · have hsent : BroadcastsIn load env inputs c n := by
      apply h.broadcastsIn hinput hf hc hmn hserved hlasts
      intro k b q hmk hkn hsent
      refine hrest k b q hmk hkn hsent (Nat.lt_of_not_le fun hread => ?_)
      exact hearlier ⟨k, b, q, hmk, hkn, hsent, hread⟩
    obtain ⟨recent, hlog, e, he, hsends⟩ := hsent
    cases e with
    | sent frame purpose =>
      cases purpose with
      | output b =>
        have hread : since ≤ b.readFrom := hsince.trans (h.broadcastValue hlog he).1
        exact ⟨n, hmn, le_rfl, hcarries n le_rfl hlog he hsends hread⟩
      | _ => exact hsends.elim
    | _ => exact hsends.elim

end Runs

def roomOutputRequests : ℕ → Option TFrame
  | 0 => some roomOutputRequest
  | _ => none

theorem roomBroadcastsAt {env : Environment} {k q : ℕ} {b : Broadcast} (hk : k < 2)
    (hfirst : (runState roomLoading env roomOutputRequests 1).log = roomLog)
    (hsecond : (runState roomLoading env roomOutputRequests 2).log = roomLog)
    (h : BroadcastsAt roomLoading env roomOutputRequests 0 k b q) : q = 9 ∧ b = roomBroadcast := by
  obtain rfl | rfl : k = 0 ∨ k = 1 := by omega
  · obtain ⟨frame, hrecorded⟩ := h.sent.recorded
    rw [hfirst] at hrecorded
    exact roomLog_recorded hrecorded
  · exact absurd h.sent.loggedSince
      (LoggedNone.not_loggedSince (.of_log_eq (hsecond.trans hfirst.symm)))

/-- Thirty seconds after the answer to the request. -/
theorem broadcasts_keep_coming_room :
    BroadcastsIn roomLoading (roomWaitsAfter 80 30) roomOutputRequests 0 2 := by
  apply broadcasts_keep_coming (roomWaitsAfter_deployed 80 30) (m := 0) (f := roomOutputRequest) rfl
  · decide +kernel
  · decide +kernel
  · exact Nat.zero_le 2
  · exact nofun
  · decide +kernel
  · intro k b q _ hk hsent
    obtain ⟨rfl, _⟩ := roomBroadcastsAt hk (by decide +kernel) (by decide +kernel) hsent
    decide +kernel

/-! The room gets warm between the reading of its temperature and the stamp of the broadcast. -/

theorem roomUpdated_waits : Relation.ReflTransGen WorldStep ((roomUpdatedAfter 8).world 80)
    { roomUpdated with
      clock := 30000000003
      clockBounds := by decide } :=
  .single (.advance roomUpdated _ (by decide) (by decide))

def roomOverlooked : Environment := (roomUpdatedAfter 8).settle 80 roomUpdated_waits

theorem roomOverlooked_deployed : Deployed roomLoading roomOverlooked := ⟨rfl, rfl, le_rfl⟩

theorem roomOverlooked_mqttValue {p : ℕ} (hp : 9 ≤ p) :
    mqttValue roomOverlooked.world p "room" "temperature" = 210 := by
  have hworld : ∀ p, 9 ≤ p → roomOverlooked.world p = roomUpdated ∨
      roomOverlooked.world p = { roomUpdated with
        clock := 30000000003
        clockBounds := by decide } := by
    intro p hp
    simp only [roomOverlooked, roomUpdatedAfter, Evolution.settle, Evolution.jump]
    split_ifs
    · omega
    · exact Or.inl rfl
    · exact Or.inr rfl
  have hread : (roomOverlooked.world (p + 1)).readControl "room" "temperature" = 210 := by
    rcases hworld (p + 1) (by omega) with heq | heq
    · rw [heq]
      decide +kernel
    · rw [heq]
      decide +kernel
  have hfresh : timedOutAt roomOverlooked.world p "room" "temperature" = false := by
    unfold timedOutAt
    rcases hworld p hp with heq | heq
    · rw [heq]
      decide +kernel
    · rw [heq]
      decide +kernel
  rw [mqttValue, hfresh, hread]
  rfl

/-- The new temperature is broadcast thirty seconds after the old one, although its update was
overlooked. -/
theorem lasting_value_broadcast_room :
    ∃ k, 0 ≤ k ∧ k ≤ 2 ∧ LoggedSince (Event.Broadcasts 0 210 9)
      (runState roomLoading roomOverlooked roomOutputRequests k)
      (runState roomLoading roomOverlooked roomOutputRequests (k + 1)) := by
  apply lasting_value_broadcast roomOverlooked_deployed (m := 0) (f := roomOutputRequest) rfl
  · decide +kernel
  · decide +kernel
  · exact Nat.zero_le 2
  · exact nofun
  · decide +kernel
  · decide +kernel
  · intro p hp _
    have hchannel : (roomLoading.config.outputMapping 0).toTMqttChannel =
        ⟨"room", "temperature"⟩ := by decide +kernel
    rw [hchannel]
    exact roomOverlooked_mqttValue hp
  · intro k b q _ hk hsent _
    obtain ⟨rfl, _⟩ := roomBroadcastsAt hk (by decide +kernel) (by decide +kernel) hsent
    decide +kernel

end SmartWebGateway
