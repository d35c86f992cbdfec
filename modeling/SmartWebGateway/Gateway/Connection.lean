import SmartWebGateway.Gateway.Replies
import Mathlib.Tactic

/-!
# The connection and the announcements over a run

The connection is up from a round on a frame until a round without one begins
ten minutes later or more. Outputs and replies are sent over a connection only.
Announcements come whether there is a connection or not: no sooner than ten
seconds after the last one unless another controller asks for one, and no later,
except that a frame that is refused takes the announcement of its round along.
-/
namespace SmartWebGateway

open Foundation
open TMqttToSmartWebGateway

def LoggedNone (P : Event → Prop) (s t : TaskState) : Prop :=
  ∃ recent, t.log = recent ++ s.log ∧ ∀ e ∈ recent, ¬ P e

section Journal

variable {P : Event → Prop} {s t u : TaskState} {e : Event}

theorem LoggedNone.refl : LoggedNone P s s := ⟨[], rfl, nofun⟩

theorem LoggedNone.of_log_eq (h : t.log = s.log) : LoggedNone P s t := ⟨[], h, nofun⟩

theorem LoggedNone.of_logged (he : ¬ P e) : LoggedNone P s (s.logged e) := by
  refine ⟨[e], rfl, ?_⟩
  intro e' he'
  rwa [List.mem_singleton.mp he']

theorem LoggedNone.trans (h : LoggedNone P s t) (h' : LoggedNone P t u) : LoggedNone P s u := by
  obtain ⟨recent, hlog, hrecent⟩ := h
  obtain ⟨later, hlater, hnone⟩ := h'
  refine ⟨later ++ recent, by rw [hlater, hlog, List.append_assoc], ?_⟩
  intro e he
  rcases List.mem_append.mp he with he | he
  · exact hnone e he
  · exact hrecent e he

theorem LoggedNone.not_loggedSince (h : LoggedNone P s t) : ¬ LoggedSince P s t := by
  obtain ⟨recent, hlog, hrecent⟩ := h
  rintro ⟨recent', hlog', e, he, hP⟩
  rw [hlog] at hlog'
  rw [← List.append_cancel_right hlog'] at he
  exact hrecent e he hP

end Journal

def Event.Serves : Event → Prop
  | .sent _ purpose => purpose ≠ .iAmHere
  | _ => False

section Connection

variable {w : ℕ → World} {i j : ℕ} {s t : TaskState} {f : TFrame} {recent : List Event}
  {outcome : Except Exc Unit} {input : Option TFrame}

@[simp] theorem TaskState.requested_status (data : Vector Byte 8) :
    (s.requested w i data).status = s.status := by
  unfold requested lookedUp
  split
  · rfl
  · split_ifs <;> rfl

@[simp] theorem TaskState.requested_resetConnectionTime (data : Vector Byte 8) :
    (s.requested w i data).resetConnectionTime = s.resetConnectionTime := by
  unfold requested lookedUp
  split
  · rfl
  · split_ifs <;> rfl

theorem RequestOutcome.connection (h : RequestOutcome w i s f outcome j t) :
    t.status = s.status ∧ t.resetConnectionTime = s.resetConnectionTime := by
  cases h with
  | rejected _ _ _ ht =>
    rcases ht with rfl | ⟨_, rfl⟩
    · exact ⟨rfl, rfl⟩
    · exact ⟨TaskState.requested_status _, TaskState.requested_resetConnectionTime _⟩
  | replied => exact ⟨rfl, rfl⟩
  | answered => exact ⟨TaskState.requested_status _, TaskState.requested_resetConnectionTime _⟩
  | subscribed => exact ⟨rfl, rfl⟩
  | unmapped => exact ⟨rfl, rfl⟩
  | announced => exact ⟨rfl, rfl⟩

theorem AnnounceOutcome.connection (h : AnnounceOutcome w i s j t) :
    t.status = s.status ∧ t.resetConnectionTime = s.resetConnectionTime := by
  cases h with
  | due => exact ⟨rfl, rfl⟩
  | early => exact ⟨rfl, rfl⟩

theorem TFrame.HandledIn.connection (h : f.HandledIn w i s outcome j t) :
    t.status = .running ∧ t.resetConnectionTime = (w i).clock + connectionTimeout :=
  h.outcome.connection

theorem RoundOutcome.connected (h : RoundOutcome w i s (some f) j t) :
    t.status = .running ∧ t.resetConnectionTime = (w i).clock + connectionTimeout := by
  cases h with
  | served hhandled _ houtputs _ h =>
    rw [h.connection.1, h.connection.2, houtputs.status, houtputs.reset]
    exact hhandled.connection
  | refused hhandled _ => exact hhandled.connection

theorem RoundOutcome.kept (h : RoundOutcome w i s none j t) :
    (t.status = .running ↔ s.status = .running ∧ (w i).clock < s.resetConnectionTime) ∧
      t.resetConnectionTime = s.resetConnectionTime := by
  cases h with
  | idle hstatus h =>
    rw [h.connection.1, h.connection.2, hstatus]
    simp
  | lost _ hreset h =>
    rw [h.connection.1, h.connection.2]
    simp [not_lt.mpr hreset]
  | quiet hstatus hreset _ houtputs h =>
    rw [h.connection.1, h.connection.2, houtputs.status, houtputs.reset, hstatus]
    simp [hreset]

theorem AnnounceOutcome.serves_none (h : AnnounceOutcome w i s j t) :
    LoggedNone Event.Serves s t := by
  cases h with
  | due => exact ⟨[_], rfl, by simp [Event.Serves]⟩
  | early => exact .refl

theorem RoundOutcome.status_of_serves (h : RoundOutcome w i s input j t)
    (hserves : LoggedSince Event.Serves s t) : t.status = .running := by
  cases h with
  | idle _ h => exact absurd hserves h.serves_none.not_loggedSince
  | lost _ _ h => exact absurd hserves h.serves_none.not_loggedSince
  | quiet hstatus _ _ houtputs h => rw [h.connection.1, houtputs.status, hstatus]
  | served hhandled hk houtputs hl h =>
    exact (RoundOutcome.served hhandled hk houtputs hl h).connected.1
  | refused hhandled hj => exact (RoundOutcome.refused hhandled hj).connected.1

end Connection

/-- A round announces the controller, and sets the next announcement at its observation `p`. -/
structure AnnouncedAt (w : ℕ → World) (i : ℕ) (s : TaskState) (input : Option TFrame) (j : ℕ)
    (t : TaskState) (p : ℕ) : Prop where
  since : i ≤ p
  before : p < j
  next : t.sendIAmHereTime = (w p).clock + keepAliveInterval
  logged : LoggedSince Event.Announces s t
  due : (∀ f ∈ input, ¬ f.SaysIAmHere) → s.sendIAmHereTime ≤ (w p).clock

section Announcements

variable {w : ℕ → World} {i j k : ℕ} {s t u : TaskState} {f : TFrame} {recent : List Event}
  {outcome : Except Exc Unit} {input : Option TFrame}

theorem TaskState.SendsOutputs.announces_none (h : s.SendsOutputs t recent) :
    LoggedNone Event.Announces s t := by
  refine ⟨recent, h.log, ?_⟩
  intro e he
  have houtput := h.outputs e he
  cases e with
  | sent frame purpose =>
    cases purpose with
    | output b => exact id
    | _ => exact houtput.elim
  | _ => exact id

/-- Only the announcement of another controller makes a request announce this one. -/
theorem RequestOutcome.announcement (h : RequestOutcome w i s f outcome j t) :
    f.SaysIAmHere ∧ outcome = .ok () ∧
        t.sendIAmHereTime = (w i).clock + keepAliveInterval ∧ LoggedSince Event.Announces s t ∨
      t.sendIAmHereTime = s.sendIAmHereTime ∧ LoggedNone Event.Announces s t := by
  have hrequested : LoggedNone Event.Announces s (s.requested w i f.data) := by
    unfold TaskState.requested TaskState.lookedUp
    split
    · exact .refl
    · split_ifs
      · exact .refl
      · exact .of_logged id
  cases h with
  | rejected _ _ _ ht =>
    rcases ht with rfl | ⟨_, rfl⟩
    · exact Or.inr ⟨rfl, .refl⟩
    · exact Or.inr ⟨TaskState.requested_sendIAmHereTime _, hrequested⟩
  | replied frame purpose hframe =>
    refine Or.inr ⟨rfl, .of_logged ?_⟩
    rcases hframe with ⟨rfl, _⟩ | ⟨rfl, _⟩
    · exact id
    · exact id
  | answered =>
    exact Or.inr ⟨TaskState.requested_sendIAmHereTime _, hrequested.trans (.of_logged id)⟩
  | subscribed => exact Or.inr ⟨rfl, .of_log_eq rfl⟩
  | unmapped => exact Or.inr ⟨rfl, .refl⟩
  | announced hf => exact Or.inl ⟨hf, rfl, rfl, [_], rfl, _, List.mem_singleton_self _, trivial⟩

/-- The announcement by timer after the rest `s` to `u` of a round, in which there was none. -/
theorem AnnounceOutcome.announcedAt (hclock : ∀ q q', q ≤ q' → (w q).clock ≤ (w q').clock)
    (h : AnnounceOutcome w k u j t) (hik : i ≤ k) (hsame : u.sendIAmHereTime = s.sendIAmHereTime)
    (hnone : LoggedNone Event.Announces s u) :
    (∃ p, AnnouncedAt w i s input j t p) ∨
      LoggedNone Event.Announces s t ∧ t.sendIAmHereTime = s.sendIAmHereTime ∧
        (w i).clock < s.sendIAmHereTime := by
  cases h with
  | due hdue =>
    obtain ⟨recent, hlog, _⟩ := hnone
    refine Or.inl ⟨k + 1, ?_⟩
    constructor
    case since => omega
    case before => omega
    case next => rfl
    case logged =>
      exact .suffix_trans ⟨recent, hlog.symm⟩
        ⟨[_], rfl, _, List.mem_singleton_self _, trivial⟩
    case due =>
      intro _
      rw [← hsame]
      exact hdue.trans (hclock _ _ (Nat.le_succ k))
  | early hearly =>
    rw [hsame] at hearly
    exact Or.inr ⟨hnone, hsame, (hclock _ _ hik).trans_lt hearly⟩

theorem AnnounceOutcome.forward (h : AnnounceOutcome w i s j t) : i < j := by
  cases h with
  | due => omega
  | early => exact Nat.lt_succ_self i

theorem AnnounceOutcome.log_suffix (h : AnnounceOutcome w i s j t) : s.log <:+ t.log := by
  cases h with
  | due => exact List.suffix_cons _ _
  | early => exact List.suffix_rfl

/-- A round announces the controller, or it leaves the time of the next announcement as it is; and
then this time has not come, unless the frame was refused. -/
theorem RoundOutcome.announcement (hclock : ∀ q q', q ≤ q' → (w q).clock ≤ (w q').clock)
    (h : RoundOutcome w i s input j t) :
    (∃ p, AnnouncedAt w i s input j t p) ∨
      LoggedNone Event.Announces s t ∧ t.sendIAmHereTime = s.sendIAmHereTime ∧
        ((∀ f ∈ input, f.Served s.driverState.programId) → (w i).clock < s.sendIAmHereTime) := by
  have hweaken : ∀ {P Q R : Prop}, P ∨ Q ∧ R ∧ (w i).clock < s.sendIAmHereTime →
      P ∨ Q ∧ R ∧ ((∀ f ∈ input, f.Served s.driverState.programId) →
        (w i).clock < s.sendIAmHereTime) := by
    rintro P Q R (hP | ⟨hQ, hR, hlt⟩)
    · exact Or.inl hP
    · exact Or.inr ⟨hQ, hR, fun _ => hlt⟩
  cases h with
  | idle _ h => exact hweaken (h.announcedAt hclock le_rfl rfl .refl)
  | lost _ _ h => exact hweaken (h.announcedAt hclock (Nat.le_succ i) rfl (.of_log_eq rfl))
  | quiet _ _ hk houtputs h =>
    exact hweaken (h.announcedAt hclock hk.le houtputs.iAmHere houtputs.announces_none)
  | @served f k l _ u v _ _ hhandled hk houtputs hl h =>
    have hreceived : LoggedNone Event.Announces s (s.received w i f) :=
      ⟨[_], rfl, by simp [Event.Announces]⟩
    rcases hhandled.outcome.announcement with ⟨hhere, _, htime, hlogged⟩ | ⟨htime, hnone⟩
    · have hreceivedLog : s.log <:+ (s.received w i f).log := List.suffix_cons _ _
      have hlogged' := (LoggedSince.suffix_trans hreceivedLog hlogged).trans_suffix
        ⟨_, houtputs.log.symm⟩
      left
      cases h with
      | due hdue =>
        refine ⟨l + 1, by omega, by omega, rfl, ?_, fun hnot => absurd hhere (hnot f rfl)⟩
        exact hlogged'.trans_suffix (List.suffix_cons _ _)
      | early _ =>
        refine ⟨i + 1, by omega, by omega, ?_, hlogged', fun hnot => absurd hhere (hnot f rfl)⟩
        rw [houtputs.iAmHere, htime]
    · refine hweaken (h.announcedAt hclock (hk.trans hl).le ?_ ?_)
      · rw [houtputs.iAmHere, htime]
        rfl
      · exact (hreceived.trans hnone).trans houtputs.announces_none
  | @refused f e _ _ hhandled hj =>
    have hreceived : LoggedNone Event.Announces s (s.received w i f) :=
      ⟨[_], rfl, by simp [Event.Announces]⟩
    have hunserved : ¬ f.Served s.driverState.programId := by
      have houtcome := hhandled.outcome
      cases houtcome with
      | rejected _ _ hf _ => exact hf
    rcases hhandled.outcome.announcement with ⟨_, hok, _, _⟩ | ⟨htime, hnone⟩
    · cases hok
    · exact Or.inr ⟨hreceived.trans hnone, htime, fun hserved => absurd (hserved f rfl) hunserved⟩

end Announcements

section Runs

variable {configJson : ControllerObject} {load : Loading configJson} {env : Environment}
  {inputs : ℕ → Option TFrame} {m n : ℕ}

def roundClock (load : Loading configJson) (env : Environment) (inputs : ℕ → Option TFrame)
    (n : ℕ) : TTimePoint :=
  (env.world (runPosition load env inputs n)).clock

/-- Round `m` had a frame, and the rounds from then to `n` had none and began in time. -/
structure ConnectedSince (load : Loading configJson) (env : Environment)
    (inputs : ℕ → Option TFrame) (m n : ℕ) : Prop where
  before : m < n
  frame : (inputs m).isSome
  none : ∀ r, m < r → r < n → inputs r = none
  inTime : ∀ r, m < r → r < n →
    roundClock load env inputs r < roundClock load env inputs m + connectionTimeout

theorem connectedSince_succ_of_frame (hframe : (inputs n).isSome) :
    ConnectedSince load env inputs m (n + 1) ↔ m = n := by
  constructor
  · intro hm
    by_contra hne
    have hlt : m < n := lt_of_le_of_ne (Nat.le_of_lt_succ hm.before) hne
    rw [hm.none n hlt (Nat.lt_succ_self n)] at hframe
    cases hframe
  · rintro rfl
    refine ⟨Nat.lt_succ_self m, hframe, ?_, ?_⟩
    · exact fun r hr hr' => absurd hr (Nat.not_lt.mpr (Nat.le_of_lt_succ hr'))
    · exact fun r hr hr' => absurd hr (Nat.not_lt.mpr (Nat.le_of_lt_succ hr'))

theorem connectedSince_succ_of_none (hnone : inputs n = none) :
    ConnectedSince load env inputs m (n + 1) ↔
      ConnectedSince load env inputs m n ∧
        roundClock load env inputs n < roundClock load env inputs m + connectionTimeout := by
  constructor
  · intro hm
    have hlt : m < n := by
      refine lt_of_le_of_ne (Nat.le_of_lt_succ hm.before) ?_
      rintro rfl
      have hframe := hm.frame
      rw [hnone] at hframe
      cases hframe
    refine ⟨⟨hlt, hm.frame, ?_, ?_⟩, hm.inTime n hlt (Nat.lt_succ_self n)⟩
    · exact fun r hr hr' => hm.none r hr (hr'.trans (Nat.lt_succ_self n))
    · exact fun r hr hr' => hm.inTime r hr (hr'.trans (Nat.lt_succ_self n))
  · rintro ⟨hm, hclock⟩
    refine ⟨hm.before.trans (Nat.lt_succ_self n), hm.frame, ?_, ?_⟩
    · intro r hr hr'
      rcases Nat.lt_succ_iff_lt_or_eq.mp hr' with hlt | rfl
      · exact hm.none r hr hlt
      · exact hnone
    · intro r hr hr'
      rcases Nat.lt_succ_iff_lt_or_eq.mp hr' with hlt | rfl
      · exact hm.inTime r hr hlt
      · exact hclock

theorem Deployed.connection (h : Deployed load env) (inputs : ℕ → Option TFrame) (n : ℕ) :
    (∀ m, ConnectedSince load env inputs m n →
      (runState load env inputs n).status = .running ∧
        (runState load env inputs n).resetConnectionTime =
          roundClock load env inputs m + connectionTimeout) ∧
    ((runState load env inputs n).status = .running → ∃ m, ConnectedSince load env inputs m n) := by
  induction n with
  | zero =>
    refine ⟨fun m hm => absurd hm.before (Nat.not_lt_zero m), ?_⟩
    rw [runState_zero]
    intro hstatus
    cases hstatus
  | succ n ih =>
    have hround := h.round inputs n
    obtain ⟨hup, hsince⟩ := ih
    cases hinput : inputs n with
    | some f =>
      rw [hinput] at hround
      simp only [connectedSince_succ_of_frame (Option.isSome_iff_exists.mpr ⟨f, hinput⟩)]
      constructor
      · rintro m rfl
        exact hround.connected
      · exact fun _ => ⟨n, rfl⟩
    | none =>
      rw [hinput] at hround
      obtain ⟨hstatus, hreset⟩ := hround.kept
      simp only [connectedSince_succ_of_none hinput]
      constructor
      · rintro m ⟨hm, hclock⟩
        obtain ⟨hrunning, hend⟩ := hup m hm
        rw [hreset, hstatus, hend]
        exact ⟨⟨hrunning, hclock⟩, rfl⟩
      · intro hrunning
        obtain ⟨hbefore, hclock⟩ := hstatus.mp hrunning
        obtain ⟨m, hm⟩ := hsince hbefore
        rw [(hup m hm).2] at hclock
        exact ⟨m, hm, hclock⟩

/-- In every run, the connection is up after some rounds exactly when the latest frame was taken
less than ten minutes before each round that came after it; and whatever is sent but announcements
is sent by a round that leaves the connection up. -/
theorem connection_up_iff (h : Deployed load env) (inputs : ℕ → Option TFrame) (n : ℕ) :
    ((runState load env inputs n).status = .running ↔
      ∃ m, ConnectedSince load env inputs m n) ∧
    (LoggedSince Event.Serves (runState load env inputs n) (runState load env inputs (n + 1)) →
      (runState load env inputs (n + 1)).status = .running) := by
  obtain ⟨hup, hsince⟩ := h.connection inputs n
  refine ⟨⟨hsince, ?_⟩, (h.round inputs n).status_of_serves⟩
  rintro ⟨m, hm⟩
  exact (hup m hm).1

def AnnouncesIn (load : Loading configJson) (env : Environment) (inputs : ℕ → Option TFrame)
    (n : ℕ) : Prop :=
  LoggedSince Event.Announces (runState load env inputs n) (runState load env inputs (n + 1))

/-- A round sends `I_AM_HERE` and counts the time to the next one from its observation `p`. -/
structure AnnouncesAt (load : Loading configJson) (env : Environment) (inputs : ℕ → Option TFrame)
    (n p : ℕ) : Prop where
  announces : AnnouncesIn load env inputs n
  since : runPosition load env inputs n ≤ p
  before : p < runPosition load env inputs (n + 1)
  recorded : (runState load env inputs (n + 1)).sendIAmHereTime =
    (env.world p).clock + keepAliveInterval

theorem Deployed.announcement (h : Deployed load env) (inputs : ℕ → Option TFrame) (n : ℕ) :
    (∃ p, AnnouncedAt env.world (runPosition load env inputs n) (runState load env inputs n)
      (inputs n) (runPosition load env inputs (n + 1)) (runState load env inputs (n + 1)) p) ∨
    ¬ AnnouncesIn load env inputs n ∧
      (runState load env inputs (n + 1)).sendIAmHereTime =
        (runState load env inputs n).sendIAmHereTime ∧
      ((∀ f ∈ inputs n, f.Served load.config.programId) →
        roundClock load env inputs n < (runState load env inputs n).sendIAmHereTime) := by
  rcases (h.round inputs n).announcement env.clock_le with hat | ⟨hnone, htime, hearly⟩
  · exact Or.inl hat
  · rw [(h.sameChannels_runState inputs n).programId] at hearly
    exact Or.inr ⟨hnone.not_loggedSince, htime, hearly⟩

theorem Deployed.announcesAt (h : Deployed load env) (hannounces : AnnouncesIn load env inputs n) :
    ∃ p, AnnouncesAt load env inputs n p ∧
      ((∀ f ∈ inputs n, ¬ f.SaysIAmHere) →
        (runState load env inputs n).sendIAmHereTime ≤ (env.world p).clock) := by
  rcases h.announcement inputs n with ⟨p, hp⟩ | ⟨hnone, _⟩
  · exact ⟨p, ⟨hannounces, hp.since, hp.before, hp.next⟩, hp.due⟩
  · exact absurd hannounces hnone

theorem Deployed.sendIAmHereTime_eq (h : Deployed load env) (hmn : m < n)
    (hsince : ∀ r, m < r → r < n → ¬ AnnouncesIn load env inputs r) :
    (runState load env inputs n).sendIAmHereTime =
      (runState load env inputs (m + 1)).sendIAmHereTime := by
  induction n, hmn using Nat.le_induction with
  | base => rfl
  | succ n hmn ih =>
    have hold := ih fun r hr hr' => hsince r hr (hr'.trans (Nat.lt_succ_self n))
    rcases h.announcement inputs n with ⟨q, hq⟩ | ⟨_, hsame, _⟩
    · exact absurd hq.logged (hsince n hmn (Nat.lt_succ_self n))
    · exact hsame.trans hold

theorem Deployed.sendIAmHereTime_start (h : Deployed load env)
    (hnone : ∀ r < n, ¬ AnnouncesIn load env inputs r) :
    (runState load env inputs n).sendIAmHereTime = (env.world 0).clock := by
  induction n with
  | zero => rfl
  | succ n ih =>
    rcases h.announcement inputs n with ⟨q, hq⟩ | ⟨_, hsame, _⟩
    · exact absurd hq.logged (hnone n (Nat.lt_succ_self n))
    · exact hsame.trans (ih fun r hr => hnone r (hr.trans (Nat.lt_succ_self n)))

/-- The controller announces itself in the first round that does not refuse its frame. From one
announcement to the next, unless another controller's announcement asks for it, ten seconds pass at
least; and no round that does not refuse its frame begins ten seconds after an announcement without
making the next one. -/
theorem announcements_spaced (h : Deployed load env) (inputs : ℕ → Option TFrame) :
    (∀ n, (∀ r < n, ¬ AnnouncesIn load env inputs r) →
      (∀ f ∈ inputs n, f.Served load.config.programId) → AnnouncesIn load env inputs n) ∧
    (∀ n, AnnouncesIn load env inputs n → ∃ p, AnnouncesAt load env inputs n p) ∧
    ∀ m n p, m < n → AnnouncesAt load env inputs m p →
      (∀ r, m < r → r < n → ¬ AnnouncesIn load env inputs r) →
      (∀ q, AnnouncesAt load env inputs n q → (∀ f ∈ inputs n, ¬ f.SaysIAmHere) →
        (env.world p).clock + keepAliveInterval ≤ (env.world q).clock) ∧
      ((∀ f ∈ inputs n, f.Served load.config.programId) →
        (env.world p).clock + keepAliveInterval ≤ roundClock load env inputs n →
        AnnouncesIn load env inputs n) := by
  refine ⟨?_, ?_, ?_⟩
  · intro n hnone hserved
    rcases h.announcement inputs n with ⟨p, hp⟩ | ⟨_, _, hearly⟩
    · exact hp.logged
    · have htime := hearly hserved
      rw [h.sendIAmHereTime_start hnone] at htime
      exact absurd htime (not_lt.mpr (env.clock_mono (Nat.zero_le _)))
  · intro n hannounces
    obtain ⟨p, hp, _⟩ := h.announcesAt hannounces
    exact ⟨p, hp⟩
  · intro m n p hmn hp hsince
    have htime := (h.sendIAmHereTime_eq hmn hsince).trans hp.recorded
    constructor
    · intro q hq hnobody
      obtain ⟨q', hq', hdue⟩ := h.announcesAt hq.announces
      have hsame : (env.world q').clock = (env.world q).clock :=
        add_right_cancel (hq'.recorded.symm.trans hq.recorded)
      rw [← htime, ← hsame]
      exact hdue hnobody
    · intro hserved hlate
      rcases h.announcement inputs n with ⟨q, hq⟩ | ⟨_, _, hearly⟩
      · exact hq.logged
      · have hsoon := hearly hserved
        rw [htime] at hsoon
        exact absurd hsoon (not_lt.mpr hlate)

end Runs

theorem roomClock_bounds (seconds : Fin 600) :
    0 < 1 + 1000000000 * (seconds : ℤ) ∧ 1 + 1000000000 * (seconds : ℤ) < 2 ^ 63 := by omega

theorem roomWorld_waits (seconds : Fin 600) : Relation.ReflTransGen WorldStep roomWorld
    { roomWorld with
      clock := 1 + 1000000000 * (seconds : ℤ)
      clockBounds := roomClock_bounds seconds } := by
  refine .single (.advance roomWorld _ ?_ (roomClock_bounds seconds))
  change (1 : ℤ) ≤ 1 + 1000000000 * (seconds : ℤ)
  omega

def roomWaitsAfter (n : ℕ) (seconds : Fin 600) : Environment :=
  Evolution.jump n (roomWorld_waits seconds)

theorem roomWaitsAfter_deployed (n : ℕ) (seconds : Fin 600) :
    Deployed roomLoading (roomWaitsAfter n seconds) :=
  ⟨rfl, rfl, le_rfl⟩

/-- The last request is two rounds old. -/
theorem connection_up_iff_room :
    (runState roomLoading (roomWaitsAfter 40 10) roomRequests 6).status = .running := by
  apply (connection_up_iff (roomWaitsAfter_deployed 40 10) roomRequests 6).1.mpr
  refine ⟨3, by decide, rfl, ?_, ?_⟩
  · intro r hr hr'
    obtain rfl | rfl : r = 4 ∨ r = 5 := by omega
    · rfl
    · rfl
  · intro r hr hr'
    obtain rfl | rfl : r = 4 ∨ r = 5 := by omega
    · decide +kernel
    · decide +kernel

/-- The next announcement after the one in the first round, ten seconds later. -/
theorem announcements_spaced_room :
    ∃ p q, AnnouncesAt roomLoading (roomWaitsAfter 76 10) (fun _ => some roomSensorRequest) 0 p ∧
      AnnouncesAt roomLoading (roomWaitsAfter 76 10) (fun _ => some roomSensorRequest) 2 q ∧
      ((roomWaitsAfter 76 10).world p).clock + keepAliveInterval ≤
        ((roomWaitsAfter 76 10).world q).clock := by
  obtain ⟨hfirst, hall, hnext⟩ :=
    announcements_spaced (roomWaitsAfter_deployed 76 10) fun _ => some roomSensorRequest
  have hserved : ∀ f ∈ some roomSensorRequest, f.Served roomLoading.config.programId := by
    rintro f ⟨⟩
    decide +kernel
  have hnobody : ∀ f ∈ some roomSensorRequest, ¬ f.SaysIAmHere := by
    rintro f ⟨⟩ ⟨hprogram, _⟩
    revert hprogram
    decide +kernel
  obtain ⟨p, hp⟩ := hall 0 (hfirst 0 nofun hserved)
  have hbetween : ∀ r, 0 < r → r < 2 → ¬ AnnouncesIn roomLoading (roomWaitsAfter 76 10)
      (fun _ => some roomSensorRequest) r := by
    intro r hr hr'
    obtain rfl : r = 1 := by omega
    apply LoggedNone.not_loggedSince
    exact ⟨[.sent (roomSensorRequest.parameterAnswer sensorUndefined) .parameterResponse,
      .handled 41 roomSensorRequest], by decide +kernel, by simp [Event.Announces]⟩
  obtain ⟨hspaced, hdue⟩ := hnext 0 2 p (by decide) hp hbetween
  have hclock : ((roomWaitsAfter 76 10).world p).clock ≤
      roundClock roomLoading (roomWaitsAfter 76 10) (fun _ => some roomSensorRequest) 1 :=
    (roomWaitsAfter 76 10).clock_mono hp.before.le
  have hlate : roundClock roomLoading (roomWaitsAfter 76 10) (fun _ => some roomSensorRequest) 1 +
      keepAliveInterval ≤
        roundClock roomLoading (roomWaitsAfter 76 10) (fun _ => some roomSensorRequest) 2 := by
    decide +kernel
  obtain ⟨q, hq⟩ := hall 2 (hdue hserved (le_trans (by linarith) hlate))
  exact ⟨p, q, hp, hq, hspaced q hq hnobody⟩

end SmartWebGateway
