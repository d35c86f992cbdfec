import SmartWebGateway.Foundation.Endless
import SmartWebGateway.Scheduler.Waiting
import SmartWebGateway.Scheduler.WakeUps
import Mathlib.Tactic

/-!
# A due task is run

The thread never waits beyond the earliest task of its list as long as it hears
of every new one. So while a task is due the thread can always go on, and one
iteration begins after the other until the task has had its turn. A next run
that 64 bits do not hold, or a notification that comes too early, spoils this.
-/
namespace SmartWebGateway

open Foundation Filter

/-- The steps that the thread takes of its own accord. -/
def SchedulerLabel.OfThread : SchedulerLabel → Prop
  | .loadEnabled | .readClock | .lockTasks | .runHead | .release | .relockTasks | .requeue
  | .lockWait | .wait | .expire | .leave => True
  | .spurious | .lockAdd _ | .insert | .notifyAdded | .unlockAdd | .storeEnabled
  | .notifyDestroyed | .tick _ => False

/-- How many steps the thread is away from its next iteration at most. -/
def ThreadPhase.rank : ThreadPhase → ℕ
  | .entered | .finished => 0
  | .looping => 1
  | .woken | .requeueing _ _ => 2
  | .blocked _ | .running _ _ => 3
  | .holding _ => 4
  | .released _ => 5
  | .examining _ => 6
  | .timed _ => 7

namespace TSimpleThreadedScheduler

/-- No notification of a new task is lost, and 64 bits can count every next run. -/
def Dependable (s : TSimpleThreadedScheduler) (l : SchedulerLabel) : Prop :=
  s.Heard l ∧ s.Representable l

section Steps

variable {s t : TSimpleThreadedScheduler} {l : SchedulerLabel}

theorem heard_of_ne (h : l ≠ .notifyAdded) : Heard s l :=
  fun heq => absurd heq h

theorem heard_tail {u : TSimpleThreadedScheduler} (hrun : Leads SchedulerStep Heard s t)
    (hstep : SchedulerStep t l u) (hl : l ≠ .notifyAdded) : Leads SchedulerStep Heard s u :=
  hrun.tail hstep (heard_of_ne hl)

theorem rank_notified_le (phase : ThreadPhase) : phase.notified.rank ≤ phase.rank := by
  cases phase <;> simp [ThreadPhase.notified, ThreadPhase.rank]

/-- Within an iteration the thread comes nearer to the next one by each of its steps. -/
theorem rank_step (hstep : SchedulerStep s l t) (hl : l ≠ .readClock) :
    t.thread.rank ≤ s.thread.rank ∧ (l.OfThread → t.thread.rank < s.thread.rank) := by
  cases hstep with
  | loadEnabled hthread =>
    rw [hthread]
    split_ifs <;> simp [ThreadPhase.rank]
  | readClock hthread => exact absurd rfl hl
  | notifyAdded hadding => exact ⟨rank_notified_le _, False.elim⟩
  | notifyDestroyed hstored => exact ⟨rank_notified_le _, False.elim⟩
  | spurious deadline hthread =>
    rw [hthread]
    exact ⟨by simp [ThreadPhase.rank], False.elim⟩
  | lockTasks now hthread hfree => simp [hthread, ThreadPhase.rank]
  | runHead now td rest hthread htasks hdue => simp [hthread, ThreadPhase.rank]
  | releaseEmpty now hthread htasks => simp [hthread, ThreadPhase.rank]
  | releaseSorted now td first rest later hthread htasks hdue hsort =>
    simp [hthread, ThreadPhase.rank]
  | relockTasks now td hthread hfree => simp [hthread, ThreadPhase.rank]
  | requeue now td hthread => simp [hthread, ThreadPhase.rank]
  | lockWait deadline hthread => simp [hthread, ThreadPhase.rank]
  | wait deadline hthread => simp [hthread, ThreadPhase.rank]
  | expire deadline hthread hclock => simp [hthread, ThreadPhase.rank]
  | leave hthread => simp [hthread, ThreadPhase.rank]
  | _ => exact ⟨le_rfl, False.elim⟩

/-- While no client is in `AddTask`, the thread can go on unless it waits for a later time. -/
theorem exists_thread_step (hadding : s.adding = .absent) (halive : s.thread ≠ .finished)
    (hwait : ∀ deadline, s.thread = .blocked deadline → ∃ d, deadline = some d ∧ d ≤ s.clock) :
    ∃ l t, l.OfThread ∧ SchedulerStep s l t := by
  cases hthread : s.thread with
  | looping => exact ⟨.loadEnabled, _, trivial, .loadEnabled s hthread⟩
  | entered => exact ⟨.readClock, _, trivial, .readClock s hthread⟩
  | timed now =>
    have hfree : s.TasksFree := ⟨hadding, by simp [hthread], by simp [hthread]⟩
    exact ⟨.lockTasks, _, trivial, .lockTasks s now hthread hfree⟩
  | examining now =>
    cases htasks : s.tasks with
    | nil => exact ⟨.release, _, trivial, .releaseEmpty s now hthread htasks⟩
    | cons td rest =>
      by_cases hdue : td.nextRun ≤ now
      · exact ⟨.runHead, _, trivial, .runHead s now td rest hthread htasks hdue⟩
      · have hne : stableSort s.tasks ≠ [] := by
          intro hnil
          have hperm := stableSort_perm s.tasks
          rw [hnil, htasks] at hperm
          exact absurd hperm.nil_eq (by simp)
        obtain ⟨first, later, hsort⟩ := List.exists_cons_of_ne_nil hne
        exact ⟨.release, _, trivial,
          .releaseSorted s now td first rest later hthread htasks hdue hsort⟩
  | running now td =>
    have hfree : s.TasksFree := ⟨hadding, by simp [hthread], by simp [hthread]⟩
    exact ⟨.relockTasks, _, trivial, .relockTasks s now td hthread hfree⟩
  | requeueing now td => exact ⟨.requeue, _, trivial, .requeue s now td hthread⟩
  | released deadline => exact ⟨.lockWait, _, trivial, .lockWait s deadline hthread⟩
  | holding deadline => exact ⟨.wait, _, trivial, .wait s deadline hthread⟩
  | blocked deadline =>
    obtain ⟨d, rfl, hclock⟩ := hwait deadline hthread
    exact ⟨.expire, _, trivial, .expire s d hthread hclock⟩
  | woken => exact ⟨.leave, _, trivial, .leave s hthread⟩
  | finished => exact absurd hthread halive

/-- A thread that watches its list does not wait beyond a task that is due. -/
theorem Alert.expires (h : s.Alert) (hadding : s.adding = .absent) {td : TTaskDescription}
    (hmem : td ∈ s.tasks) (hdue : td.nextRun ≤ s.clock) {deadline : Option ℤ}
    (hblocked : s.thread = .blocked deadline) : ∃ d, deadline = some d ∧ d ≤ s.clock := by
  have hawaits : s.thread.awaits? = some deadline := by rw [hblocked, ThreadPhase.awaits?]
  have hmisses := (h deadline hawaits).resolve_left (by simp [hadding])
  cases deadline with
  | none => exact absurd (hmisses ▸ hmem) List.not_mem_nil
  | some d => exact ⟨d, rfl, (hmisses td hmem).trans hdue⟩

theorem iterationsIn_step (hstep : SchedulerStep s l t) :
    iterationsIn s.log ≤ iterationsIn t.log ∧
      (l = .readClock → iterationsIn s.log < iterationsIn t.log) := by
  cases hstep with
  | readClock hthread => simp [iterationsIn]
  | runHead | releaseEmpty | releaseSorted => exact ⟨le_rfl, by simp⟩
  | _ => exact ⟨le_rfl, by simp⟩

theorem locked_step {period : ℤ} (hlocked : s.adding = .locked period) (hl : l ≠ .insert)
    (hstep : SchedulerStep s l t) : t.adding = .locked period := by
  cases hstep with
  | lockAdd other hfree => exact absurd (hfree.1.symm.trans hlocked) (by simp)
  | insert other hadding => exact absurd rfl hl
  | notifyAdded hadding => exact absurd (hadding.symm.trans hlocked) (by simp)
  | unlockAdd hadding => exact absurd (hadding.symm.trans hlocked) (by simp)
  | _ => exact hlocked

theorem absent_step (habsent : s.adding = .absent) (hstep : SchedulerStep s l t) :
    t.adding = .absent ∨ ∃ period, t.adding = .locked period := by
  cases hstep with
  | lockAdd period hfree => exact Or.inr ⟨period, rfl⟩
  | insert period hadding => exact absurd (habsent.symm.trans hadding) (by simp)
  | notifyAdded hadding => exact absurd (habsent.symm.trans hadding) (by simp)
  | unlockAdd hadding => exact Or.inl rfl
  | _ => exact Or.inl habsent

end Steps

end TSimpleThreadedScheduler

open TSimpleThreadedScheduler

/-- From now on nothing is added, every call of `AddTask` returns, the scheduler is not destroyed
and its thread is not kept from going on. -/
structure GoesOn (run : Endless SchedulerStep) : Prop where
  noMore : ∀ n, run.label n ≠ .insert
  returns : ∀ n, ∃ m ≥ n, (run.state m).adding = .absent
  alive : ∀ n, (run.state n).destroying = .alive
  fair : run.Fair SchedulerLabel.OfThread

/-- What a reachable state has for such a run: the thread watches its list, and only the destructor
ends it. -/
structure Serving (s : TSimpleThreadedScheduler) : Prop where
  alert : s.Alert
  enabled : s.destroying = .alive → s.enabled = true
  unfinished : s.enabled = true → s.thread ≠ .finished

theorem serving_initial (clock : ℤ) : Serving (.initial clock) where
  alert := .of_awake rfl
  enabled _ := rfl
  unfinished _ := nofun

theorem Serving.step {s t : TSimpleThreadedScheduler} {l : SchedulerLabel} (h : Serving s)
    (hC : s.Heard l) (hstep : SchedulerStep s l t) : Serving t := by
  refine ⟨h.alert.step hC hstep, ?_, ?_⟩
  · cases hstep with
    | storeEnabled halive | notifyDestroyed hstored => simp
    | _ => exact h.enabled
  · cases hstep with
    | loadEnabled hthread =>
      intro henabled
      rw [if_pos henabled]
      simp
    | notifyAdded | notifyDestroyed =>
      intro henabled
      have halive := h.unfinished henabled
      revert halive
      cases s.thread <;> simp [ThreadPhase.notified]
    | storeEnabled halive => simp
    | lockAdd | insert | unlockAdd | tick => exact h.unfinished
    | _ => simp

section Endless

variable {run : Endless SchedulerStep} {td : TTaskDescription} {clock : ℤ}

theorem GoesOn.ne_locked (h : GoesOn run) (n : ℕ) (period : ℤ) :
    (run.state n).adding ≠ .locked period := by
  intro hlocked
  have hforever : ∀ m ≥ n, (run.state m).adding = .locked period := by
    intro m hm
    induction m, hm using Nat.le_induction with
    | base => exact hlocked
    | succ m _ ih => exact locked_step ih (h.noMore m) (run.step m)
  obtain ⟨m, hm, habsent⟩ := h.returns n
  exact absurd (habsent.symm.trans (hforever m hm)) (by simp)

theorem GoesOn.eventually_absent (h : GoesOn run) :
    ∀ᶠ n in atTop, (run.state n).adding = .absent := by
  obtain ⟨N, _, hN⟩ := h.returns 0
  refine eventually_atTop.mpr ⟨N, ?_⟩
  intro n hn
  induction n, hn using Nat.le_induction with
  | base => exact hN
  | succ n _ ih =>
    refine (absent_step ih (run.step n)).resolve_right ?_
    rintro ⟨period, hlocked⟩
    exact h.ne_locked (n + 1) period hlocked

/-- While some task is due all the time, one iteration begins after the other. -/
theorem GoesOn.iterates (h : GoesOn run) (hserving : ∀ n, Serving (run.state n))
    (hdue : ∀ n, ∃ td ∈ (run.state n).tasks, td.nextRun ≤ (run.state n).clock) :
    ∃ᶠ n in atTop, run.label n = .readClock := by
  have hcan : ∀ᶠ n in atTop, ∃ l t, l.OfThread ∧ SchedulerStep (run.state n) l t := by
    filter_upwards [h.eventually_absent] with n habsent
    obtain ⟨td, hmem, hclock⟩ := hdue n
    have halive := (hserving n).unfinished ((hserving n).enabled (h.alive n))
    exact exists_thread_step habsent halive fun _ hblocked =>
      (hserving n).alert.expires habsent hmem hclock hblocked
  have hdown : ∀ᶠ n in atTop, ¬ run.label n = .readClock →
      (run.state (n + 1)).thread.rank ≤ (run.state n).thread.rank ∧
        ((run.label n).OfThread →
          (run.state (n + 1)).thread.rank < (run.state n).thread.rank) :=
    Eventually.of_forall fun n hl => rank_step (run.step n) hl
  exact @frequently_of_measure ℕ _ _ (fun n => (run.state n).thread.rank) _ _
    (h.fair.frequently hcan) hdown

/-- The task has been due in `s` and not been run since. -/
def StillWaits (td : TTaskDescription) (s t : TSimpleThreadedScheduler) : Prop :=
  ∃ recent, t.log = recent ++ s.log ∧ (∀ e ∈ recent, ¬ e.Runs td.task) ∧
    Waits td (s.present - 1) (runsIn s.log) (iterationsIn s.log) t

theorem StillWaits.step {s t u : TSimpleThreadedScheduler} {l : SchedulerLabel}
    (h : StillWaits td s t) (hC : NoMore t l) (hstep : SchedulerStep t l u) :
    (∃ e, u.log = e :: t.log ∧ e.Runs td.task) ∨ StillWaits td s u := by
  obtain ⟨recent, hlog, hnone, hwaits⟩ := h
  rcases hwaits.step hC hstep with hran | hwaits
  · exact Or.inl hran
  rcases log_step hstep with hsame | ⟨e, he⟩
  · exact Or.inr ⟨recent, hsame.trans hlog, hnone, hwaits⟩
  by_cases hruns : e.Runs td.task
  · exact Or.inl ⟨e, he, hruns⟩
  · refine Or.inr ⟨e :: recent, by rw [he, hlog, List.cons_append], ?_, hwaits⟩
    exact List.forall_mem_cons.mpr ⟨hruns, hnone⟩

/-- The next run of the task comes, and few others come before it. -/
def RunsSoon (td : TTaskDescription) (others : ℕ) (s : TSimpleThreadedScheduler)
    (run : Endless SchedulerStep) : Prop :=
  ∃ n e recent, (run.state n).log = e :: recent ++ s.log ∧ e.Runs td.task ∧
    (∀ x ∈ recent, ¬ x.Runs td.task) ∧
    runsIn recent ≤ 2 * others ∧ iterationsIn recent ≤ 2 * others + 2

theorem GoesOn.runsSoon (h : GoesOn run) (hserving : ∀ n, Serving (run.state n))
    (hmem : td ∈ (run.state 0).tasks) (hdue : td.nextRun ≤ (run.state 0).clock) :
    RunsSoon td ((run.state 0).present - 1) (run.state 0) run := by
  by_contra hnever
  have hwaits : ∀ n, StillWaits td (run.state 0) (run.state n) := by
    intro n
    induction n with
    | zero => exact ⟨[], rfl, by simp, waits_of_due hmem hdue⟩
    | succ n ih =>
      refine (ih.step (h.noMore n) (run.step n)).resolve_left ?_
      rintro ⟨e, he, hruns⟩
      obtain ⟨recent, hlog, hnone, hwaits⟩ := ih
      obtain ⟨hruns', hiterations⟩ := hwaits.counts hlog
      refine hnever ⟨n + 1, e, recent, ?_, hruns, hnone, hruns', hiterations⟩
      rw [he, hlog, List.cons_append]
  have hiterates := h.iterates hserving fun n => by
    obtain ⟨_, _, _, hwaits⟩ := hwaits n
    exact ⟨td, hwaits.mem, hwaits.due⟩
  have hbound : ∀ n, iterationsIn (run.state n).log ≤
      iterationsIn (run.state 0).log + (2 * ((run.state 0).present - 1) + 2) := by
    intro n
    obtain ⟨recent, hlog, _, hwaits⟩ := hwaits n
    have hcounts := (hwaits.counts hlog).2
    rw [hlog, iterationsIn_append]
    omega
  have hrests := @Endless.eventually_rests _ _ _ run (fun s => iterationsIn s.log) _
    (fun _ _ _ hstep => (iterationsIn_step hstep).1) hbound
  obtain ⟨n, hread, hsame⟩ := (hiterates.and_eventually hrests).exists
  exact absurd hsame ((iterationsIn_step (run.step n)).2 hread).ne'

end Endless

/-- In every run that loses no notification and counts every next run in 64 bits, each added task
that is not running is in the list once, runs are due and keep their distance, and waits end with
the earliest task. While nothing more is added, few others run before a due task, and in a run that
goes on the task is run. -/
theorem periodic_tasks_served {clock : ℤ} {s : TSimpleThreadedScheduler}
    (h : Leads SchedulerStep Dependable (.initial clock) s) :
    (∀ task ∈ s.added, s.thread.runningTask? ≠ some task →
      (s.tasks.map (·.task)).count task = 1) ∧
    AtEach SchedulerEvent.Timely s.log ∧
    (∀ deadline, s.thread.awaits? = some deadline →
      ∃ tasks older, s.log = .waits deadline tasks :: older ∧ IsDeadline deadline tasks) ∧
    ∀ td ∈ s.tasks, td.nextRun ≤ s.clock →
      (∀ t, Leads SchedulerStep NoMore s t →
        ∃ recent, t.log = recent ++ s.log ∧ Prompt td (s.present - 1) recent) ∧
      ∀ run : Endless SchedulerStep, run.state 0 = s → GoesOn run →
        (∀ n, (run.state n).Heard (run.label n)) → RunsSoon td (s.present - 1) s run := by
  have hkept : s.Kept := kept_of_leads (h.mono fun _ _ hC => hC.2)
  refine ⟨fun task hadded hidle => hkept.count_eq_one hadded hidle, hkept.timely,
    fun deadline hawaits => hkept.isDeadline hawaits, ?_⟩
  intro td hmem hdue
  refine ⟨fun t hrun => due_task_prompt hrun hmem hdue, ?_⟩
  rintro run rfl hgoes hheard
  have hstart : Serving (run.state 0) :=
    h.invariant (fun _ _ _ hs hC hstep => hs.step hC.1 hstep) (serving_initial clock)
  have hserving : ∀ n, Serving (run.state n) := by
    intro n
    induction n with
    | zero => exact hstart
    | succ n ih => exact ih.step (hheard n) (run.step n)
  exact hgoes.runsSoon hserving hmem hdue

def Quiet (s : TSimpleThreadedScheduler) : Prop := s.adding = .absent ∧ s.destroying = .alive

/-- While the clients and the destructor do nothing, the scheduler can go on, and what its thread
and the clock keep stays so. -/
theorem exists_goesOn {P : TSimpleThreadedScheduler → Prop} {s : TSimpleThreadedScheduler}
    (h0 : P s) (hquiet : ∀ s, P s → Quiet s)
    (hthread : ∀ s l t, P s → l.OfThread → SchedulerStep s l t → P t)
    (htick : ∀ s clock, P s → P { s with clock := clock }) :
    ∃ run : Endless SchedulerStep, run.state 0 = s ∧ GoesOn run ∧
      ∀ n, (run.state n).Heard (run.label n) ∧ P (run.state n) := by
  obtain ⟨run, hstart, hfair, hrun⟩ := @exists_eager _ _ _ P SchedulerLabel.OfThread
    (fun l => ∃ clock, l = .tick clock) s h0 hthread fun s hs =>
      ⟨_, _, ⟨s.clock + 1, rfl⟩, .tick s (s.clock + 1) (by omega), htick s _ hs⟩
  have hlabel : ∀ n, run.label n ≠ .insert ∧ run.label n ≠ .notifyAdded := by
    intro n
    rcases (hrun n).2 with hmine | ⟨clock, htick⟩
    · constructor <;> intro heq <;> exact (heq ▸ hmine : SchedulerLabel.OfThread _)
    · constructor <;> simp [htick]
  have hstill : ∀ n, Quiet (run.state n) := fun n => hquiet _ (hrun n).1
  refine ⟨run, hstart, ⟨fun n => (hlabel n).1, fun n => ⟨n, le_rfl, (hstill n).1⟩,
    fun n => (hstill n).2, hfair⟩, fun n => ⟨fun heq => ?_, (hrun n).1⟩⟩
  exact absurd heq (hlabel n).2

/-- A task is added before the thread's first iteration. -/
theorem firstAdded_reached : ∃ s, Leads SchedulerStep Dependable (.initial 0) s ∧ Quiet s ∧
    s.tasks = [⟨0, ⟨0, 1000⟩⟩] ∧ s.clock = 0 := by
  have hadding := Leads.refl.tail (C := Dependable) (SchedulerStep.lockAdd (.initial 0) 1000
    ⟨rfl, by simp [initial], by simp [initial]⟩) ⟨heard_of_ne (by simp), trivial⟩
  have hinserted := hadding.tail (.insert _ 1000 rfl) ⟨heard_of_ne (by simp), trivial⟩
  have hnotified := hinserted.tail (.notifyAdded _ rfl)
    ⟨fun _ => by simp [ThreadPhase.OnTheWay, initial], trivial⟩
  have hunlocked := hnotified.tail (.unlockAdd _ rfl) ⟨heard_of_ne (by simp), trivial⟩
  exact ⟨_, hunlocked, ⟨rfl, rfl⟩, rfl, rfl⟩

/-- The scheduler goes on and runs its first task. -/
theorem periodic_tasks_served_first : ∃ (s : TSimpleThreadedScheduler)
    (run : Endless SchedulerStep), Leads SchedulerStep Dependable (.initial 0) s ∧
      run.state 0 = s ∧ GoesOn run ∧ RunsSoon ⟨0, ⟨0, 1000⟩⟩ (s.present - 1) s run := by
  obtain ⟨s, hs, hquiet, htasks, hclock⟩ := firstAdded_reached
  have hkeeps : ∀ s l t, Quiet s → l.OfThread → SchedulerStep s l t → Quiet t := by
    intro s l t hs hl hstep
    cases hstep <;> first | exact hs | exact hl.elim
  obtain ⟨run, hstart, hgoes, hrun⟩ := exists_goesOn hquiet (fun _ hs => hs) hkeeps
    (fun _ _ hs => hs)
  have hserved := (periodic_tasks_served hs).2.2.2 ⟨0, ⟨0, 1000⟩⟩ (by simp [htasks])
    (by simp [hclock])
  exact ⟨s, run, hs, hstart, hgoes, hserved.2 run hstart hgoes fun n => (hrun n).1⟩

/-- The thread sleeps without a deadline over what is recorded. -/
def Asleep (log : List SchedulerEvent) (s : TSimpleThreadedScheduler) : Prop :=
  s.thread = .blocked none ∧ s.log = log ∧ Quiet s

theorem Asleep.no_step {log : List SchedulerEvent} {s t : TSimpleThreadedScheduler}
    {l : SchedulerLabel} (h : Asleep log s) (hl : l.OfThread) : ¬ SchedulerStep s l t := by
  intro hstep
  have hthread := h.1
  cases hstep <;> first | exact hl | simp_all

/-- A task whose first period, in nanoseconds, is the first that 64 bits do not hold. -/
def overflowingTask : TPeriodicTask := ⟨0, 9223372036854776⟩

/-- The next run of the task is counted below zero: it is run twice at once. -/
theorem overflow_reached : ∃ s, Leads SchedulerStep Heard (.initial 0) s ∧
    s.log = [.ran 0 ⟨-9223372036854775616, overflowingTask⟩, .began 0,
      .ran 0 ⟨0, overflowingTask⟩, .began 0] := by
  have hadding := heard_tail .refl (.lockAdd (.initial 0) overflowingTask.period
    ⟨rfl, by simp [initial], by simp [initial]⟩) (by simp)
  have hinserted := heard_tail hadding (.insert _ overflowingTask.period rfl) (by simp)
  have hnotified := hinserted.tail (.notifyAdded _ rfl) fun _ => by
    simp [ThreadPhase.OnTheWay, initial]
  have hunlocked := heard_tail hnotified (.unlockAdd _ rfl) (by simp)
  have hentered := heard_tail hunlocked (.loadEnabled _ rfl) (by simp)
  have htimed := heard_tail hentered (.readClock _ rfl) (by simp)
  have hlocked := heard_tail htimed (.lockTasks _ 0 rfl ⟨rfl, by simp, by simp⟩) (by simp)
  have hrunning := heard_tail hlocked (.runHead _ 0 ⟨0, overflowingTask⟩ [] rfl rfl le_rfl)
    (by simp)
  have hrelocked := heard_tail hrunning (.relockTasks _ 0 ⟨0, overflowingTask⟩ rfl
    ⟨rfl, by simp, by simp⟩) (by simp)
  have hrequeued := heard_tail hrelocked (.requeue _ 0 ⟨0, overflowingTask⟩ rfl) (by simp)
  have hagain := heard_tail hrequeued (.loadEnabled _ rfl) (by simp)
  have hread := heard_tail hagain (.readClock _ rfl) (by simp)
  have hexamining := heard_tail hread (.lockTasks _ 0 rfl ⟨rfl, by simp, by simp⟩) (by simp)
  have hran := heard_tail hexamining (.runHead _ 0 ⟨-9223372036854775616, overflowingTask⟩ [] rfl
    rfl (by decide)) (by simp)
  exact ⟨_, hran, rfl⟩

/-- A next run that 64 bits do not hold comes at once, and a task whose notification is lost is not
run at all. -/
theorem periodic_tasks_failed :
    (∃ s, Leads SchedulerStep Heard (.initial 0) s ∧ ¬ AtEach SchedulerEvent.Timely s.log) ∧
    ∃ run : Endless SchedulerStep, Leads SchedulerStep Anyhow (.initial 0) (run.state 0) ∧
      GoesOn run ∧ ∃ td ∈ (run.state 0).tasks, td.nextRun ≤ (run.state 0).clock ∧
        ∀ n, (run.state n).log = (run.state 0).log := by
  constructor
  · obtain ⟨s, hs, hlog⟩ := overflow_reached
    refine ⟨s, hs, ?_⟩
    intro htimely
    rw [hlog] at htimely
    have hdistance := (atEach_cons.mp htimely).1.2 0 ⟨0, overflowingTask⟩ rfl
      (by simp [since_cons, SchedulerEvent.Runs])
    simp [overflowingTask] at hdistance
  · obtain ⟨s, hs, hadding, halive, hthread, htasks, hclock⟩ := wakeUp_missed
    obtain ⟨run, rfl, hgoes, hrun⟩ := exists_goesOn (P := Asleep s.log)
      ⟨hthread, rfl, hadding, halive⟩ (fun _ hs => hs.2.2)
      (fun _ _ _ hs hl hstep => absurd hstep (hs.no_step hl)) (fun _ _ hs => hs)
    refine ⟨run, hs, hgoes, ⟨0, ⟨0, 1000⟩⟩, by simp [htasks], by simp [hclock], fun n => ?_⟩
    exact (hrun n).2.2.1

end SmartWebGateway
