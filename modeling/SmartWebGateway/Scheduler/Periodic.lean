import SmartWebGateway.Foundation.Journal
import SmartWebGateway.Scheduler.Threaded
import Mathlib.Tactic

/-!
# Periodic tasks

The list is sorted only when its head is not due, and a task that has run is
appended behind the others. Still no task is lost or doubled, its runs keep
their distance, and the deadline of a wait is that of the earliest task.
-/
namespace SmartWebGateway

open Foundation

/-- The run that the thread is in: its iteration's time and the task. -/
def ThreadPhase.run? : ThreadPhase → Option (ℤ × TTaskDescription)
  | .running now td | .requeueing now td => some (now, td)
  | _ => none

/-- The task that is running and therefore not in the list. -/
def ThreadPhase.runningTask? (phase : ThreadPhase) : Option TPeriodicTask :=
  phase.run?.map fun run => run.2.task

def SchedulerEvent.Runs (task : TPeriodicTask) : SchedulerEvent → Prop
  | .ran _ td => td.task = task
  | _ => False

/-- The earliest `NextRun` of the list, and none when the list is empty. -/
def IsDeadline : Option ℤ → List TTaskDescription → Prop
  | none, tasks => tasks = []
  | some deadline, tasks =>
    (∃ td ∈ tasks, td.nextRun = deadline) ∧ ∀ td ∈ tasks, deadline ≤ td.nextRun

/-- A run is due and keeps its distance from the task's last one; a wait ends with the earliest
task. -/
def SchedulerEvent.Timely : SchedulerEvent → List SchedulerEvent → Prop
  | .began _, _ => True
  | .ran now td, before => td.nextRun ≤ now ∧
      ∀ last td', td'.task = td.task → Since (fun e => ¬ e.Runs td.task) (.ran last td') before →
        1000 * td.task.period ≤ now - last
  | .waits deadline tasks, _ => IsDeadline deadline tasks

namespace TSimpleThreadedScheduler

/-- The next run of a task that goes back into the list is a time that 64 bits can count. -/
def Representable (s : TSimpleThreadedScheduler) : SchedulerLabel → Prop
  | .requeue => ∀ now td, s.thread = .requeueing now td →
      FitsSigned 64 (now + 1000 * td.task.period)
  | _ => True

/-- Every added task is in the list or running, once, and its `NextRun` is one period after its
last run. -/
structure Kept (s : TSimpleThreadedScheduler) : Prop where
  present : (s.tasks.map (·.task) ++ s.thread.runningTask?.toList).Perm s.added
  distinct : s.added.Nodup
  numbered : ∀ task ∈ s.added, task.id < s.added.length
  known : ∀ now td, .ran now td ∈ s.log → td.task ∈ s.added
  timely : AtEach SchedulerEvent.Timely s.log
  next : ∀ td ∈ s.tasks, ∀ last td', td'.task = td.task →
    Since (fun e => ¬ e.Runs td.task) (.ran last td') s.log →
      td.nextRun = last + 1000 * td.task.period
  running : ∀ now td, s.thread.run? = some (now, td) → ∃ older, s.log = .ran now td :: older
  waiting : ∀ deadline, s.thread.awaits? = some deadline →
    ∃ tasks older, s.log = .waits deadline tasks :: older

theorem kept_initial (clock : ℤ) : (initial clock).Kept where
  present := .refl _
  distinct := .nil
  numbered := by simp [initial]
  known := by simp [initial]
  timely := by simp [initial]
  next := by simp [initial]
  running := by simp [initial, ThreadPhase.run?]
  waiting := by simp [initial, ThreadPhase.awaits?]

section Steps

variable {s t : TSimpleThreadedScheduler} {l : SchedulerLabel}

theorem Kept.same (h : s.Kept) (htasks : t.tasks = s.tasks) (hadded : t.added = s.added)
    (hlog : t.log = s.log) (hrun : t.thread.run? = s.thread.run?)
    (hwait : t.thread.awaits? = none ∨ t.thread.awaits? = s.thread.awaits?) : t.Kept where
  present := by
    simp only [ThreadPhase.runningTask?, hrun, htasks, hadded]
    exact h.present
  distinct := hadded ▸ h.distinct
  numbered := hadded ▸ h.numbered
  known := by
    rw [hlog, hadded]
    exact h.known
  timely := hlog ▸ h.timely
  next := by
    rw [hlog, htasks]
    exact h.next
  running := by
    rw [hlog, hrun]
    exact h.running
  waiting deadline hdeadline := by
    rw [hlog]
    rcases hwait with hnone | hsame
    · rw [hnone] at hdeadline
      cases hdeadline
    · exact h.waiting deadline (hsame ▸ hdeadline)

theorem Kept.noted (h : s.Kept) {e : SchedulerEvent} (he : e.Timely s.log)
    (hother : ∀ now td, .ran now td ≠ e) (hlog : t.log = e :: s.log)
    (htasks : t.tasks.Perm s.tasks) (hadded : t.added = s.added)
    (hidle : t.thread.run? = none) (hwasIdle : s.thread.run? = none)
    (hwait : ∀ deadline, t.thread.awaits? = some deadline → ∃ tasks, e = .waits deadline tasks) :
    t.Kept where
  present := by
    have hpresent := h.present
    simp only [ThreadPhase.runningTask?, hwasIdle] at hpresent
    simp only [ThreadPhase.runningTask?, hidle, hadded]
    exact ((htasks.map _).append_right _).trans hpresent
  distinct := hadded ▸ h.distinct
  numbered := hadded ▸ h.numbered
  known now td hmem := by
    rw [hlog] at hmem
    rw [hadded]
    exact h.known now td (List.mem_of_ne_of_mem (hother now td) hmem)
  timely := by
    rw [hlog]
    exact atEach_cons.mpr ⟨he, h.timely⟩
  next td hmem last td' hsame hsince := by
    rw [hlog, since_cons] at hsince
    rcases hsince with heq | ⟨_, hsince⟩
    · exact absurd heq.symm (hother last td')
    · exact h.next td (htasks.mem_iff.mp hmem) last td' hsame hsince
  running now td hnow := by
    rw [hidle] at hnow
    cases hnow
  waiting deadline hdeadline := by
    obtain ⟨tasks, rfl⟩ := hwait deadline hdeadline
    exact ⟨tasks, s.log, hlog⟩

theorem Kept.runHead (h : s.Kept) {now : ℤ} {td : TTaskDescription} {rest : List TTaskDescription}
    (hidle : s.thread.run? = none) (htasks : s.tasks = td :: rest) (hdue : td.nextRun ≤ now) :
    Kept { s with tasks := rest, thread := .running now td, log := .ran now td :: s.log } := by
  have hpresent := h.present
  simp only [ThreadPhase.runningTask?, hidle, htasks, List.map_cons, Option.map_none,
    Option.toList_none, List.append_nil] at hpresent
  have hmoved : (rest.map (·.task) ++ [td.task]).Perm s.added :=
    (List.perm_append_singleton _ _).trans hpresent
  have hothers : ∀ td2 ∈ rest, td2.task ≠ td.task := by
    intro td2 hmem heq
    have hnodup := hpresent.nodup_iff.mpr h.distinct
    exact (List.nodup_cons.mp hnodup).1 (heq ▸ List.mem_map_of_mem hmem)
  refine { h with present := hmoved, known := ?_, timely := ?_, next := ?_, running := ?_,
                  waiting := by simp [ThreadPhase.awaits?] }
  · intro now' td' hmem
    rcases List.mem_cons.mp hmem with heq | hmem
    · cases heq
      exact hpresent.subset List.mem_cons_self
    · exact h.known now' td' hmem
  · refine atEach_cons.mpr ⟨⟨hdue, ?_⟩, h.timely⟩
    intro last td' hsame hsince
    have hnext := h.next td (htasks ▸ List.mem_cons_self) last td' hsame hsince
    omega
  · intro td2 hmem last td' hsame hsince
    rcases since_cons.mp hsince with heq | ⟨_, hsince⟩
    · cases heq
      exact absurd hsame.symm (hothers td2 hmem)
    · exact h.next td2 (htasks ▸ List.mem_cons_of_mem td hmem) last td' hsame hsince
  · rintro now' td' ⟨⟩
    exact ⟨s.log, rfl⟩

theorem Kept.requeue (h : s.Kept) {now : ℤ} {td : TTaskDescription}
    (hrun : s.thread.run? = some (now, td)) (hfits : FitsSigned 64 (now + 1000 * td.task.period)) :
    Kept { s with
      tasks := TSimpleThreadedScheduler.requeue s.tasks now td.task.run, thread := .looping } := by
  have hpresent := h.present
  simp only [ThreadPhase.runningTask?, hrun, Option.map_some, Option.toList_some] at hpresent
  obtain ⟨older, hlog⟩ := h.running now td hrun
  refine { h with present := ?_, next := ?_, running := by simp [ThreadPhase.run?],
                  waiting := by simp [ThreadPhase.awaits?] }
  · simpa [ThreadPhase.runningTask?, ThreadPhase.run?, TSimpleThreadedScheduler.requeue,
      TPeriodicTask.run] using hpresent
  · intro td2 hmem last td' hsame hsince
    simp only [TSimpleThreadedScheduler.requeue, TPeriodicTask.run, List.map_cons, List.map_nil,
      List.mem_append, List.mem_singleton] at hmem
    rcases hmem with hmem | rfl
    · exact h.next td2 hmem last td' hsame hsince
    · have hlast : Since (fun e => ¬ e.Runs td.task) (.ran last td') (.ran now td :: older) :=
        hlog ▸ hsince
      rcases since_cons.mp hlast with heq | ⟨hnot, _⟩
      · cases heq
        exact hfits.bmod_eq (by decide)
      · exact absurd rfl hnot

theorem Kept.insert (h : s.Kept) (period : ℤ) (adding : AddTaskPhase) :
    Kept { s with
      tasks := ⟨0, ⟨s.added.length, period⟩⟩ :: s.tasks
      adding := adding
      added := ⟨s.added.length, period⟩ :: s.added } := by
  have hnew : (⟨s.added.length, period⟩ : TPeriodicTask) ∉ s.added := fun hmem =>
    lt_irrefl _ (h.numbered _ hmem)
  refine { h with present := h.present.cons _, distinct := List.nodup_cons.mpr ⟨hnew, h.distinct⟩,
                  numbered := ?_, known := ?_, next := ?_ }
  · intro task hmem
    rcases List.mem_cons.mp hmem with rfl | hmem
    · simp
    · exact Nat.lt_succ_of_lt (h.numbered task hmem)
  · intro now td hmem
    exact List.mem_cons_of_mem _ (h.known now td hmem)
  · intro td hmem last td' hsame hsince
    rcases List.mem_cons.mp hmem with rfl | hmem
    · have hknown := h.known last td' hsince.mem
      rw [hsame] at hknown
      exact absurd hknown hnew
    · exact h.next td hmem last td' hsame hsince

theorem run?_notified (phase : ThreadPhase) : phase.notified.run? = phase.run? := by
  cases phase <;> rfl

theorem Kept.step (h : s.Kept) (hC : s.Representable l) (hstep : SchedulerStep s l t) :
    t.Kept := by
  cases hstep with
  | loadEnabled hthread =>
    exact h.same rfl rfl rfl (by split_ifs <;> simp [hthread, ThreadPhase.run?])
      (by split_ifs <;> exact Or.inl rfl)
  | readClock hthread =>
    exact h.noted (e := .began s.clock) trivial (by simp) rfl (.refl _) rfl rfl
      (by simp [hthread, ThreadPhase.run?]) (by simp [ThreadPhase.awaits?])
  | lockTasks now hthread hfree =>
    exact h.same rfl rfl rfl (by simp [hthread, ThreadPhase.run?]) (Or.inl rfl)
  | runHead now td rest hthread htasks hdue =>
    exact h.runHead (by simp [hthread, ThreadPhase.run?]) htasks hdue
  | releaseEmpty now hthread htasks =>
    exact h.noted (e := .waits none []) rfl (by simp) rfl (.refl _) rfl rfl
      (by simp [hthread, ThreadPhase.run?]) (by rintro d ⟨⟩; exact ⟨[], rfl⟩)
  | releaseSorted now td first rest later hthread htasks hdue hsort =>
    have hdeadline : IsDeadline (some first.nextRun) (first :: later) :=
      ⟨⟨first, List.mem_cons_self, rfl⟩, fun _ hmem => first_le hsort hmem⟩
    exact h.noted (e := .waits (some first.nextRun) (first :: later)) hdeadline (by simp) rfl
      (hsort ▸ stableSort_perm s.tasks) rfl rfl (by simp [hthread, ThreadPhase.run?])
      (by rintro d ⟨⟩; exact ⟨first :: later, rfl⟩)
  | relockTasks now td hthread hfree =>
    exact h.same rfl rfl rfl (by simp [hthread, ThreadPhase.run?]) (Or.inl rfl)
  | requeue now td hthread =>
    exact h.requeue (by rw [hthread, ThreadPhase.run?]) (hC now td hthread)
  | lockWait deadline hthread =>
    exact h.same rfl rfl rfl (by simp [hthread, ThreadPhase.run?])
      (Or.inr (by rw [hthread, ThreadPhase.awaits?, ThreadPhase.awaits?]))
  | wait deadline hthread =>
    exact h.same rfl rfl rfl (by simp [hthread, ThreadPhase.run?])
      (Or.inr (by rw [hthread, ThreadPhase.awaits?, ThreadPhase.awaits?]))
  | expire deadline hthread hclock =>
    exact h.same rfl rfl rfl (by simp [hthread, ThreadPhase.run?]) (Or.inl rfl)
  | spurious deadline hthread =>
    exact h.same rfl rfl rfl (by simp [hthread, ThreadPhase.run?]) (Or.inl rfl)
  | leave hthread =>
    exact h.same rfl rfl rfl (by simp [hthread, ThreadPhase.run?]) (Or.inl rfl)
  | insert period hadding => exact h.insert period .inserted
  | notifyAdded hadding =>
    exact h.same rfl rfl rfl (run?_notified _) (ThreadPhase.awaits?_notified_or _)
  | notifyDestroyed hstored =>
    exact h.same rfl rfl rfl (run?_notified _) (ThreadPhase.awaits?_notified_or _)
  | lockAdd period hfree => exact h.same rfl rfl rfl rfl (Or.inr rfl)
  | unlockAdd hadding => exact h.same rfl rfl rfl rfl (Or.inr rfl)
  | storeEnabled halive => exact h.same rfl rfl rfl rfl (Or.inr rfl)
  | tick clock hlater => exact h.same rfl rfl rfl rfl (Or.inr rfl)

end Steps

theorem kept_of_leads {clock : ℤ} {s : TSimpleThreadedScheduler}
    (h : Leads SchedulerStep Representable (.initial clock) s) : s.Kept :=
  h.invariant (fun _ _ _ hs hC hstep => hs.step hC hstep) (kept_initial clock)

theorem Kept.count_eq_one {s : TSimpleThreadedScheduler} (h : s.Kept) {task : TPeriodicTask}
    (hadded : task ∈ s.added) (hidle : s.thread.runningTask? ≠ some task) :
    (s.tasks.map (·.task)).count task = 1 := by
  have hrunning : s.thread.runningTask?.toList.count task = 0 := by
    apply List.count_eq_zero_of_not_mem
    rw [Option.mem_toList]
    exact hidle
  have hcount := h.present.count_eq task
  rw [List.count_append, hrunning, List.count_eq_one_of_mem h.distinct hadded] at hcount
  exact hcount

theorem Kept.isDeadline {s : TSimpleThreadedScheduler} (h : s.Kept) {deadline : Option ℤ}
    (hawaits : s.thread.awaits? = some deadline) :
    ∃ tasks older, s.log = .waits deadline tasks :: older ∧ IsDeadline deadline tasks := by
  obtain ⟨tasks, older, hlog⟩ := h.waiting deadline hawaits
  have htimely := h.timely
  rw [hlog] at htimely
  exact ⟨tasks, older, hlog, (atEach_cons.mp htimely).1⟩

end TSimpleThreadedScheduler

end SmartWebGateway
