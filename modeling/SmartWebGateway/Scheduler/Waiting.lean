import SmartWebGateway.Scheduler.Periodic
import Mathlib.Tactic

/-!
# How long a due task waits

While nothing is added, the tasks ahead of a due task run before it. Each of
them may have been in front of an unsorted list, and each may come once more
when the list is sorted; after that the list ahead of a due task stays sorted.
-/
namespace SmartWebGateway

open Foundation

def NoMore (_ : TSimpleThreadedScheduler) (l : SchedulerLabel) : Prop := l ≠ .insert

def runsIn : List SchedulerEvent → ℕ
  | [] => 0
  | .ran _ _ :: log => runsIn log + 1
  | .began _ :: log | .waits _ _ :: log => runsIn log

def iterationsIn : List SchedulerEvent → ℕ
  | [] => 0
  | .began _ :: log => iterationsIn log + 1
  | .ran _ _ :: log | .waits _ _ :: log => iterationsIn log

theorem runsIn_append (recent log : List SchedulerEvent) :
    runsIn (recent ++ log) = runsIn recent + runsIn log := by
  induction recent with
  | nil => simp [runsIn]
  | cons e recent ih =>
    cases e <;> simp only [List.cons_append, runsIn, ih]
    omega

theorem iterationsIn_append (recent log : List SchedulerEvent) :
    iterationsIn (recent ++ log) = iterationsIn recent + iterationsIn log := by
  induction recent with
  | nil => simp [iterationsIn]
  | cons e recent ih =>
    cases e <;> simp only [List.cons_append, iterationsIn, ih]
    omega

/-- The time of the iteration whose decision is still open. -/
def ThreadPhase.now? : ThreadPhase → Option ℤ
  | .timed now | .examining now => some now
  | _ => none

/-- The part of the list before the given task. -/
def ahead (td : TTaskDescription) (tasks : List TTaskDescription) : List TTaskDescription :=
  tasks.takeWhile fun x => x ≠ td

/-- No task before the given one is due later than it. -/
def AheadDue (td : TTaskDescription) (tasks : List TTaskDescription) : Prop :=
  ∀ x ∈ ahead td tasks, x.nextRun ≤ td.nextRun

instance (td : TTaskDescription) (tasks : List TTaskDescription) : Decidable (AheadDue td tasks) :=
  inferInstanceAs (Decidable (∀ x ∈ ahead td tasks, x.nextRun ≤ td.nextRun))

/-- How many tasks may still run before the given one, with `others` other tasks present. -/
def bound (td : TTaskDescription) (others : ℕ) (tasks : List TTaskDescription) : ℕ :=
  (ahead td tasks).length + if AheadDue td tasks then 0 else others

section Lists

variable {td x : TTaskDescription} {tasks rest later : List TTaskDescription} {others : ℕ}

theorem ahead_cons (h : x ≠ td) : ahead td (x :: rest) = x :: ahead td rest := by
  simp [ahead, h]

theorem exists_after (h : td ∈ tasks) : ∃ after, tasks = ahead td tasks ++ td :: after := by
  induction tasks with
  | nil => exact absurd h List.not_mem_nil
  | cons x tasks ih =>
    by_cases hx : x = td
    · exact ⟨tasks, by simp [ahead, hx]⟩
    · obtain ⟨after, hafter⟩ := ih ((List.mem_cons.mp h).resolve_left (Ne.symm hx))
      refine ⟨after, ?_⟩
      rw [ahead_cons hx, List.cons_append, ← hafter]

theorem ahead_append (h : td ∈ tasks) : ahead td (tasks ++ later) = ahead td tasks := by
  induction tasks with
  | nil => exact absurd h List.not_mem_nil
  | cons x tasks ih =>
    by_cases hx : x = td
    · simp [ahead, hx]
    · have hmem := (List.mem_cons.mp h).resolve_left (Ne.symm hx)
      rw [List.cons_append, ahead_cons hx, ahead_cons hx, ih hmem]

theorem length_ahead_lt (h : td ∈ tasks) : (ahead td tasks).length < tasks.length := by
  obtain ⟨after, hafter⟩ := exists_after h
  have hlength := congrArg List.length hafter
  simp only [List.length_append, List.length_cons] at hlength
  omega

theorem aheadDue_of_sorted (h : td ∈ tasks)
    (hsorted : tasks.Pairwise fun t1 t2 => t1.nextRun ≤ t2.nextRun) : AheadDue td tasks := by
  obtain ⟨after, hafter⟩ := exists_after h
  rw [hafter, List.pairwise_append] at hsorted
  intro x hx
  exact hsorted.2.2 x hx td List.mem_cons_self

theorem bound_cons (h : x ≠ td) : bound td others rest + 1 ≤ bound td others (x :: rest) := by
  unfold bound
  rw [ahead_cons h, List.length_cons]
  by_cases hall : AheadDue td (x :: rest)
  · have hrest : AheadDue td rest := fun y hy =>
      hall y (ahead_cons h ▸ List.mem_cons_of_mem x hy)
    rw [if_pos hall, if_pos hrest]
  · rw [if_neg hall]
    split_ifs <;> omega

theorem aheadDue_append (h : td ∈ tasks) : AheadDue td (tasks ++ later) ↔ AheadDue td tasks := by
  rw [AheadDue, AheadDue, ahead_append h]

theorem bound_append (h : td ∈ tasks) :
    bound td others (tasks ++ later) = bound td others tasks := by
  simp only [bound, ahead_append h, aheadDue_append h]

end Lists

namespace TSimpleThreadedScheduler

/-- The task is due and waits in the list. `runs` and `begun` are the runs and the iterations that
were recorded when the waiting began, and an iteration older than the task's time comes first. -/
structure Waits (td : TTaskDescription) (others runs begun : ℕ) (s : TSimpleThreadedScheduler) :
    Prop where
  mem : td ∈ s.tasks
  size : s.tasks.length + s.thread.run?.toList.length = others + 1
  due : td.nextRun ≤ s.clock
  stale : ∀ now, s.thread.now? = some now → now < td.nextRun →
    runsIn s.log = runs ∧ iterationsIn s.log = begun
  bounded : runsIn s.log + bound td others s.tasks ≤ runs + 2 * others
  began : iterationsIn s.log + (if AheadDue td s.tasks then 0 else 1) + runs ≤
    begun + runsIn s.log + 1 + s.thread.now?.toList.length

section Steps

variable {s t : TSimpleThreadedScheduler} {l : SchedulerLabel} {td : TTaskDescription}
  {others runs begun : ℕ}

theorem Waits.same (h : Waits td others runs begun s) (htasks : t.tasks = s.tasks)
    (hlog : t.log = s.log) (hrun : t.thread.run? = s.thread.run?)
    (hnow : t.thread.now? = s.thread.now?) (hclock : s.clock ≤ t.clock) :
    Waits td others runs begun t where
  mem := htasks ▸ h.mem
  size := by
    rw [htasks, hrun]
    exact h.size
  due := h.due.trans hclock
  stale := by
    rw [hnow, hlog]
    exact h.stale
  bounded := by
    rw [htasks, hlog]
    exact h.bounded
  began := by
    rw [htasks, hlog, hnow]
    exact h.began

theorem Waits.readClock (h : Waits td others runs begun s) (hidle : s.thread.run? = none)
    (hnow : s.thread.now? = none) :
    Waits td others runs begun
      { s with thread := .timed s.clock, log := .began s.clock :: s.log } where
  mem := h.mem
  size := by
    have hsize := h.size
    rw [hidle] at hsize
    exact hsize
  due := h.due
  stale := by
    rintro now ⟨⟩ hstale
    exact absurd h.due (not_le.mpr hstale)
  bounded := h.bounded
  began := by
    have hbegan := h.began
    rw [hnow] at hbegan
    simp only [Option.toList_none, List.length_nil] at hbegan
    simp only [iterationsIn, runsIn, ThreadPhase.now?, Option.toList_some, List.length_singleton]
    omega

theorem Waits.runHead (h : Waits td others runs begun s) {now : ℤ} {x : TTaskDescription}
    {rest : List TTaskDescription} (hidle : s.thread.run? = none)
    (hnow : s.thread.now?.toList.length ≤ 1) (htasks : s.tasks = x :: rest) (hx : x ≠ td) :
    Waits td others runs begun
      { s with tasks := rest, thread := .running now x, log := .ran now x :: s.log } where
  mem := (List.mem_cons.mp (htasks ▸ h.mem)).resolve_left (Ne.symm hx)
  size := by
    have hsize := h.size
    rw [hidle, htasks] at hsize
    exact hsize
  due := h.due
  stale := by simp [ThreadPhase.now?]
  bounded := by
    have hbounded := h.bounded
    have hnearer : bound td others rest + 1 ≤ bound td others (x :: rest) := bound_cons hx
    rw [htasks] at hbounded
    simp only [runsIn]
    omega
  began := by
    have hbegan := h.began
    have hsame : (if AheadDue td rest then 0 else 1) ≤ if AheadDue td s.tasks then 0 else 1 := by
      by_cases hall : AheadDue td s.tasks
      · have hrest : AheadDue td rest := fun y hy =>
          hall y (by rw [htasks, ahead_cons hx]; exact List.mem_cons_of_mem x hy)
        rw [if_pos hall, if_pos hrest]
      · rw [if_neg hall]
        split_ifs <;> omega
    simp only [iterationsIn, runsIn, ThreadPhase.now?, Option.toList_none, List.length_nil]
    omega

/-- The list is sorted. Either the iteration is older than the task's time, and nothing has run, or
the front of the list was later than the task and sorting happens for the last time. -/
theorem Waits.releaseSorted (h : Waits td others runs begun s) {now : ℤ}
    {x first : TTaskDescription} {rest later : List TTaskDescription}
    (hidle : s.thread.run? = none) (hnow : s.thread.now? = some now)
    (htasks : s.tasks = x :: rest) (hdue : ¬ x.nextRun ≤ now)
    (hsort : stableSort s.tasks = first :: later) :
    Waits td others runs begun
      { s with
        tasks := first :: later
        thread := .released (some first.nextRun)
        log := .waits (some first.nextRun) (first :: later) :: s.log } := by
  have hperm : (first :: later).Perm s.tasks := hsort ▸ stableSort_perm s.tasks
  have hmem : td ∈ first :: later := hperm.mem_iff.mpr h.mem
  have hsorted : AheadDue td (first :: later) :=
    aheadDue_of_sorted hmem (hsort ▸ stableSort_sorted s.tasks)
  have hsize := h.size
  rw [hidle, Option.toList_none, List.length_nil, Nat.add_zero] at hsize
  have hahead := length_ahead_lt hmem
  rw [hperm.length_eq, hsize] at hahead
  have hunsorted : now < td.nextRun ∨ ¬ AheadDue td s.tasks := by
    by_cases hstale : now < td.nextRun
    · exact Or.inl hstale
    · right
      intro hall
      have hx : x ≠ td := by
        rintro rfl
        omega
      have hfront := hall x (by rw [htasks, ahead_cons hx]; exact List.mem_cons_self)
      omega
  have hbounded := h.bounded
  have hbegan := h.began
  rw [hnow, Option.toList_some, List.length_singleton] at hbegan
  unfold bound at hbounded
  refine ⟨hmem, ?_, h.due, by simp [ThreadPhase.now?], ?_, ?_⟩
  · simp only [hperm.length_eq, ThreadPhase.run?, Option.toList_none, List.length_nil]
    omega
  · simp only [bound, if_pos hsorted, runsIn]
    rcases hunsorted with hstale | hall
    · have hruns := (h.stale now hnow hstale).1
      omega
    · rw [if_neg hall] at hbounded
      omega
  · simp only [if_pos hsorted, iterationsIn, runsIn, ThreadPhase.now?, Option.toList_none,
      List.length_nil]
    rcases hunsorted with hstale | hall
    · obtain ⟨hruns, hbegun⟩ := h.stale now hnow hstale
      omega
    · rw [if_neg hall] at hbegan
      omega

theorem Waits.requeue (h : Waits td others runs begun s) {now : ℤ} {x : TTaskDescription}
    (hrun : s.thread.run? = some (now, x)) (hnow : s.thread.now? = none) :
    Waits td others runs begun { s with
      tasks := TSimpleThreadedScheduler.requeue s.tasks now x.task.run, thread := .looping } where
  mem := List.mem_append_left _ h.mem
  size := by
    have hsize := h.size
    rw [hrun] at hsize
    simpa [TSimpleThreadedScheduler.requeue, TPeriodicTask.run, ThreadPhase.run?] using hsize
  due := h.due
  stale := by simp [ThreadPhase.now?]
  bounded := by
    simp only [TSimpleThreadedScheduler.requeue, bound_append h.mem]
    exact h.bounded
  began := by
    have hbegan := h.began
    rw [hnow] at hbegan
    simp only [TSimpleThreadedScheduler.requeue, aheadDue_append h.mem]
    exact hbegan

theorem now?_notified (phase : ThreadPhase) : phase.notified.now? = phase.now? := by
  cases phase <;> rfl

theorem Waits.step (h : Waits td others runs begun s) (hC : NoMore s l)
    (hstep : SchedulerStep s l t) :
    (∃ e, t.log = e :: s.log ∧ e.Runs td.task) ∨ Waits td others runs begun t := by
  cases hstep with
  | loadEnabled hthread =>
    exact Or.inr (h.same rfl rfl (by split_ifs <;> simp [hthread, ThreadPhase.run?])
      (by split_ifs <;> simp [hthread, ThreadPhase.now?]) le_rfl)
  | readClock hthread =>
    exact Or.inr (h.readClock (by simp [hthread, ThreadPhase.run?])
      (by simp [hthread, ThreadPhase.now?]))
  | lockTasks now hthread hfree =>
    exact Or.inr (h.same rfl rfl (by simp [hthread, ThreadPhase.run?])
      (by simp [hthread, ThreadPhase.now?]) le_rfl)
  | runHead now x rest hthread htasks hdue =>
    by_cases hx : x = td
    · exact Or.inl ⟨.ran now x, rfl, congrArg TTaskDescription.task hx⟩
    · exact Or.inr (h.runHead (by simp [hthread, ThreadPhase.run?])
        (by simp [hthread, ThreadPhase.now?]) htasks hx)
  | releaseEmpty now hthread htasks => exact absurd (htasks ▸ h.mem) List.not_mem_nil
  | releaseSorted now x first rest later hthread htasks hdue hsort =>
    exact Or.inr (h.releaseSorted (by simp [hthread, ThreadPhase.run?])
      (by rw [hthread, ThreadPhase.now?]) htasks hdue hsort)
  | requeue now x hthread =>
    exact Or.inr (h.requeue (by rw [hthread, ThreadPhase.run?])
      (by simp [hthread, ThreadPhase.now?]))
  | relockTasks now x hthread hfree =>
    exact Or.inr (h.same rfl rfl (by simp [hthread, ThreadPhase.run?])
      (by simp [hthread, ThreadPhase.now?]) le_rfl)
  | lockWait deadline hthread | wait deadline hthread | spurious deadline hthread =>
    exact Or.inr (h.same rfl rfl (by simp [hthread, ThreadPhase.run?])
      (by simp [hthread, ThreadPhase.now?]) le_rfl)
  | expire deadline hthread hclock =>
    exact Or.inr (h.same rfl rfl (by simp [hthread, ThreadPhase.run?])
      (by simp [hthread, ThreadPhase.now?]) le_rfl)
  | leave hthread =>
    exact Or.inr (h.same rfl rfl (by simp [hthread, ThreadPhase.run?])
      (by simp [hthread, ThreadPhase.now?]) le_rfl)
  | insert period hadding => exact absurd rfl hC
  | notifyAdded hadding =>
    exact Or.inr (h.same rfl rfl (run?_notified _) (now?_notified _) le_rfl)
  | notifyDestroyed hstored =>
    exact Or.inr (h.same rfl rfl (run?_notified _) (now?_notified _) le_rfl)
  | lockAdd period hfree => exact Or.inr (h.same rfl rfl rfl rfl le_rfl)
  | unlockAdd hadding => exact Or.inr (h.same rfl rfl rfl rfl le_rfl)
  | storeEnabled halive => exact Or.inr (h.same rfl rfl rfl rfl le_rfl)
  | tick clock hlater => exact Or.inr (h.same rfl rfl rfl rfl hlater)

theorem log_step (hstep : SchedulerStep s l t) : t.log = s.log ∨ ∃ e, t.log = e :: s.log := by
  cases hstep with
  | readClock | runHead | releaseEmpty | releaseSorted => exact Or.inr ⟨_, rfl⟩
  | _ => exact Or.inl rfl

end Steps

def present (s : TSimpleThreadedScheduler) : ℕ := s.tasks.length + s.thread.run?.toList.length

end TSimpleThreadedScheduler

open TSimpleThreadedScheduler

/-- As long as the task has not run, few others have, in few iterations. -/
def Prompt (td : TTaskDescription) (others : ℕ) (recent : List SchedulerEvent) : Prop :=
  ∀ later earlier, recent = later ++ earlier → (∀ e ∈ earlier, ¬ e.Runs td.task) →
    runsIn earlier ≤ 2 * others ∧ iterationsIn earlier ≤ 2 * others + 2

section Runs

variable {s t u : TSimpleThreadedScheduler} {l : SchedulerLabel} {td : TTaskDescription}
  {others : ℕ} {recent : List SchedulerEvent} {e : SchedulerEvent}

theorem Prompt.cons (h : Prompt td others recent)
    (he : (∀ x ∈ e :: recent, ¬ x.Runs td.task) →
      runsIn (e :: recent) ≤ 2 * others ∧ iterationsIn (e :: recent) ≤ 2 * others + 2) :
    Prompt td others (e :: recent) := by
  intro later earlier heq hnone
  cases later with
  | nil =>
    rw [List.nil_append] at heq
    subst heq
    exact he hnone
  | cons x later => exact h later earlier (List.cons.inj heq).2 hnone

/-- A due task starts to wait. -/
theorem waits_of_due (hmem : td ∈ s.tasks) (hdue : td.nextRun ≤ s.clock) :
    Waits td (s.present - 1) (runsIn s.log) (iterationsIn s.log) s := by
  have hahead := length_ahead_lt hmem
  have hpresent : s.present = s.tasks.length + s.thread.run?.toList.length := rfl
  refine ⟨hmem, by omega, hdue, fun _ _ _ => ⟨rfl, rfl⟩, ?_, ?_⟩
  · unfold bound
    split_ifs <;> omega
  · split_ifs <;> omega

theorem TSimpleThreadedScheduler.Waits.counts
    (h : Waits td others (runsIn t.log) (iterationsIn t.log) s) (hlog : s.log = recent ++ t.log) :
    runsIn recent ≤ 2 * others ∧ iterationsIn recent ≤ 2 * others + 2 := by
  have hbounded := h.bounded
  have hbegan := h.began
  have hnow : s.thread.now?.toList.length ≤ 1 := by cases s.thread.now? <;> simp
  rw [hlog, runsIn_append] at hbounded hbegan
  rw [iterationsIn_append] at hbegan
  split_ifs at hbegan <;> constructor <;> omega

/-- Since the task was due in `s`, others have run promptly, and it has run or still waits. -/
def SinceDue (td : TTaskDescription) (s t : TSimpleThreadedScheduler) : Prop :=
  ∃ recent, t.log = recent ++ s.log ∧ Prompt td (s.present - 1) recent ∧
    ((∃ e ∈ recent, e.Runs td.task) ∨
      Waits td (s.present - 1) (runsIn s.log) (iterationsIn s.log) t)

theorem sinceDue_refl (hmem : td ∈ s.tasks) (hdue : td.nextRun ≤ s.clock) : SinceDue td s s := by
  refine ⟨[], rfl, ?_, Or.inr (waits_of_due hmem hdue)⟩
  intro later earlier heq _
  obtain ⟨rfl, rfl⟩ := List.append_eq_nil_iff.mp heq.symm
  simp [runsIn, iterationsIn]

theorem SinceDue.step (h : SinceDue td s t) (hC : NoMore t l) (hstep : SchedulerStep t l u) :
    SinceDue td s u := by
  obtain ⟨recent, hlog, hprompt, hran | hwaits⟩ := h
  · rcases log_step hstep with hsame | ⟨e, he⟩
    · exact ⟨recent, hsame.trans hlog, hprompt, Or.inl hran⟩
    · obtain ⟨x, hx, hruns⟩ := hran
      have hmem := List.mem_cons_of_mem e hx
      refine ⟨e :: recent, by rw [he, hlog, List.cons_append], hprompt.cons ?_,
        Or.inl ⟨x, hmem, hruns⟩⟩
      exact fun hnone => absurd hruns (hnone x hmem)
  · rcases hwaits.step hC hstep with ⟨e, he, hruns⟩ | hwaits
    · refine ⟨e :: recent, by rw [he, hlog, List.cons_append], hprompt.cons ?_,
        Or.inl ⟨e, List.mem_cons_self, hruns⟩⟩
      exact fun hnone => absurd hruns (hnone e List.mem_cons_self)
    · rcases log_step hstep with hsame | ⟨e, he⟩
      · exact ⟨recent, hsame.trans hlog, hprompt, Or.inr hwaits⟩
      · have hulog : u.log = (e :: recent) ++ s.log := by rw [he, hlog, List.cons_append]
        exact ⟨e :: recent, hulog, hprompt.cons fun _ => hwaits.counts hulog, Or.inr hwaits⟩

/-- While nothing is added, a due task is run promptly. -/
theorem due_task_prompt (h : Leads SchedulerStep NoMore s t) (hmem : td ∈ s.tasks)
    (hdue : td.nextRun ≤ s.clock) :
    ∃ recent, t.log = recent ++ s.log ∧ Prompt td (s.present - 1) recent := by
  obtain ⟨recent, hlog, hprompt, _⟩ := h.invariant
    (fun _ _ _ ht hC hstep => ht.step hC hstep) (sinceDue_refl hmem hdue)
  exact ⟨recent, hlog, hprompt⟩

end Runs

end SmartWebGateway
