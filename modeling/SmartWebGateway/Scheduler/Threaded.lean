import SmartWebGateway.Foundation.Machine
import SmartWebGateway.Foundation.Signed
import Mathlib.Data.List.Sort
import Mathlib.Tactic

/-!
# The threaded scheduler

`TSimpleThreadedScheduler` as a step relation: its thread, the clients that
call `AddTask`, the destructor and the clock. Each lock, unlock, notify and wait
is one step; what is computed while `TasksMutex` is held is part of the step
that releases it. Times are nanoseconds of the steady clock, whose epoch is 0,
in 64 bits with a sign.
-/
namespace SmartWebGateway

open Foundation

/-- A periodic task and its period in microseconds. Every `AddTask` adds a task of its own. -/
structure TPeriodicTask where
  id : ℕ
  period : ℤ
  deriving DecidableEq

/-- `Run` calls the task's function and asks to be run again. -/
def TPeriodicTask.run (task : TPeriodicTask) : List TPeriodicTask := [task]

structure TTaskDescription where
  nextRun : ℤ
  task : TPeriodicTask
  deriving DecidableEq

/-- The thread within `MakeIteration`. A deadline is absent when the wait is untimed. -/
inductive ThreadPhase where
  | looping
  | entered
  | timed (now : ℤ)
  | examining (now : ℤ)
  | running (now : ℤ) (td : TTaskDescription)
  | requeueing (now : ℤ) (td : TTaskDescription)
  | released (deadline : Option ℤ)
  | holding (deadline : Option ℤ)
  | blocked (deadline : Option ℤ)
  | woken
  | finished
  deriving DecidableEq

/-- The client that holds `TasksMutex` in `AddTask`, if any. -/
inductive AddTaskPhase where
  | absent
  | locked (period : ℤ)
  | inserted
  | notified
  deriving DecidableEq

inductive DestructorPhase where
  | alive
  | stored
  | joining
  deriving DecidableEq

/-- What the thread did, recorded newest first. -/
inductive SchedulerEvent where
  | began (now : ℤ)
  | ran (now : ℤ) (td : TTaskDescription)
  | waits (deadline : Option ℤ) (tasks : List TTaskDescription)
  deriving DecidableEq

/-- `added` are the tasks of all calls of `AddTask`. -/
structure TSimpleThreadedScheduler where
  enabled : Bool
  tasks : List TTaskDescription
  thread : ThreadPhase
  adding : AddTaskPhase
  destroying : DestructorPhase
  clock : ℤ
  added : List TPeriodicTask
  log : List SchedulerEvent

/-- `ConditionVariable.notify_one()` reaches the thread only when it waits already. -/
def ThreadPhase.notified : ThreadPhase → ThreadPhase
  | .blocked _ => .woken
  | phase => phase

/-- The wait that the thread is in or on its way to. -/
def ThreadPhase.awaits? : ThreadPhase → Option (Option ℤ)
  | .released deadline | .holding deadline | .blocked deadline => some deadline
  | _ => none

theorem ThreadPhase.awaits?_notified_or (phase : ThreadPhase) :
    phase.notified.awaits? = none ∨ phase.notified.awaits? = phase.awaits? := by
  cases phase <;> simp [notified, awaits?]

/-- The order of `std::stable_sort`. -/
def stableSort (tasks : List TTaskDescription) : List TTaskDescription :=
  tasks.insertionSort fun t1 t2 => t1.nextRun ≤ t2.nextRun

namespace TSimpleThreadedScheduler

def initial (clock : ℤ) : TSimpleThreadedScheduler where
  enabled := true
  tasks := []
  thread := .looping
  adding := .absent
  destroying := .alive
  clock := clock
  added := []
  log := []

def TasksFree (s : TSimpleThreadedScheduler) : Prop :=
  s.adding = .absent ∧ (∀ now, s.thread ≠ .examining now) ∧
    ∀ now td, s.thread ≠ .requeueing now td

/-- The list after the tasks of `res` have been appended; the machine keeps 64 bits of the sum. -/
def requeue (tasks : List TTaskDescription) (now : ℤ) (res : List TPeriodicTask) :
    List TTaskDescription :=
  tasks ++ res.map fun t => ⟨(now + 1000 * t.period).bmod (2 ^ 64), t⟩

end TSimpleThreadedScheduler

inductive SchedulerLabel where
  | loadEnabled
  | readClock
  | lockTasks
  | runHead
  | release
  | relockTasks
  | requeue
  | lockWait
  | wait
  | expire
  | spurious
  | leave
  | lockAdd (period : ℤ)
  | insert
  | notifyAdded
  | unlockAdd
  | storeEnabled
  | notifyDestroyed
  | tick (clock : ℤ)
  deriving DecidableEq

open TSimpleThreadedScheduler in
/-- The atomic steps of the thread, of `AddTask`, of the destructor and of the clock. -/
inductive SchedulerStep :
    TSimpleThreadedScheduler → SchedulerLabel → TSimpleThreadedScheduler → Prop where
  | loadEnabled (s : TSimpleThreadedScheduler) (hthread : s.thread = .looping) :
      SchedulerStep s .loadEnabled
        { s with thread := if s.enabled then .entered else .finished }
  | readClock (s : TSimpleThreadedScheduler) (hthread : s.thread = .entered) :
      SchedulerStep s .readClock
        { s with thread := .timed s.clock, log := .began s.clock :: s.log }
  | lockTasks (s : TSimpleThreadedScheduler) (now : ℤ) (hthread : s.thread = .timed now)
      (hfree : s.TasksFree) :
      SchedulerStep s .lockTasks { s with thread := .examining now }
  | runHead (s : TSimpleThreadedScheduler) (now : ℤ) (td : TTaskDescription)
      (rest : List TTaskDescription) (hthread : s.thread = .examining now)
      (htasks : s.tasks = td :: rest) (hdue : td.nextRun ≤ now) :
      SchedulerStep s .runHead
        { s with tasks := rest, thread := .running now td, log := .ran now td :: s.log }
  | releaseEmpty (s : TSimpleThreadedScheduler) (now : ℤ) (hthread : s.thread = .examining now)
      (htasks : s.tasks = []) :
      SchedulerStep s .release { s with thread := .released none, log := .waits none [] :: s.log }
  | releaseSorted (s : TSimpleThreadedScheduler) (now : ℤ) (td first : TTaskDescription)
      (rest later : List TTaskDescription) (hthread : s.thread = .examining now)
      (htasks : s.tasks = td :: rest) (hdue : ¬ td.nextRun ≤ now)
      (hsort : stableSort s.tasks = first :: later) :
      SchedulerStep s .release
        { s with
          tasks := first :: later
          thread := .released (some first.nextRun)
          log := .waits (some first.nextRun) (first :: later) :: s.log }
  | relockTasks (s : TSimpleThreadedScheduler) (now : ℤ) (td : TTaskDescription)
      (hthread : s.thread = .running now td) (hfree : s.TasksFree) :
      SchedulerStep s .relockTasks { s with thread := .requeueing now td }
  | requeue (s : TSimpleThreadedScheduler) (now : ℤ) (td : TTaskDescription)
      (hthread : s.thread = .requeueing now td) :
      SchedulerStep s .requeue
        { s with tasks := requeue s.tasks now td.task.run, thread := .looping }
  | lockWait (s : TSimpleThreadedScheduler) (deadline : Option ℤ)
      (hthread : s.thread = .released deadline) :
      SchedulerStep s .lockWait { s with thread := .holding deadline }
  | wait (s : TSimpleThreadedScheduler) (deadline : Option ℤ)
      (hthread : s.thread = .holding deadline) :
      SchedulerStep s .wait { s with thread := .blocked deadline }
  | expire (s : TSimpleThreadedScheduler) (deadline : ℤ)
      (hthread : s.thread = .blocked (some deadline)) (hclock : deadline ≤ s.clock) :
      SchedulerStep s .expire { s with thread := .woken }
  | spurious (s : TSimpleThreadedScheduler) (deadline : Option ℤ)
      (hthread : s.thread = .blocked deadline) :
      SchedulerStep s .spurious { s with thread := .woken }
  | leave (s : TSimpleThreadedScheduler) (hthread : s.thread = .woken) :
      SchedulerStep s .leave { s with thread := .looping }
  | lockAdd (s : TSimpleThreadedScheduler) (period : ℤ) (hfree : s.TasksFree) :
      SchedulerStep s (.lockAdd period) { s with adding := .locked period }
  | insert (s : TSimpleThreadedScheduler) (period : ℤ) (hadding : s.adding = .locked period) :
      SchedulerStep s .insert
        { s with
          tasks := ⟨0, ⟨s.added.length, period⟩⟩ :: s.tasks
          adding := .inserted
          added := ⟨s.added.length, period⟩ :: s.added }
  | notifyAdded (s : TSimpleThreadedScheduler) (hadding : s.adding = .inserted) :
      SchedulerStep s .notifyAdded
        { s with thread := s.thread.notified, adding := .notified }
  | unlockAdd (s : TSimpleThreadedScheduler) (hadding : s.adding = .notified) :
      SchedulerStep s .unlockAdd { s with adding := .absent }
  | storeEnabled (s : TSimpleThreadedScheduler) (halive : s.destroying = .alive) :
      SchedulerStep s .storeEnabled { s with enabled := false, destroying := .stored }
  | notifyDestroyed (s : TSimpleThreadedScheduler) (hstored : s.destroying = .stored) :
      SchedulerStep s .notifyDestroyed
        { s with thread := s.thread.notified, destroying := .joining }
  | tick (s : TSimpleThreadedScheduler) (clock : ℤ) (hlater : s.clock ≤ clock) :
      SchedulerStep s (.tick clock) { s with clock := clock }

/-- Waiting until the deadline, or for ever without one, misses no task of the list. -/
def MissesNone : Option ℤ → List TTaskDescription → Prop
  | none, tasks => tasks = []
  | some deadline, tasks => ∀ td ∈ tasks, deadline ≤ td.nextRun

section Sorting

variable {tasks later : List TTaskDescription} {first : TTaskDescription}

theorem stableSort_perm (tasks : List TTaskDescription) : (stableSort tasks).Perm tasks :=
  List.perm_insertionSort _ tasks

theorem stableSort_sorted (tasks : List TTaskDescription) :
    (stableSort tasks).Pairwise fun t1 t2 => t1.nextRun ≤ t2.nextRun := by
  have htotal : Std.Total fun t1 t2 : TTaskDescription => t1.nextRun ≤ t2.nextRun :=
    ⟨fun t1 t2 => le_total t1.nextRun t2.nextRun⟩
  have htrans : IsTrans TTaskDescription fun t1 t2 => t1.nextRun ≤ t2.nextRun :=
    ⟨fun _ _ _ => le_trans⟩
  exact List.pairwise_insertionSort _ tasks

theorem first_le (h : stableSort tasks = first :: later) {td : TTaskDescription}
    (hmem : td ∈ first :: later) : first.nextRun ≤ td.nextRun := by
  have hsorted := stableSort_sorted tasks
  rw [h] at hsorted
  rcases List.mem_cons.mp hmem with rfl | hmem
  · exact le_rfl
  · exact (List.pairwise_cons.mp hsorted).1 td hmem

end Sorting

end SmartWebGateway
