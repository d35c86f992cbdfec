import SmartWebGateway.Scheduler.Threaded
import Mathlib.Tactic

/-!
# Wake-ups of the scheduler's thread

The list of tasks and the wait have a mutex each, and the notification is sent
under neither of the wait's. A notification that finds the thread between the
release of the list and the wait is lost; all others keep the thread from
sleeping over a task or over the end of the scheduler.
-/
namespace SmartWebGateway

open Foundation

/-- The thread has let go of the list and does not wait yet. -/
def ThreadPhase.OnTheWay (phase : ThreadPhase) : Prop :=
  ∃ deadline, phase = .released deadline ∨ phase = .holding deadline

namespace TSimpleThreadedScheduler

/-- Nobody notifies a thread on its way to the wait, and the thread takes that way only while the
destructor has not notified it. -/
def Attentive (s : TSimpleThreadedScheduler) : SchedulerLabel → Prop
  | .notifyAdded | .notifyDestroyed => ¬ s.thread.OnTheWay
  | .release => s.enabled = true ∨ s.destroying = .stored
  | _ => True

/-- A new task is not notified while the thread is on its way to the wait. -/
def Heard (s : TSimpleThreadedScheduler) (l : SchedulerLabel) : Prop :=
  l = .notifyAdded → ¬ s.thread.OnTheWay

/-- A wait misses no task, unless the notification that ends it is still to come. -/
def Alert (s : TSimpleThreadedScheduler) : Prop :=
  ∀ deadline, s.thread.awaits? = some deadline →
    s.adding = .inserted ∨ MissesNone deadline s.tasks

/-- A wait is right, unless the notification that ends it is still to come. -/
structure Watchful (s : TSimpleThreadedScheduler) : Prop where
  tasks : s.Alert
  enabled : ∀ deadline, s.thread.awaits? = some deadline →
    s.enabled = true ∨ s.destroying = .stored

section Steps

variable {s t : TSimpleThreadedScheduler} {l : SchedulerLabel}

theorem Alert.of_awake (h : s.thread.awaits? = none) : s.Alert := by
  intro deadline hdeadline
  rw [h] at hdeadline
  cases hdeadline

theorem Alert.moveTo (h : s.Alert) {phase : ThreadPhase}
    (hsame : phase.awaits? = s.thread.awaits?) : Alert { s with thread := phase } :=
  fun deadline hdeadline => h deadline (hsame ▸ hdeadline)

theorem Watchful.of_awake (h : s.thread.awaits? = none) : s.Watchful where
  tasks := .of_awake h
  enabled deadline hdeadline := by
    rw [h] at hdeadline
    cases hdeadline

theorem Watchful.moveTo (h : s.Watchful) {phase : ThreadPhase}
    (hsame : phase.awaits? = s.thread.awaits?) : Watchful { s with thread := phase } where
  tasks := h.tasks.moveTo hsame
  enabled deadline hdeadline := h.enabled deadline (hsame ▸ hdeadline)

theorem awaits?_notified {phase : ThreadPhase} (h : ¬ phase.OnTheWay) :
    phase.notified.awaits? = none := by
  cases phase with
  | released deadline => exact absurd ⟨deadline, Or.inl rfl⟩ h
  | holding deadline => exact absurd ⟨deadline, Or.inr rfl⟩ h
  | _ => rfl

/-- Only the notification of a new task must not be lost. -/
theorem Alert.step (h : s.Alert) (hC : s.Heard l) (hstep : SchedulerStep s l t) : t.Alert := by
  cases hstep with
  | loadEnabled hthread =>
    apply Alert.of_awake
    split_ifs <;> rfl
  | readClock hthread => exact .of_awake rfl
  | lockTasks now hthread hfree => exact .of_awake rfl
  | runHead now td rest hthread htasks hdue => exact .of_awake rfl
  | releaseEmpty now hthread htasks =>
    rintro deadline ⟨⟩
    exact Or.inr htasks
  | releaseSorted now td first rest later hthread htasks hdue hsort =>
    rintro deadline ⟨⟩
    exact Or.inr fun _ hmem => first_le hsort hmem
  | relockTasks now td hthread hfree => exact .of_awake rfl
  | requeue now td hthread => exact .of_awake rfl
  | lockWait deadline hthread =>
    exact h.moveTo (by rw [hthread, ThreadPhase.awaits?, ThreadPhase.awaits?])
  | wait deadline hthread =>
    exact h.moveTo (by rw [hthread, ThreadPhase.awaits?, ThreadPhase.awaits?])
  | expire deadline hthread hclock => exact .of_awake rfl
  | spurious deadline hthread => exact .of_awake rfl
  | leave hthread => exact .of_awake rfl
  | lockAdd period hfree =>
    exact fun d hd => Or.inr ((h d hd).resolve_left (by simp [hfree.1]))
  | insert period hadding => exact fun _ _ => Or.inl rfl
  | notifyAdded hadding => exact .of_awake (awaits?_notified (hC rfl))
  | unlockAdd hadding =>
    exact fun d hd => Or.inr ((h d hd).resolve_left (by simp [hadding]))
  | storeEnabled halive => exact h
  | notifyDestroyed hstored =>
    rcases s.thread.awaits?_notified_or with hnone | hsame
    · exact .of_awake hnone
    · exact h.moveTo hsame
  | tick clock hlater => exact h

theorem Watchful.step (h : s.Watchful) (hC : s.Attentive l) (hstep : SchedulerStep s l t) :
    t.Watchful := by
  have htasks : t.Alert := h.tasks.step (by rintro rfl; exact hC) hstep
  refine ⟨htasks, ?_⟩
  cases hstep with
  | loadEnabled hthread =>
    split_ifs
    · exact (Watchful.of_awake rfl).enabled
    · exact (Watchful.of_awake rfl).enabled
  | releaseEmpty now hthread htasks =>
    rintro deadline ⟨⟩
    exact hC
  | releaseSorted now td first rest later hthread htasks hdue hsort =>
    rintro deadline ⟨⟩
    exact hC
  | lockWait deadline hthread =>
    exact (h.moveTo (by rw [hthread, ThreadPhase.awaits?, ThreadPhase.awaits?])).enabled
  | wait deadline hthread =>
    exact (h.moveTo (by rw [hthread, ThreadPhase.awaits?, ThreadPhase.awaits?])).enabled
  | notifyAdded hadding => exact (Watchful.of_awake (awaits?_notified hC)).enabled
  | storeEnabled halive => exact fun _ _ => Or.inr rfl
  | notifyDestroyed hstored => exact (Watchful.of_awake (awaits?_notified hC)).enabled
  | lockAdd | insert | unlockAdd | tick => exact h.enabled
  | _ => exact (Watchful.of_awake rfl).enabled

end Steps

end TSimpleThreadedScheduler

/-- In a run whose notifications all reach a thread that can hear them, a thread that waits while
every change has been notified sleeps over no task and not over the end. -/
theorem no_wakeUp_missed {clock : ℤ} {s : TSimpleThreadedScheduler}
    (h : Leads SchedulerStep TSimpleThreadedScheduler.Attentive (.initial clock) s)
    (hadding : s.adding ≠ .inserted) (hdestroying : s.destroying ≠ .stored)
    {deadline : Option ℤ} (hblocked : s.thread = .blocked deadline) :
    MissesNone deadline s.tasks ∧ s.enabled = true := by
  have hwatchful := h.invariant (fun _ _ _ hs hC hstep => hs.step hC hstep)
    (TSimpleThreadedScheduler.Watchful.of_awake rfl)
  have hawaits : s.thread.awaits? = some deadline := by rw [hblocked, ThreadPhase.awaits?]
  exact ⟨(hwatchful.tasks deadline hawaits).resolve_left hadding,
    (hwatchful.enabled deadline hawaits).resolve_right hdestroying⟩

/-- The thread finds no task and lets go of the list. -/
theorem emptyReleased_reached : Leads SchedulerStep TSimpleThreadedScheduler.Attentive (.initial 0)
    { TSimpleThreadedScheduler.initial 0 with
      thread := .released none
      log := [.waits none [], .began 0] } := by
  have hentered := Leads.refl.tail (C := TSimpleThreadedScheduler.Attentive)
    (SchedulerStep.loadEnabled (.initial 0) rfl) trivial
  have htimed := hentered.tail (.readClock _ rfl) trivial
  have hlocked := htimed.tail (.lockTasks _ 0 rfl ⟨rfl, by simp, by simp⟩) trivial
  exact hlocked.tail (.releaseEmpty _ 0 rfl rfl) (Or.inl rfl)

def secondRun : TTaskDescription := ⟨1000000, 0, 1000⟩

/-- The thread waits, a task is added and notified, and the thread wakes and runs it. -/
theorem firstRun_reached : Leads SchedulerStep TSimpleThreadedScheduler.Attentive (.initial 0)
    { TSimpleThreadedScheduler.initial 0 with
      tasks := [secondRun]
      added := [⟨0, 1000⟩]
      log := [.ran 0 ⟨0, 0, 1000⟩, .began 0, .waits none [], .began 0] } := by
  have hholding := emptyReleased_reached.tail (.lockWait _ none rfl) trivial
  have hblocked := hholding.tail (.wait _ none rfl) trivial
  have hadding := hblocked.tail (.lockAdd _ 1000 ⟨rfl, by simp, by simp⟩) trivial
  have hinserted := hadding.tail (.insert _ 1000 rfl) trivial
  have hnotified := hinserted.tail (.notifyAdded _ rfl) (by
    simp [TSimpleThreadedScheduler.Attentive, ThreadPhase.OnTheWay])
  have hunlocked := hnotified.tail (.unlockAdd _ rfl) trivial
  have hlooping := hunlocked.tail (.leave _ rfl) trivial
  have hentered := hlooping.tail (.loadEnabled _ rfl) trivial
  have htimed := hentered.tail (.readClock _ rfl) trivial
  have hlocked := htimed.tail (.lockTasks _ 0 rfl ⟨rfl, by simp, by simp⟩) trivial
  have hrunning := hlocked.tail (.runHead _ 0 ⟨0, 0, 1000⟩ [] rfl rfl le_rfl) trivial
  have hrelocked := hrunning.tail (.relockTasks _ 0 ⟨0, 0, 1000⟩ rfl ⟨rfl, by simp, by simp⟩)
    trivial
  exact hrelocked.tail (.requeue _ 0 ⟨0, 0, 1000⟩ rfl) trivial

/-- After its run the thread waits for the task's next one. -/
theorem no_wakeUp_missed_running : ∃ s, Leads SchedulerStep TSimpleThreadedScheduler.Attentive
    (.initial 0) s ∧ s.thread = .blocked (some 1000000) ∧ MissesNone (some 1000000) s.tasks ∧
      s.enabled = true := by
  have hentered := firstRun_reached.tail (.loadEnabled _ rfl) trivial
  have htimed := hentered.tail (.readClock _ rfl) trivial
  have hlocked := htimed.tail (.lockTasks _ 0 rfl ⟨rfl, by simp, by simp⟩) trivial
  have hreleased := hlocked.tail
    (.releaseSorted _ 0 secondRun secondRun [] [] rfl rfl (by decide) rfl) (Or.inl rfl)
  have hholding := hreleased.tail (.lockWait _ (some 1000000) rfl) trivial
  have hblocked := hholding.tail (.wait _ (some 1000000) rfl) trivial
  exact ⟨_, hblocked, rfl, no_wakeUp_missed hblocked (by decide) (by decide) rfl⟩

theorem wakeUp_missed : ∃ s, Leads SchedulerStep Anyhow (.initial 0) s ∧ s.adding = .absent ∧
    s.destroying = .alive ∧ s.thread = .blocked none ∧ s.tasks = [⟨0, ⟨0, 1000⟩⟩] ∧
    s.clock = 0 := by
  have hlocked := emptyReleased_reached.anyhow.step (.lockAdd _ 1000 ⟨rfl, by simp, by simp⟩)
  have hinserted := hlocked.step (.insert _ 1000 rfl)
  have hnotified := hinserted.step (.notifyAdded _ rfl)
  have hunlocked := hnotified.step (.unlockAdd _ rfl)
  have hholding := hunlocked.step (.lockWait _ none rfl)
  exact ⟨_, hholding.step (.wait _ none rfl), rfl, rfl, rfl, rfl, rfl⟩

theorem end_missed : ∃ s, Leads SchedulerStep Anyhow (.initial 0) s ∧ s.adding = .absent ∧
    s.destroying = .joining ∧ s.thread = .blocked none ∧ s.enabled = false := by
  have hstored := emptyReleased_reached.anyhow.step (.storeEnabled _ rfl)
  have hnotified := hstored.step (.notifyDestroyed _ rfl)
  have hholding := hnotified.step (.lockWait _ none rfl)
  exact ⟨_, hholding.step (.wait _ none rfl), rfl, rfl, rfl, rfl⟩

/-- Neither half of the rule holds of every run. -/
theorem wakeUps_missed :
    ¬ (∀ s, Leads SchedulerStep Anyhow (.initial 0) s → s.adding ≠ .inserted →
      s.destroying ≠ .stored → ∀ deadline, s.thread = .blocked deadline →
        MissesNone deadline s.tasks) ∧
    ¬ (∀ s, Leads SchedulerStep Anyhow (.initial 0) s → s.adding ≠ .inserted →
      s.destroying ≠ .stored → ∀ deadline, s.thread = .blocked deadline → s.enabled = true) := by
  obtain ⟨s, hs, hadding, hdestroying, hblocked, htasks, _⟩ := wakeUp_missed
  obtain ⟨t, ht, htadding, htdestroying, htblocked, henabled⟩ := end_missed
  constructor
  · intro hall
    have hmisses := hall s hs (by simp [hadding]) (by simp [hdestroying]) none hblocked
    simp [MissesNone, htasks] at hmisses
  · intro hall
    have htrue := hall t ht (by simp [htadding]) (by simp [htdestroying]) none htblocked
    simp [henabled] at htrue

end SmartWebGateway
