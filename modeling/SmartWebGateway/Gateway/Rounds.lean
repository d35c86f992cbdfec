import SmartWebGateway.Gateway.Requests
import Mathlib.Tactic

/-!
# What the rounds of a thread keep

A round is made of few pieces: the timers, the announcement, a request and the
loop over the outputs. What each piece keeps, every run of the thread keeps, and
no run ends the process.
-/
namespace SmartWebGateway

open Foundation
open TMqttToSmartWebGateway

/-- An invariant of the thread, which may depend on the position of the next observation. -/
structure Kept (w : ℕ → World) (I : ℕ → TaskState → Prop) : Prop where
  wait : ∀ {i j s}, i ≤ j → I i s → I j s
  timers : ∀ {i s} (status : EDriverStatus) (iAmHere reset : TTimePoint), I i s →
    I i { s with
      status := status
      sendIAmHereTime := iAmHere
      resetConnectionTime := reset }
  announced : ∀ {i s} (k : ℕ), I i s →
    I i (s.logged (.sent (iAmHereFrame s.driverState.programId (w k).stack) .iAmHere))
  requested : ∀ {i s f outcome j t}, I i s →
    RequestOutcome w i (s.logged (.handled i f)) f outcome j t → I j t
  outputs : ∀ {E : Exc → ℕ → TaskState → Prop} {i s}, I i s →
    sendScheduledOutputs.wp w (fun _ => I) E i s

section Guards

variable {w : ℕ → World} {i : ℕ} {s : TaskState} {Q : ℕ → TaskState → Prop}

theorem wp_guarded {input : Option TFrame}
    (h : (switch input).wp w (fun _ => Q) (fun e j t => e.IsDriverError ∧ Q j t) i s) :
    Program.wp (Program.tryCatch (switch input) fun e =>
      if e.IsDriverError then pure () else Program.throw e) w (fun _ => Q)
      (fun _ _ _ => False) i s := by
  rw [Program.wp_tryCatch]
  apply Program.wp_mono h (fun _ _ _ _ hQ => hQ)
  rintro e j t _ ⟨he, hQ⟩
  rwa [Program.wp_ite, if_pos he]

theorem wp_iteration_frame {f : TFrame}
    (h : (running (some f)).wp w (fun _ => Q) (fun e j t => e.IsDriverError ∧ Q j t) i
      { s with status := .running }) :
    (iteration (some f)).wp w (fun _ => Q) (fun _ _ _ => False) i s := by
  have hswitch :
      (switch (some f)).wp w (fun _ => Q) (fun e j t => e.IsDriverError ∧ Q j t) i s := by
    rw [switch, Program.wp_bind, Program.wp_get]
    cases hstatus : s.status with
    | idle => exact h
    | running => rwa [← hstatus] at h
  simp only [iteration, Option.isNone_some, Bool.false_eq_true, if_false]
  exact wp_guarded hswitch

end Guards

namespace Kept

variable {w : ℕ → World} {I : ℕ → TaskState → Prop} {i : ℕ} {s : TaskState}
  {E : Exc → ℕ → TaskState → Prop} (hI : Kept w I)
include hI

theorem wp_postponeConnectionReset (h : I i s) :
    postponeConnectionReset.wp w (fun _ => I) E i s :=
  hI.timers s.status s.sendIAmHereTime _ (hI.wait (Nat.le_succ i) h)

theorem wp_sendScheduledIAmHere (h : I i s) :
    sendScheduledIAmHere.wp w (fun _ => I) E i s := by
  have hnow := hI.wait (Nat.le_succ i) h
  rw [wp_sendScheduledIAmHere_iff]
  split_ifs
  · have htimers := hI.timers s.status ((w (i + 1)).clock + keepAliveInterval)
      s.resetConnectionTime (hI.wait (Nat.le_add_right (i + 1) 2) hnow)
    exact hI.announced (i + 2) htimers
  · exact hnow

theorem wp_handleFrame (h : I i s) (f : TFrame) :
    (handleFrame f).wp w (fun _ => I) (fun e j t => e.IsDriverError ∧ I j t) i s := by
  rw [handleFrame, Program.wp_bind]
  refine Program.wp_mono (hI.wp_postponeConnectionReset (E := fun _ _ _ => False) h) ?_
    (fun _ _ _ _ => False.elim)
  intro _ j t _ h
  apply Program.wp_mono (wp_handleRequest w j _ f)
  · intro _ k u _ houtcome
    exact hI.requested h houtcome
  · intro e k u _ houtcome
    exact ⟨houtcome.isDriverError, hI.requested h houtcome⟩

theorem wp_scheduled (h : I i s) :
    Program.wp (do
        sendScheduledOutputs
        sendScheduledIAmHere) w (fun _ => I) E i s := by
  rw [Program.wp_bind]
  exact Program.wp_mono (hI.outputs h) (fun _ _ _ _ h => hI.wp_sendScheduledIAmHere h)
    (fun _ _ _ _ he => he)

theorem wp_running (h : I i s) (input : Option TFrame) :
    (running input).wp w (fun _ => I) (fun e j t => e.IsDriverError ∧ I j t) i s := by
  cases input with
  | none => exact hI.wp_scheduled h
  | some f =>
    simp only [running]
    rw [Program.wp_bind]
    exact Program.wp_mono (hI.wp_handleFrame h f) (fun _ j t _ h => hI.wp_scheduled h)
      (fun _ _ _ _ he => he)

theorem wp_switch (h : I i s) (input : Option TFrame) :
    (switch input).wp w (fun _ => I) (fun e j t => e.IsDriverError ∧ I j t) i s := by
  rw [switch, Program.wp_bind, Program.wp_get]
  cases hstatus : s.status with
  | idle =>
    cases input with
    | none => exact hI.wp_sendScheduledIAmHere h
    | some f =>
      exact hI.wp_running (hI.timers .running s.sendIAmHereTime s.resetConnectionTime h) (some f)
  | running => exact hI.wp_running h input

theorem wp_resetConnection (h : I i s) : resetConnection.wp w (fun _ => I) E i s := by
  have hnow := hI.wait (Nat.le_succ i) h
  simp only [resetConnection, now, Program.wp_bind, Program.wp_get, Program.wp_ite,
    Program.wp_observe, Program.wp_modify, Program.wp_pure]
  split_ifs
  · exact hI.timers .idle s.sendIAmHereTime s.resetConnectionTime hnow
  · exact hnow
  · exact h

theorem wp_iteration (h : I i s) (input : Option TFrame) :
    (iteration input).wp w (fun _ => I) (fun _ _ _ => False) i s := by
  rw [iteration, Program.wp_ite]
  split_ifs
  · rw [Program.wp_bind]
    exact Program.wp_mono (hI.wp_resetConnection h)
      (fun _ j t _ h => wp_guarded (hI.wp_switch h input)) (fun _ _ _ _ he => he)
  · exact wp_guarded (hI.wp_switch h input)

theorem wp_taskFn (h : I i s) (inputs : ℕ → Option TFrame) (n : ℕ) :
    (taskFn inputs n).wp w (fun _ => I) (fun _ _ _ => False) i s := by
  refine Program.wp_rounds (fun _ => I) ?_ (fun n j t _ h => hI.wp_iteration h (inputs n)) n
  exact hI.timers s.status _ s.resetConnectionTime (hI.wait (Nat.le_succ i) h)

end Kept
end SmartWebGateway
