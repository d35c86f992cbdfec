import SmartWebGateway.Gateway.Service
import Mathlib.Tactic

/-!
# The ways in which a round ends

One round of the loop either works on a frame, or it finds the connection idle,
lost, or still up. Each way is stated once with everything that it does; what
holds of the thread round after round is read off this list.
-/
namespace SmartWebGateway

open Foundation
open TMqttToSmartWebGateway

/-- The loop over the outputs logs sends of outputs and their postponements only. -/
def Event.OfOutput : Event → Prop
  | .sent _ (.output _) => True
  | .postponed _ _ => True
  | _ => False

/-- What the loop over the outputs leaves as it was, and what it logs. -/
structure TaskState.SendsOutputs (s t : TaskState) (recent : List Event) : Prop where
  same : s.driverState.SameChannels t.driverState
  status : t.status = s.status
  iAmHere : t.sendIAmHereTime = s.sendIAmHereTime
  reset : t.resetConnectionTime = s.resetConnectionTime
  log : t.log = recent ++ s.log
  outputs : ∀ e ∈ recent, e.OfOutput

inductive AnnounceOutcome (w : ℕ → World) (i : ℕ) (s : TaskState) : ℕ → TaskState → Prop
  | due (h : s.sendIAmHereTime ≤ (w i).clock) :
      AnnounceOutcome w i s (i + 3)
        ({ s with sendIAmHereTime := (w (i + 1)).clock + keepAliveInterval }.logged
          (.sent (iAmHereFrame s.driverState.programId (w (i + 2)).stack) .iAmHere))
  | early (h : (w i).clock < s.sendIAmHereTime) : AnnounceOutcome w i s (i + 1) s

/-- `handle_request` in a round on a frame, from the state in which the round calls it. -/
def TFrame.HandledIn (f : TFrame) (w : ℕ → World) (i : ℕ) (s : TaskState)
    (outcome : Except Exc Unit) (j : ℕ) (t : TaskState) : Prop :=
  (handleRequest f.header f.data).run w (i + 1) (s.received w i f) = (outcome, j, t)

inductive RoundOutcome (w : ℕ → World) (i : ℕ) (s : TaskState) :
    Option TFrame → ℕ → TaskState → Prop
  | idle {j : ℕ} {t : TaskState} (hstatus : s.status = .idle) (h : AnnounceOutcome w i s j t) :
      RoundOutcome w i s none j t
  | lost {j : ℕ} {t : TaskState} (hstatus : s.status = .running)
      (hreset : s.resetConnectionTime ≤ (w i).clock)
      (h : AnnounceOutcome w (i + 1) { s with status := .idle } j t) :
      RoundOutcome w i s none j t
  | quiet {k j : ℕ} {u t : TaskState} {recent : List Event} (hstatus : s.status = .running)
      (hreset : (w i).clock < s.resetConnectionTime) (hk : i < k)
      (houtputs : s.SendsOutputs u recent) (h : AnnounceOutcome w k u j t) :
      RoundOutcome w i s none j t
  | served {f : TFrame} {k l j : ℕ} {u v t : TaskState} {recent : List Event}
      (hhandled : f.HandledIn w i s (.ok ()) k u) (hk : i < k)
      (houtputs : u.SendsOutputs v recent) (hl : k < l) (h : AnnounceOutcome w l v j t) :
      RoundOutcome w i s (some f) j t
  | refused {f : TFrame} {e : Exc} {j : ℕ} {t : TaskState}
      (hhandled : f.HandledIn w i s (.error e) j t) (hj : i < j) :
      RoundOutcome w i s (some f) j t

section Pieces

variable {w : ℕ → World} {i : ℕ} {s t u : TaskState} {recent later : List Event}
  {E : Exc → ℕ → TaskState → Prop}

namespace TaskState.SendsOutputs

theorem refl : s.SendsOutputs s [] := ⟨.refl, rfl, rfl, rfl, rfl, nofun⟩

theorem broadcasted (h : s.SendsOutputs t recent) (b : Broadcast) (frame : TFrame) (q : ℕ)
    (sendTime : TTimePoint) :
    s.SendsOutputs (t.broadcasted b frame q sendTime)
      (.postponed q b.channelId :: .sent frame (.output b) :: recent) where
  same := h.same.trans (TaskState.postponed_sameChannels b.channelId sendTime)
  status := h.status
  iAmHere := h.iAmHere
  reset := h.reset
  log := by
    rw [TaskState.broadcasted_log, h.log]
    rfl
  outputs := by
    intro e he
    rcases List.mem_cons.mp he with rfl | he
    · trivial
    rcases List.mem_cons.mp he with rfl | he
    · trivial
    · exact h.outputs e he

end TaskState.SendsOutputs

theorem wp_sendScheduledOutputs_sends (hcovered : ∀ k, s.driverState.Covered (w k).timing) :
    sendScheduledOutputs.wp w (fun _ j t => i < j ∧ ∃ recent, s.SendsOutputs t recent) E i s := by
  simp only [sendScheduledOutputs, Program.wp_bind, Program.wp_observe, Program.wp_get]
  apply Program.wp_foldl (fun _ _ j t => i < j ∧ ∃ recent, s.SendsOutputs t recent)
    ⟨Nat.lt_succ_self i, [], .refl⟩
  rintro _ c _ buffer j t _ _ ⟨hij, recent, h⟩
  apply wp_sendScheduledOutput fun k => h.same.covered (hcovered k)
  · exact fun k hjk _ => ⟨hij.trans hjk, recent, h⟩
  · rintro b q frame rfl hdue hq rfl
    have hread : b.readFrom ≤ b.readAt := hdue.readAt ▸ mqttReadAt_ge _ _ _
    have hstart := hdue.start
    have horder := hdue.order
    exact ⟨by omega, _, h.broadcasted b _ q _⟩

theorem wp_sendScheduledIAmHere_outcome :
    sendScheduledIAmHere.wp w (fun _ j t => AnnounceOutcome w i s j t) E i s := by
  rw [wp_sendScheduledIAmHere_iff]
  split_ifs with hdue
  · exact .due hdue
  · exact .early (not_le.mp hdue)

theorem wp_scheduled_outcome (hcovered : ∀ k, s.driverState.Covered (w k).timing) :
    Program.wp (do
        sendScheduledOutputs
        sendScheduledIAmHere) w
      (fun _ j t => ∃ k u recent, i < k ∧ s.SendsOutputs u recent ∧ AnnounceOutcome w k u j t)
      E i s := by
  rw [Program.wp_bind]
  refine Program.wp_mono (wp_sendScheduledOutputs_sends hcovered) ?_ (fun _ _ _ _ he => he)
  rintro _ k u _ ⟨hk, recent, houtputs⟩
  refine Program.wp_mono wp_sendScheduledIAmHere_outcome ?_ (fun _ _ _ _ he => he)
  exact fun _ j t _ h => ⟨k, u, recent, hk, houtputs, h⟩

theorem TFrame.HandledIn.outcome {f : TFrame} {outcome : Except Exc Unit} {j : ℕ}
    (h : f.HandledIn w i s outcome j t) :
    RequestOutcome w (i + 1) (s.received w i f) f outcome j t := handleRequest_outcome h

theorem wp_handleRequest_handledIn (f : TFrame) :
    (handleRequest f.header f.data).wp w (fun _ j t => f.HandledIn w i s (.ok ()) j t)
      (fun e j t => f.HandledIn w i s (.error e) j t) (i + 1) (s.received w i f) := by
  unfold Program.wp TFrame.HandledIn
  rcases (handleRequest f.header f.data).run w (i + 1) (s.received w i f) with ⟨_ | _, j, t⟩
  · rfl
  · rfl

theorem RequestOutcome.sameChannels {f : TFrame} {outcome : Except Exc Unit} {j : ℕ}
    (h : RequestOutcome w i s f outcome j t) : s.driverState.SameChannels t.driverState := by
  cases h with
  | rejected _ _ _ ht =>
    rcases ht with rfl | ⟨_, rfl⟩
    · exact .refl
    · rw [TaskState.requested_driverState]
      exact .refl
  | replied => exact .refl
  | answered =>
    rw [TaskState.logged_driverState, TaskState.requested_driverState]
    exact .refl
  | subscribed => exact TaskState.subscribed_sameChannels _ _ _ _
  | unmapped => exact .refl
  | announced => exact .refl

end Pieces

section Rounds

variable {w : ℕ → World} {i j : ℕ} {s t : TaskState} {input : Option TFrame}

theorem wp_iteration_frame_outcome (hcovered : ∀ k, s.driverState.Covered (w k).timing)
    (f : TFrame) :
    (iteration (some f)).wp w (fun _ j t => RoundOutcome w i s (some f) j t)
      (fun _ _ _ => False) i s := by
  apply wp_iteration_received
  apply Program.wp_mono (wp_handleRequest_handledIn f)
  · intro _ k u hk hhandled
    have hcovered' : ∀ k, u.driverState.Covered (w k).timing :=
      fun k => hhandled.outcome.sameChannels.covered (hcovered k)
    refine Program.wp_mono (wp_scheduled_outcome hcovered') ?_ (fun _ _ _ _ he => he)
    rintro _ j t _ ⟨l, v, recent, hl, houtputs, h⟩
    exact .served hhandled (Nat.lt_of_succ_le hk) houtputs hl h
  · intro e j t hj hhandled
    exact ⟨hhandled.outcome.isDriverError, .refused hhandled (Nat.lt_of_succ_le hj)⟩

theorem wp_iteration_none_outcome (hcovered : ∀ k, s.driverState.Covered (w k).timing) :
    (iteration none).wp w (fun _ j t => RoundOutcome w i s none j t)
      (fun _ _ _ => False) i s := by
  simp only [iteration, Option.isNone_none, if_true]
  rw [Program.wp_bind]
  simp only [resetConnection, now, Program.wp_bind, Program.wp_get, Program.wp_ite,
    Program.wp_observe, Program.wp_modify, Program.wp_pure]
  cases hstatus : s.status with
  | idle =>
    rw [if_neg (by simp)]
    apply wp_guarded
    rw [switch, Program.wp_bind, Program.wp_get, hstatus]
    refine Program.wp_mono wp_sendScheduledIAmHere_outcome ?_ (fun _ _ _ _ he => he)
    exact fun _ j t _ h => .idle hstatus h
  | running =>
    rw [if_pos (by simp)]
    split_ifs with hreset
    · apply wp_guarded
      rw [switch, Program.wp_bind, Program.wp_get]
      refine Program.wp_mono wp_sendScheduledIAmHere_outcome ?_ (fun _ _ _ _ he => he)
      exact fun _ j t _ h => .lost hstatus hreset h
    · apply wp_guarded
      rw [switch, Program.wp_bind, Program.wp_get, hstatus]
      refine Program.wp_mono (wp_scheduled_outcome hcovered) ?_ (fun _ _ _ _ he => he)
      rintro _ j t _ ⟨k, u, recent, hk, houtputs, h⟩
      exact .quiet hstatus (not_le.mp hreset) ((Nat.lt_succ_self i).trans hk) houtputs h

/-- Every round ends in one of the listed ways. -/
theorem wp_iteration_outcome (hcovered : ∀ k, s.driverState.Covered (w k).timing)
    (input : Option TFrame) :
    (iteration input).wp w (fun _ j t => RoundOutcome w i s input j t)
      (fun _ _ _ => False) i s := by
  cases input with
  | none => exact wp_iteration_none_outcome hcovered
  | some f => exact wp_iteration_frame_outcome hcovered f

end Rounds

section Runs

variable {configJson : ControllerObject} {load : Loading configJson} {env : Environment}

theorem runState_zero (load : Loading configJson) (env : Environment)
    (inputs : ℕ → Option TFrame) :
    runState load env inputs 0 =
      { TaskState.initial load.config with sendIAmHereTime := (env.world 0).clock } := rfl

theorem Deployed.covered_runState (h : Deployed load env) (inputs : ℕ → Option TFrame) (n k : ℕ) :
    (runState load env inputs n).driverState.Covered (env.world k).timing :=
  (h.acts (h.reaches inputs n)).sameChannels.covered (h.covered k)

theorem Deployed.sameChannels_runState (h : Deployed load env) (inputs : ℕ → Option TFrame)
    (n : ℕ) : load.config.SameChannels (runState load env inputs n).driverState :=
  (h.acts (h.reaches inputs n)).sameChannels

theorem Deployed.run_round (h : Deployed load env) (inputs : ℕ → Option TFrame) (n : ℕ) :
    (iteration (inputs n)).run env.world (runPosition load env inputs n)
        (runState load env inputs n) =
      (.ok (), runPosition load env inputs (n + 1), runState load env inputs (n + 1)) := by
  have hbefore := h.reaches inputs n
  have hafter := h.reaches inputs (n + 1)
  unfold Reaches at hbefore hafter
  have hround := Program.run_bind_of_ok hbefore (f := fun _ => iteration (inputs n))
  exact hround.symm.trans hafter

theorem Deployed.round (h : Deployed load env) (inputs : ℕ → Option TFrame) (n : ℕ) :
    RoundOutcome env.world (runPosition load env inputs n) (runState load env inputs n) (inputs n)
      (runPosition load env inputs (n + 1)) (runState load env inputs (n + 1)) := by
  have hwp := wp_iteration_outcome (i := runPosition load env inputs n)
    (h.covered_runState inputs n) (inputs n)
  have houtcome := Program.wp_ok hwp (h.run_round inputs n)
  exact houtcome

end Runs

end SmartWebGateway
