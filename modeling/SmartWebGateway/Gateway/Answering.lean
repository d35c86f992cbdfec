import SmartWebGateway.Gateway.FrameQueues
import SmartWebGateway.Gateway.Replies
import SmartWebGateway.Gateway.Subscriptions
import Mathlib.Data.List.ReduceOption
import Mathlib.Tactic

/-!
# From the port to the reply

The listener of the port puts frames into the queue of a controller, whose
thread goes through one round for each return of `SelectTimeout`. The queue
keeps the order of the frames and the rounds keep the order of the replies, so
the replies are those to the frames in the order in which the port handed them
over; what was not replied to yet still waits.
-/
namespace SmartWebGateway

open Foundation

namespace FrameQueueState

def returned? (s : FrameQueueState) : FrameQueueLabel → Option (Option TFrame)
  | .resume true => some none
  | .take => some (s.frames.waiting.head?.map fun arrival => arrival.item.frame)
  | _ => none

/-- The frames that came to the queue, and those that were taken from it. -/
def arrivedFrames (s : FrameQueueState) : List TFrame :=
  s.frames.arrivals.map fun arrival => arrival.item.frame

def takenFrames (s : FrameQueueState) : List TFrame :=
  s.frames.taken.map fun arrival => arrival.item.frame

section Returns

variable {queue : FrameQueue} {s t : FrameQueueState} {l : FrameQueueLabel}

/-- The thread gets back what is taken from the queue. -/
theorem takenFrames_step (h : s.Prepared queue) (hstep : queue.Step s l t) :
    t.takenFrames = s.takenFrames ++ (s.returned? l).toList.reduceOption := by
  cases hstep with
  | take hphase =>
    obtain ⟨arrival, waiting, hwaiting⟩ := List.exists_cons_of_ne_nil (h.taking hphase)
    have htake : s.take.takenFrames = s.takenFrames ++ [arrival.item.frame] := by
      simp [takenFrames, FrameQueueState.take, Fifo.take?, hwaiting]
    rw [htake, returned?, hwaiting]
    rfl
  | handle frame =>
    unfold handle
    split_ifs
    · exact (List.append_nil _).symm
    · exact (List.append_nil _).symm
  | check hphase =>
    unfold check
    split_ifs
    · exact (List.append_nil _).symm
    · exact (List.append_nil _).symm
  | resume expired timeout hphase hfree hstatus =>
    cases timeout with
    | true => exact (List.append_nil _).symm
    | false => exact (List.append_nil _).symm
  | _ => exact (List.append_nil _).symm

end Returns

end FrameQueueState

/-- The queue of a controller with what its thread got back so far. -/
def ServingStep (programId : Byte) : FrameQueueState × List (Option TFrame) → FrameQueueLabel →
    FrameQueueState × List (Option TFrame) → Prop :=
  Observing (TMqttToSmartWebGateway.canFrames programId).Step FrameQueueState.returned?

section Serving

variable {programId : Byte} {s : FrameQueueState} {results : List (Option TFrame)}

/-- The thread has got back the frames that were taken, and the rest still waits. -/
theorem serving_frames (h : Leads (ServingStep programId) (fun a l => a.1.WokenForFrame l)
      (.initial, []) (s, results)) :
    results.reduceOption ++ waitingFrames s.frames = s.arrivedFrames := by
  have hkept := @Leads.invariant _ _ _ _ _ _ (fun a : FrameQueueState × List (Option TFrame) =>
    a.1.Prepared (TMqttToSmartWebGateway.canFrames programId) ∧
      a.2.reduceOption = a.1.takenFrames) h
    (by
      rintro a l b ⟨hprepared, htaken⟩ hwoken ⟨hstep, hresults⟩
      refine ⟨hprepared.step hwoken hstep, ?_⟩
      rw [hresults, List.reduceOption_append, htaken,
        FrameQueueState.takenFrames_step hprepared hstep])
    ⟨FrameQueueState.prepared_initial _, rfl⟩
  obtain ⟨hprepared, htaken⟩ := hkept
  have hcomplete := Fifo.Sound.complete hprepared.frames
  dsimp only at htaken hcomplete
  rw [htaken, FrameQueueState.takenFrames, waitingFrames, FrameQueueState.arrivedFrames,
    ← List.map_append, hcomplete]

def roundInputs (results : List (Option TFrame)) (n : ℕ) : Option TFrame := results[n]?.join

theorem filterMap_roundInputs :
    (List.range results.length).filterMap (roundInputs results) = results.reduceOption := by
  have hmap : (List.range results.length).map (roundInputs results) = results := by
    apply List.ext_getElem
    · simp
    · intro n hn hn'
      simp [roundInputs, hn']
  calc (List.range results.length).filterMap (roundInputs results)
    _ = ((List.range results.length).map (roundInputs results)).filterMap id := by
      rw [List.filterMap_map]
      rfl
    _ = results.reduceOption := by rw [hmap, List.reduceOption]

end Serving

section Rounds

variable {configJson : ControllerObject} {load : Loading configJson} {env : Environment}
  {s : FrameQueueState} {results : List (Option TFrame)}

/-- The replies of the thread are those to the frames that it got back, in their order, each with a
reading that is made after those for the frames before it. -/
theorem Deployed.replies_of_results (h : Deployed load env) (results : List (Option TFrame)) :
    ∃ handled : List (TFrame × ℕ),
      handled.map Prod.fst = results.reduceOption ∧
      handled.Pairwise (fun earlier later => earlier.2 ≤ later.2) ∧
      (runState load env (roundInputs results) results.length).replies =
        handled.filterMap fun (f, p) => f.reply? load.config.toControllerMapping
          (requestedValue env.world load.config.toControllerMapping p f.data) := by
  refine ⟨(List.range results.length).filterMap fun k => (roundInputs results k).map fun f =>
    (f, runPosition load env (roundInputs results) k + 1), ?_, ?_, ?_⟩
  · have hfirst : ∀ k, ((roundInputs results k).map fun f =>
        (f, runPosition load env (roundInputs results) k + 1)).map Prod.fst =
          roundInputs results k := by
      intro k
      rw [Option.map_map]
      exact Option.map_id'
    rw [List.map_filterMap]
    simp only [hfirst]
    exact filterMap_roundInputs
  · rw [List.pairwise_filterMap]
    refine List.pairwise_lt_range.imp ?_
    rintro k k' hlt earlier hearlier later hlater
    obtain ⟨_, _, rfl⟩ := Option.map_eq_some_iff.mp hearlier
    obtain ⟨_, _, rfl⟩ := Option.map_eq_some_iff.mp hlater
    exact Nat.succ_le_succ (h.runPosition_mono hlt.le)
  · rw [List.filterMap_filterMap]
    simp only [Option.bind_map]
    exact @eq_filterMap_range _ (fun n => (runState load env (roundInputs results) n).replies) _ rfl
      (h.replies_succ (roundInputs results)) results.length

/-- However the calls of `Handle` and the waits of the thread interleave, as long as a wait that did
not time out finds a frame: the frames that came to the queue of a controller are handled once and
in their order up to those that still wait, and the replies are those that the handled ones call
for, each with a reading that is made after those for the frames before it. -/
theorem queued_requests_answered (h : Deployed load env)
    (hrun : Leads (ServingStep load.config.programId) (fun a l => a.1.WokenForFrame l)
      (.initial, []) (s, results)) :
    ∃ handled : List (TFrame × ℕ),
      handled.map Prod.fst ++ waitingFrames s.frames = s.arrivedFrames ∧
      handled.Pairwise (fun earlier later => earlier.2 ≤ later.2) ∧
      (runState load env (roundInputs results) results.length).replies =
        handled.filterMap fun (f, p) => f.reply? load.config.toControllerMapping
          (requestedValue env.world load.config.toControllerMapping p f.data) := by
  obtain ⟨handled, hhandled, hordered, hreplies⟩ := h.replies_of_results results
  refine ⟨handled, ?_, hordered, hreplies⟩
  rw [hhandled, serving_frames hrun]

end Rounds

/-- The queue and what was got back after a label, if it can be taken. -/
def servingNext? (programId : Byte) (a : FrameQueueState × List (Option TFrame))
    (l : FrameQueueLabel) : Option (FrameQueueState × List (Option TFrame)) :=
  if a.1.WokenForFrame l then
    ((TMqttToSmartWebGateway.canFrames programId).next? a.1 l).map fun t =>
      (t, a.2 ++ (a.1.returned? l).toList)
  else none

theorem serving_of_foldlM {programId : Byte} {labels : List FrameQueueLabel}
    {a b : FrameQueueState × List (Option TFrame)}
    (h : labels.foldlM (servingNext? programId) a = some b) :
    Leads (ServingStep programId) (fun a l => a.1.WokenForFrame l) a b := by
  refine Leads.of_foldlM ?_ h
  intro a l b hnext
  obtain ⟨hwoken, hnext⟩ := Option.ite_none_right_eq_some.mp hnext
  obtain ⟨t, ht, rfl⟩ := Option.map_eq_some_iff.mp hnext
  exact ⟨hwoken, FrameQueue.step_of_next? ht, rfl⟩

/-- The wait of the thread times out once, and then it takes the request that came meanwhile. -/
theorem queued_requests_answered_room :
    ∃ handled : List (TFrame × ℕ), handled.map Prod.fst = [roomSensorRequest] ∧
      (runState roomLoading roomEnvironment
          (roundInputs [none, some roomSensorRequest]) 2).replies =
        handled.filterMap fun (f, p) => f.reply? roomLoading.config.toControllerMapping
          (requestedValue roomEnvironment.world roomLoading.config.toControllerMapping p
            f.data) := by
  let call : HandleCall := ⟨0, roomSensorRequest, 0⟩
  have hrun : ([.get, .lockGet, .check, .expire, .handle call.frame, .lockHandle call, .push call,
      .unlock call, .resume true, .notify call, .get, .lockGet, .check, .take].foldlM
        (servingNext? 7) (.initial, [])).map
      (fun a => (a.2, waitingFrames a.1.frames, a.1.arrivedFrames)) =
        some ([none, some roomSensorRequest], [], [roomSensorRequest]) := by
    decide +kernel
  obtain ⟨⟨s, results⟩, hs, heq⟩ := Option.map_eq_some_iff.mp hrun
  obtain ⟨rfl, hwaiting, harrived⟩ : results = [none, some roomSensorRequest] ∧
      waitingFrames s.frames = [] ∧ s.arrivedFrames = [roomSensorRequest] := by
    simpa only [Prod.mk.injEq] using heq
  obtain ⟨handled, hhandled, _, hreplies⟩ :=
    queued_requests_answered roomEnvironment_deployed (serving_of_foldlM hs)
  rw [hwaiting, List.append_nil, harrived] at hhandled
  exact ⟨handled, hhandled, hreplies⟩

end SmartWebGateway
