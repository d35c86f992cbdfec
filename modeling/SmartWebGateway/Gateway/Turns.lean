import SmartWebGateway.Gateway.Answering
import Mathlib.Tactic

/-!
# Calls of one queue that come in turn

The listener of the port leaves one call of `Handle` before it makes the next.
Of the calls that fill one queue at most one is then under way, and their frames
arrive in the order of the calls.
-/
namespace SmartWebGateway

open Foundation

theorem HandlePhase.Arriving.ne_outside {phase : HandlePhase} (h : phase.Arriving) :
    phase ≠ .outside := by
  rintro rfl
  exact absurd h (by decide)

def FrameQueueLabel.OfGet : FrameQueueLabel → Prop
  | .handle _ | .lockHandle _ | .push _ | .notify _ | .unlock _ => False
  | .get | .lockGet | .check | .spurious | .expire | .resume _ | .take => True

namespace FrameQueueState

def arrivingCalls (s : FrameQueueState) : List HandleCall :=
  s.calls.filter fun call => (s.handling call).Arriving

def arrivingFrames (s : FrameQueueState) : List TFrame := s.arrivingCalls.map (·.frame)

/-- `Handle` is called after every earlier call was left. -/
def OneAtATime (s : FrameQueueState) : FrameQueueLabel → Prop
  | .handle _ => ∀ call, s.handling call = .outside
  | _ => True

/-- One call at most is under way, and the frames arrive in the order of the calls. -/
structure InTurn (s : FrameQueueState) : Prop where
  alone : ∀ call call', s.handling call ≠ .outside → s.handling call' ≠ .outside → call = call'
  inOrder : s.frames.arrivals.map (·.item) ++ s.arrivingCalls = s.calls

section InTurn

variable {queue : FrameQueue} {s t : FrameQueueState} {l : FrameQueueLabel} {call : HandleCall}
  {phase : HandlePhase}

theorem inTurn_initial : initial.InTurn where
  alone _ _ hcall := absurd rfl hcall
  inOrder := rfl

theorem get_step (hget : l.OfGet) (hstep : queue.Step s l t) :
    t.handling = s.handling ∧ t.calls = s.calls ∧ t.frames.arrivals = s.frames.arrivals := by
  cases hstep with
  | get hphase => exact ⟨rfl, rfl, rfl⟩
  | lockGet hphase hfree => exact ⟨rfl, rfl, rfl⟩
  | check hphase =>
    unfold FrameQueueState.check
    split_ifs
    · exact ⟨rfl, rfl, rfl⟩
    · exact ⟨rfl, rfl, rfl⟩
  | spurious hphase => exact ⟨rfl, rfl, rfl⟩
  | expire hphase => exact ⟨rfl, rfl, rfl⟩
  | resume expired timeout hphase hfree hstatus =>
    cases timeout with
    | true => exact ⟨rfl, rfl, rfl⟩
    | false => exact ⟨rfl, rfl, rfl⟩
  | take hphase =>
    unfold FrameQueueState.take
    cases htake : s.frames.take? with
    | none => exact ⟨rfl, rfl, rfl⟩
    | some frames => exact ⟨rfl, rfl, Fifo.arrivals_of_take? htake⟩
  | _ => exact hget.elim

theorem handling_of_outside (hout : ∀ call, s.handling call = .outside)
    (hnew : ∀ frame, l ≠ .handle frame) (hstep : queue.Step s l t) : t.handling = s.handling := by
  by_cases hget : l.OfGet
  · exact (get_step hget hstep).1
  cases hstep with
  | handle frame => exact absurd rfl (hnew frame)
  | lockHandle call hphase hfree => simp [hout] at hphase
  | push call hphase => simp [hout] at hphase
  | notifyLocked call hphase hqueue => simp [hout] at hphase
  | unlock call hphase => simp [hout] at hphase
  | unlockFirst call hphase hqueue => simp [hout] at hphase
  | notifyUnlocked call hphase => simp [hout] at hphase
  | _ => exact absurd trivial hget

theorem calls_of_ne (hnew : ∀ frame, l ≠ .handle frame) (hstep : queue.Step s l t) :
    t.calls = s.calls := by
  by_cases hget : l.OfGet
  · exact (get_step hget hstep).2.1
  cases hstep with
  | handle frame => exact absurd rfl (hnew frame)
  | check hphase => exact absurd trivial hget
  | resume expired timeout hphase hfree hstatus => exact absurd trivial hget
  | take hphase => exact absurd trivial hget
  | _ => rfl

theorem oneAtATime_of_ne (hnew : ∀ frame, l ≠ .handle frame) : s.OneAtATime l := by
  cases l with
  | handle frame => exact absurd rfl (hnew frame)
  | _ => trivial

theorem arrivingCalls_eq_nil (h : ∀ call ∈ s.calls, ¬ (s.handling call).Arriving) :
    s.arrivingCalls = [] := by
  rw [arrivingCalls, List.filter_eq_nil_iff]
  intro call hcall
  rw [decide_eq_true_iff]
  exact h call hcall

theorem Sound.nodup_calls (h : s.Sound queue) : s.calls.Nodup := by
  have hserials : (s.calls.map (·.serial)).Nodup := by
    rw [h.serials]
    exact List.nodup_range
  exact hserials.of_map

theorem InTurn.arrivingCalls_eq (h : s.InTurn) (hs : s.Prepared queue)
    (hphase : (s.handling call).Arriving) : s.arrivingCalls = [call] := by
  have hmem : call ∈ s.arrivingCalls := by
    rw [arrivingCalls, List.mem_filter, decide_eq_true_iff]
    exact ⟨(hs.arriving call hphase).1, hphase⟩
  have hall : ∀ c ∈ s.arrivingCalls, c = call := by
    intro c hc
    rw [arrivingCalls, List.mem_filter, decide_eq_true_iff] at hc
    exact h.alone c call hc.2.ne_outside hphase.ne_outside
  have hnodup : s.arrivingCalls.Nodup := hs.nodup_calls.filter _
  obtain ⟨first, rest, hcons⟩ := List.exists_cons_of_ne_nil (List.ne_nil_of_mem hmem)
  rw [hcons] at hall hnodup ⊢
  obtain rfl := hall first List.mem_cons_self
  cases rest with
  | nil => rfl
  | cons second rest =>
    obtain rfl := hall second (List.mem_cons_of_mem _ List.mem_cons_self)
    exact absurd List.mem_cons_self (List.nodup_cons.mp hnodup).1

theorem InTurn.move (h : s.InTurn) (harrivals : t.frames.arrivals = s.frames.arrivals)
    (hcalls : t.calls = s.calls)
    (hhandling : ∀ c, (t.handling c).Arriving ↔ (s.handling c).Arriving)
    (hout : ∀ c, t.handling c ≠ .outside → s.handling c ≠ .outside) : t.InTurn where
  alone call call' hcall hcall' := h.alone call call' (hout call hcall) (hout call' hcall')
  inOrder := by
    have harriving : t.arrivingCalls = s.arrivingCalls := by
      rw [arrivingCalls, arrivingCalls, hcalls]
      exact List.filter_congr fun c _ => by simp only [hhandling]
    rw [harrivals, hcalls, harriving]
    exact h.inOrder

theorem InTurn.setPhase (h : s.InTurn) {mutex : Option FrameQueueParty} {getting : GetPhase}
    (hphase : phase.Arriving ↔ (s.handling call).Arriving) (hcall : s.handling call ≠ .outside) :
    InTurn { s.setPhase call phase with mutex := mutex, getting := getting } := by
  refine h.move rfl rfl (arriving_setPhase hphase) ?_
  intro c hc
  by_cases heq : c = call
  · exact heq ▸ hcall
  · exact (handling_setPhase_of_ne heq).symm.trans_ne hc

theorem map_calls_handle (s : FrameQueueState) (queue : FrameQueue) (frame : TFrame) :
    (s.handle queue frame).calls.map (·.frame) =
      s.calls.map (·.frame) ++ if queue.accepts frame then [frame] else [] := by
  unfold FrameQueueState.handle
  split_ifs
  · exact List.map_append
  · exact (List.append_nil _).symm

theorem InTurn.handle (h : s.InTurn) (hs : s.Prepared queue) {frame : TFrame}
    (hout : ∀ call, s.handling call = .outside) : (s.handle queue frame).InTurn := by
  unfold FrameQueueState.handle
  split_ifs
  case neg => exact h
  have hnew := hs.nextCall_notMem frame
  have hkeep : ∀ c ≠ s.nextCall frame,
      (s.setPhase (s.nextCall frame) .called).handling c = .outside :=
    fun c hc => (handling_setPhase_of_ne hc).trans (hout c)
  have hnone : s.arrivingCalls = [] := arrivingCalls_eq_nil fun c _ hc => hc.ne_outside (hout c)
  have horder := h.inOrder
  rw [hnone, List.append_nil] at horder
  constructor
  case alone =>
    intro call call' hcall hcall'
    have hself : ∀ c, (s.setPhase (s.nextCall frame) .called).handling c ≠ .outside →
        c = s.nextCall frame := fun c hc => by_contra fun hne => hc (hkeep c hne)
    exact (hself call hcall).trans (hself call' hcall').symm
  case inOrder =>
    have hold : s.calls.filter (fun c =>
        ((s.setPhase (s.nextCall frame) .called).handling c).Arriving) = [] := by
      rw [List.filter_eq_nil_iff]
      intro c hc
      rw [decide_eq_true_iff]
      exact fun hphase => hphase.ne_outside (hkeep c fun heq => hnew (heq ▸ hc))
    have hlast : [s.nextCall frame].filter (fun c =>
        ((s.setPhase (s.nextCall frame) .called).handling c).Arriving) = [s.nextCall frame] := by
      rw [List.filter_cons_of_pos, List.filter_nil]
      rw [decide_eq_true_iff, handling_setPhase_self]
      exact Or.inl rfl
    simp only [arrivingCalls, FrameQueueState.setPhase, List.filter_append] at hold hlast ⊢
    rw [hold, hlast, List.nil_append, horder]

theorem not_arriving_push : ¬ ((s.push queue call).handling call).Arriving := by
  change ¬ ((s.setPhase call _).handling call).Arriving
  rw [handling_setPhase_self]
  split_ifs
  · decide
  · decide

theorem InTurn.push (h : s.InTurn) (hs : s.Prepared queue) (hphase : s.handling call = .locked) :
    (s.push queue call).InTurn := by
  have hcall : (s.handling call).Arriving := Or.inr hphase
  have hother : ∀ c ≠ call, (s.push queue call).handling c = s.handling c :=
    fun c hc => handling_setPhase_of_ne hc
  have hout : ∀ c, (s.push queue call).handling c ≠ .outside → s.handling c ≠ .outside := by
    intro c hc
    by_cases heq : c = call
    · rw [heq, hphase]
      decide
    · rwa [hother c heq] at hc
  constructor
  case alone => exact fun c c' hc hc' => h.alone c c' (hout c hc) (hout c' hc')
  case inOrder =>
    have hnone : (s.push queue call).arrivingCalls = [] := by
      apply arrivingCalls_eq_nil
      intro c _ hc
      by_cases heq : c = call
      · exact not_arriving_push (heq ▸ hc)
      · rw [hother c heq] at hc
        have hmem : c ∈ s.arrivingCalls := by
          rw [arrivingCalls, List.mem_filter, decide_eq_true_iff]
          exact ⟨(hs.arriving c hc).1, hc⟩
        rw [h.arrivingCalls_eq hs hcall, List.mem_singleton] at hmem
        exact heq hmem
    have horder := h.inOrder
    rw [h.arrivingCalls_eq hs hcall] at horder
    rw [hnone, List.append_nil]
    refine Eq.trans ?_ horder
    simp [FrameQueueState.push, Fifo.arrive]

theorem InTurn.step (h : s.InTurn) (hs : s.Prepared queue) (hone : s.OneAtATime l)
    (hstep : queue.Step s l t) : t.InTurn := by
  by_cases hget : l.OfGet
  · obtain ⟨hhandling, hcalls, harrivals⟩ := get_step hget hstep
    refine h.move harrivals hcalls ?_ ?_
    · exact fun c => by rw [hhandling]
    · exact fun c hc => hhandling ▸ hc
  cases hstep with
  | handle frame => exact h.handle hs hone
  | lockHandle call hphase hfree =>
    exact h.setPhase (by simp [hphase, HandlePhase.Arriving]) (by simp [hphase])
  | push call hphase => exact h.push hs hphase
  | notifyLocked call hphase hqueue =>
    exact h.setPhase (by simp [hphase, HandlePhase.Arriving]) (by simp [hphase])
  | unlock call hphase =>
    exact h.setPhase (by simp [hphase, HandlePhase.Arriving]) (by simp [hphase])
  | unlockFirst call hphase hqueue =>
    exact h.setPhase (by simp [hphase, HandlePhase.Arriving]) (by simp [hphase])
  | notifyUnlocked call hphase =>
    exact h.setPhase (by simp [hphase, HandlePhase.Arriving]) (by simp [hphase])
  | _ => exact absurd trivial hget

theorem inTurn_of_leads {a : FrameQueueState × List (Option TFrame)}
    (h : Leads (Observing queue.Step returned?) (fun a l => a.1.WokenForFrame l ∧ a.1.OneAtATime l)
      (initial, []) a) : a.1.Prepared queue ∧ a.1.InTurn :=
  @Leads.invariant _ _ _ _ _ _ (fun a : FrameQueueState × List (Option TFrame) =>
    a.1.Prepared queue ∧ a.1.InTurn) h
    (fun _ _ _ hs hcondition hstep =>
      ⟨hs.1.step hcondition.1 hstep.1, hs.2.step hs.1 hcondition.2 hstep.1⟩)
    ⟨prepared_initial queue, inTurn_initial⟩

/-- At most one frame is accepted and not in the queue yet, while its call is under way. -/
theorem InTurn.arrivingFrames_cases (h : s.InTurn) (hs : s.Prepared queue) :
    s.arrivingFrames = [] ∨
      ∃ call, s.handling call ≠ .outside ∧ s.arrivingFrames = [call.frame] := by
  by_cases harriving : ∃ call ∈ s.calls, (s.handling call).Arriving
  · obtain ⟨call, _, hphase⟩ := harriving
    refine Or.inr ⟨call, hphase.ne_outside, ?_⟩
    rw [arrivingFrames, h.arrivingCalls_eq hs hphase, List.map_singleton]
  · have hnone := arrivingCalls_eq_nil fun call hcall hphase => harriving ⟨call, hcall, hphase⟩
    rw [arrivingFrames, hnone]
    exact Or.inl rfl

theorem InTurn.frames (h : s.InTurn) :
    s.arrivedFrames ++ s.arrivingFrames = s.calls.map (·.frame) := by
  rw [← h.inOrder, List.map_append, List.map_map]
  rfl

end InTurn

end FrameQueueState

end SmartWebGateway
