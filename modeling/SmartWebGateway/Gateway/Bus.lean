import SmartWebGateway.Gateway.Handlers
import SmartWebGateway.Gateway.Turns
import Mathlib.Tactic

/-!
# From the bus to the reply

The port with its listener and its handlers, and the queue of every handler with
the thread that empties it, are one machine here. Nobody but the listener calls
`Handle`, so the queues are filled in turn, and a controller replies to those
frames of the bus that it is the first to accept.
-/
namespace SmartWebGateway

open Foundation

/-- The port, and for each handler its queue with what its thread got back so far. -/
structure BusState (H : Type*) where
  port : HandlersState H
  serving : H → FrameQueueState × List (Option TFrame)

inductive BusLabel (H : Type*) where
  | port (label : HandlersLabel H)
  | call
  | queue (handler : H) (label : FrameQueueLabel)
  | leave

/-- The frames that a handler accepts are those that its queue does. -/
def queueAccepts {H : Type*} (queue : H → FrameQueue) (handler : H) (frame : TFrame) : Bool :=
  (queue handler).accepts frame

namespace BusState

variable {H : Type*}

def initial : BusState H where
  port := .initial
  serving _ := (.initial, [])

/-- The queue of one handler takes a step. -/
def serve [DecidableEq H] (s : BusState H) (handler : H)
    (serving : FrameQueueState × List (Option TFrame)) : BusState H :=
  { s with serving := Function.update s.serving handler serving }

/-- The listener calls `Handle`. -/
def call [DecidableEq H] (s : BusState H) (queue : H → FrameQueue) (round : HandlersRound H)
    (handler : H) : BusState H where
  port := { s.port with listener := .handling round handler }
  serving := Function.update s.serving handler
    ((s.serving handler).1.handle (queue handler) round.frame, (s.serving handler).2)

/-- `Handle` returns to the listener: false if the frame was not accepted. -/
def leave (s : BusState H) (queue : H → FrameQueue) (round : HandlersRound H) (handler : H) :
    BusState H :=
  { s with
    port := s.port.handled round handler
      (if queueAccepts queue handler round.frame then .took else .refused) }

/-- The steps of the port that no queue takes part in. A thread comes to the end of its loop only
after it has got back from its queue. -/
def Apart (s : BusState H) : HandlersLabel H → Prop
  | .next => ∀ round, s.port.listener = .running round →
      s.port.handlers[round.offered.length]? = none
  | .handled _ => False
  | .work handler => (s.serving handler).1.getting = .outside
  | _ => True

/-- The steps of `Handle` are taken by the listener, those of `Get` by the thread in its loop. -/
def Attends (s : BusState H) (handler : H) : FrameQueueLabel → Prop
  | .handle _ => False
  | .lockHandle _ | .push _ | .notify _ | .unlock _ =>
    ∃ round, s.port.listener = .handling round handler
  | .get | .lockGet | .check | .spurious | .expire | .resume _ | .take =>
    s.port.thread handler = .working

/-- A wait that did not time out finds a frame in its queue. -/
def WokenForFrame (s : BusState H) : BusLabel H → Prop
  | .queue handler label => (s.serving handler).1.WokenForFrame label
  | _ => True

end BusState

/-- The steps of the port and of all queues. `Handle` begins with its call and returns when the
queue has left it; it does not throw. -/
inductive BusStep {H : Type*} [DecidableEq H] (queue : H → FrameQueue) :
    BusState H → BusLabel H → BusState H → Prop
  | port {s : BusState H} {label : HandlersLabel H} {port : HandlersState H}
      (hstep : HandlersStep (queueAccepts queue) s.port label port) (hapart : s.Apart label) :
      BusStep queue s (.port label) { s with port := port }
  | call {s : BusState H} {round : HandlersRound H} {handler : H}
      (hlistener : s.port.listener = .running round)
      (hnext : s.port.handlers[round.offered.length]? = some handler) :
      BusStep queue s .call (s.call queue round handler)
  | queue {s : BusState H} {handler : H} {label : FrameQueueLabel}
      {serving : FrameQueueState × List (Option TFrame)} (hattends : s.Attends handler label)
      (hstep : Observing (queue handler).Step FrameQueueState.returned? (s.serving handler) label
        serving) :
      BusStep queue s (.queue handler label) (s.serve handler serving)
  | leave {s : BusState H} {round : HandlersRound H} {handler : H}
      (hlistener : s.port.listener = .handling round handler)
      (hleft : ∀ call, (s.serving handler).1.handling call = .outside) :
      BusStep queue s .leave (s.leave queue round handler)

section FirstAcceptor

variable {H : Type*} {accepts : H → TFrame → Bool} {s t : HandlersState H} {l : HandlersLabel H}
  {round : HandlersRound H} {handler : H} {outcome : HandleOutcome}

/-- The handler that takes the frame if nobody throws. -/
def HandlersRound.firstAcceptor (accepts : H → TFrame → Bool) (round : HandlersRound H) :
    Option H :=
  round.registered.find? fun handler => accepts handler round.frame

structure HandlersState.Unthrown (s : HandlersState H) : Prop where
  rounds : ∀ round ∈ s.rounds, round.thrown = []
  running : ∀ round, s.listener = .running round → round.thrown = []
  handling : ∀ round handler, s.listener = .handling round handler → round.thrown = []

theorem HandlersState.Unthrown.initial : (initial : HandlersState H).Unthrown where
  rounds _ hround := by cases hround
  running _ hround := by cases hround
  handling _ _ hround := by cases hround

theorem HandlersState.Unthrown.endRound (h : s.Unthrown) (hthrown : round.thrown = []) :
    (s.endRound round).Unthrown where
  rounds other hother := by
    rcases List.mem_cons.mp hother with rfl | hold
    · exact hthrown
    · exact h.rounds other hold
  running _ hround := by cases hround
  handling _ _ hround := by cases hround

variable [DecidableEq H]

theorem HandlersState.Unthrown.step (h : s.Unthrown) (hcalm : l ≠ .handled .threw)
    (hstep : HandlersStep accepts s l t) : t.Unthrown := by
  cases hstep with
  | receive frame hlistener => exact ⟨h.rounds, nofun, nofun⟩
  | runHandlers hlistener hfree =>
    refine ⟨h.rounds, ?_, nofun⟩
    rintro _ ⟨⟩
    rfl
  | next hlistener hnext =>
    refine ⟨h.rounds, nofun, ?_⟩
    rintro _ _ ⟨⟩
    exact h.running _ hlistener
  | done hlistener hnext => exact h.endRound (h.running _ hlistener)
  | @handled round handler outcome hlistener htook hrefused =>
    have hthrown := h.handling _ _ hlistener
    cases outcome with
    | took => exact h.endRound hthrown
    | refused =>
      refine ⟨h.rounds, ?_, nofun⟩
      rintro _ ⟨⟩
      exact hthrown
    | threw => exact absurd rfl hcalm
  | _ => exact ⟨h.rounds, h.running, h.handling⟩

theorem HandlersRound.Orderly.taker_eq (h : round.Orderly accepts) (hthrown : round.thrown = []) :
    round.taker = round.firstAcceptor accepts := by
  rw [h.taker, hthrown, HandlersRound.firstAcceptor]
  simp

namespace HandlersState

/-- The frame with which the listener is in `Handle` of a handler that accepts it. -/
def atHand (s : HandlersState H) (accepts : H → TFrame → Bool) (handler : H) : List TFrame :=
  match s.listener with
  | .handling round other =>
    if other = handler ∧ accepts handler round.frame then [round.frame] else []
  | _ => []

/-- The frames of the finished rounds that one handler was the first to accept. -/
def finishedFor (s : HandlersState H) (accepts : H → TFrame → Bool) (handler : H) : List TFrame :=
  (s.rounds.reverse.filter fun round => round.firstAcceptor accepts = some handler).map (·.frame)

/-- The frames that one handler is the first to accept, as far as the listener has come. -/
def framesFor (s : HandlersState H) (accepts : H → TFrame → Bool) (handler : H) : List TFrame :=
  s.finishedFor accepts handler ++ s.atHand accepts handler

theorem finishedFor_endRound (s : HandlersState H) (accepts : H → TFrame → Bool)
    (round : HandlersRound H) (other : H) :
    (s.endRound round).finishedFor accepts other = s.finishedFor accepts other ++
      if round.firstAcceptor accepts = some other then [round.frame] else [] := by
  rw [finishedFor, finishedFor, endRound, List.reverse_cons, List.filter_append, List.map_append]
  split_ifs with hfirst
  · simp [hfirst]
  · simp [hfirst]

theorem framesFor_handling {other : H} (hlistener : s.listener = .handling round other) :
    s.framesFor accepts handler = s.finishedFor accepts handler ++
      if other = handler ∧ accepts handler round.frame then [round.frame] else [] := by
  rw [framesFor, atHand, hlistener]

theorem framesFor_endRound (h : (s.endRound round).Sound accepts) (hthrown : round.thrown = [])
    (other : H) :
    (s.endRound round).framesFor accepts other = s.finishedFor accepts other ++
      if round.taker = some other then [round.frame] else [] := by
  have horderly := h.rounds round List.mem_cons_self
  have hhand : (s.endRound round).atHand accepts other = [] := rfl
  rw [framesFor, finishedFor_endRound, hhand, List.append_nil, horderly.taker_eq hthrown]

theorem framesFor_handled (h : (s.handled round handler outcome).Sound accepts)
    (hs : s.Unthrown) (hlistener : s.listener = .handling round handler)
    (houtcome : outcome = if accepts handler round.frame then .took else .refused) (other : H) :
    (s.handled round handler outcome).framesFor accepts other = s.framesFor accepts other := by
  rw [framesFor_handling hlistener]
  by_cases haccept : accepts handler round.frame
  · rw [if_pos haccept] at houtcome
    subst houtcome
    have hthrown := hs.handling _ _ hlistener
    rw [handled, framesFor_endRound h hthrown]
    congr 1
    by_cases heq : handler = other
    · subst heq
      rw [if_pos rfl, if_pos ⟨rfl, haccept⟩]
    · rw [if_neg (fun h => heq (Option.some.inj h)), if_neg (fun h => heq h.1)]
  · rw [if_neg haccept] at houtcome
    subst houtcome
    have hnot : ¬ (handler = other ∧ accepts other round.frame) := by
      rintro ⟨rfl, hother⟩
      exact haccept hother
    rw [if_neg hnot]
    rfl

theorem framesFor_of_not_handling (h : ∀ round, s.listener ≠ .handling round handler) :
    s.framesFor accepts handler = s.finishedFor accepts handler := by
  have hnone : s.atHand accepts handler = [] := by
    unfold atHand
    split
    case h_1 round other hlistener =>
      rw [if_neg]
      rintro ⟨rfl, _⟩
      exact h round hlistener
    case h_2 => rfl
  rw [framesFor, hnone, List.append_nil]

end HandlersState

end FirstAcceptor

namespace BusState

/-- No call of `Handle` is under way but the one that the listener is in, and none if the handler
refuses the frame. -/
def Quiet {H : Type*} (queue : H → FrameQueue) (s : BusState H) : Prop :=
  ∀ handler, (∀ round, s.port.listener = .handling round handler →
      ¬ queueAccepts queue handler round.frame) →
    ∀ call, (s.serving handler).1.handling call = .outside

/-- What every run keeps of the port and of the calls that it made. -/
structure Sound {H : Type*} [DecidableEq H] (queue : H → FrameQueue) (s : BusState H) : Prop where
  port : s.port.Sound (queueAccepts queue)
  unthrown : s.port.Unthrown
  quiet : s.Quiet queue
  accounted : ∀ handler, (s.serving handler).1.calls.map (·.frame) =
    s.port.framesFor (queueAccepts queue) handler

end BusState

section Bus

variable {H : Type*} {queue : H → FrameQueue} {s t : BusState H} {l : BusLabel H} {handler : H}

namespace BusState

theorem Attends.ne_handle {label : FrameQueueLabel} (hattends : s.Attends handler label)
    (frame : TFrame) : label ≠ .handle frame := by
  rintro rfl
  exact hattends

end BusState

variable [DecidableEq H]

namespace BusState

@[simp] theorem serving_serve_self {serving : FrameQueueState × List (Option TFrame)} :
    (s.serve handler serving).serving handler = serving := Function.update_self ..

theorem serving_serve_of_ne {serving : FrameQueueState × List (Option TFrame)} {other : H}
    (hne : handler ≠ other) : (s.serve other serving).serving handler = s.serving handler :=
  Function.update_of_ne hne ..

theorem call_of_refused {round : HandlersRound H}
    (h : queueAccepts queue handler round.frame ≠ true) :
    s.call queue round handler =
      { s with port := { s.port with listener := .handling round handler } } := by
  have hunchanged : (s.serving handler).1.handle (queue handler) round.frame =
      (s.serving handler).1 := if_neg h
  rw [call, hunchanged, Function.update_eq_self]

@[simp] theorem serving_call_self {round : HandlersRound H} :
    (s.call queue round handler).serving handler =
      ((s.serving handler).1.handle (queue handler) round.frame, (s.serving handler).2) :=
  Function.update_self ..

theorem serving_call_of_ne {round : HandlersRound H} {other : H} (hne : handler ≠ other) :
    (s.call queue round other).serving handler = s.serving handler :=
  Function.update_of_ne hne ..

theorem Sound.initial (queue : H → FrameQueue) : (initial : BusState H).Sound queue where
  port := .initial
  unthrown := .initial
  quiet _ _ _ := rfl
  accounted _ := rfl

section Apart

variable {label : HandlersLabel H} {port : HandlersState H}

theorem Apart.handling (hapart : s.Apart label)
    (hstep : HandlersStep (queueAccepts queue) s.port label port) {round : HandlersRound H}
    (hlistener : s.port.listener = .handling round handler) :
    port.listener = .handling round handler := by
  cases hstep with
  | receive frame hlistening => simp [hlistener] at hlistening
  | runHandlers hreceived hfree => simp [hlistener] at hreceived
  | next hrunning hnext => simp [hlistener] at hrunning
  | done hrunning hnext => simp [hlistener] at hrunning
  | handled hhandling htook hrefused => exact hapart.elim
  | _ => exact hlistener

theorem Apart.framesFor (hapart : s.Apart label) (hs : s.Sound queue)
    (hstep : HandlersStep (queueAccepts queue) s.port label port) :
    port.framesFor (queueAccepts queue) handler =
      s.port.framesFor (queueAccepts queue) handler := by
  have hsound := hstep.sound hs.port
  cases hstep with
  | receive frame hlistener =>
    rw [HandlersState.framesFor_of_not_handling (by simp),
      HandlersState.framesFor_of_not_handling (by simp [hlistener])]
    rfl
  | runHandlers hlistener hfree =>
    rw [HandlersState.framesFor_of_not_handling (by simp),
      HandlersState.framesFor_of_not_handling (by simp [hlistener])]
    rfl
  | next hlistener hnext =>
    rw [hapart _ hlistener] at hnext
    cases hnext
  | done hlistener hnext =>
    have huntaken := (hs.port.running _ hlistener).2.untaken
    rw [HandlersState.framesFor_endRound hsound (hs.unthrown.running _ hlistener), huntaken,
      if_neg nofun, List.append_nil,
      HandlersState.framesFor_of_not_handling (by simp [hlistener])]
  | handled hlistener htook hrefused => exact hapart.elim
  | _ => rfl

end Apart

end BusState

namespace BusStep

/-- The port takes its own steps in it. -/
theorem port_leads (h : BusStep queue s l t) :
    Leads (HandlersStep (queueAccepts queue)) (fun _ l => l ≠ .handled .threw) s.port t.port := by
  cases h with
  | port hstep hapart =>
    refine Leads.refl.tail hstep ?_
    rintro rfl
    exact hapart
  | call hlistener hnext => exact Leads.refl.tail (.next hlistener hnext) nofun
  | queue hattends hstep => rfl
  | @leave round handler hlistener hleft =>
    by_cases haccept : queueAccepts queue handler round.frame
    · rw [BusState.leave, if_pos haccept]
      exact Leads.refl.tail (l := .handled .took) (.handled hlistener (fun _ => haccept) (by simp))
        (by simp)
    · rw [BusState.leave, if_neg haccept]
      exact Leads.refl.tail (l := .handled .refused) (.handled hlistener (by simp) fun _ => haccept)
        (by simp)

/-- Each queue takes its own steps in it, one call of `Handle` at a time. -/
theorem serving_leads (h : BusStep queue s l t) (hs : s.Quiet queue) (hwoken : s.WokenForFrame l)
    (handler : H) :
    Leads (Observing (queue handler).Step FrameQueueState.returned?)
      (fun a l => a.1.WokenForFrame l ∧ a.1.OneAtATime l) (s.serving handler)
      (t.serving handler) := by
  cases h with
  | port hstep hapart => rfl
  | @call round other hlistener hnext =>
    by_cases heq : handler = other
    · subst heq
      rw [BusState.serving_call_self]
      refine Leads.refl.tail (l := .handle round.frame) ⟨.handle _ _, ?_⟩ ⟨trivial, ?_⟩
      · exact (List.append_nil _).symm
      · exact hs handler (by simp [hlistener])
    · rw [BusState.serving_call_of_ne heq]
  | @queue other label serving hattends hstep =>
    by_cases heq : handler = other
    · subst heq
      rw [BusState.serving_serve_self]
      exact Leads.refl.tail hstep ⟨hwoken, FrameQueueState.oneAtATime_of_ne hattends.ne_handle⟩
    · rw [BusState.serving_serve_of_ne heq]
  | leave hlistener hleft => rfl

theorem quiet (h : BusStep queue s l t) (hs : s.Quiet queue) : t.Quiet queue := by
  intro handler hrefuses
  cases h with
  | port hstep hapart =>
    exact hs handler fun round hlistener => hrefuses round (hapart.handling hstep hlistener)
  | @call round other hlistener hnext =>
    have hquiet := hs handler (by simp [hlistener])
    by_cases heq : handler = other
    · subst heq
      rw [BusState.call_of_refused (hrefuses round rfl)]
      exact hquiet
    · rw [BusState.serving_call_of_ne heq]
      exact hquiet
  | @queue other label serving hattends hstep =>
    have hquiet := hs handler hrefuses
    by_cases heq : handler = other
    · subst heq
      rw [BusState.serving_serve_self,
        FrameQueueState.handling_of_outside hquiet hattends.ne_handle hstep.1]
      exact hquiet
    · rw [BusState.serving_serve_of_ne heq]
      exact hquiet
  | @leave round other hlistener hleft =>
    by_cases heq : handler = other
    · exact heq ▸ hleft
    · exact hs handler (by simp [hlistener, Ne.symm heq])

/-- The calls of a handler are those for the frames that it is the first to accept. -/
theorem accounted (h : BusStep queue s l t) (hs : s.Sound queue)
    (hport : t.port.Sound (queueAccepts queue)) (handler : H) :
    (t.serving handler).1.calls.map (·.frame) =
      t.port.framesFor (queueAccepts queue) handler := by
  have hold := hs.accounted handler
  cases h with
  | port hstep hapart => exact hold.trans (hapart.framesFor hs hstep).symm
  | @call round other hlistener hnext =>
    have hhandling : (s.call queue round other).port.listener = .handling round other := rfl
    have hfinished : (s.call queue round other).port.finishedFor (queueAccepts queue) handler =
        s.port.finishedFor (queueAccepts queue) handler := rfl
    rw [HandlersState.framesFor_of_not_handling (by simp [hlistener])] at hold
    rw [HandlersState.framesFor_handling hhandling, hfinished, ← hold]
    by_cases heq : handler = other
    · subst heq
      rw [BusState.serving_call_self, FrameQueueState.map_calls_handle]
      simp only [true_and, queueAccepts]
    · rw [BusState.serving_call_of_ne heq, if_neg (fun h => heq h.1.symm), List.append_nil]
  | @queue other label serving hattends hstep =>
    by_cases heq : handler = other
    · subst heq
      rw [BusState.serving_serve_self, FrameQueueState.calls_of_ne hattends.ne_handle hstep.1]
      exact hold
    · rw [BusState.serving_serve_of_ne heq]
      exact hold
  | leave hlistener hleft =>
    exact hold.trans (HandlersState.framesFor_handled hport hs.unthrown hlistener rfl handler).symm

theorem sound (h : BusStep queue s l t) (hs : s.Sound queue) : t.Sound queue where
  port := h.port_leads.invariant (fun _ _ _ hs _ hstep => hstep.sound hs) hs.port
  unthrown := h.port_leads.invariant (fun _ _ _ hs hcalm hstep => hs.step hcalm hstep) hs.unthrown
  quiet := h.quiet hs.quiet
  accounted := h.accounted hs
    (h.port_leads.invariant (fun _ _ _ hs _ hstep => hstep.sound hs) hs.port)

end BusStep

theorem busSound_of_leads (h : Leads (BusStep queue) BusState.WokenForFrame .initial s) :
    s.Sound queue :=
  h.invariant (fun _ _ _ hs _ hstep => hstep.sound hs) (.initial queue)

theorem BusState.Sound.arriving (h : s.Sound queue)
    (hprepared : (s.serving handler).1.Prepared (queue handler))
    (hinTurn : (s.serving handler).1.InTurn) :
    (s.serving handler).1.arrivingFrames = [] ∨
      ∃ round, s.port.listener = .handling round handler ∧
        (s.serving handler).1.arrivingFrames = [round.frame] := by
  have hframes := hinTurn.frames.trans (h.accounted handler)
  refine (hinTurn.arrivingFrames_cases hprepared).imp_right ?_
  rintro ⟨call, hphase, harriving⟩
  have hbusy : ∃ round, s.port.listener = .handling round handler ∧
      queueAccepts queue handler round.frame := by
    by_contra hnot
    refine hphase (h.quiet handler ?_ call)
    exact fun round hlistener haccept => hnot ⟨round, hlistener, haccept⟩
  obtain ⟨round, hlistener, haccept⟩ := hbusy
  rw [HandlersState.framesFor_handling hlistener, if_pos ⟨rfl, haccept⟩, harriving] at hframes
  exact ⟨round, hlistener, harriving.trans (List.append_inj_right' hframes rfl)⟩

/-- Each queue goes through a run of its own. -/
theorem serving_of_bus (h : Leads (BusStep queue) BusState.WokenForFrame .initial s)
    (handler : H) :
    Leads (Observing (queue handler).Step FrameQueueState.returned?)
      (fun a l => a.1.WokenForFrame l ∧ a.1.OneAtATime l) (.initial, []) (s.serving handler) :=
  @Leads.simulate _ _ _ _ _ _ _ _ _ _ (fun s : BusState H => s.serving handler)
    (fun s => s.Sound queue) h (fun _ _ _ hs _ hstep => hstep.sound hs)
    (fun _ _ _ hs hwoken hstep => hstep.serving_leads hs.quiet hwoken handler) (.initial queue)

end Bus

section Replies

variable {H : Type*} [DecidableEq H] {queue : H → FrameQueue} {s : BusState H} {controller : H}
  {configJson : ControllerObject} {load : Loading configJson} {env : Environment}

/-- However the listener, the handlers that come and go, and the threads of all queues interleave:
the frames of the bus that a controller is the first of the registered handlers to accept are
handled by it once and in their order, up to those that still wait in its queue and the one that
`Handle` is about to put there; and the replies are those that the handled frames call for, each
with a reading that is made after those for the frames before it. -/
theorem bus_requests_answered (h : Deployed load env)
    (hqueue : queue controller = TMqttToSmartWebGateway.canFrames load.config.programId)
    (hrun : Leads (BusStep queue) BusState.WokenForFrame .initial s) :
    ∃ handled : List (TFrame × ℕ),
      handled.map Prod.fst ++ waitingFrames (s.serving controller).1.frames ++
          (s.serving controller).1.arrivingFrames =
        s.port.framesFor (queueAccepts queue) controller ∧
      ((s.serving controller).1.arrivingFrames = [] ∨
        ∃ round, s.port.listener = .handling round controller ∧
          (s.serving controller).1.arrivingFrames = [round.frame]) ∧
      handled.Pairwise (fun earlier later => earlier.2 ≤ later.2) ∧
      (runState load env (roundInputs (s.serving controller).2)
          (s.serving controller).2.length).replies =
        handled.filterMap fun (f, p) => f.reply? load.config.toControllerMapping
          (requestedValue env.world load.config.toControllerMapping p f.data) := by
  have hsound := busSound_of_leads hrun
  have hserving := serving_of_bus hrun controller
  obtain ⟨hprepared, hinTurn⟩ := FrameQueueState.inTurn_of_leads hserving
  rw [hqueue] at hserving
  have hframes := serving_frames (hserving.mono fun _ _ hcondition => hcondition.1)
  obtain ⟨handled, hhandled, hordered, hreplies⟩ := h.replies_of_results (s.serving controller).2
  refine ⟨handled, ?_, hsound.arriving hprepared hinTurn, hordered, hreplies⟩
  rw [hhandled, hframes, hinTurn.frames, hsound.accounted]

end Replies

/-! The reader refuses a request that the controller of a room takes. -/

def roomQueue : Bool → FrameQueue
  | false => TThreadedCanReader.frames TSmartWebToMqttGateway.acceptFrame framesQueueMaxLength
  | true => TMqttToSmartWebGateway.canFrames 7

def roomWorking : BusState Bool :=
  { BusState.initial with port := portRegistered.goOn true .working }

def roomRound : HandlersRound Bool := ⟨roomSensorRequest, [false, true], [], [], none⟩

def roomOffered : BusState Bool :=
  { roomWorking with
    port :=
      { roomWorking.port with
        mutex := some .listener
        listener := .handling roomRound false } }

def roomRefused : HandlersRound Bool := { roomRound with offered := [false] }

def roomCalled : BusState Bool :=
  let offered := { roomOffered with
    port := { roomOffered.port with listener := .running roomRefused } }
  offered.call roomQueue roomRefused true

section Room

variable {s : BusState Bool}

theorem BusState.leads_registering {handler : Bool}
    (h : Leads (BusStep roomQueue) BusState.WokenForFrame .initial s)
    (hfree : s.port.mutex = none) (hlife : s.port.life handler = .absent) :
    Leads (BusStep roomQueue) BusState.WokenForFrame .initial
      { s with port := s.port.registering handler } := by
  have hconstructing := h.tail (.port (.construct hlife) trivial) trivial
  have hadding := hconstructing.tail
    (.port (.lockAdd HandlersState.life_live_self hfree) trivial) trivial
  have hregistered := hadding.tail
    (.port (.addHandler HandlersState.life_live_self) trivial) trivial
  exact hregistered.tail (.port (.startThread HandlersState.life_live_self) trivial) trivial

theorem BusState.leads_foldlM {labels : List FrameQueueLabel}
    {a : FrameQueueState × List (Option TFrame)}
    (h : labels.foldlM (servingNext? 7) (s.serving true) = some a)
    (hattends : ∀ label ∈ labels, s.Attends true label) :
    Leads (BusStep roomQueue) BusState.WokenForFrame s (s.serve true a) := by
  induction labels generalizing s with
  | nil =>
    obtain rfl := Option.some.inj h
    rw [BusState.serve, Function.update_eq_self]
  | cons label labels ih =>
    rw [List.foldlM_cons] at h
    obtain ⟨b, hb, hrest⟩ := Option.bind_eq_some_iff.mp h
    obtain ⟨hwoken, hnext⟩ := Option.ite_none_right_eq_some.mp hb
    obtain ⟨u, hu, rfl⟩ := Option.map_eq_some_iff.mp hnext
    have hstep : Observing (roomQueue true).Step FrameQueueState.returned? (s.serving true) label
        (u, (s.serving true).2 ++ ((s.serving true).1.returned? label).toList) :=
      ⟨FrameQueue.step_of_next? hu, rfl⟩
    have hfirst : Leads (BusStep roomQueue) BusState.WokenForFrame s (s.serve true _) :=
      Leads.refl.tail (.queue (hattends label List.mem_cons_self) hstep) hwoken
    have hlater := @ih (s.serve true _) (by rwa [BusState.serving_serve_self])
      fun l hl => hattends l (List.mem_cons_of_mem _ hl)
    rw [BusState.serve, BusState.serve, Function.update_idem] at hlater
    exact hfirst.trans hlater

theorem roomCalled_leads :
    Leads (BusStep roomQueue) BusState.WokenForFrame .initial roomCalled := by
  have hregistered : Leads (BusStep roomQueue) BusState.WokenForFrame .initial
      { BusState.initial with port := portRegistered } :=
    BusState.leads_registering (BusState.leads_registering .refl rfl rfl) rfl rfl
  have hworking : Leads (BusStep roomQueue) BusState.WokenForFrame .initial roomWorking :=
    hregistered.tail
      (.port (.lookEnabled rfl ⟨by decide, by decide, by decide⟩) trivial) trivial
  have hreceived := hworking.tail (.port (.receive roomSensorRequest rfl) trivial) trivial
  have hlocked := hreceived.tail (.port (.runHandlers rfl rfl) trivial) trivial
  have hrefuses : queueAccepts roomQueue false roomRound.frame ≠ true := by decide +kernel
  have hoffered : Leads (BusStep roomQueue) BusState.WokenForFrame .initial roomOffered := by
    have hcall := hlocked.tail (@BusStep.call _ _ _ _ roomRound _ rfl rfl) trivial
    rw [BusState.call_of_refused hrefuses] at hcall
    exact hcall
  have hrefused := hoffered.tail (.leave rfl fun _ => rfl) trivial
  rw [BusState.leave, if_neg hrefuses] at hrefused
  exact hrefused.tail (.call rfl rfl) trivial

/-- The frame is put into the queue and taken out of it before `Handle` has returned. -/
theorem bus_requests_answered_room :
    ∃ handled : List (TFrame × ℕ), handled.map Prod.fst = [roomSensorRequest] ∧
      (runState roomLoading roomEnvironment (roundInputs [some roomSensorRequest]) 1).replies =
        handled.filterMap fun (f, p) => f.reply? roomLoading.config.toControllerMapping
          (requestedValue roomEnvironment.world roomLoading.config.toControllerMapping p
            f.data) := by
  let call : HandleCall := ⟨0, roomSensorRequest, 0⟩
  let labels : List FrameQueueLabel :=
    [.lockHandle call, .push call, .unlock call, .notify call, .get, .lockGet, .check, .take]
  have hqueue : (labels.foldlM (servingNext? 7) (roomCalled.serving true)).map
      (fun a => (a.2, waitingFrames a.1.frames, a.1.arrivingFrames)) =
        some ([some roomSensorRequest], [], []) := by
    decide +kernel
  have hattends : ∀ label ∈ labels, roomCalled.Attends true label := by
    simp only [labels, List.forall_mem_cons, List.not_mem_nil, false_implies, implies_true,
      and_true, BusState.Attends]
    exact ⟨⟨_, rfl⟩, ⟨_, rfl⟩, ⟨_, rfl⟩, ⟨_, rfl⟩, rfl, rfl, rfl, rfl⟩
  obtain ⟨⟨served, results⟩, hserved, heq⟩ := Option.map_eq_some_iff.mp hqueue
  obtain ⟨rfl, hwaiting, harriving⟩ : results = [some roomSensorRequest] ∧
      waitingFrames served.frames = [] ∧ served.arrivingFrames = [] := by
    simpa only [Prod.mk.injEq] using heq
  have hframes : roomCalled.port.framesFor (queueAccepts roomQueue) true = [roomSensorRequest] := by
    decide +kernel
  have hrun := roomCalled_leads.trans (BusState.leads_foldlM hserved hattends)
  obtain ⟨handled, hhandled, _, _, hreplies⟩ :=
    @bus_requests_answered Bool _ roomQueue _ true _ _ _ roomEnvironment_deployed rfl hrun
  rw [BusState.serving_serve_self] at hhandled hreplies
  rw [hwaiting, harriving, List.append_nil, List.append_nil] at hhandled
  exact ⟨handled, hhandled.trans hframes, hreplies⟩

end Room

end SmartWebGateway
