import SmartWebGateway.Foundation.Fifo
import SmartWebGateway.Foundation.Machine
import SmartWebGateway.Gateway.Dispatch
import Mathlib.Tactic

/-!
# The queues between the port and the threads of its handlers

`Handle` puts the frames that it accepts into a queue, and one thread takes them
out, by `Get` of the reader or by `SelectTimeout` of the controller. Both wait
on an empty queue without a predicate. The reader's queue is bounded, and its
waiter is notified under the mutex; the controller's is not, and its waiter is
notified after the mutex was released.
-/
namespace SmartWebGateway

open Foundation

/-- Which frames go into a queue, how many it holds, and whether its waiter is notified while the
mutex is still held. -/
structure FrameQueue where
  accepts : TFrame → Bool
  maxLength : Option ℕ
  notifiesLocked : Bool

def TThreadedCanReader.frames (acceptFrame : TFrame → Bool) (framesQueueMaxLength : ℕ) :
    FrameQueue where
  accepts := acceptFrame
  maxLength := some framesQueueMaxLength
  notifiesLocked := true

def TMqttToSmartWebGateway.canFrames (programId : Byte) : FrameQueue where
  accepts frame := isForMe programId frame.header frame.data
  maxLength := none
  notifiesLocked := false

/-- One call of `Handle` that accepted its frame, and how many frames had arrived when it was made.
Calls have numbers, since equal frames may come again. -/
structure HandleCall where
  serial : ℕ
  frame : TFrame
  before : ℕ
  deriving DecidableEq

/-- How far a call of `Handle` is. It holds the mutex while it is `locked`, `pushed` or `leaving`;
a notification is still due when it is `pushed` or `unlocked`. -/
inductive HandlePhase where
  | outside
  | called
  | locked
  | pushed
  | leaving
  | unlocked
  deriving DecidableEq

/-- The frame is accepted, and the length of the queue was not looked at yet. -/
def HandlePhase.Arriving (phase : HandlePhase) : Prop := phase = .called ∨ phase = .locked

instance : DecidablePred HandlePhase.Arriving := fun _ => inferInstanceAs (Decidable (_ ∨ _))

/-- How far the thread is in `Get`. It holds the mutex while it is `locked` or `taking`; it is
`undefined` after `front` and `pop` on an empty queue. -/
inductive GetPhase where
  | outside
  | called
  | locked
  | waiting
  | woken (expired : Bool)
  | taking
  | undefined
  deriving DecidableEq

/-- `notify_all` reaches only a thread that waits already. -/
def GetPhase.notified : GetPhase → GetPhase
  | .waiting => .woken false
  | phase => phase

inductive FrameQueueParty where
  | handle (call : HandleCall)
  | get
  deriving DecidableEq

/-- `calls` is history, oldest first. -/
structure FrameQueueState where
  mutex : Option FrameQueueParty
  frames : Fifo HandleCall
  handling : HandleCall → HandlePhase
  getting : GetPhase
  calls : List HandleCall

namespace FrameQueueState

def initial : FrameQueueState where
  mutex := none
  frames := .empty
  handling _ := .outside
  getting := .outside
  calls := []

def setPhase (s : FrameQueueState) (call : HandleCall) (phase : HandlePhase) : FrameQueueState :=
  { s with handling := Function.update s.handling call phase }

def nextCall (s : FrameQueueState) (frame : TFrame) : HandleCall :=
  ⟨s.calls.length, frame, s.frames.arrivals.length⟩

def handle (s : FrameQueueState) (queue : FrameQueue) (frame : TFrame) : FrameQueueState :=
  if queue.accepts frame then
    { s.setPhase (s.nextCall frame) .called with calls := s.calls ++ [s.nextCall frame] }
  else s

/-- `Handle` pushes its frame, unless the queue has its greatest length. -/
def push (s : FrameQueueState) (queue : FrameQueue) (call : HandleCall) : FrameQueueState :=
  let arrival : Arrival HandleCall := ⟨call, s.frames.waiting.length⟩
  { s.setPhase call (if arrival.HadRoom queue.maxLength then .pushed else .leaving) with
    frames := s.frames.arrive queue.maxLength call }

def check (s : FrameQueueState) : FrameQueueState :=
  if s.frames.waiting = [] then { s with getting := .waiting, mutex := none }
  else { s with getting := .taking }

/-- `Get` has the mutex back after a wait, and returns if the wait timed out. -/
def resume (s : FrameQueueState) (timeout : Bool) : FrameQueueState :=
  if timeout then { s with getting := .outside }
  else { s with getting := .taking, mutex := some .get }

/-- `front`, `pop` and the return of `Get`. -/
def take (s : FrameQueueState) : FrameQueueState :=
  match s.frames.take? with
  | none => { s with getting := .undefined }
  | some frames => { s with frames := frames, getting := .outside, mutex := none }

end FrameQueueState

inductive FrameQueueLabel where
  | handle (frame : TFrame)
  | lockHandle (call : HandleCall)
  | push (call : HandleCall)
  | notify (call : HandleCall)
  | unlock (call : HandleCall)
  | get
  | lockGet
  | check
  | spurious
  | expire
  | resume (timeout : Bool)
  | take
  deriving DecidableEq

/-- The atomic steps of `Handle`, in any number of threads, and of `Get`. `wait_for` may report a
timeout although it was notified, when the deadline passes before it has the mutex back. -/
inductive FrameQueue.Step (queue : FrameQueue) :
    FrameQueueState → FrameQueueLabel → FrameQueueState → Prop
  | handle (s : FrameQueueState) (frame : TFrame) :
      queue.Step s (.handle frame) (s.handle queue frame)
  | lockHandle (s : FrameQueueState) (call : HandleCall) (hphase : s.handling call = .called)
      (hfree : s.mutex = none) :
      queue.Step s (.lockHandle call)
        { s.setPhase call .locked with mutex := some (.handle call) }
  | push (s : FrameQueueState) (call : HandleCall) (hphase : s.handling call = .locked) :
      queue.Step s (.push call) (s.push queue call)
  | notifyLocked (s : FrameQueueState) (call : HandleCall) (hphase : s.handling call = .pushed)
      (hqueue : queue.notifiesLocked = true) :
      queue.Step s (.notify call)
        { s.setPhase call .leaving with getting := s.getting.notified }
  | unlock (s : FrameQueueState) (call : HandleCall) (hphase : s.handling call = .leaving) :
      queue.Step s (.unlock call) { s.setPhase call .outside with mutex := none }
  | unlockFirst (s : FrameQueueState) (call : HandleCall) (hphase : s.handling call = .pushed)
      (hqueue : queue.notifiesLocked = false) :
      queue.Step s (.unlock call) { s.setPhase call .unlocked with mutex := none }
  | notifyUnlocked (s : FrameQueueState) (call : HandleCall)
      (hphase : s.handling call = .unlocked) :
      queue.Step s (.notify call)
        { s.setPhase call .outside with getting := s.getting.notified }
  | get (s : FrameQueueState) (hphase : s.getting = .outside) :
      queue.Step s .get { s with getting := .called }
  | lockGet (s : FrameQueueState) (hphase : s.getting = .called) (hfree : s.mutex = none) :
      queue.Step s .lockGet { s with getting := .locked, mutex := some .get }
  | check (s : FrameQueueState) (hphase : s.getting = .locked) : queue.Step s .check s.check
  | spurious (s : FrameQueueState) (hphase : s.getting = .waiting) :
      queue.Step s .spurious { s with getting := .woken false }
  | expire (s : FrameQueueState) (hphase : s.getting = .waiting) :
      queue.Step s .expire { s with getting := .woken true }
  | resume (s : FrameQueueState) (expired timeout : Bool) (hphase : s.getting = .woken expired)
      (hfree : s.mutex = none) (hstatus : expired → timeout) :
      queue.Step s (.resume timeout) (s.resume timeout)
  | take (s : FrameQueueState) (hphase : s.getting = .taking) : queue.Step s .take s.take

/-- A wait that did not time out has the mutex back only while there is a frame in the queue. -/
def FrameQueueState.WokenForFrame (s : FrameQueueState) : FrameQueueLabel → Prop
  | .resume false => s.frames.waiting ≠ []
  | _ => True

/-- The queue was not popped while it was empty; what was taken and what still waits are the
arrivals that found room, in their order; each call of `Handle` that accepted its frame arrives
once, after all that had arrived when it was made. -/
structure FrameQueueState.Sound (queue : FrameQueue) (s : FrameQueueState) : Prop where
  defined : s.getting ≠ .undefined
  frames : s.frames.Sound queue.maxLength
  serials : s.calls.map (·.serial) = List.range s.calls.length
  accepted : ∀ call ∈ s.calls, queue.accepts call.frame
  arrived : ∀ call ∈ s.calls, (s.handling call).Arriving ∨ call ∈ s.frames.arrivals.map (·.item)
  called : ∀ arrival ∈ s.frames.arrivals, arrival.item ∈ s.calls
  once : (s.frames.arrivals.map (·.item)).Nodup
  inOrder : ∀ (i : ℕ) (arrival : Arrival HandleCall), s.frames.arrivals[i]? = some arrival →
    arrival.item.before ≤ i

/-- What a run keeps so that it stays sound. -/
structure FrameQueueState.Prepared (queue : FrameQueue) (s : FrameQueueState) : Prop
    extends s.Sound queue where
  arriving : ∀ call, (s.handling call).Arriving →
    call ∈ s.calls ∧ call ∉ s.frames.arrivals.map (·.item)
  before : ∀ call ∈ s.calls, call.before ≤ s.frames.arrivals.length
  taking : s.getting = .taking → s.frames.waiting ≠ []

@[simp] theorem GetPhase.notified_eq_taking_iff {phase : GetPhase} :
    phase.notified = .taking ↔ phase = .taking := by
  cases phase <;> simp [notified]

@[simp] theorem GetPhase.notified_eq_locked_iff {phase : GetPhase} :
    phase.notified = .locked ↔ phase = .locked := by
  cases phase <;> simp [notified]

@[simp] theorem GetPhase.notified_eq_undefined_iff {phase : GetPhase} :
    phase.notified = .undefined ↔ phase = .undefined := by
  cases phase <;> simp [notified]

namespace FrameQueueState

section Steps

variable {queue : FrameQueue} {s t : FrameQueueState} {l : FrameQueueLabel} {call c : HandleCall}
  {phase : HandlePhase}

@[simp] theorem handling_setPhase_self : (s.setPhase call phase).handling call = phase := by
  simp only [setPhase, Function.update_self]

theorem handling_setPhase_of_ne (hc : c ≠ call) :
    (s.setPhase call phase).handling c = s.handling c := by
  simp only [setPhase, Function.update_of_ne hc]

theorem arriving_setPhase (h : phase.Arriving ↔ (s.handling call).Arriving) (c : HandleCall) :
    ((s.setPhase call phase).handling c).Arriving ↔ (s.handling c).Arriving := by
  by_cases hc : c = call
  · rw [hc, handling_setPhase_self, h]
  · rw [handling_setPhase_of_ne hc]

theorem prepared_initial (queue : FrameQueue) : initial.Prepared queue where
  defined := by decide
  frames := Fifo.sound_empty
  serials := rfl
  accepted := by simp [initial]
  arrived := by simp [initial]
  called := by simp [initial, Fifo.empty]
  once := by simp [initial, Fifo.empty]
  inOrder := by simp [initial, Fifo.empty]
  arriving := by simp [initial, HandlePhase.Arriving]
  before := by simp [initial]
  taking := by simp [initial]

theorem Prepared.move (h : s.Prepared queue) (hframes : t.frames = s.frames)
    (hcalls : t.calls = s.calls)
    (hhandling : ∀ c, (t.handling c).Arriving ↔ (s.handling c).Arriving)
    (hdefined : t.getting ≠ .undefined) (htaking : t.getting = .taking → s.frames.waiting ≠ []) :
    t.Prepared queue where
  defined := hdefined
  frames := hframes ▸ h.frames
  serials := hcalls ▸ h.serials
  accepted := hcalls ▸ h.accepted
  arrived := by
    rw [hcalls, hframes]
    intro c hc
    rw [hhandling]
    exact h.arrived c hc
  called := by
    rw [hcalls, hframes]
    exact h.called
  once := hframes ▸ h.once
  inOrder := hframes ▸ h.inOrder
  arriving := by
    rw [hcalls, hframes]
    intro c hc
    exact h.arriving c ((hhandling c).mp hc)
  before := by
    rw [hcalls, hframes]
    exact h.before
  taking := hframes ▸ htaking

theorem Sound.nextCall_notMem (h : s.Sound queue) (frame : TFrame) :
    s.nextCall frame ∉ s.calls := by
  intro hmem
  have hserial : s.calls.length ∈ s.calls.map (·.serial) :=
    List.mem_map.mpr ⟨s.nextCall frame, hmem, rfl⟩
  rw [h.serials, List.mem_range] at hserial
  exact absurd hserial (lt_irrefl _)

theorem Prepared.handle (h : s.Prepared queue) (frame : TFrame) :
    (s.handle queue frame).Prepared queue := by
  unfold FrameQueueState.handle
  split_ifs with haccept
  case neg => exact h
  have hnew := h.nextCall_notMem frame
  have hkeep : ∀ c ∈ s.calls, (s.setPhase (s.nextCall frame) .called).handling c = s.handling c :=
    fun c hc => handling_setPhase_of_ne fun heq => hnew (heq ▸ hc)
  have hnotArrived : s.nextCall frame ∉ s.frames.arrivals.map (·.item) := by
    intro hmem
    obtain ⟨arrival, harrival, hitem⟩ := List.mem_map.mp hmem
    exact hnew (hitem ▸ h.called arrival harrival)
  exact
    { defined := h.defined
      frames := h.frames
      serials := by
        rw [List.map_append, h.serials, List.length_append, List.length_singleton,
          List.range_succ]
        rfl
      accepted := by
        intro c hc
        rcases List.mem_append.mp hc with hc | hc
        · exact h.accepted c hc
        · rw [List.mem_singleton.mp hc]
          exact haccept
      arrived := by
        intro c hc
        rcases List.mem_append.mp hc with hc | hc
        · rw [hkeep c hc]
          exact h.arrived c hc
        · rw [List.mem_singleton.mp hc, handling_setPhase_self]
          exact Or.inl (Or.inl rfl)
      called := fun arrival harrival => List.mem_append_left _ (h.called arrival harrival)
      once := h.once
      inOrder := h.inOrder
      arriving := by
        intro c hc
        by_cases heq : c = s.nextCall frame
        · rw [heq]
          exact ⟨List.mem_append_right _ (List.mem_singleton_self _), hnotArrived⟩
        · rw [handling_setPhase_of_ne heq] at hc
          obtain ⟨hcall, hnot⟩ := h.arriving c hc
          exact ⟨List.mem_append_left _ hcall, hnot⟩
      before := by
        intro c hc
        rcases List.mem_append.mp hc with hc | hc
        · exact h.before c hc
        · rw [List.mem_singleton.mp hc]
          exact le_rfl
      taking := h.taking }

theorem Prepared.push (h : s.Prepared queue) (hphase : s.handling call = .locked) :
    (s.push queue call).Prepared queue := by
  obtain ⟨hcall, hnot⟩ := h.arriving call (Or.inr hphase)
  have hself : ¬ ((s.push queue call).handling call).Arriving := by
    change ¬ ((s.setPhase call _).handling call).Arriving
    rw [handling_setPhase_self]
    split_ifs
    · decide
    · decide
  have hother : ∀ c ≠ call, (s.push queue call).handling c = s.handling c :=
    fun c hc => handling_setPhase_of_ne hc
  exact
    { defined := h.defined
      frames := h.frames.arrive call
      serials := h.serials
      accepted := h.accepted
      arrived := by
        intro c hc
        by_cases heq : c = call
        · exact Or.inr (Fifo.mem_arrivals_arrive.mpr (Or.inr heq))
        · rw [hother c heq]
          exact (h.arrived c hc).imp_right fun hold =>
            Fifo.mem_arrivals_arrive.mpr (Or.inl hold)
      called := by
        intro arrival harrival
        rcases List.mem_append.mp harrival with hold | hlast
        · exact h.called arrival hold
        · rw [List.mem_singleton.mp hlast]
          exact hcall
      once := Fifo.nodup_arrivals_arrive h.once hnot
      inOrder := by
        intro i arrival harrival
        rcases Fifo.getElem?_arrivals_arrive harrival with hold | ⟨hlast, hitem⟩
        · exact h.inOrder i arrival hold
        · rw [hitem]
          exact (h.before call hcall).trans hlast
      arriving := by
        intro c hc
        have heq : c ≠ call := fun heq => hself (heq ▸ hc)
        rw [hother c heq] at hc
        obtain ⟨hmade, hold⟩ := h.arriving c hc
        exact ⟨hmade, fun hnew => (Fifo.mem_arrivals_arrive.mp hnew).elim hold heq⟩
      before := fun c hc => (h.before c hc).trans (Fifo.length_arrivals_le_arrive _ _ _)
      taking := fun htaking => Fifo.waiting_arrive_ne_nil (h.taking htaking) call }

theorem Prepared.take (h : s.Prepared queue) (hphase : s.getting = .taking) :
    s.take.Prepared queue := by
  unfold FrameQueueState.take
  cases htake : s.frames.take? with
  | none => exact absurd (Fifo.take?_eq_none_iff.mp htake) (h.taking hphase)
  | some frames =>
    have harrivals := Fifo.arrivals_of_take? htake
    exact
      { defined := by simp
        frames := h.frames.take? htake
        serials := h.serials
        accepted := h.accepted
        arrived := by simpa only [harrivals] using h.arrived
        called := by simpa only [harrivals] using h.called
        once := by simpa only [harrivals] using h.once
        inOrder := by simpa only [harrivals] using h.inOrder
        arriving := by simpa only [harrivals] using h.arriving
        before := by simpa only [harrivals] using h.before
        taking := by simp }

theorem Prepared.setPhase (h : s.Prepared queue) {mutex : Option FrameQueueParty}
    (hphase : phase.Arriving ↔ (s.handling call).Arriving) :
    Prepared queue { s.setPhase call phase with mutex := mutex } :=
  h.move rfl rfl (arriving_setPhase hphase) h.defined h.taking

theorem Prepared.setGetting (h : s.Prepared queue) {getting : GetPhase}
    {mutex : Option FrameQueueParty} (hdefined : getting ≠ .undefined)
    (htaking : getting = .taking → s.frames.waiting ≠ []) :
    Prepared queue { s with getting := getting, mutex := mutex } :=
  h.move rfl rfl (fun _ => Iff.rfl) hdefined htaking

theorem Prepared.notify (h : s.Prepared queue)
    (hphase : phase.Arriving ↔ (s.handling call).Arriving) :
    Prepared queue { s.setPhase call phase with getting := s.getting.notified } :=
  h.move rfl rfl (arriving_setPhase hphase) (by simpa using h.defined) (by simpa using h.taking)

theorem Prepared.step (h : s.Prepared queue) (hwoken : s.WokenForFrame l)
    (hstep : queue.Step s l t) : t.Prepared queue := by
  cases hstep with
  | handle frame => exact h.handle frame
  | lockHandle call hphase hfree => exact h.setPhase (by simp [hphase, HandlePhase.Arriving])
  | push call hphase => exact h.push hphase
  | notifyLocked call hphase hqueue => exact h.notify (by simp [hphase, HandlePhase.Arriving])
  | unlock call hphase => exact h.setPhase (by simp [hphase, HandlePhase.Arriving])
  | unlockFirst call hphase hqueue => exact h.setPhase (by simp [hphase, HandlePhase.Arriving])
  | notifyUnlocked call hphase => exact h.notify (by simp [hphase, HandlePhase.Arriving])
  | get hphase => exact h.setGetting (by simp) (by simp)
  | lockGet hphase hfree => exact h.setGetting (by simp) (by simp)
  | check hphase =>
    unfold FrameQueueState.check
    split_ifs with hempty
    · exact h.setGetting (by simp) (by simp)
    · exact h.setGetting (by simp) fun _ => hempty
  | spurious hphase => exact h.setGetting (by simp) (by simp)
  | expire hphase => exact h.setGetting (by simp) (by simp)
  | resume expired timeout hphase hfree hstatus =>
    cases timeout with
    | true => exact h.setGetting (by simp) (by simp)
    | false => exact h.setGetting (by simp) fun _ => hwoken
  | take hphase => exact h.take hphase

theorem sound_of_leads (h : Leads queue.Step WokenForFrame initial s) : s.Sound queue :=
  (h.invariant (fun _ _ _ hs hwoken hstep => hs.step hwoken hstep)
    (prepared_initial queue)).toSound

end Steps

section Notifications

variable {queue : FrameQueue} {s t : FrameQueueState} {l : FrameQueueLabel}

/-- No wait ends spuriously while the queue is empty. -/
def SpuriousForFrame (s : FrameQueueState) : FrameQueueLabel → Prop
  | .spurious => s.frames.waiting ≠ []
  | _ => True

/-- No wait ends while the queue is empty, neither spuriously nor by a notification. -/
def NotifiedForFrame (s : FrameQueueState) : FrameQueueLabel → Prop
  | .spurious => s.frames.waiting ≠ []
  | .notify _ => s.getting = .waiting → s.frames.waiting ≠ []
  | _ => True

theorem notified_eq_woken {phase : GetPhase} (h : phase.notified = .woken false) :
    phase = .waiting ∨ phase = .woken false := by
  cases phase with
  | waiting => exact Or.inl rfl
  | woken expired => exact Or.inr h
  | _ => cases h

theorem woken_step (hwoken : s.getting = .woken false → s.frames.waiting ≠ [])
    (hnotified : s.NotifiedForFrame l) (hstep : queue.Step s l t) :
    t.getting = .woken false → t.frames.waiting ≠ [] := by
  cases hstep with
  | handle frame =>
    unfold handle
    split_ifs
    · exact hwoken
    · exact hwoken
  | push call hphase => exact fun h => Fifo.waiting_arrive_ne_nil (hwoken h) call
  | notifyLocked call hphase hqueue => exact fun h => (notified_eq_woken h).elim hnotified hwoken
  | notifyUnlocked call hphase => exact fun h => (notified_eq_woken h).elim hnotified hwoken
  | lockHandle call hphase hfree => exact hwoken
  | unlock call hphase => exact hwoken
  | unlockFirst call hphase hqueue => exact hwoken
  | spurious hphase => exact fun _ => hnotified
  | check hphase =>
    unfold check
    split_ifs <;> simp
  | resume expired timeout hphase hfree hstatus =>
    cases timeout <;> simp [resume]
  | take hphase =>
    unfold take
    cases s.frames.take? <;> simp
  | _ => simp

theorem leads_of_notifiedForFrame (h : Leads queue.Step NotifiedForFrame initial s) :
    Leads queue.Step WokenForFrame initial s := by
  refine h.confine (fun s => s.getting = .woken false → s.frames.waiting ≠ [])
    (fun _ _ _ hs hC hstep => woken_step hs hC hstep) ?_ (by simp [initial])
  intro s l t hs _ hstep
  cases hstep with
  | resume expired timeout hphase hfree hstatus =>
    cases timeout with
    | true => trivial
    | false =>
      cases expired with
      | true => exact absurd (hstatus rfl) (by decide)
      | false => exact hs hphase
  | _ => trivial

def Inside (s : FrameQueueState) : FrameQueueParty → Prop
  | .handle call => s.handling call = .locked ∨ s.handling call = .pushed ∨
      s.handling call = .leaving
  | .get => s.getting = .locked ∨ s.getting = .taking

/-- What the mutex protects while notifications are sent under it. -/
structure Exclusive (s : FrameQueueState) : Prop where
  guarded : Guarded s.mutex s.Inside
  pushed : ∀ call, s.handling call = .pushed → s.frames.waiting ≠ []
  notified : ∀ call, s.handling call ≠ .unlocked

theorem exclusive_initial : initial.Exclusive where
  guarded := by
    intro party hparty
    cases party with
    | handle call => simp [Inside, initial] at hparty
    | get => simp [Inside, initial] at hparty
  pushed := by simp [initial]
  notified := by simp [initial]

theorem inside_setPhase {call : HandleCall} {phase : HandlePhase} {party : FrameQueueParty}
    (h : (s.setPhase call phase).Inside party) :
    party = .handle call ∧ (phase = .locked ∨ phase = .pushed ∨ phase = .leaving) ∨
      party ≠ .handle call ∧ s.Inside party := by
  cases party with
  | get => exact Or.inr ⟨by simp, h⟩
  | handle c =>
    by_cases hc : c = call
    · subst hc
      rw [Inside, handling_setPhase_self] at h
      exact Or.inl ⟨rfl, h⟩
    · rw [Inside, handling_setPhase_of_ne hc] at h
      exact Or.inr ⟨by simpa using hc, h⟩

theorem inside_setGetting {getting : GetPhase} {mutex : Option FrameQueueParty}
    {party : FrameQueueParty} (h : { s with getting := getting, mutex := mutex }.Inside party) :
    party = .get ∧ (getting = .locked ∨ getting = .taking) ∨ party ≠ .get ∧ s.Inside party := by
  cases party with
  | handle call => exact Or.inr ⟨by simp, h⟩
  | get => exact Or.inl ⟨rfl, h⟩

theorem Exclusive.setPhase (h : s.Exclusive) {call : HandleCall} {phase : HandlePhase}
    {mutex : Option FrameQueueParty} (hguarded : Guarded mutex (s.setPhase call phase).Inside)
    (hpushed : phase = .pushed → s.frames.waiting ≠ []) (hphase : phase ≠ .unlocked) :
    Exclusive { s.setPhase call phase with mutex := mutex } where
  guarded := hguarded
  pushed c hc := by
    by_cases heq : c = call
    · subst heq
      exact hpushed (handling_setPhase_self.symm.trans hc)
    · exact h.pushed c ((handling_setPhase_of_ne heq).symm.trans hc)
  notified c hc := by
    by_cases heq : c = call
    · subst heq
      exact hphase (handling_setPhase_self.symm.trans hc)
    · exact h.notified c ((handling_setPhase_of_ne heq).symm.trans hc)

theorem Exclusive.setGetting (h : s.Exclusive) {getting : GetPhase}
    {mutex : Option FrameQueueParty}
    (hguarded : Guarded mutex { s with getting := getting }.Inside) :
    Exclusive { s with getting := getting, mutex := mutex } :=
  ⟨hguarded, h.pushed, h.notified⟩

theorem Exclusive.lockGet (h : s.Exclusive) (hfree : s.mutex = none) (getting : GetPhase) :
    Exclusive { s with getting := getting, mutex := some .get } :=
  h.setGetting (Guarded.acquire (hfree ▸ h.guarded) fun _ hparty =>
    (inside_setGetting hparty).imp And.left And.right)

theorem Exclusive.leaveGet (h : s.Exclusive) {getting : GetPhase}
    (hout : ¬ (getting = .locked ∨ getting = .taking)) :
    Exclusive { s with getting := getting } :=
  h.setGetting (h.guarded.mono fun _ hparty =>
    ((inside_setGetting hparty).resolve_left fun hget => hout hget.2).2)

theorem Exclusive.unlockGet (h : s.Exclusive) (hinside : s.Inside .get) {getting : GetPhase}
    (hout : ¬ (getting = .locked ∨ getting = .taking)) :
    Exclusive { s with getting := getting, mutex := none } :=
  h.setGetting (Guarded.release h.guarded hinside fun _ hparty =>
    (inside_setGetting hparty).resolve_left fun hget => hout hget.2)

theorem Exclusive.push (h : s.Exclusive) {call : HandleCall} (hphase : s.handling call = .locked) :
    (s.push queue call).Exclusive where
  guarded := by
    apply h.guarded.mono
    intro party hparty
    rcases inside_setPhase hparty with ⟨rfl, _⟩ | ⟨_, hinside⟩
    · exact Or.inl hphase
    · exact hinside
  pushed c hc := by
    by_cases heq : c = call
    · subst heq
      have hpushed := handling_setPhase_self.symm.trans hc
      split_ifs at hpushed with hroom
      exact Fifo.waiting_arrive_ne_nil_of_hadRoom hroom
    · exact Fifo.waiting_arrive_ne_nil
        (h.pushed c ((handling_setPhase_of_ne heq).symm.trans hc)) call
  notified c hc := by
    by_cases heq : c = call
    · subst heq
      have hunlocked := handling_setPhase_self.symm.trans hc
      split_ifs at hunlocked
    · exact h.notified c ((handling_setPhase_of_ne heq).symm.trans hc)

theorem Exclusive.notify (h : s.Exclusive) {call : HandleCall}
    (hphase : s.handling call = .pushed) :
    Exclusive { s.setPhase call .leaving with getting := s.getting.notified } := by
  have hset : (s.setPhase call .leaving).Exclusive := by
    refine h.setPhase (h.guarded.mono ?_) (by simp) (by simp)
    intro party hparty
    rcases inside_setPhase hparty with ⟨rfl, _⟩ | ⟨_, hinside⟩
    · exact Or.inr (Or.inl hphase)
    · exact hinside
  refine hset.setGetting (hset.guarded.mono ?_)
  intro party hparty
  cases party with
  | handle c => exact hparty
  | get =>
    have hgetting : s.getting.notified = .locked ∨ s.getting.notified = .taking := hparty
    rw [GetPhase.notified_eq_locked_iff, GetPhase.notified_eq_taking_iff] at hgetting
    exact hgetting

theorem Exclusive.take (h : s.Exclusive) (hphase : s.getting = .taking) : s.take.Exclusive := by
  unfold FrameQueueState.take
  cases s.frames.take? with
  | none => exact h.leaveGet (by simp)
  | some frames =>
    have hunlock : Exclusive { s with getting := .outside, mutex := none } :=
      h.unlockGet (Or.inr hphase) (by simp)
    refine ⟨hunlock.guarded, ?_, hunlock.notified⟩
    intro call hcall
    have hinside : s.Inside (.handle call) := Or.inr (Or.inl hcall)
    have hget : s.Inside .get := Or.inr hphase
    cases h.guarded.eq hinside hget

theorem Exclusive.step (h : s.Exclusive) (hqueue : queue.notifiesLocked = true)
    (hstep : queue.Step s l t) : t.Exclusive := by
  cases hstep with
  | handle frame =>
    unfold handle
    split_ifs
    · have hset : (s.setPhase (s.nextCall frame) .called).Exclusive :=
        h.setPhase (h.guarded.mono fun party hparty =>
          ((inside_setPhase hparty).resolve_left (by simp)).2) (by simp) (by simp)
      exact ⟨hset.guarded, hset.pushed, hset.notified⟩
    · exact h
  | lockHandle call hphase hfree =>
    exact h.setPhase (Guarded.acquire (hfree ▸ h.guarded) fun party hparty =>
      (inside_setPhase hparty).imp And.left And.right) (by simp) (by simp)
  | push call hphase => exact h.push hphase
  | notifyLocked call hphase _ => exact h.notify hphase
  | unlock call hphase =>
    have hinside : s.Inside (.handle call) := Or.inr (Or.inr hphase)
    exact h.setPhase (Guarded.release h.guarded hinside fun party hparty =>
      (inside_setPhase hparty).resolve_left (by simp)) (by simp) (by simp)
  | unlockFirst call hphase hfirst => exact absurd (hqueue.symm.trans hfirst) (by simp)
  | notifyUnlocked call hphase => exact absurd hphase (h.notified call)
  | get hphase => exact h.leaveGet (by simp)
  | lockGet hphase hfree => exact h.lockGet hfree .locked
  | check hphase =>
    unfold check
    split_ifs
    · exact h.unlockGet (Or.inl hphase) (by simp)
    · refine h.setGetting (h.guarded.mono ?_)
      intro party hparty
      rcases inside_setGetting hparty with ⟨rfl, _⟩ | ⟨_, hinside⟩
      · exact Or.inl hphase
      · exact hinside
  | spurious hphase => exact h.leaveGet (by simp)
  | expire hphase => exact h.leaveGet (by simp)
  | resume expired timeout hphase hfree hstatus =>
    cases timeout with
    | true => exact h.leaveGet (by simp)
    | false => exact h.lockGet hfree .taking
  | take hphase => exact h.take hphase

/-- A queue that notifies under its mutex notifies only while the frame is there. -/
theorem leads_of_spuriousForFrame (hqueue : queue.notifiesLocked = true)
    (h : Leads queue.Step SpuriousForFrame initial s) :
    Leads queue.Step NotifiedForFrame initial s := by
  refine h.confine Exclusive (fun _ _ _ hs _ hstep => hs.step hqueue hstep) ?_ exclusive_initial
  intro s l t hs hspurious hstep
  cases hstep with
  | spurious _ => exact hspurious
  | notifyLocked call hphase _ => exact fun _ => hs.pushed call hphase
  | notifyUnlocked call hphase => exact absurd hphase (hs.notified call)
  | _ => trivial

/-- A thread that was woken up at an empty queue takes a frame from it, unless one comes before it
has the mutex back. -/
theorem undefined_of_woken (hwoken : s.getting = .woken false) (hempty : s.frames.waiting = [])
    (hfree : s.mutex = none) :
    ∃ t u, queue.Step s (.resume false) t ∧ queue.Step t .take u ∧ u.getting = .undefined := by
  have htake : (s.resume false).frames.take? = none := Fifo.take?_eq_none_iff.mpr hempty
  refine ⟨_, _, .resume s false false hwoken hfree id, .take _ rfl, ?_⟩
  rw [FrameQueueState.take, htake]

/-- What the condition excludes is that a thread is woken up at an empty queue. -/
theorem woken_of_not_notifiedForFrame (hstep : queue.Step s l t) (hnot : ¬ s.NotifiedForFrame l) :
    t.getting = .woken false ∧ t.frames.waiting = [] := by
  cases hstep with
  | spurious hphase => exact ⟨rfl, Decidable.not_not.mp hnot⟩
  | notifyLocked call hphase hqueue | notifyUnlocked call hphase =>
    obtain ⟨hwaiting, hempty⟩ := Classical.not_imp.mp hnot
    refine ⟨?_, Decidable.not_not.mp hempty⟩
    change s.getting.notified = .woken false
    rw [hwaiting, GetPhase.notified]
  | _ => exact absurd trivial hnot

end Notifications

end FrameQueueState

section Handlers

def waitingFrames (frames : Fifo HandleCall) : List TFrame :=
  frames.waiting.map fun arrival => arrival.item.frame

theorem handle_reader_eq_arrive (frames : Fifo HandleCall) (call : HandleCall) :
    let queue := TThreadedCanReader.frames TSmartWebToMqttGateway.acceptFrame framesQueueMaxLength
    (IFrameHandler.reader (waitingFrames frames)).handle call.frame =
      if queue.accepts call.frame then
        some (.reader (waitingFrames (frames.arrive queue.maxLength call)))
      else none := by
  simp only [TThreadedCanReader.frames, IFrameHandler.handle, waitingFrames, Fifo.arrive,
    Arrival.HadRoom, Option.mem_some_iff, forall_eq', List.length_map]
  by_cases hroom : frames.waiting.length < framesQueueMaxLength
  · simp [hroom]
  · simp [hroom]

theorem handle_controller_eq_arrive (frames : Fifo HandleCall) (call : HandleCall)
    (programId : Byte) :
    let queue := TMqttToSmartWebGateway.canFrames programId
    (IFrameHandler.controller programId (waitingFrames frames)).handle call.frame =
      if queue.accepts call.frame then
        some (.controller programId (waitingFrames (frames.arrive queue.maxLength call)))
      else none := by
  simp [TMqttToSmartWebGateway.canFrames, IFrameHandler.handle, waitingFrames, Fifo.arrive,
    Arrival.HadRoom]

end Handlers

/-- As long as no wait ends spuriously while the queue is empty, and none of the controller's by a
notification then, both queues are sound in every run: the reader's drops a frame only when it is
full, and the controller's none. A wait that does end at an empty queue is followed by `front` and
`pop` all the same, unless a frame comes first. -/
theorem frame_queues_sound (acceptFrame : TFrame → Bool) (framesQueueMaxLength : ℕ)
    (programId : Byte) :
    (∀ s, Leads (TThreadedCanReader.frames acceptFrame framesQueueMaxLength).Step
          FrameQueueState.SpuriousForFrame .initial s →
        s.Sound (TThreadedCanReader.frames acceptFrame framesQueueMaxLength) ∧
          ∀ arrival ∈ s.frames.arrivals, arrival ∉ s.frames.taken ++ s.frames.waiting →
            framesQueueMaxLength ≤ arrival.found) ∧
    (∀ s, Leads (TMqttToSmartWebGateway.canFrames programId).Step
          FrameQueueState.NotifiedForFrame .initial s →
        s.Sound (TMqttToSmartWebGateway.canFrames programId) ∧
          s.frames.taken ++ s.frames.waiting = s.frames.arrivals) ∧
    ∀ (queue : FrameQueue) (s : FrameQueueState) (l : FrameQueueLabel) (t : FrameQueueState),
      queue.Step s l t → ¬ s.NotifiedForFrame l → t.mutex = none →
        ∃ u v, queue.Step t (.resume false) u ∧ queue.Step u .take v ∧ v.getting = .undefined := by
  refine ⟨?_, ?_, ?_⟩
  · intro s h
    have hnotified := FrameQueueState.leads_of_spuriousForFrame rfl h
    have hsound :=
      FrameQueueState.sound_of_leads (FrameQueueState.leads_of_notifiedForFrame hnotified)
    refine ⟨hsound, ?_⟩
    intro arrival harrival hmissing
    obtain ⟨n, hn, hfull⟩ := hsound.frames.missing harrival hmissing
    rw [← Option.some.inj hn] at hfull
    exact hfull
  · intro s h
    have hsound := FrameQueueState.sound_of_leads (FrameQueueState.leads_of_notifiedForFrame h)
    exact ⟨hsound, Fifo.Sound.complete hsound.frames⟩
  · intro queue s l t hstep hnot hfree
    obtain ⟨hwoken, hempty⟩ := FrameQueueState.woken_of_not_notifiedForFrame hstep hnot
    exact FrameQueueState.undefined_of_woken hwoken hempty hfree

section Computed

def FrameQueue.next? (queue : FrameQueue) (s : FrameQueueState) :
    FrameQueueLabel → Option FrameQueueState
  | .handle frame => some (s.handle queue frame)
  | .lockHandle call =>
    if s.handling call = .called ∧ s.mutex = none then
      some { s.setPhase call .locked with mutex := some (.handle call) }
    else none
  | .push call => if s.handling call = .locked then some (s.push queue call) else none
  | .notify call =>
    if s.handling call = .pushed ∧ queue.notifiesLocked = true then
      some { s.setPhase call .leaving with getting := s.getting.notified }
    else if s.handling call = .unlocked then
      some { s.setPhase call .outside with getting := s.getting.notified }
    else none
  | .unlock call =>
    if s.handling call = .leaving then some { s.setPhase call .outside with mutex := none }
    else if s.handling call = .pushed ∧ queue.notifiesLocked = false then
      some { s.setPhase call .unlocked with mutex := none }
    else none
  | .get => if s.getting = .outside then some { s with getting := .called } else none
  | .lockGet =>
    if s.getting = .called ∧ s.mutex = none then
      some { s with getting := .locked, mutex := some .get }
    else none
  | .check => if s.getting = .locked then some s.check else none
  | .spurious => if s.getting = .waiting then some { s with getting := .woken false } else none
  | .expire => if s.getting = .waiting then some { s with getting := .woken true } else none
  | .resume timeout =>
    if (s.getting = .woken false ∨ s.getting = .woken true ∧ timeout = true) ∧ s.mutex = none then
      some (s.resume timeout)
    else none
  | .take => if s.getting = .taking then some s.take else none

variable {queue : FrameQueue} {s t : FrameQueueState} {l : FrameQueueLabel}

theorem FrameQueue.step_of_next? (h : queue.next? s l = some t) : queue.Step s l t := by
  cases l with
  | handle frame =>
    obtain rfl := Option.some.inj h
    exact .handle s frame
  | lockHandle call =>
    obtain ⟨⟨hphase, hfree⟩, ⟨⟩⟩ := Option.ite_none_right_eq_some.mp h
    exact .lockHandle s call hphase hfree
  | push call =>
    obtain ⟨hphase, ⟨⟩⟩ := Option.ite_none_right_eq_some.mp h
    exact .push s call hphase
  | notify call =>
    rw [next?] at h
    split_ifs at h with hlocked hunlocked
    · obtain rfl := Option.some.inj h
      exact .notifyLocked s call hlocked.1 hlocked.2
    · obtain rfl := Option.some.inj h
      exact .notifyUnlocked s call hunlocked
  | unlock call =>
    rw [next?] at h
    split_ifs at h with hleaving hpushed
    · obtain rfl := Option.some.inj h
      exact .unlock s call hleaving
    · obtain rfl := Option.some.inj h
      exact .unlockFirst s call hpushed.1 hpushed.2
  | get =>
    obtain ⟨hphase, ⟨⟩⟩ := Option.ite_none_right_eq_some.mp h
    exact .get s hphase
  | lockGet =>
    obtain ⟨⟨hphase, hfree⟩, ⟨⟩⟩ := Option.ite_none_right_eq_some.mp h
    exact .lockGet s hphase hfree
  | check =>
    obtain ⟨hphase, ⟨⟩⟩ := Option.ite_none_right_eq_some.mp h
    exact .check s hphase
  | spurious =>
    obtain ⟨hphase, ⟨⟩⟩ := Option.ite_none_right_eq_some.mp h
    exact .spurious s hphase
  | expire =>
    obtain ⟨hphase, ⟨⟩⟩ := Option.ite_none_right_eq_some.mp h
    exact .expire s hphase
  | resume timeout =>
    obtain ⟨⟨hphase, hfree⟩, ⟨⟩⟩ := Option.ite_none_right_eq_some.mp h
    rcases hphase with hwoken | ⟨hwoken, htimeout⟩
    · exact .resume s false timeout hwoken hfree (by simp)
    · exact .resume s true timeout hwoken hfree fun _ => htimeout
  | take =>
    obtain ⟨hphase, ⟨⟩⟩ := Option.ite_none_right_eq_some.mp h
    exact .take s hphase

instance (s : FrameQueueState) : DecidablePred s.WokenForFrame
  | .resume false => inferInstanceAs (Decidable (_ ≠ _))
  | .resume true => isTrue trivial
  | .handle _ | .lockHandle _ | .push _ | .notify _ | .unlock _ | .get | .lockGet | .check
  | .spurious | .expire | .take => isTrue trivial

instance (s : FrameQueueState) : DecidablePred s.NotifiedForFrame
  | .spurious => inferInstanceAs (Decidable (_ ≠ _))
  | .notify _ => inferInstanceAs (Decidable (_ → _))
  | .handle _ | .lockHandle _ | .push _ | .unlock _ | .get | .lockGet | .check | .expire
  | .resume _ | .take => isTrue trivial

/-- The state after some labels, if each of them can be taken and meets the condition. -/
def FrameQueue.follow (queue : FrameQueue) (C : FrameQueueState → FrameQueueLabel → Prop)
    [∀ s, DecidablePred (C s)] (labels : List FrameQueueLabel) : Option FrameQueueState :=
  labels.foldlM (fun s l => if C s l then queue.next? s l else none) .initial

theorem FrameQueue.leads_of_follow {C : FrameQueueState → FrameQueueLabel → Prop}
    [∀ s, DecidablePred (C s)] {labels : List FrameQueueLabel}
    (h : queue.follow C labels = some s) : Leads queue.Step C .initial s := by
  refine Leads.of_foldlM ?_ h
  intro s l t hnext
  obtain ⟨hC, hnext⟩ := Option.ite_none_right_eq_some.mp hnext
  exact ⟨hC, step_of_next? hnext⟩

end Computed

/-! Controller 7 is asked for an output. -/

def controllerQueue : FrameQueue := TMqttToSmartWebGateway.canFrames 7

def askedCall : HandleCall := ⟨0, TFrame.outputRequest 7 ⟨7, 0, 0⟩, 0⟩

/-- The thread waits, the request is pushed, and the thread is notified and takes it. -/
theorem frame_queues_sound_asked :
    ∃ s : FrameQueueState, Leads controllerQueue.Step FrameQueueState.NotifiedForFrame .initial s ∧
      s.frames.taken = [⟨askedCall, 0⟩] ∧ s.Sound controllerQueue ∧
      s.frames.taken ++ s.frames.waiting = s.frames.arrivals := by
  have hrun : (controllerQueue.follow FrameQueueState.NotifiedForFrame [.get, .lockGet, .check,
      .handle askedCall.frame, .lockHandle askedCall, .push askedCall, .unlock askedCall,
      .notify askedCall, .resume false, .take]).map (·.frames.taken) =
        some [⟨askedCall, 0⟩] := by
    decide +kernel
  obtain ⟨s, hs, htaken⟩ := Option.map_eq_some_iff.mp hrun
  have hleads := FrameQueue.leads_of_follow hs
  obtain ⟨_, hcontroller, _⟩ :=
    frame_queues_sound TSmartWebToMqttGateway.acceptFrame framesQueueMaxLength 7
  exact ⟨s, hleads, htaken, hcontroller s hleads⟩

/-- The reader's wait ends spuriously. The controller takes the request before its notification
comes, and waits again; no wait ends spuriously there. -/
theorem frame_queues_pop_empty :
    (∃ s : FrameQueueState, Leads (TThreadedCanReader.frames TSmartWebToMqttGateway.acceptFrame
        framesQueueMaxLength).Step Anyhow .initial s ∧ s.getting = .undefined) ∧
      ∃ s : FrameQueueState, Leads controllerQueue.Step (fun _ l => l ≠ .spurious) .initial s ∧
        s.getting = .undefined := by
  constructor
  · have hrun : ((TThreadedCanReader.frames TSmartWebToMqttGateway.acceptFrame
        framesQueueMaxLength).follow (fun _ _ => True) [.get, .lockGet, .check, .spurious,
        .resume false, .take]).map (·.getting) = some .undefined := by
      decide +kernel
    obtain ⟨s, hs, hundefined⟩ := Option.map_eq_some_iff.mp hrun
    exact ⟨s, (FrameQueue.leads_of_follow hs).anyhow, hundefined⟩
  · have hrun : (controllerQueue.follow (fun _ l => l ≠ .spurious) [.handle askedCall.frame,
        .lockHandle askedCall, .push askedCall, .unlock askedCall, .get, .lockGet, .check, .take,
        .get, .lockGet, .check, .notify askedCall, .resume false, .take]).map (·.getting) =
          some .undefined := by
      decide +kernel
    obtain ⟨s, hs, hundefined⟩ := Option.map_eq_some_iff.mp hrun
    exact ⟨s, FrameQueue.leads_of_follow hs, hundefined⟩

end SmartWebGateway
