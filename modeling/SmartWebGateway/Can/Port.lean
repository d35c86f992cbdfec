import SmartWebGateway.Can.Conventions
import SmartWebGateway.Foundation.Journal
import SmartWebGateway.Foundation.Machine
import Mathlib.Tactic

/-!
# The CAN port

`Send` writes a frame and waits until the reader thread has seen the kernel's
echo of it. Senders are serialised by `WriteMutex`, so one call is in progress
at a time; the critical sections of `WriteConfirmMutex` are single steps. The
echo of a written frame may come at any time or never.
-/
namespace SmartWebGateway

open Foundation

/-- One call of `Send`. Calls have numbers, since equal frames may be sent again. -/
structure SendCall where
  serial : ℕ
  frame : TFrame
  deriving DecidableEq

/-- What happened at the port, recorded newest first. -/
inductive PortEvent where
  | wrote (call : SendCall)
  | writeFailed (call : SendCall)
  | received (echo : SendCall)
  | handled (frame : TFrame)
  | returned (call : SendCall)
  | timedOut (call : SendCall)
  deriving DecidableEq

/-- How far the holder of `WriteMutex` is in `Send`. -/
inductive SendPhase where
  | idle
  | locked (call : SendCall)
  | cleared (call : SendCall)
  | written (call : SendCall)
  | waiting (call : SendCall)
  | unblocked (call : SendCall) (expired : Bool)
  deriving DecidableEq

/-- The call whose outcome `WriteConfirmed` still decides. -/
def SendPhase.current? : SendPhase → Option SendCall
  | .idle | .locked _ | .unblocked _ _ => none
  | .cleared call | .written call | .waiting call => some call

/-- `WriteConfirmCv.notify_all()` reaches only a sender that waits already. -/
def SendPhase.notified : SendPhase → SendPhase
  | .waiting call => .unblocked call false
  | phase => phase

/-- `reading` is an echo that `recvmsg` has returned and `SetWriteConfirmed` has not yet confirmed;
`echoes` are still with the kernel. -/
structure TCanPort where
  writeConfirmed : Bool
  sending : SendPhase
  reading : Option SendCall
  echoes : List SendCall
  calls : ℕ
  log : List PortEvent

def TCanPort.initial : TCanPort where
  writeConfirmed := false
  sending := .idle
  reading := none
  echoes := []
  calls := 0
  log := []

inductive PortLabel where
  | lockWrite (frame : TFrame)
  | clear
  | write
  | writeError
  | check
  | spurious
  | expire
  | wake (timeout : Bool)
  | receive (echo : SendCall)
  | handle (frame : TFrame)
  | setWriteConfirmed

/-- The atomic steps of `Send`, of `ThreadFn` and of the kernel. `wait_for` may report a timeout
although it was notified, when the deadline passes before it has the mutex back. -/
inductive PortStep : TCanPort → PortLabel → TCanPort → Prop where
  | lockWrite (s : TCanPort) (frame : TFrame) (hidle : s.sending = .idle) :
      PortStep s (.lockWrite frame)
        { s with sending := .locked ⟨s.calls, frame⟩, calls := s.calls + 1 }
  | clear (s : TCanPort) (call : SendCall) (hlocked : s.sending = .locked call) :
      PortStep s .clear { s with writeConfirmed := false, sending := .cleared call }
  | write (s : TCanPort) (call : SendCall) (hcleared : s.sending = .cleared call) :
      PortStep s .write
        { s with
          sending := .written call
          echoes := s.echoes ++ [call]
          log := .wrote call :: s.log }
  | writeError (s : TCanPort) (call : SendCall) (hcleared : s.sending = .cleared call) :
      PortStep s .writeError { s with sending := .idle, log := .writeFailed call :: s.log }
  | check (s : TCanPort) (call : SendCall) (hwritten : s.sending = .written call) :
      PortStep s .check
        (if s.writeConfirmed then { s with sending := .idle, log := .returned call :: s.log }
        else { s with sending := .waiting call })
  | spurious (s : TCanPort) (call : SendCall) (hwaiting : s.sending = .waiting call) :
      PortStep s .spurious { s with sending := .unblocked call false }
  | expire (s : TCanPort) (call : SendCall) (hwaiting : s.sending = .waiting call) :
      PortStep s .expire { s with sending := .unblocked call true }
  | wake (s : TCanPort) (call : SendCall) (expired timeout : Bool)
      (hunblocked : s.sending = .unblocked call expired) (hstatus : expired → timeout) :
      PortStep s (.wake timeout)
        { s with
          sending := .idle
          log := (if timeout then .timedOut call else .returned call) :: s.log }
  | receive (s : TCanPort) (echo : SendCall) (hfree : s.reading = none)
      (hecho : echo ∈ s.echoes) :
      PortStep s (.receive echo)
        { s with
          reading := some echo
          echoes := s.echoes.erase echo
          log := .received echo :: s.log }
  | handle (s : TCanPort) (frame : TFrame) (hfree : s.reading = none) :
      PortStep s (.handle frame) { s with log := .handled frame :: s.log }
  | setWriteConfirmed (s : TCanPort) (echo : SendCall) (hreading : s.reading = some echo) :
      PortStep s .setWriteConfirmed
        { s with writeConfirmed := true, sending := s.sending.notified, reading := none }

/-- The echo of this very call was received after its frame had been written. -/
def Echoed (call : SendCall) (log : List PortEvent) : Prop :=
  ∃ later earlier, log = later ++ earlier ∧ .received call ∈ later ∧ .wrote call ∈ earlier

def PortEvent.Honest : PortEvent → List PortEvent → Prop
  | .returned call, before => Echoed call before
  | .timedOut call, before => ¬ Echoed call before
  | _, _ => True

/-- No other call's echo sets the flag of a call in progress; no wait ends spuriously before the
echo of its own call is at the port, and no deadline passes between that echo and
`SetWriteConfirmed`; after its deadline the echo does not come while the sender has not the mutex
back; and `wait_for` reports a timeout only to a sender that nobody woke before its deadline. -/
def TCanPort.Undisturbed (s : TCanPort) : PortLabel → Prop
  | .setWriteConfirmed => s.writeConfirmed = true ∨
      ∀ call, s.sending.current? = some call → s.reading = some call
  | .spurious => s.reading = s.sending.current?
  | .expire => s.reading ≠ s.sending.current?
  | .receive echo => s.sending ≠ .unblocked echo true
  | .wake timeout => timeout → ∃ call, s.sending = .unblocked call true
  | _ => True

section Echoes

variable {call : SendCall} {e : PortEvent} {log : List PortEvent}

theorem Echoed.cons (h : Echoed call log) : Echoed call (e :: log) := by
  obtain ⟨later, earlier, rfl, hreceived, hwrote⟩ := h
  exact ⟨e :: later, earlier, rfl, List.mem_cons_of_mem e hreceived, hwrote⟩

theorem Echoed.of_wrote (h : .wrote call ∈ log) : Echoed call (.received call :: log) :=
  ⟨[.received call], log, rfl, List.mem_singleton_self _, h⟩

theorem Echoed.wrote (h : Echoed call log) : .wrote call ∈ log := by
  obtain ⟨later, earlier, rfl, _, hwrote⟩ := h
  exact List.mem_append_right later hwrote

theorem Echoed.received (h : Echoed call log) : .received call ∈ log := by
  obtain ⟨later, earlier, rfl, hreceived, _⟩ := h
  exact List.mem_append_left earlier hreceived

end Echoes

def TCanPort.Unwritten (s : TCanPort) (call : SendCall) : Prop :=
  call.serial < s.calls ∧ .wrote call ∉ s.log

/-- A call whose frame is on the bus: the flag tells whether the echo was received. -/
structure TCanPort.OnBus (s : TCanPort) (call : SendCall) : Prop where
  wrote : .wrote call ∈ s.log
  received : s.writeConfirmed = true ∨ s.reading = some call ↔ .received call ∈ s.log

/-- What a phase of `Send` knows of the port. -/
def SendPhase.Knows (s : TCanPort) : SendPhase → Prop
  | .idle => True
  | .locked call => s.Unwritten call
  | .cleared call => s.Unwritten call ∧ s.writeConfirmed = false
  | .written call => s.OnBus call
  | .waiting call => s.OnBus call ∧ s.writeConfirmed = false
  | .unblocked call false => .received call ∈ s.log
  | .unblocked call true => .received call ∉ s.log

theorem SendPhase.Knows.imp {s t : TCanPort} {phase : SendPhase} (h : phase.Knows s)
    (hunwritten : ∀ call, s.Unwritten call → t.Unwritten call)
    (hflag : s.writeConfirmed = false → t.writeConfirmed = false)
    (honBus : ∀ call, s.OnBus call → t.OnBus call)
    (hreceived : ∀ call, .received call ∈ s.log → .received call ∈ t.log)
    (hnot : ∀ call, phase = .unblocked call true → .received call ∉ s.log →
      .received call ∉ t.log) :
    phase.Knows t := by
  cases phase with
  | idle => trivial
  | locked call => exact hunwritten call h
  | cleared call => exact ⟨hunwritten call h.1, hflag h.2⟩
  | written call => exact honBus call h
  | waiting call => exact ⟨honBus call h.1, hflag h.2⟩
  | unblocked call expired =>
    cases expired with
    | false => exact hreceived call h
    | true => exact hnot call rfl h

structure TCanPort.Sound (s : TCanPort) : Prop where
  honest : AtEach PortEvent.Honest s.log
  received : ∀ call, .received call ∈ s.log → Echoed call s.log
  wrote : ∀ call, .wrote call ∈ s.log → call.serial < s.calls
  echoes : ∀ call ∈ s.echoes, .wrote call ∈ s.log
  reading : ∀ call, s.reading = some call → .received call ∈ s.log
  knows : s.sending.Knows s

namespace TCanPort

theorem sound_initial : initial.Sound where
  honest := by simp [initial]
  received := by simp [initial]
  wrote := by simp [initial]
  echoes := by simp [initial]
  reading := by simp [initial]
  knows := trivial

section Steps

variable {s t : TCanPort} {l : PortLabel} {call : SendCall} {e : PortEvent}

theorem Sound.record (h : s.Sound) (he : e.Honest s.log) (hwrote : ∀ call, .wrote call ≠ e)
    (hreceived : ∀ call, .received call ≠ e) : Sound { s with log := e :: s.log } where
  honest := atEach_cons.mpr ⟨he, h.honest⟩
  received call hmem :=
    (h.received call (List.mem_of_ne_of_mem (hreceived call) hmem)).cons
  wrote call hmem := h.wrote call (List.mem_of_ne_of_mem (hwrote call) hmem)
  echoes call hmem := List.mem_cons_of_mem e (h.echoes call hmem)
  reading call hread := List.mem_cons_of_mem e (h.reading call hread)
  knows := by
    apply h.knows.imp
    · intro call hcall
      exact ⟨hcall.1, fun hmem => hcall.2 (List.mem_of_ne_of_mem (hwrote call) hmem)⟩
    · exact id
    · intro call hcall
      refine ⟨List.mem_cons_of_mem e hcall.wrote, hcall.received.trans ?_⟩
      exact ⟨List.mem_cons_of_mem e, List.mem_of_ne_of_mem (hreceived call)⟩
    · exact fun call => List.mem_cons_of_mem e
    · exact fun call _ hnot hmem => hnot (List.mem_of_ne_of_mem (hreceived call) hmem)

theorem Sound.finish (h : s.Sound) (he : e.Honest s.log) (hwrote : ∀ call, .wrote call ≠ e)
    (hreceived : ∀ call, .received call ≠ e) :
    Sound { s with sending := .idle, log := e :: s.log } :=
  { h.record he hwrote hreceived with knows := trivial }

theorem Sound.moveTo (h : s.Sound) {phase : SendPhase} (hknows : phase.Knows s) :
    Sound { s with sending := phase } :=
  { h with
    knows := hknows.imp (fun _ hcall => hcall) id (fun _ hcall => ⟨hcall.1, hcall.2⟩)
      (fun _ => id) fun _ _ => id }

theorem Sound.received_iff (h : s.Sound) (call : SendCall) :
    .received call ∈ s.log ↔ Echoed call s.log :=
  ⟨h.received call, Echoed.received⟩

theorem Sound.write (h : s.Sound) (hcleared : s.sending = .cleared call) :
    Sound
      { s with
        sending := .written call
        echoes := s.echoes ++ [call]
        log := .wrote call :: s.log } := by
  have hknows := h.knows
  rw [hcleared] at hknows
  obtain ⟨⟨hserial, hunwritten⟩, hflag⟩ := hknows
  have hunreceived : .received call ∉ s.log := fun hmem =>
    hunwritten (h.received call hmem).wrote
  have hunread : s.reading ≠ some call := fun hread => hunreceived (h.reading call hread)
  constructor
  · exact atEach_cons.mpr ⟨trivial, h.honest⟩
  · intro c hmem
    exact (h.received c (by simpa using hmem)).cons
  · intro c hmem
    rcases List.mem_cons.mp hmem with heq | hmem
    · cases heq
      exact hserial
    · exact h.wrote c hmem
  · intro c hmem
    rcases List.mem_append.mp hmem with hmem | hmem
    · exact List.mem_cons_of_mem _ (h.echoes c hmem)
    · rw [List.mem_singleton.mp hmem]
      exact List.mem_cons_self
  · intro c hread
    exact List.mem_cons_of_mem _ (h.reading c hread)
  · exact ⟨List.mem_cons_self, by simp [hflag, hunread, hunreceived]⟩

theorem Sound.receive (h : s.Sound) (hfree : s.reading = none) (hecho : call ∈ s.echoes)
    (hintime : s.sending ≠ .unblocked call true) :
    Sound
      { s with
        reading := some call
        echoes := s.echoes.erase call
        log := .received call :: s.log } := by
  have hwrote := h.echoes call hecho
  constructor
  · exact atEach_cons.mpr ⟨trivial, h.honest⟩
  · intro c hmem
    rcases List.mem_cons.mp hmem with heq | hmem
    · cases heq
      exact Echoed.of_wrote hwrote
    · exact (h.received c hmem).cons
  · intro c hmem
    exact h.wrote c (by simpa using hmem)
  · intro c hmem
    exact List.mem_cons_of_mem _ (h.echoes c (List.mem_of_mem_erase hmem))
  · intro c hread
    cases hread
    exact List.mem_cons_self
  · apply h.knows.imp
    · intro c hcall
      exact ⟨hcall.1, fun hmem => hcall.2 (by simpa using hmem)⟩
    · exact id
    · intro c hcall
      have hreceived := hcall.received
      simp only [hfree, reduceCtorEq, or_false] at hreceived
      constructor
      · exact List.mem_cons_of_mem _ hcall.wrote
      · simp only [hreceived, Option.some.injEq, List.mem_cons, PortEvent.received.injEq]
        rw [or_comm, eq_comm]
    · exact fun c => List.mem_cons_of_mem _
    · rintro c hphase hnot hmem
      rcases List.mem_cons.mp hmem with heq | hmem
      · cases heq
        exact hintime hphase
      · exact hnot hmem

/-- The flag is set for a call whose own echo is at the port, unless it was set before. -/
theorem Sound.setWriteConfirmed (h : s.Sound)
    (hown : s.writeConfirmed = true ∨ ∀ call, s.sending.current? = some call →
      s.reading = some call) :
    Sound { s with writeConfirmed := true, sending := s.sending.notified, reading := none } := by
  have honBus : ∀ c, s.sending.current? = some c → s.OnBus c → OnBus
      { s with writeConfirmed := true, sending := s.sending.notified, reading := none } c := by
    intro c hcurrent hcall
    have hreceived : .received c ∈ s.log := by
      rw [← hcall.received]
      exact hown.imp_right fun hread => hread c hcurrent
    exact ⟨hcall.wrote, by simp [hreceived]⟩
  have hknows := h.knows
  refine { h with reading := by simp, knows := ?_ }
  cases hsending : s.sending with
  | idle => trivial
  | locked c =>
    rw [hsending] at hknows
    exact hknows
  | cleared c =>
    rw [hsending] at hknows
    rcases hown with hflag | hread
    · rw [hknows.2] at hflag
      cases hflag
    · have hown := hread c (by rw [hsending, SendPhase.current?])
      exact absurd (h.received c (h.reading c hown)).wrote hknows.1.2
  | written c =>
    rw [hsending] at hknows
    have hcall := honBus c (by rw [hsending, SendPhase.current?]) hknows
    exact ⟨hcall.wrote, hcall.received⟩
  | waiting c =>
    -- the sender waits with the flag clear, so the echo that wakes it up is its own
    rw [hsending] at hknows
    have hcall := honBus c (by rw [hsending, SendPhase.current?]) hknows.1
    exact hcall.received.mp (Or.inl rfl)
  | unblocked c expired =>
    rw [hsending] at hknows
    cases expired with
    | false => exact hknows
    | true => exact hknows

/-- An undisturbed step keeps the port sound. -/
theorem Sound.step (h : s.Sound) (hC : s.Undisturbed l) (hstep : PortStep s l t) : t.Sound := by
  have hknows := h.knows
  cases hstep with
  | lockWrite frame hidle =>
    refine { h with wrote := fun call hmem => Nat.lt_succ_of_lt (h.wrote call hmem), knows := ?_ }
    exact ⟨Nat.lt_succ_self _, fun hmem => lt_irrefl _ (h.wrote _ hmem)⟩
  | clear call hlocked =>
    rw [hlocked] at hknows
    exact { h with knows := ⟨hknows, rfl⟩ }
  | write call hcleared => exact h.write hcleared
  | writeError call hcleared => exact h.finish trivial (by simp) (by simp)
  | check call hwritten =>
    rw [hwritten] at hknows
    split_ifs with hflag
    · have hechoed := (h.received_iff call).mp (hknows.received.mp (Or.inl hflag))
      exact h.finish hechoed (by simp) (by simp)
    · exact h.moveTo ⟨hknows, Bool.eq_false_iff.mpr hflag⟩
  | spurious call hwaiting =>
    rw [hwaiting] at hknows
    simp only [Undisturbed, hwaiting, SendPhase.current?] at hC
    exact h.moveTo (hknows.1.received.mp (Or.inr hC))
  | expire call hwaiting =>
    rw [hwaiting] at hknows
    simp only [Undisturbed, hwaiting, SendPhase.current?] at hC
    have hnot : ¬ (s.writeConfirmed = true ∨ s.reading = some call) := by simp [hknows.2, hC]
    exact h.moveTo (mt hknows.1.received.mpr hnot)
  | wake call expired timeout hunblocked hstatus =>
    rw [hunblocked] at hknows
    cases timeout with
    | false =>
      have hwoken : expired = false := by simpa using hstatus
      rw [hwoken] at hknows
      exact h.finish ((h.received_iff call).mp hknows) (by simp) (by simp)
    | true =>
      obtain ⟨other, hexpired⟩ := hC rfl
      obtain ⟨rfl, rfl⟩ : call = other ∧ expired = true := by simpa [hunblocked] using hexpired
      exact h.finish (mt (h.received_iff call).mpr hknows) (by simp) (by simp)
  | receive echo hfree hecho => exact h.receive hfree hecho hC
  | handle frame hfree => exact h.record trivial (by simp) (by simp)
  | setWriteConfirmed echo hreading => exact h.setWriteConfirmed hC

end Steps

end TCanPort

/-- In a run without disturbance every `Send` that returns has seen the echo of its own frame, and
every `Send` that reports a timeout has not. -/
theorem send_confirms_own_frame {s : TCanPort}
    (h : Leads PortStep TCanPort.Undisturbed .initial s) : AtEach PortEvent.Honest s.log :=
  (h.invariant (fun _ _ _ hs hC hstep => hs.step hC hstep) TCanPort.sound_initial).honest

def firstCall : SendCall := ⟨0, .zero⟩

def secondCall : SendCall := ⟨1, .zero⟩

def firstWaiting : TCanPort :=
  { TCanPort.initial with
    sending := .waiting firstCall
    echoes := [firstCall]
    calls := 1
    log := [.wrote firstCall] }

theorem firstWaiting_reached : Leads PortStep TCanPort.Undisturbed .initial firstWaiting := by
  have hlocked := Leads.refl.tail (C := TCanPort.Undisturbed)
    (PortStep.lockWrite .initial .zero rfl) trivial
  have hcleared := hlocked.tail (.clear _ firstCall rfl) trivial
  have hwritten := hcleared.tail (.write _ firstCall rfl) trivial
  exact hwritten.tail (.check _ firstCall rfl) trivial

/-- The echo comes while the sender waits. -/
theorem send_confirms_own_frame_first : Echoed firstCall [.received firstCall, .wrote firstCall] ∧
    ∃ s, Leads PortStep TCanPort.Undisturbed .initial s ∧
      s.log = [.returned firstCall, .received firstCall, .wrote firstCall] ∧
      AtEach PortEvent.Honest s.log := by
  have hread := firstWaiting_reached.tail
    (.receive _ firstCall rfl (List.mem_singleton_self _))
    (by simp [TCanPort.Undisturbed, firstWaiting])
  have hset := hread.tail (.setWriteConfirmed _ firstCall rfl) (Or.inr fun _ h => h)
  have hend := hset.tail (.wake _ firstCall false false rfl id) (by simp [TCanPort.Undisturbed])
  exact ⟨Echoed.of_wrote (List.mem_singleton_self _), _, hend, rfl, send_confirms_own_frame hend⟩

/-- The first frame's echo comes when its sender has given up and the second sender has cleared the
flag: the second call returns although its frame was never echoed. -/
theorem late_echo_confirms_next_frame : ∃ s, Leads PortStep Anyhow .initial s ∧
    s.log = [.returned secondCall, .wrote secondCall, .received firstCall, .timedOut firstCall,
      .wrote firstCall] := by
  have hexpired := firstWaiting_reached.anyhow.step (.expire _ firstCall rfl)
  have hgivenUp := hexpired.step (.wake _ firstCall true true rfl id)
  have hlocked := hgivenUp.step (.lockWrite _ .zero rfl)
  have hcleared := hlocked.step (.clear _ secondCall rfl)
  have hread := hcleared.step (.receive _ firstCall rfl (List.mem_singleton_self _))
  have hset := hread.step (.setWriteConfirmed _ firstCall rfl)
  have hwritten := hset.step (.write _ secondCall rfl)
  exact ⟨_, hwritten.step (.check _ secondCall rfl), rfl⟩

/-- The echo comes at the moment of the timeout: the call throws although its frame was echoed. -/
theorem echo_at_timeout : ∃ s, Leads PortStep Anyhow .initial s ∧
    s.log = [.timedOut firstCall, .received firstCall, .wrote firstCall] := by
  have hexpired := firstWaiting_reached.anyhow.step (.expire _ firstCall rfl)
  have hread := hexpired.step (.receive _ firstCall rfl (List.mem_singleton_self _))
  have hset := hread.step (.setWriteConfirmed _ firstCall rfl)
  exact ⟨_, hset.step (.wake _ firstCall true true rfl id), rfl⟩

/-- Either outcome can be wrong. -/
theorem send_outcome_wrong :
    (∃ s, Leads PortStep Anyhow .initial s ∧ ∃ call before, s.log = .returned call :: before ∧
      ¬ Echoed call before) ∧
    (∃ s, Leads PortStep Anyhow .initial s ∧ ∃ call before, s.log = .timedOut call :: before ∧
      Echoed call before) ∧
    ¬ ∀ s, Leads PortStep Anyhow .initial s → AtEach PortEvent.Honest s.log := by
  obtain ⟨s, hs, hlog⟩ := late_echo_confirms_next_frame
  obtain ⟨t, ht, htlog⟩ := echo_at_timeout
  have hunechoed : ¬ Echoed secondCall [.wrote secondCall, .received firstCall,
      .timedOut firstCall, .wrote firstCall] := fun h => absurd h.received (by decide)
  refine ⟨⟨s, hs, _, _, hlog, hunechoed⟩, ⟨t, ht, _, _, htlog, ?_⟩, ?_⟩
  · exact Echoed.of_wrote (List.mem_singleton_self _)
  · intro hall
    have hhonest := hall s hs
    rw [hlog] at hhonest
    exact hunechoed (atEach_cons.mp hhonest).1

end SmartWebGateway
