import SmartWebGateway.Foundation.Machine
import Mathlib.Tactic

/-!
# Threads, mutexes and condition variables

Code is reduced to what it may wait for: a mutex that is locked for a block, a
notification, with the mutex given back meanwhile, and the end of another thread.
-/
namespace Foundation

/-- What code does with mutexes and threads. Each mutex has a condition variable, for which code
waits with a timeout or without one. To stop a thread is to tell it, to do something more, and to
join it. Only the data decide between two ways and how often a loop goes round. -/
inductive LockCode (M T : Type*) where
  | skip
  | locked (mutex : M) (body : LockCode M T)
  | wait (mutex : M) (timed : Bool)
  | notify (mutex : M)
  | start (thread : T)
  | stop (thread : T) (told : LockCode M T)
  | seq (first second : LockCode M T)
  | choice (first second : LockCode M T)
  | loop (body : LockCode M T)

/-- A thread goes round as long as it is enabled. -/
structure LoopingThread (M T : Type*) where
  before : LockCode M T
  round : LockCode M T
  after : LockCode M T

/-- What a thread has still to do. -/
inductive LockFrame (M T : Type*) where
  | run (code : LockCode M T)
  | unlock (mutex : M)
  | asleep (mutex : M) (timed : Bool)
  | relock (mutex : M)
  | join (thread : T)
  | rounds

structure LockState (M T : Type*) where
  holder : M → Option T
  enabled : T → Bool
  stack : T → List (LockFrame M T)

section Semantics

variable {M T : Type*}

/-- A thread that waits for the condition variable needs its mutex again. -/
def woken [DecidableEq M] (m : M) : List (LockFrame M T) → List (LockFrame M T)
  | .asleep m' timed :: rest => (if m' = m then .relock m' else .asleep m' timed) :: rest
  | frames => frames

namespace LockState

def goOn [DecidableEq T] (s : LockState M T) (t : T) (frames : List (LockFrame M T)) :
    LockState M T :=
  { s with stack := Function.update s.stack t frames }

def hold [DecidableEq M] (s : LockState M T) (m : M) (holder : Option T) : LockState M T :=
  { s with holder := Function.update s.holder m holder }

def disable [DecidableEq T] (s : LockState M T) (t : T) : LockState M T :=
  { s with enabled := Function.update s.enabled t false }

def notify [DecidableEq M] (s : LockState M T) (m : M) : LockState M T :=
  { s with stack := fun t => woken m (s.stack t) }

end LockState

def LoopingThread.frames (code : LoopingThread M T) : List (LockFrame M T) :=
  [.run code.before, .rounds, .run code.after]

def LockState.begin [DecidableEq T] (s : LockState M T) (t : T) (code : LoopingThread M T) :
    LockState M T :=
  if (s.stack t).isEmpty then s.goOn t code.frames else s

/-- The atomic steps of the threads. A wait with a timeout expires at some time. -/
inductive LockStep [DecidableEq M] [DecidableEq T] (code : T → LoopingThread M T) :
    LockState M T → T → LockState M T → Prop
  | skip {s t rest} (hstack : s.stack t = .run .skip :: rest) : LockStep code s t (s.goOn t rest)
  | lock {s t m body rest} (hstack : s.stack t = .run (.locked m body) :: rest)
      (hfree : s.holder m = none) :
      LockStep code s t ((s.goOn t (.run body :: .unlock m :: rest)).hold m (some t))
  | unlock {s t m rest} (hstack : s.stack t = .unlock m :: rest) :
      LockStep code s t ((s.goOn t rest).hold m none)
  | wait {s t m timed rest} (hstack : s.stack t = .run (.wait m timed) :: rest) :
      LockStep code s t ((s.goOn t (.asleep m timed :: rest)).hold m none)
  | expire {s t m rest} (hstack : s.stack t = .asleep m true :: rest) :
      LockStep code s t (s.goOn t (.relock m :: rest))
  | notify {s t m rest} (hstack : s.stack t = .run (.notify m) :: rest) :
      LockStep code s t ((s.goOn t rest).notify m)
  | relock {s t m rest} (hstack : s.stack t = .relock m :: rest) (hfree : s.holder m = none) :
      LockStep code s t ((s.goOn t rest).hold m (some t))
  | start {s t t' rest} (hstack : s.stack t = .run (.start t') :: rest) :
      LockStep code s t ((s.goOn t rest).begin t' (code t'))
  | stop {s t t' told rest} (hstack : s.stack t = .run (.stop t' told) :: rest) :
      LockStep code s t ((s.goOn t (.run told :: .join t' :: rest)).disable t')
  | join {s t t' rest} (hstack : s.stack t = .join t' :: rest) (hended : s.stack t' = []) :
      LockStep code s t (s.goOn t rest)
  | seq {s t first second rest} (hstack : s.stack t = .run (.seq first second) :: rest) :
      LockStep code s t (s.goOn t (.run first :: .run second :: rest))
  | first {s t first second rest} (hstack : s.stack t = .run (.choice first second) :: rest) :
      LockStep code s t (s.goOn t (.run first :: rest))
  | second {s t first second rest} (hstack : s.stack t = .run (.choice first second) :: rest) :
      LockStep code s t (s.goOn t (.run second :: rest))
  | again {s t body rest} (hstack : s.stack t = .run (.loop body) :: rest) :
      LockStep code s t (s.goOn t (.run body :: .run (.loop body) :: rest))
  | leave {s t body rest} (hstack : s.stack t = .run (.loop body) :: rest) :
      LockStep code s t (s.goOn t rest)
  | round {s t rest} (hstack : s.stack t = .rounds :: rest) (henabled : s.enabled t) :
      LockStep code s t (s.goOn t (.run (code t).round :: .rounds :: rest))
  | finish {s t rest} (hstack : s.stack t = .rounds :: rest) (henabled : ¬ s.enabled t) :
      LockStep code s t (s.goOn t rest)

/-- What happens: a thread takes a step, or a wait ends without any cause. -/
inductive LockEvent [DecidableEq M] [DecidableEq T] (code : T → LoopingThread M T) :
    LockState M T → T → LockState M T → Prop
  | step {s t s'} (hstep : LockStep code s t s') : LockEvent code s t s'
  | spurious {s t m timed rest} (hstack : s.stack t = .asleep m timed :: rest) :
      LockEvent code s t (s.goOn t (.relock m :: rest))

/-- The state after a step of a thread, if it can take one, with `way` for what the data decide. -/
def LockState.next? [DecidableEq M] [DecidableEq T] (code : T → LoopingThread M T)
    (s : LockState M T) (t : T) (way : Bool) : Option (LockState M T) :=
  match s.stack t with
  | [] => none
  | .unlock m :: rest => some ((s.goOn t rest).hold m none)
  | .asleep m timed :: rest => if timed then some (s.goOn t (.relock m :: rest)) else none
  | .relock m :: rest =>
    if s.holder m = none then some ((s.goOn t rest).hold m (some t)) else none
  | .join t' :: rest => if (s.stack t').isEmpty then some (s.goOn t rest) else none
  | .rounds :: rest =>
    some (s.goOn t (if s.enabled t then .run (code t).round :: .rounds :: rest else rest))
  | .run .skip :: rest => some (s.goOn t rest)
  | .run (.locked m body) :: rest =>
    if s.holder m = none then
      some ((s.goOn t (.run body :: .unlock m :: rest)).hold m (some t))
    else none
  | .run (.wait m timed) :: rest => some ((s.goOn t (.asleep m timed :: rest)).hold m none)
  | .run (.notify m) :: rest => some ((s.goOn t rest).notify m)
  | .run (.start t') :: rest => some ((s.goOn t rest).begin t' (code t'))
  | .run (.stop t' told) :: rest =>
    some ((s.goOn t (.run told :: .join t' :: rest)).disable t')
  | .run (.seq first second) :: rest => some (s.goOn t (.run first :: .run second :: rest))
  | .run (.choice first second) :: rest =>
    some (s.goOn t (.run (if way then second else first) :: rest))
  | .run (.loop body) :: rest =>
    some (s.goOn t (if way then .run body :: .run (.loop body) :: rest else rest))

def LockState.initial [DecidableEq T] (main : T) (code : LoopingThread M T) : LockState M T where
  holder _ := none
  enabled t := t ≠ main
  stack := Function.update (fun _ => []) main code.frames

end Semantics

section Stacks

variable {M T : Type*} [DecidableEq T] {s : LockState M T} {t t' : T}
  {frames : List (LockFrame M T)}

namespace LockState

@[simp] theorem goOn_stack_self : (s.goOn t frames).stack t = frames := by
  simp only [goOn, Function.update_self]

theorem goOn_stack_of_ne (hne : t' ≠ t) : (s.goOn t frames).stack t' = s.stack t' := by
  simp only [goOn, Function.update_of_ne hne]

end LockState

end Stacks

section Computation

variable {M T : Type*} [DecidableEq M] [DecidableEq T] {code : T → LoopingThread M T}
  {s s' : LockState M T} {t t' : T}

theorem LockStep.of_next? {way : Bool} (h : s.next? code t way = some s') :
    LockStep code s t s' := by
  unfold LockState.next? at h
  split at h
  case h_1 hstack => cases h
  case h_2 hstack =>
    obtain rfl := Option.some.inj h
    exact .unlock hstack
  case h_3 hstack =>
    obtain ⟨htimed, h⟩ := Option.ite_none_right_eq_some.mp h
    obtain rfl := Option.some.inj h
    subst htimed
    exact .expire hstack
  case h_4 hstack =>
    obtain ⟨hfree, h⟩ := Option.ite_none_right_eq_some.mp h
    obtain rfl := Option.some.inj h
    exact .relock hstack hfree
  case h_5 hstack =>
    obtain ⟨hended, h⟩ := Option.ite_none_right_eq_some.mp h
    obtain rfl := Option.some.inj h
    exact .join hstack (List.isEmpty_iff.mp hended)
  case h_6 hstack =>
    obtain rfl := Option.some.inj h
    split_ifs with henabled
    · exact .round hstack henabled
    · exact .finish hstack henabled
  case h_7 hstack =>
    obtain rfl := Option.some.inj h
    exact .skip hstack
  case h_8 hstack =>
    obtain ⟨hfree, h⟩ := Option.ite_none_right_eq_some.mp h
    obtain rfl := Option.some.inj h
    exact .lock hstack hfree
  case h_9 hstack =>
    obtain rfl := Option.some.inj h
    exact .wait hstack
  case h_10 hstack =>
    obtain rfl := Option.some.inj h
    exact .notify hstack
  case h_11 hstack =>
    obtain rfl := Option.some.inj h
    exact .start hstack
  case h_12 hstack =>
    obtain rfl := Option.some.inj h
    exact .stop hstack
  case h_13 hstack =>
    obtain rfl := Option.some.inj h
    exact .seq hstack
  case h_14 hstack =>
    obtain rfl := Option.some.inj h
    cases way with
    | false => exact .first hstack
    | true => exact .second hstack
  case h_15 hstack =>
    obtain rfl := Option.some.inj h
    cases way with
    | false => exact .leave hstack
    | true => exact .again hstack

theorem leads_of_next? {labels : List (T × Bool)}
    (h : labels.foldlM (fun s label => s.next? code label.1 label.2) s = some s') :
    Leads (LockStep code) Anyhow s s' := by
  induction labels generalizing s with
  | nil =>
    obtain rfl := Option.some.inj h
    rfl
  | cons label labels ih =>
    obtain ⟨u, hu, hrest⟩ := Option.bind_eq_some_iff.mp h
    exact (Leads.refl.step (LockStep.of_next? hu)).trans (ih hrest)

/-- The threads' own steps are what happens where no wait ends without a cause. -/
theorem leads_of_steps (h : Leads (LockStep code) Anyhow s s') :
    Leads (LockEvent code) Anyhow s s' := by
  induction h with
  | refl => rfl
  | tail _ hlast ih =>
    obtain ⟨t, _, hstep⟩ := hlast
    exact ih.step (.step hstep)

theorem LockStep.disabled (hstep : LockStep code s t s') (h : ¬ s.enabled t') :
    ¬ s'.enabled t' := by
  cases hstep with
  | @stop u rest hstack =>
    by_cases heq : t' = u
    · subst heq
      simp [LockState.disable]
    · simp only [LockState.disable, Function.update_of_ne heq]
      exact h
  | start hstack =>
    unfold LockState.begin
    split
    · exact h
    · exact h
  | _ => exact h

theorem LockEvent.disabled (hevent : LockEvent code s t s') (h : ¬ s.enabled t') :
    ¬ s'.enabled t' := by
  cases hevent with
  | step hstep => exact hstep.disabled h
  | spurious hstack => exact h

end Computation

section Composition

variable {M M' T T' : Type*}

namespace LockCode

def all (codes : List (LockCode M T)) : LockCode M T := codes.foldr seq skip

def any (codes : List (LockCode M T)) : LockCode M T := codes.foldr choice skip

/-- Code that is run with several mutexes, locked from left to right. -/
def lockedAll (mutexes : List M) (body : LockCode M T) : LockCode M T := mutexes.foldr locked body

/-- The code of a part under the names that the whole has for its mutexes and threads. -/
def map (f : M → M') (g : T → T') : LockCode M T → LockCode M' T'
  | skip => skip
  | locked m body => locked (f m) (body.map f g)
  | wait m timed => wait (f m) timed
  | notify m => notify (f m)
  | start t => start (g t)
  | stop t told => stop (g t) (told.map f g)
  | seq first second => seq (first.map f g) (second.map f g)
  | choice first second => choice (first.map f g) (second.map f g)
  | loop body => loop (body.map f g)

end LockCode

end Composition

section Properties

variable {M M' T T' : Type*}

/-- Every wait, notification, start and stop in the code has the property. -/
def LockCode.Throughout (p : LockCode M T → Prop) : LockCode M T → Prop
  | .skip => True
  | .wait m timed => p (.wait m timed)
  | .notify m => p (.notify m)
  | .start t => p (.start t)
  | .stop t told => p (.stop t told) ∧ told.Throughout p
  | .locked _ body | .loop body => body.Throughout p
  | .seq first second | .choice first second => first.Throughout p ∧ second.Throughout p

structure LoopingThread.Throughout (p : LockCode M T → Prop) (code : LoopingThread M T) :
    Prop where
  before : code.before.Throughout p
  round : code.round.Throughout p
  after : code.after.Throughout p

/-- What is still to do comes from code with the property. -/
def LockFrame.Within (p : LockCode M T → Prop) : LockFrame M T → Prop
  | .run code => code.Throughout p
  | .asleep m timed => p (.wait m timed)
  | .join t => ∃ told, p (.stop t told)
  | .unlock _ | .relock _ | .rounds => True

/-- What the threads have still to do comes from code with a property. -/
def LockState.Within (p : T → LockCode M T → Prop) (s : LockState M T) : Prop :=
  ∀ t, ∀ frame ∈ s.stack t, frame.Within (p t)

variable {p q : LockCode M T → Prop}

theorem LockCode.Throughout.imp {code : LockCode M T} (h : code.Throughout p)
    (himp : ∀ part, p part → q part) : code.Throughout q := by
  induction code with
  | stop t told ih => exact ⟨himp _ h.1, ih h.2⟩
  | locked m body ih | loop body ih => exact ih h
  | seq first second ihfirst ihsecond | choice first second ihfirst ihsecond =>
    exact ⟨ihfirst h.1, ihsecond h.2⟩
  | skip => trivial
  | wait m timed | notify m | start t => exact himp _ h

theorem LoopingThread.Throughout.imp {code : LoopingThread M T} (h : code.Throughout p)
    (himp : ∀ part, p part → q part) : code.Throughout q where
  before := h.before.imp himp
  round := h.round.imp himp
  after := h.after.imp himp

theorem LoopingThread.Throughout.within {code : LoopingThread M T} (h : code.Throughout p) :
    ∀ frame ∈ code.frames, frame.Within p := by
  simp only [LoopingThread.frames, List.forall_mem_cons]
  exact ⟨h.before, trivial, h.after, nofun⟩

namespace LockCode

/-- What holds of two parts put together exactly if it holds of both. -/
theorem foldr_iff {P : LockCode M T → Prop} {op : LockCode M T → LockCode M T → LockCode M T}
    (hskip : P skip) (hop : ∀ first second, P (op first second) ↔ P first ∧ P second)
    (codes : List (LockCode M T)) : P (codes.foldr op skip) ↔ ∀ code ∈ codes, P code := by
  induction codes with
  | nil => exact iff_of_true hskip (by simp)
  | cons code codes ih => rw [List.foldr_cons, hop, ih, List.forall_mem_cons]

theorem throughout_all {codes : List (LockCode M T)} :
    (all codes).Throughout p ↔ ∀ code ∈ codes, code.Throughout p :=
  foldr_iff trivial (fun _ _ => Iff.rfl) codes

theorem throughout_any {codes : List (LockCode M T)} :
    (any codes).Throughout p ↔ ∀ code ∈ codes, code.Throughout p :=
  foldr_iff trivial (fun _ _ => Iff.rfl) codes

theorem throughout_lockedAll {mutexes : List M} {body : LockCode M T} :
    (lockedAll mutexes body).Throughout p ↔ body.Throughout p := by
  induction mutexes with
  | nil => rfl
  | cons m mutexes ih => exact ih

end LockCode

theorem LockCode.Throughout.map {f : M → M'} {g : T → T'} {code : LockCode M T}
    {p : LockCode M' T' → Prop} (h : code.Throughout fun part => p (part.map f g)) :
    (code.map f g).Throughout p := by
  induction code with
  | stop t told ih => exact ⟨h.1, ih h.2⟩
  | locked m body ih | loop body ih => exact ih h
  | seq first second ihfirst ihsecond | choice first second ihfirst ihsecond =>
    exact ⟨ihfirst h.1, ihsecond h.2⟩
  | skip => trivial
  | wait m timed | notify m | start t => exact h

end Properties

section Origins

variable {M T : Type*} {p : T → LockCode M T → Prop} {s s' : LockState M T} {t : T}
  {frames : List (LockFrame M T)} {code : T → LoopingThread M T}

namespace LockState.Within

variable [DecidableEq T]

theorem goOn (h : s.Within p) (hframes : ∀ frame ∈ frames, frame.Within (p t)) :
    (s.goOn t frames).Within p := by
  intro u
  by_cases heq : u = t
  · subst heq
    rw [goOn_stack_self]
    exact hframes
  · rw [goOn_stack_of_ne heq]
    exact h u

theorem begin (h : s.Within p) {code : LoopingThread M T} (hcode : code.Throughout (p t)) :
    (s.begin t code).Within p := by
  unfold LockState.begin
  split
  · exact h.goOn hcode.within
  · exact h

variable [DecidableEq M]

omit [DecidableEq T] in
theorem notify (h : s.Within p) (m : M) : (s.notify m).Within p := by
  intro t frame hframe
  change frame ∈ woken m (s.stack t) at hframe
  unfold woken at hframe
  split at hframe
  · rename_i hstack
    rcases List.mem_cons.mp hframe with rfl | hrest
    · split_ifs
      · trivial
      · exact h t _ (hstack ▸ List.mem_cons_self)
    · exact h t _ (hstack ▸ List.mem_cons_of_mem _ hrest)
  · exact h t _ hframe

theorem step (h : s.Within p) (hcode : ∀ t, (code t).Throughout (p t))
    (hstep : LockStep code s t s') : s'.Within p := by
  have hframes := h t
  cases hstep with
  | start hstack =>
    rw [hstack, List.forall_mem_cons] at hframes
    exact (h.goOn hframes.2).begin (hcode _)
  | notify hstack =>
    rw [hstack, List.forall_mem_cons] at hframes
    exact (h.goOn hframes.2).notify _
  | round hstack =>
    rw [hstack] at hframes
    exact h.goOn (List.forall_mem_cons.mpr ⟨(hcode t).round, hframes⟩)
  | stop hstack =>
    rw [hstack, List.forall_mem_cons] at hframes
    exact @goOn _ _ _ _ _ _ _ h (List.forall_mem_cons.mpr
      ⟨hframes.1.2, List.forall_mem_cons.mpr ⟨⟨_, hframes.1.1⟩, hframes.2⟩⟩)
  | skip hstack | unlock hstack | wait hstack | expire hstack | relock hstack | join hstack
  | seq hstack | first hstack | second hstack | again hstack | leave hstack | finish hstack
  | lock hstack =>
    rw [hstack] at hframes
    apply h.goOn
    simp only [List.forall_mem_cons, LockFrame.Within, LockCode.Throughout] at hframes ⊢
    tauto

/-- Wherever a run comes to, what the threads have to do comes from their code. -/
theorem of_leads {main : T} (hcode : ∀ t, (code t).Throughout (p t))
    (hrun : Leads (LockEvent code) Anyhow (.initial main (code main)) s) : s.Within p := by
  refine hrun.invariant (fun s t s' hs _ hevent => ?_) ?_
  · cases hevent with
    | step hstep => exact hs.step hcode hstep
    | spurious hstack =>
      have hframes := hs t
      rw [hstack, List.forall_mem_cons] at hframes
      exact hs.goOn (List.forall_mem_cons.mpr ⟨trivial, hframes.2⟩)
  · intro t
    by_cases heq : t = main
    · subst heq
      simp only [initial, Function.update_self]
      exact (hcode t).within
    · simp only [initial, Function.update_of_ne heq]
      exact nofun

end LockState.Within

end Origins

end Foundation
