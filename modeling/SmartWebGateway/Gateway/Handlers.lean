import SmartWebGateway.Foundation.Machine
import SmartWebGateway.Gateway.Dispatch
import Mathlib.Tactic

/-!
# Handlers that come and go while frames are handed over

A handler registers in its constructor, before its thread is started, and
unregisters first of all in its destructor. The listener of the port goes
through the registered handlers with `HandlersMutex` locked, so that `Handle` is
never called on a handler that was destroyed, and the list does not change under
the iterator.
-/
namespace SmartWebGateway

open Foundation

/-- How far the constructor or the destructor of a handler is. It holds the mutex while it is
`adding` or `removing`. -/
inductive HandlerLife where
  | absent
  | constructing
  | adding
  | registered
  | constructed
  | destructing
  | removing
  | removed
  | disabled
  | destroyed
  deriving DecidableEq

namespace HandlerLife

def Listed (life : HandlerLife) : Prop :=
  life = .registered ∨ life = .constructed ∨ life = .destructing ∨ life = .removing

def Enabled (life : HandlerLife) : Prop :=
  life ≠ .absent ∧ life ≠ .disabled ∧ life ≠ .destroyed

def Threaded (life : HandlerLife) : Prop :=
  life = .constructed ∨ life = .destructing ∨ life = .removing ∨ life = .removed ∨
    life = .disabled

def Inside (life : HandlerLife) : Prop := life = .adding ∨ life = .removing

end HandlerLife

/-- How far the thread of a handler is: it works on the handler, or looks at `Enabled`. -/
inductive HandlerThread where
  | unstarted
  | looking
  | working
  | finished
  deriving DecidableEq

/-- One call of `RunHandlers`: the handlers that were registered when it locked the mutex, those it
called `Handle` of, those that threw, and the one that took the frame. -/
structure HandlersRound (H : Type*) where
  frame : TFrame
  registered : List H
  offered : List H
  thrown : List H
  taker : Option H

/-- How far the listener is: `running` it holds the mutex and its iterator is behind the handlers
that were offered the frame, and `handling` it is in `Handle`. -/
inductive Listener (H : Type*) where
  | listening
  | received (frame : TFrame)
  | running (round : HandlersRound H)
  | handling (round : HandlersRound H) (handler : H)

inductive HandleOutcome where
  | took
  | refused
  | threw

inductive HandlersParty (H : Type*) where
  | handler (handler : H)
  | listener

/-- `rounds` is history, newest first. -/
structure HandlersState (H : Type*) where
  mutex : Option (HandlersParty H)
  handlers : List H
  life : H → HandlerLife
  thread : H → HandlerThread
  listener : Listener H
  rounds : List (HandlersRound H)

namespace HandlersState

variable {H : Type*}

def initial : HandlersState H where
  mutex := none
  handlers := []
  life _ := .absent
  thread _ := .unstarted
  listener := .listening
  rounds := []

def live [DecidableEq H] (s : HandlersState H) (handler : H) (life : HandlerLife) :
    HandlersState H :=
  { s with life := Function.update s.life handler life }

def goOn [DecidableEq H] (s : HandlersState H) (handler : H) (thread : HandlerThread) :
    HandlersState H :=
  { s with thread := Function.update s.thread handler thread }

def endRound (s : HandlersState H) (round : HandlersRound H) : HandlersState H :=
  { s with
    mutex := none
    listener := .listening
    rounds := round :: s.rounds }

def handled (s : HandlersState H) (round : HandlersRound H) (handler : H) :
    HandleOutcome → HandlersState H
  | .took => s.endRound { round with offered := round.offered ++ [handler], taker := some handler }
  | .refused => { s with listener := .running { round with offered := round.offered ++ [handler] } }
  | .threw =>
    { s with
      listener := .running
        { round with
          offered := round.offered ++ [handler]
          thrown := round.thrown ++ [handler] } }

def Inside (s : HandlersState H) : HandlersParty H → Prop
  | .handler handler => (s.life handler).Inside
  | .listener =>
    match s.listener with
    | .listening | .received _ => False
    | .running _ | .handling _ _ => True

end HandlersState

inductive HandlersLabel (H : Type*) where
  | construct (handler : H)
  | lock (handler : H)
  | addHandler (handler : H)
  | startThread (handler : H)
  | destruct (handler : H)
  | removeHandler (handler : H)
  | disable (handler : H)
  | join (handler : H)
  | look (handler : H)
  | work (handler : H)
  | receive (frame : TFrame)
  | runHandlers
  | next
  | handled (outcome : HandleOutcome)

/-- The atomic steps of constructors, destructors and threads of handlers and of the listener.
`accepts` are the frames that the check at the head of `Handle` lets pass; only then may `Handle`
return true. -/
inductive HandlersStep {H : Type*} [DecidableEq H] (accepts : H → TFrame → Bool) :
    HandlersState H → HandlersLabel H → HandlersState H → Prop
  | construct {s : HandlersState H} {handler : H} (hlife : s.life handler = .absent) :
      HandlersStep accepts s (.construct handler) (s.live handler .constructing)
  | lockAdd {s : HandlersState H} {handler : H} (hlife : s.life handler = .constructing)
      (hfree : s.mutex = none) :
      HandlersStep accepts s (.lock handler)
        { s.live handler .adding with mutex := some (.handler handler) }
  | addHandler {s : HandlersState H} {handler : H} (hlife : s.life handler = .adding) :
      HandlersStep accepts s (.addHandler handler)
        { s.live handler .registered with mutex := none, handlers := s.handlers ++ [handler] }
  | startThread {s : HandlersState H} {handler : H} (hlife : s.life handler = .registered) :
      HandlersStep accepts s (.startThread handler)
        ((s.live handler .constructed).goOn handler .looking)
  | destruct {s : HandlersState H} {handler : H} (hlife : s.life handler = .constructed) :
      HandlersStep accepts s (.destruct handler) (s.live handler .destructing)
  | lockRemove {s : HandlersState H} {handler : H} (hlife : s.life handler = .destructing)
      (hfree : s.mutex = none) :
      HandlersStep accepts s (.lock handler)
        { s.live handler .removing with mutex := some (.handler handler) }
  | removeHandler {s : HandlersState H} {handler : H} (hlife : s.life handler = .removing) :
      HandlersStep accepts s (.removeHandler handler)
        { s.live handler .removed with
          mutex := none
          handlers := s.handlers.filter (· ≠ handler) }
  | disable {s : HandlersState H} {handler : H} (hlife : s.life handler = .removed) :
      HandlersStep accepts s (.disable handler) (s.live handler .disabled)
  | join {s : HandlersState H} {handler : H} (hlife : s.life handler = .disabled)
      (hthread : s.thread handler = .finished) :
      HandlersStep accepts s (.join handler) (s.live handler .destroyed)
  | lookEnabled {s : HandlersState H} {handler : H} (hthread : s.thread handler = .looking)
      (henabled : (s.life handler).Enabled) :
      HandlersStep accepts s (.look handler) (s.goOn handler .working)
  | lookDisabled {s : HandlersState H} {handler : H} (hthread : s.thread handler = .looking)
      (henabled : ¬ (s.life handler).Enabled) :
      HandlersStep accepts s (.look handler) (s.goOn handler .finished)
  | work {s : HandlersState H} {handler : H} (hthread : s.thread handler = .working) :
      HandlersStep accepts s (.work handler) (s.goOn handler .looking)
  | receive {s : HandlersState H} (frame : TFrame) (hlistener : s.listener = .listening) :
      HandlersStep accepts s (.receive frame) { s with listener := .received frame }
  | runHandlers {s : HandlersState H} {frame : TFrame} (hlistener : s.listener = .received frame)
      (hfree : s.mutex = none) :
      HandlersStep accepts s .runHandlers
        { s with
          mutex := some .listener
          listener := .running ⟨frame, s.handlers, [], [], none⟩ }
  | next {s : HandlersState H} {round : HandlersRound H} {handler : H}
      (hlistener : s.listener = .running round)
      (hnext : s.handlers[round.offered.length]? = some handler) :
      HandlersStep accepts s .next { s with listener := .handling round handler }
  | done {s : HandlersState H} {round : HandlersRound H} (hlistener : s.listener = .running round)
      (hnext : s.handlers[round.offered.length]? = none) :
      HandlersStep accepts s .next (s.endRound round)
  | handled {s : HandlersState H} {round : HandlersRound H} {handler : H} {outcome : HandleOutcome}
      (hlistener : s.listener = .handling round handler)
      (htook : outcome = .took → accepts handler round.frame)
      (hrefused : outcome = .refused → ¬ accepts handler round.frame) :
      HandlersStep accepts s (.handled outcome) (s.handled round handler outcome)

namespace HandlersRound

variable {H : Type*}

/-- So far the handlers from the front of the list were offered the frame, and none took it. -/
structure Underway (accepts : H → TFrame → Bool) (round : HandlersRound H) : Prop where
  offered : round.offered <+: round.registered
  distinct : round.registered.Nodup
  refused : ∀ handler ∈ round.offered, handler ∈ round.thrown ∨ ¬ accepts handler round.frame
  thrown : round.thrown ⊆ round.offered
  untaken : round.taker = none

/-- The frame was offered from the front of the list up to the one who took it, or to all. The one
who took it is the first who accepts it and did not throw. -/
structure Orderly [DecidableEq H] (accepts : H → TFrame → Bool) (round : HandlersRound H) :
    Prop where
  offered : round.offered <+: round.registered
  distinct : round.registered.Nodup
  taker : round.taker =
    round.registered.find? fun handler => accepts handler round.frame ∧ handler ∉ round.thrown
  last : ∀ handler ∈ round.taker, round.offered.getLast? = some handler
  all : round.taker = none → round.offered = round.registered

end HandlersRound

/-- What every run keeps of the registered handlers and of the listener. -/
structure HandlersState.Sound {H : Type*} [DecidableEq H] (accepts : H → TFrame → Bool)
    (s : HandlersState H) : Prop where
  guarded : Guarded s.mutex s.Inside
  listed : ∀ handler, handler ∈ s.handlers ↔ (s.life handler).Listed
  distinct : s.handlers.Nodup
  threaded : ∀ handler, s.thread handler = .looking ∨ s.thread handler = .working →
    (s.life handler).Threaded
  running : ∀ round, s.listener = .running round →
    round.registered = s.handlers ∧ round.Underway accepts
  handling : ∀ round handler, s.listener = .handling round handler →
    round.registered = s.handlers ∧ round.Underway accepts ∧
      s.handlers[round.offered.length]? = some handler
  rounds : ∀ round ∈ s.rounds, round.Orderly accepts

section Rounds

variable {H : Type*} {accepts : H → TFrame → Bool} {round : HandlersRound H} {handler : H}

namespace HandlersRound.Underway

theorem split (h : round.Underway accepts)
    (hnext : round.registered[round.offered.length]? = some handler) :
    handler ∉ round.offered ∧
      ∃ after, round.registered = round.offered ++ handler :: after := by
  obtain ⟨rest, hrest⟩ := h.offered
  rw [← hrest, List.getElem?_append_right le_rfl, Nat.sub_self] at hnext
  cases rest with
  | nil => cases hnext
  | cons first after =>
    obtain rfl := Option.some.inj hnext
    have hdistinct := h.distinct
    rw [← hrest, List.nodup_append] at hdistinct
    exact ⟨fun hmem => hdistinct.2.2 _ hmem _ List.mem_cons_self rfl, after, hrest.symm⟩

theorem pass (h : round.Underway accepts)
    (hnext : round.registered[round.offered.length]? = some handler) {thrown : List H}
    (hthrown : thrown = round.thrown ∧ ¬ accepts handler round.frame ∨
      thrown = round.thrown ++ [handler]) :
    HandlersRound.Underway accepts
      { round with offered := round.offered ++ [handler], thrown := thrown } := by
  obtain ⟨_, after, hafter⟩ := h.split hnext
  have hold : round.thrown ⊆ thrown := by
    rcases hthrown with ⟨rfl, _⟩ | rfl
    · exact List.Subset.refl _
    · exact List.subset_append_left _ _
  constructor
  case offered =>
    refine ⟨after, ?_⟩
    rw [hafter, List.append_assoc, List.singleton_append]
  case distinct => exact h.distinct
  case refused =>
    intro other hother
    rcases List.mem_append.mp hother with hother | hother
    · exact (h.refused other hother).imp_left fun hmem => hold hmem
    · rw [List.mem_singleton.mp hother]
      rcases hthrown with ⟨_, hrefuses⟩ | rfl
      · exact Or.inr hrefuses
      · exact Or.inl (List.mem_append_right _ (List.mem_singleton_self _))
  case thrown =>
    rcases hthrown with ⟨rfl, _⟩ | rfl
    · exact fun _ hmem => List.mem_append_left _ (h.thrown hmem)
    · intro other hother
      rcases List.mem_append.mp hother with hother | hother
      · exact List.mem_append_left _ (h.thrown hother)
      · exact List.mem_append_right _ hother
  case untaken => exact h.untaken

variable [DecidableEq H]

theorem find?_offered (h : round.Underway accepts) :
    (round.offered.find? fun handler =>
      accepts handler round.frame ∧ handler ∉ round.thrown) = none := by
  rw [List.find?_eq_none]
  intro other hother
  rcases h.refused other hother with hthrew | hrefuses
  · simp [hthrew]
  · simp [hrefuses]

theorem take (h : round.Underway accepts)
    (hnext : round.registered[round.offered.length]? = some handler)
    (haccepts : accepts handler round.frame) :
    HandlersRound.Orderly accepts
      { round with offered := round.offered ++ [handler], taker := some handler } := by
  obtain ⟨hnew, after, hafter⟩ := h.split hnext
  constructor
  case offered =>
    refine ⟨after, ?_⟩
    rw [hafter, List.append_assoc, List.singleton_append]
  case distinct => exact h.distinct
  case taker =>
    dsimp only
    have hthrown : handler ∉ round.thrown := fun hmem => hnew (h.thrown hmem)
    rw [hafter, List.find?_append, h.find?_offered, Option.none_or, List.find?_cons_of_pos]
    simp [haccepts, hthrown]
  case last =>
    intro other hother
    obtain rfl := Option.some.inj hother
    exact List.getLast?_concat
  case all =>
    intro hnone
    cases hnone

theorem done (h : round.Underway accepts)
    (hnext : round.registered[round.offered.length]? = none) : round.Orderly accepts := by
  have hall : round.offered = round.registered :=
    h.offered.eq_of_length_le (List.getElem?_eq_none_iff.mp hnext)
  constructor
  case offered => exact h.offered
  case distinct => exact h.distinct
  case taker =>
    rw [← hall, h.find?_offered]
    exact h.untaken
  case last =>
    intro other hother
    rw [h.untaken] at hother
    cases hother
  case all => exact fun _ => hall

end HandlersRound.Underway

end Rounds

section Lives

variable {H : Type*} [DecidableEq H] {accepts : H → TFrame → Bool} {s t : HandlersState H}
  {l : HandlersLabel H} {handler other : H} {life : HandlerLife} {round : HandlersRound H}

namespace HandlersState

@[simp] theorem life_live_self : (s.live handler life).life handler = life := by
  simp only [live, Function.update_self]

theorem life_live_of_ne (h : other ≠ handler) :
    (s.live handler life).life other = s.life other := by
  simp only [live, Function.update_of_ne h]

theorem inside_live (h : ¬ life.Inside) {p : HandlersParty H}
    (hp : (s.live handler life).Inside p) : s.Inside p ∧ p ≠ .handler handler := by
  cases p with
  | listener => exact ⟨hp, nofun⟩
  | handler other =>
    by_cases heq : other = handler
    · subst heq
      change ((s.live other life).life other).Inside at hp
      rw [life_live_self] at hp
      exact absurd hp h
    · change ((s.live handler life).life other).Inside at hp
      rw [life_live_of_ne heq] at hp
      exact ⟨hp, fun hsame => heq (HandlersParty.handler.inj hsame)⟩

namespace Sound

theorem initial : (initial : HandlersState H).Sound accepts where
  guarded p hp := by
    cases p with
    | listener => exact hp.elim
    | handler handler =>
      exact absurd hp (by simp [Inside, HandlersState.initial, HandlerLife.Inside])
  listed handler := by simp [HandlersState.initial, HandlerLife.Listed]
  distinct := List.nodup_nil
  threaded handler h := by simp [HandlersState.initial] at h
  running round h := by cases h
  handling round handler h := by cases h
  rounds round h := by cases h

theorem threaded_live (h : s.Sound accepts)
    (hthreaded : s.thread handler = .looking ∨ s.thread handler = .working → life.Threaded)
    (other : H) (hthread : s.thread other = .looking ∨ s.thread other = .working) :
    ((s.live handler life).life other).Threaded := by
  by_cases heq : other = handler
  · subst heq
    rw [life_live_self]
    exact hthreaded hthread
  · rw [life_live_of_ne heq]
    exact h.threaded other hthread

theorem live (h : s.Sound accepts) (hinside : ¬ life.Inside)
    (hlisted : life.Listed ↔ (s.life handler).Listed)
    (hthreaded : s.thread handler = .looking ∨ s.thread handler = .working → life.Threaded) :
    (s.live handler life).Sound accepts where
  guarded := h.guarded.mono fun _ hp => (inside_live hinside hp).1
  listed other := by
    by_cases heq : other = handler
    · subst heq
      rw [life_live_self, hlisted]
      exact h.listed other
    · rw [life_live_of_ne heq]
      exact h.listed other
  distinct := h.distinct
  threaded := h.threaded_live hthreaded
  running := h.running
  handling := h.handling
  rounds := h.rounds

theorem lock (h : s.Sound accepts) (hfree : s.mutex = none)
    (hlisted : life.Listed ↔ (s.life handler).Listed)
    (hthreaded : s.thread handler = .looking ∨ s.thread handler = .working → life.Threaded) :
    HandlersState.Sound accepts { s.live handler life with mutex := some (.handler handler) } where
  guarded := by
    have hnobody := h.guarded
    rw [hfree] at hnobody
    apply hnobody.acquire
    intro p hp
    cases p with
    | listener => exact Or.inr hp
    | handler other =>
      by_cases heq : other = handler
      · exact Or.inl (congrArg _ heq)
      · right
        change ((s.live handler life).life other).Inside at hp
        rwa [life_live_of_ne heq] at hp
  listed other := by
    change other ∈ s.handlers ↔ ((s.live handler life).life other).Listed
    by_cases heq : other = handler
    · subst heq
      rw [life_live_self, hlisted]
      exact h.listed other
    · rw [life_live_of_ne heq]
      exact h.listed other
  distinct := h.distinct
  threaded := h.threaded_live hthreaded
  running := h.running
  handling := h.handling
  rounds := h.rounds

theorem listener_outside (h : s.Sound accepts) (hlife : (s.life handler).Inside) :
    (∀ round, s.listener ≠ .running round) ∧
      ∀ round other, s.listener ≠ .handling round other := by
  have hinside : s.Inside (.handler handler) := hlife
  constructor
  · intro round hlistener
    have hother : s.Inside .listener := by
      simp only [Inside, hlistener]
    cases h.guarded.eq hinside hother
  · intro round other hlistener
    have hother : s.Inside .listener := by
      simp only [Inside, hlistener]
    cases h.guarded.eq hinside hother

theorem relist (h : s.Sound accepts) (hinside : (s.life handler).Inside) (hlife : ¬ life.Inside)
    {handlers : List H} (hdistinct : handlers.Nodup)
    (hmem : ∀ other, other ∈ handlers ↔ ((s.live handler life).life other).Listed)
    (hthreaded : s.thread handler = .looking ∨ s.thread handler = .working → life.Threaded) :
    HandlersState.Sound accepts
      { s.live handler life with mutex := none, handlers := handlers } where
  guarded := by
    have hin : s.Inside (.handler handler) := hinside
    apply h.guarded.release hin
    intro p hp
    exact (inside_live hlife hp).symm
  listed := hmem
  distinct := hdistinct
  threaded := h.threaded_live hthreaded
  running round hround := absurd hround ((h.listener_outside hinside).1 round)
  handling round other hround := absurd hround ((h.listener_outside hinside).2 round other)
  rounds := h.rounds

theorem addHandler (h : s.Sound accepts) (hlife : s.life handler = .adding) :
    HandlersState.Sound accepts
      { s.live handler .registered with mutex := none, handlers := s.handlers ++ [handler] } := by
  have hnew : handler ∉ s.handlers := by
    rw [h.listed, hlife]
    simp [HandlerLife.Listed]
  apply h.relist
  case hinside => exact Or.inl hlife
  case hlife => simp [HandlerLife.Inside]
  case hdistinct =>
    exact h.distinct.append (List.nodup_singleton handler) (by simpa using hnew)
  case hmem =>
    intro other
    rw [List.mem_append, List.mem_singleton, h.listed]
    by_cases heq : other = handler
    · subst heq
      rw [life_live_self]
      simp [HandlerLife.Listed]
    · rw [life_live_of_ne heq]
      simp [heq]
  case hthreaded =>
    intro hthread
    have hold := h.threaded handler hthread
    simp [hlife, HandlerLife.Threaded] at hold

theorem removeHandler (h : s.Sound accepts) (hlife : s.life handler = .removing) :
    HandlersState.Sound accepts
      { s.live handler .removed with
        mutex := none
        handlers := s.handlers.filter (· ≠ handler) } := by
  apply h.relist
  case hinside => exact Or.inr hlife
  case hlife => simp [HandlerLife.Inside]
  case hdistinct => exact h.distinct.filter _
  case hmem =>
    intro other
    rw [List.mem_filter, h.listed]
    by_cases heq : other = handler
    · subst heq
      rw [life_live_self]
      simp [HandlerLife.Listed]
    · rw [life_live_of_ne heq]
      simp [heq]
  case hthreaded => exact fun _ => Or.inr (Or.inr (Or.inr (Or.inl rfl)))

theorem goOn (h : s.Sound accepts) {thread : HandlerThread}
    (hthreaded : thread = .looking ∨ thread = .working → (s.life handler).Threaded) :
    (s.goOn handler thread).Sound accepts where
  guarded := h.guarded
  listed := h.listed
  distinct := h.distinct
  threaded other hthread := by
    by_cases heq : other = handler
    · subst heq
      simp only [HandlersState.goOn, Function.update_self] at hthread
      exact hthreaded hthread
    · simp only [HandlersState.goOn, Function.update_of_ne heq] at hthread
      exact h.threaded other hthread
  running := h.running
  handling := h.handling
  rounds := h.rounds

theorem listen (h : s.Sound accepts) {listener : Listener H}
    (hinside : HandlersState.Inside { s with listener := listener } .listener → s.Inside .listener)
    (hrunning : ∀ round, listener = .running round →
      round.registered = s.handlers ∧ round.Underway accepts)
    (hhandling : ∀ round handler, listener = .handling round handler →
      round.registered = s.handlers ∧ round.Underway accepts ∧
        s.handlers[round.offered.length]? = some handler) :
    HandlersState.Sound accepts { s with listener := listener } where
  guarded := by
    apply h.guarded.mono
    intro p hp
    cases p with
    | listener => exact hinside hp
    | handler handler => exact hp
  listed := h.listed
  distinct := h.distinct
  threaded := h.threaded
  running := hrunning
  handling := hhandling
  rounds := h.rounds

theorem runHandlers (h : s.Sound accepts) (hfree : s.mutex = none) (frame : TFrame) :
    HandlersState.Sound accepts
      { s with
        mutex := some .listener
        listener := .running ⟨frame, s.handlers, [], [], none⟩ } where
  guarded := by
    have hnobody := h.guarded
    rw [hfree] at hnobody
    apply hnobody.acquire
    intro p hp
    cases p with
    | listener => exact Or.inl rfl
    | handler handler => exact Or.inr hp
  listed := h.listed
  distinct := h.distinct
  threaded := h.threaded
  running round hround := by
    cases hround
    exact ⟨rfl, List.nil_prefix, h.distinct, nofun, List.Subset.refl _, rfl⟩
  handling round handler hround := by cases hround
  rounds := h.rounds

theorem endRound (h : s.Sound accepts) (hinside : s.Inside .listener)
    (hround : round.Orderly accepts) : (s.endRound round).Sound accepts where
  guarded := by
    apply h.guarded.release hinside
    intro p hp
    cases p with
    | listener => exact hp.elim
    | handler handler => exact ⟨nofun, hp⟩
  listed := h.listed
  distinct := h.distinct
  threaded := h.threaded
  running round hround := by cases hround
  handling round handler hround := by cases hround
  rounds := by
    intro other hother
    rcases List.mem_cons.mp hother with rfl | hold
    · exact hround
    · exact h.rounds other hold

theorem handled (h : s.Sound accepts) {outcome : HandleOutcome}
    (hlistener : s.listener = .handling round handler)
    (htook : outcome = .took → accepts handler round.frame)
    (hrefused : outcome = .refused → ¬ accepts handler round.frame) :
    (s.handled round handler outcome).Sound accepts := by
  obtain ⟨hregistered, hunderway, hnext⟩ := h.handling round handler hlistener
  have hinside : s.Inside .listener := by
    simp only [Inside, hlistener]
  rw [← hregistered] at hnext
  cases outcome with
  | took => exact h.endRound hinside (hunderway.take hnext (htook rfl))
  | refused =>
    refine h.listen (fun _ => hinside) ?_ nofun
    rintro _ ⟨⟩
    exact ⟨hregistered, hunderway.pass hnext (Or.inl ⟨rfl, hrefused rfl⟩)⟩
  | threw =>
    refine h.listen (fun _ => hinside) ?_ nofun
    rintro _ ⟨⟩
    exact ⟨hregistered, hunderway.pass hnext (Or.inr rfl)⟩

end Sound

end HandlersState

theorem HandlersStep.sound (h : HandlersStep accepts s l t) (hs : s.Sound accepts) :
    t.Sound accepts := by
  cases h with
  | @construct handler hlife =>
    apply hs.live
    · simp [HandlerLife.Inside]
    · simp [hlife, HandlerLife.Listed]
    · intro hthread
      have hold := hs.threaded handler hthread
      simp [hlife, HandlerLife.Threaded] at hold
  | @lockAdd handler hlife hfree =>
    apply hs.lock hfree
    · simp [hlife, HandlerLife.Listed]
    · intro hthread
      have hold := hs.threaded handler hthread
      simp [hlife, HandlerLife.Threaded] at hold
  | addHandler hlife => exact hs.addHandler hlife
  | @startThread handler hlife =>
    have hlive : (s.live handler .constructed).Sound accepts := by
      apply hs.live
      · simp [HandlerLife.Inside]
      · simp [hlife, HandlerLife.Listed]
      · exact fun _ => Or.inl rfl
    apply hlive.goOn
    intro _
    rw [HandlersState.life_live_self]
    exact Or.inl rfl
  | @destruct handler hlife =>
    apply hs.live
    · simp [HandlerLife.Inside]
    · simp [hlife, HandlerLife.Listed]
    · exact fun _ => Or.inr (Or.inl rfl)
  | @lockRemove handler hlife hfree =>
    apply hs.lock hfree
    · simp [hlife, HandlerLife.Listed]
    · exact fun _ => Or.inr (Or.inr (Or.inl rfl))
  | removeHandler hlife => exact hs.removeHandler hlife
  | @disable handler hlife =>
    apply hs.live
    · simp [HandlerLife.Inside]
    · simp [hlife, HandlerLife.Listed]
    · exact fun _ => Or.inr (Or.inr (Or.inr (Or.inr rfl)))
  | @join handler hlife hthread =>
    apply hs.live
    · simp [HandlerLife.Inside]
    · simp [hlife, HandlerLife.Listed]
    · rw [hthread]
      rintro (h | h) <;> cases h
  | @lookEnabled handler hthread _ =>
    exact hs.goOn fun _ => hs.threaded handler (Or.inl hthread)
  | lookDisabled hthread _ =>
    apply hs.goOn
    rintro (h | h) <;> cases h
  | @work handler hthread => exact hs.goOn fun _ => hs.threaded handler (Or.inr hthread)
  | receive frame hlistener => exact hs.listen (fun hp => hp.elim) nofun nofun
  | runHandlers _ hfree => exact hs.runHandlers hfree _
  | @next round handler hlistener hnext =>
    obtain ⟨hregistered, hunderway⟩ := hs.running round hlistener
    have hinside : s.Inside .listener := by
      simp only [HandlersState.Inside, hlistener]
    refine hs.listen (fun _ => hinside) nofun ?_
    rintro _ _ ⟨⟩
    exact ⟨hregistered, hunderway, hnext⟩
  | @done round hlistener hnext =>
    obtain ⟨hregistered, hunderway⟩ := hs.running round hlistener
    have hinside : s.Inside .listener := by
      simp only [HandlersState.Inside, hlistener]
    rw [← hregistered] at hnext
    exact hs.endRound hinside (hunderway.done hnext)
  | handled hlistener htook hrefused => exact hs.handled hlistener htook hrefused

/-- What a finished round has done is what the handlers do when they are offered the frame all at
once, if none of them threw. -/
theorem HandlersRound.Orderly.runHandlers_eq (h : round.Orderly accepts)
    (hthrown : round.thrown = []) {state : H → IFrameHandler}
    (hstate : ∀ handler ∈ round.registered,
      ((state handler).handle round.frame).isSome = accepts handler round.frame) :
    runHandlers round.frame (round.registered.map state) =
      round.registered.map fun handler =>
        if round.taker = some handler then
          ((state handler).handle round.frame).getD (state handler)
        else state handler := by
  have htaker := h.taker
  simp only [hthrown, List.not_mem_nil, not_false_eq_true, and_true, Bool.decide_eq_true]
    at htaker
  have hfind : round.registered.find? (fun handler => accepts handler round.frame) =
      round.registered.find? fun handler => ((state handler).handle round.frame).isSome :=
    List.find?_congr fun handler hmem => (hstate handler hmem).symm
  rw [runHandlers, offer_map _ state h.distinct, htaker, hfind]

end Lives

section Runs

variable {H : Type*} [DecidableEq H] {accepts : H → TFrame → Bool} {s : HandlersState H}

theorem handlersSound_of_leads (h : Leads (HandlersStep accepts) Anyhow .initial s) :
    s.Sound accepts :=
  h.invariant (fun _ _ _ hs _ hstep => hstep.sound hs) .initial

/-- However handlers come and go: `Handle` is only called on a handler whose destructor has not got
past unregistering it, and while the listener goes through the handlers their list stays as it is;
a thread only works on a handler that was constructed and is not destroyed before the thread has
ended; and the list holds just the handlers that are registered, each once. -/
theorem handle_only_while_registered (h : Leads (HandlersStep accepts) Anyhow .initial s) :
    (∀ round handler, s.listener = .handling round handler →
      handler ∈ s.handlers ∧ (s.life handler = .registered ∨ s.life handler = .constructed ∨
        s.life handler = .destructing)) ∧
    (∀ round, (s.listener = .running round ∨ ∃ handler, s.listener = .handling round handler) →
      round.registered = s.handlers) ∧
    (∀ handler, s.thread handler = .looking ∨ s.thread handler = .working →
      (s.life handler).Threaded) ∧
    (∀ handler, handler ∈ s.handlers ↔ (s.life handler).Listed) ∧ s.handlers.Nodup := by
  have hs := handlersSound_of_leads h
  refine ⟨?_, ?_, hs.threaded, hs.listed, hs.distinct⟩
  · intro round handler hlistener
    obtain ⟨_, _, hnext⟩ := hs.handling round handler hlistener
    have hmem : handler ∈ s.handlers := List.mem_of_getElem? hnext
    refine ⟨hmem, ?_⟩
    rcases (hs.listed handler).mp hmem with hlife | hlife | hlife | hlife
    · exact Or.inl hlife
    · exact Or.inr (Or.inl hlife)
    · exact Or.inr (Or.inr hlife)
    · exact absurd hlistener ((hs.listener_outside (Or.inr hlife)).2 round handler)
  · rintro round (hlistener | ⟨handler, hlistener⟩)
    · exact (hs.running round hlistener).1
    · exact (hs.handling round handler hlistener).1

/-- However handlers come and go and whichever of them throw: every frame is offered to the handlers
that were registered when its round began, in the order of their registration, and goes to the first
that accepts it without throwing. If none throws, the round comes to the same as offering the frame
to all at once. -/
theorem frames_go_to_first_acceptor (h : Leads (HandlersStep accepts) Anyhow .initial s) :
    ∀ round ∈ s.rounds, round.Orderly accepts ∧
      (round.thrown = [] → ∀ state : H → IFrameHandler,
        (∀ handler ∈ round.registered,
          ((state handler).handle round.frame).isSome = accepts handler round.frame) →
        runHandlers round.frame (round.registered.map state) =
          round.registered.map fun handler =>
            if round.taker = some handler then
              ((state handler).handle round.frame).getD (state handler)
            else state handler) := by
  intro round hround
  have horderly := (handlersSound_of_leads h).rounds round hround
  exact ⟨horderly, fun hthrown _ hstate => horderly.runHandlers_eq hthrown hstate⟩

end Runs

/-! The reader and a controller register, and an output request comes. -/

def portHandlers : Bool → IFrameHandler
  | false => .reader []
  | true => .controller 7 []

def portAccepts (handler : Bool) (frame : TFrame) : Bool :=
  ((portHandlers handler).handle frame).isSome

def HandlersState.registering (s : HandlersState Bool) (handler : Bool) : HandlersState Bool :=
  let s := s.live handler .constructing
  let s := s.live handler .adding
  let s := { s.live handler .registered with mutex := none, handlers := s.handlers ++ [handler] }
  (s.live handler .constructed).goOn handler .looking

def portFrame : TFrame := .outputRequest 7 ⟨7, 0, 0⟩

def portRegistered : HandlersState Bool :=
  (HandlersState.initial.registering false).registering true

def portRound : HandlersRound Bool := ⟨portFrame, [false, true], [false], [], none⟩

/-- The frame is in `Handle` of the controller, after the reader refused it. -/
def portHandling : HandlersState Bool :=
  { portRegistered with mutex := some .listener, listener := .handling portRound true }

theorem HandlersState.leads_registering {s : HandlersState Bool} {handler : Bool}
    (h : Leads (HandlersStep portAccepts) Anyhow .initial s) (hfree : s.mutex = none)
    (hlife : s.life handler = .absent) :
    Leads (HandlersStep portAccepts) Anyhow .initial (s.registering handler) := by
  have hconstructing := h.step (.construct hlife)
  have hadding := hconstructing.step (.lockAdd life_live_self hfree)
  have hregistered := hadding.step (.addHandler life_live_self)
  exact hregistered.step (.startThread life_live_self)

theorem portHandling_leads :
    Leads (HandlersStep portAccepts) Anyhow .initial portHandling := by
  have hregistered : Leads (HandlersStep portAccepts) Anyhow .initial portRegistered :=
    HandlersState.leads_registering (HandlersState.leads_registering .refl rfl rfl) rfl rfl
  have hlocked := (hregistered.step (.receive portFrame rfl)).step (.runHandlers rfl rfl)
  have hrefused := (hlocked.step (.next rfl rfl)).step
    (@HandlersStep.handled _ _ _ _ _ _ .refused rfl nofun fun _ => by decide +kernel)
  exact hrefused.step (.next rfl rfl)

theorem handle_only_while_registered_port :
    true ∈ portHandling.handlers ∧ (portHandling.life true = .registered ∨
      portHandling.life true = .constructed ∨ portHandling.life true = .destructing) :=
  (handle_only_while_registered portHandling_leads).1 portRound true rfl

def portTaken : HandlersRound Bool :=
  { portRound with offered := [false, true], taker := some true }

theorem frames_go_to_first_acceptor_port :
    portTaken.Orderly portAccepts ∧
      runHandlers portFrame [.reader [], .controller 7 []] =
        [.reader [], .controller 7 [portFrame]] := by
  have htaken := portHandling_leads.step
    (@HandlersStep.handled _ _ _ _ _ _ .took rfl (fun _ => by decide +kernel) nofun)
  obtain ⟨horderly, hsame⟩ :=
    frames_go_to_first_acceptor htaken portTaken List.mem_cons_self
  exact ⟨horderly, (hsame rfl portHandlers fun _ _ => rfl).trans (by decide +kernel)⟩

end SmartWebGateway
