import SmartWebGateway.Foundation.Machine
import Mathlib.Tactic

/-!
# The first thread sets the filter

Each virtual controller has a thread of its own, and every one of them needs the
driver with its filter set. `StartupMutex` and `FilterIsSet` have the first
thread set it and wait until the driver is ready, while the others stand at the
mutex. An exception of the driver at this place ends the process; no step goes
on from there.
-/
namespace SmartWebGateway

open Foundation

/-- How far the thread of a gateway is in `TaskFn`: it is `checking` the flag, `awaiting` the
driver, `ready` to put the flag up or `leaving` the block with `StartupMutex` locked. -/
inductive StartupPhase where
  | absent
  | starting
  | checking
  | awaiting
  | ready
  | leaving
  | subscribing
  | looping
  | finished
  deriving DecidableEq

namespace StartupPhase

def Inside (phase : StartupPhase) : Prop :=
  phase = .checking ∨ phase = .awaiting ∨ phase = .ready ∨ phase = .leaving

def Underway (phase : StartupPhase) : Prop :=
  phase = .starting ∨ phase.Inside ∨ phase = .subscribing

def Unaware (phase : StartupPhase) : Prop :=
  phase = .absent ∨ phase = .starting ∨ phase = .checking

def Setting (phase : StartupPhase) : Prop := phase = .awaiting ∨ phase = .ready

instance (phase : StartupPhase) : Decidable phase.Inside := inferInstanceAs (Decidable (_ ∨ _))

instance (phase : StartupPhase) : Decidable phase.Unaware := inferInstanceAs (Decidable (_ ∨ _))

instance (phase : StartupPhase) : Decidable phase.Setting := inferInstanceAs (Decidable (_ ∨ _))

theorem Unaware.not_setting {phase : StartupPhase} (h : phase.Unaware) : ¬ phase.Setting := by
  rcases h with rfl | rfl | rfl <;> decide

end StartupPhase

/-- What the threads have to do with the driver; `round` stands for all that a round of the loop
asks it for, and `waitForReady` for the return of the call. -/
inductive StartupCall (G : Type*) where
  | setFilter (gateway : G)
  | waitForReady (gateway : G)
  | on (gateway : G)
  | round (gateway : G)
  | removeEventHandler (gateway : G)

def StartupCall.Filters {G : Type*} : StartupCall G → Prop
  | .setFilter _ | .waitForReady _ => True
  | .on _ | .round _ | .removeEventHandler _ => False

/-- `calls` is history, newest first. -/
structure StartupState (G : Type*) where
  mutex : Option G
  filterIsSet : Bool
  phase : G → StartupPhase
  calls : List (StartupCall G)

namespace StartupState

variable {G : Type*}

def initial : StartupState G where
  mutex := none
  filterIsSet := false
  phase _ := .absent
  calls := []

def goOn [DecidableEq G] (s : StartupState G) (gateway : G) (phase : StartupPhase) :
    StartupState G :=
  { s with phase := Function.update s.phase gateway phase }

def called (s : StartupState G) (call : StartupCall G) : StartupState G :=
  { s with calls := call :: s.calls }

end StartupState

inductive StartupLabel where
  | create
  | startup
  | loop

/-- The atomic steps of the thread of each gateway. -/
inductive StartupStep {G : Type*} [DecidableEq G] :
    StartupState G → StartupLabel → StartupState G → Prop
  | create {s : StartupState G} {gateway : G} (hphase : s.phase gateway = .absent) :
      StartupStep s .create (s.goOn gateway .starting)
  | lock {s : StartupState G} {gateway : G} (hphase : s.phase gateway = .starting)
      (hfree : s.mutex = none) :
      StartupStep s .startup { s.goOn gateway .checking with mutex := some gateway }
  | pass {s : StartupState G} {gateway : G} (hphase : s.phase gateway = .checking)
      (hset : s.filterIsSet) :
      StartupStep s .startup (s.goOn gateway .leaving)
  | setFilter {s : StartupState G} {gateway : G} (hphase : s.phase gateway = .checking)
      (hset : ¬ s.filterIsSet) :
      StartupStep s .startup ((s.goOn gateway .awaiting).called (.setFilter gateway))
  | waitForReady {s : StartupState G} {gateway : G} (hphase : s.phase gateway = .awaiting) :
      StartupStep s .startup ((s.goOn gateway .ready).called (.waitForReady gateway))
  | putUp {s : StartupState G} {gateway : G} (hphase : s.phase gateway = .ready) :
      StartupStep s .startup { s.goOn gateway .leaving with filterIsSet := true }
  | unlock {s : StartupState G} {gateway : G} (hphase : s.phase gateway = .leaving) :
      StartupStep s .startup { s.goOn gateway .subscribing with mutex := none }
  | on {s : StartupState G} {gateway : G} (hphase : s.phase gateway = .subscribing) :
      StartupStep s .startup ((s.goOn gateway .looping).called (.on gateway))
  | round {s : StartupState G} {gateway : G} (hphase : s.phase gateway = .looping) :
      StartupStep s .loop (s.called (.round gateway))
  | finish {s : StartupState G} {gateway : G} (hphase : s.phase gateway = .looping) :
      StartupStep s .loop ((s.goOn gateway .finished).called (.removeEventHandler gateway))

namespace StartupState

variable {G : Type*}

/-- The filter was set and waited for by one thread, before all other calls and once. -/
def FilteredOnce (calls : List (StartupCall G)) : Prop :=
  ∃ gateway later, calls = later ++ [.waitForReady gateway, .setFilter gateway] ∧
    ∀ call ∈ later, ¬ call.Filters

/-- So far the filter was set and waited for by one thread, before everything else and once. -/
def FilterFirst (calls : List (StartupCall G)) : Prop :=
  calls = [] ∨ (∃ gateway, calls = [.setFilter gateway]) ∨ FilteredOnce calls

/-- A gateway works in its loop after it has subscribed to the values and before it gives up. -/
def RoundsSubscribed (calls : List (StartupCall G)) : Prop :=
  ∀ newer gateway older, calls = newer ++ .round gateway :: older →
    .on gateway ∈ older ∧ .removeEventHandler gateway ∉ older

def Locked (mutex : Option G) (phase : G → StartupPhase) : Prop :=
  ∀ gateway, mutex = some gateway ↔ (phase gateway).Inside

/-- What a thread that is about to put the flag up has called. -/
def filterCalls (gateway : G) : StartupPhase → List (StartupCall G)
  | .awaiting => [.setFilter gateway]
  | .ready => [.waitForReady gateway, .setFilter gateway]
  | _ => []

/-- How far the threads got with the filter: one of them puts the flag up, while no other has
looked at it. -/
inductive Filtering : Bool → (G → StartupPhase) → List (StartupCall G) → Prop
  | down {phase : G → StartupPhase} (hphase : ∀ gateway, (phase gateway).Unaware) :
      Filtering false phase []
  | setting {phase : G → StartupPhase} {setter : G} (hphase : (phase setter).Setting)
      (hothers : ∀ other, other ≠ setter → (phase other).Unaware) :
      Filtering false phase (filterCalls setter (phase setter))
  | up {phase : G → StartupPhase} {calls : List (StartupCall G)}
      (hphase : ∀ gateway, ¬ (phase gateway).Setting) (hcalls : FilteredOnce calls) :
      Filtering true phase calls

/-- A thread is in its loop between subscribing and giving up. -/
structure Subscribing (phase : G → StartupPhase) (calls : List (StartupCall G)) : Prop where
  looping : ∀ gateway, phase gateway = .looping → .on gateway ∈ calls
  unfinished : ∀ gateway, phase gateway ≠ .finished → .removeEventHandler gateway ∉ calls
  rounds : RoundsSubscribed calls

structure Sound (s : StartupState G) : Prop where
  locked : Locked s.mutex s.phase
  filtering : Filtering s.filterIsSet s.phase s.calls
  subscribing : Subscribing s.phase s.calls

theorem Sound.initial : (initial : StartupState G).Sound := by
  constructor
  case locked => exact fun _ => by simp [StartupState.initial, StartupPhase.Inside]
  case filtering => exact .down fun _ => Or.inl rfl
  case subscribing => constructor <;> simp [StartupState.initial, RoundsSubscribed]

end StartupState

section Invariants

variable {G : Type*} {mutex : Option G} {filterIsSet : Bool} {phase : G → StartupPhase}
  {call : StartupCall G} {calls : List (StartupCall G)} {gateway other : G}
  {before after : StartupPhase}

namespace StartupState

theorem FilteredOnce.cons (h : FilteredOnce calls) (hcall : ¬ call.Filters) :
    FilteredOnce (call :: calls) := by
  obtain ⟨gateway, later, rfl, hlater⟩ := h
  refine ⟨gateway, call :: later, rfl, ?_⟩
  intro other hother
  rcases List.mem_cons.mp hother with rfl | hother
  · exact hcall
  · exact hlater other hother

theorem RoundsSubscribed.cons (h : RoundsSubscribed calls)
    (hcall : ∀ gateway, call = .round gateway →
      .on gateway ∈ calls ∧ .removeEventHandler gateway ∉ calls) :
    RoundsSubscribed (call :: calls) := by
  rintro (_ | ⟨first, newer⟩) gateway older heq
  · obtain ⟨rfl, rfl⟩ := List.cons.inj heq
    exact hcall gateway rfl
  · exact h newer gateway older (List.cons.inj heq).2

theorem Filtering.isSet (h : Filtering filterIsSet phase calls) (hphase : phase gateway = before)
    (haware : ¬ before.Unaware) (hbefore : ¬ before.Setting) : filterIsSet := by
  subst hphase
  cases h with
  | down hphase => exact absurd (hphase gateway) haware
  | @setting _ setter hphase hothers =>
    have hne : gateway ≠ setter := fun heq => hbefore (heq ▸ hphase)
    exact absurd (hothers gateway hne) haware
  | up => rfl

theorem Filtering.called (h : Filtering filterIsSet phase calls) (hset : filterIsSet)
    (hcall : ¬ call.Filters) : Filtering filterIsSet phase (call :: calls) := by
  cases h with
  | up hphase hcalls => exact .up hphase (hcalls.cons hcall)
  | _ => cases hset

theorem Filtering.filterFirst (h : Filtering filterIsSet phase calls) : FilterFirst calls := by
  cases h with
  | down => exact Or.inl rfl
  | @setting _ setter hphase _ =>
    rcases hphase with heq | heq
    · rw [heq]
      exact Or.inr (Or.inl ⟨setter, rfl⟩)
    · rw [heq]
      exact Or.inr (Or.inr ⟨setter, [], rfl, by simp⟩)
  | up _ hcalls => exact Or.inr (Or.inr hcalls)

theorem Subscribing.called (h : Subscribing phase calls)
    (hround : ∀ gateway, call = .round gateway → phase gateway = .looping)
    (hcall : ∀ gateway, call = .removeEventHandler gateway → phase gateway = .finished) :
    Subscribing phase (call :: calls) where
  looping gateway hphase := List.mem_cons_of_mem _ (h.looping gateway hphase)
  unfinished gateway hphase hmem := by
    rcases List.mem_cons.mp hmem with heq | hmem
    · exact hphase (hcall gateway heq.symm)
    · exact h.unfinished gateway hphase hmem
  rounds := h.rounds.cons fun gateway heq => by
    have hphase := hround gateway heq
    refine ⟨h.looping gateway hphase, h.unfinished gateway ?_⟩
    rw [hphase]
    decide

theorem Locked.eq (h : Locked mutex phase) (hgateway : (phase gateway).Inside)
    (hother : (phase other).Inside) : other = gateway :=
  Option.some.inj (((h other).mpr hother).symm.trans ((h gateway).mpr hgateway))

variable [DecidableEq G]

theorem forall_update {P : G → StartupPhase → Prop} (hself : P gateway after)
    (hothers : ∀ other, other ≠ gateway → P other (phase other)) :
    ∀ other, P other (Function.update phase gateway after other) :=
  (Function.forall_update_iff phase P).mpr ⟨hself, hothers⟩

theorem Locked.update (h : Locked mutex phase) (hphase : phase gateway = before)
    (hsame : after.Inside ↔ before.Inside) :
    Locked mutex (Function.update phase gateway after) := by
  subst hphase
  exact forall_update (P := fun other phase => mutex = some other ↔ phase.Inside)
    ((h gateway).trans hsame.symm) fun other _ => h other

theorem Locked.lock (h : Locked none phase) (hafter : after.Inside) :
    Locked (some gateway) (Function.update phase gateway after) := by
  apply forall_update (P := fun other phase => some gateway = some other ↔ phase.Inside)
  · exact iff_of_true rfl hafter
  · intro other hne
    exact iff_of_false (fun heq => hne (Option.some.inj heq).symm) ((h other).not.mp nofun)

theorem Locked.unlock (h : Locked mutex phase) (hphase : phase gateway = before)
    (hbefore : before.Inside) (hafter : ¬ after.Inside) :
    Locked none (Function.update phase gateway after) := by
  subst hphase
  apply forall_update (P := fun other phase => none = some other ↔ phase.Inside)
  · exact iff_of_false nofun hafter
  · exact fun other hne => iff_of_false nofun fun hother => hne (h.eq hbefore hother)

theorem Filtering.update (h : Filtering filterIsSet phase calls) (hphase : phase gateway = before)
    (hbefore : ¬ before.Setting) (hafter : after.Unaware ∨ ¬ after.Setting ∧ filterIsSet) :
    Filtering filterIsSet (Function.update phase gateway after) calls := by
  subst hphase
  cases h with
  | down hphase =>
    have hunaware := hafter.resolve_right (by simp)
    exact .down (forall_update (P := fun _ phase => phase.Unaware) hunaware fun other _ =>
      hphase other)
  | @setting _ setter hphase hothers =>
    have hunaware := hafter.resolve_right (by simp)
    have hne : setter ≠ gateway := fun heq => hbefore (heq ▸ hphase)
    have hsame : Function.update phase gateway after setter = phase setter :=
      Function.update_of_ne hne _ _
    rw [← hsame] at hphase ⊢
    exact .setting hphase (forall_update (P := fun other phase => other ≠ setter → phase.Unaware)
      (fun _ => hunaware) fun other _ => hothers other)
  | up hphase hcalls =>
    have hquiet : ¬ after.Setting := hafter.elim StartupPhase.Unaware.not_setting And.left
    exact .up (forall_update (P := fun _ phase => ¬ phase.Setting) hquiet fun other _ =>
      hphase other) hcalls

theorem filtering_setting (hafter : after.Setting)
    (hothers : ∀ other, other ≠ gateway → (phase other).Unaware) :
    Filtering false (Function.update phase gateway after) (filterCalls gateway after) := by
  have hself : Function.update phase gateway after gateway = after := Function.update_self _ _ _
  have hsetting := @Filtering.setting G (Function.update phase gateway after) gateway
    (by rwa [hself]) (forall_update (P := fun other phase => other ≠ gateway → phase.Unaware)
      (fun hne => absurd rfl hne) fun other _ => hothers other)
  rwa [hself] at hsetting

theorem Filtering.setFilter (h : Filtering filterIsSet phase calls) (hlocked : Locked mutex phase)
    (hphase : phase gateway = .checking) (hset : ¬ filterIsSet) :
    Filtering filterIsSet (Function.update phase gateway .awaiting)
      (.setFilter gateway :: calls) := by
  cases h with
  | down hunaware => exact filtering_setting (by decide) fun other _ => hunaware other
  | @setting _ setter hsetting _ =>
    have hinside : (phase gateway).Inside := by rw [hphase]; decide
    obtain rfl := hlocked.eq hinside (Or.inr (hsetting.imp_right Or.inl))
    rw [hphase] at hsetting
    exact absurd hsetting (by decide)
  | up => exact absurd rfl hset

/-- Whoever is about to put the flag up is the one who does so. -/
theorem Filtering.alone (h : Filtering filterIsSet phase calls) (hphase : phase gateway = before)
    (hsetting : before.Setting) :
    filterIsSet = false ∧ calls = filterCalls gateway before ∧
      ∀ other, other ≠ gateway → (phase other).Unaware := by
  subst hphase
  cases h with
  | down hunaware => exact absurd hsetting (hunaware gateway).not_setting
  | @setting _ setter _ hothers =>
    obtain rfl : gateway = setter := by
      by_contra hne
      exact (hothers gateway hne).not_setting hsetting
    exact ⟨rfl, rfl, hothers⟩
  | up hquiet => exact absurd hsetting (hquiet gateway)

theorem Filtering.waitForReady (h : Filtering filterIsSet phase calls)
    (hphase : phase gateway = .awaiting) :
    Filtering filterIsSet (Function.update phase gateway .ready)
      (.waitForReady gateway :: calls) := by
  obtain ⟨rfl, rfl, hothers⟩ := h.alone hphase (by decide)
  exact filtering_setting (by decide) hothers

theorem Filtering.putUp (h : Filtering filterIsSet phase calls) (hphase : phase gateway = .ready) :
    Filtering true (Function.update phase gateway .leaving) calls := by
  obtain ⟨_, rfl, hothers⟩ := h.alone hphase (by decide)
  refine .up ?_ ⟨gateway, [], rfl, by simp⟩
  exact forall_update (P := fun _ phase => ¬ phase.Setting) (by decide) fun other hne =>
    (hothers other hne).not_setting

theorem Subscribing.update (h : Subscribing phase calls) (hphase : phase gateway = before)
    (hbefore : before ≠ .finished) (hafter : after = .looping → .on gateway ∈ calls) :
    Subscribing (Function.update phase gateway after) calls := by
  subst hphase
  constructor
  case looping =>
    exact forall_update (P := fun other phase => phase = .looping → .on other ∈ calls) hafter
      fun other _ => h.looping other
  case unfinished =>
    exact forall_update
      (P := fun other phase => phase ≠ .finished → .removeEventHandler other ∉ calls)
      (fun _ => h.unfinished gateway hbefore) fun other _ => h.unfinished other
  case rounds => exact h.rounds

end StartupState

end Invariants

section Steps

variable {G : Type*} [DecidableEq G] {s t : StartupState G} {l : StartupLabel}

theorem StartupStep.locked (h : StartupStep s l t) (hs : s.Sound) :
    StartupState.Locked t.mutex t.phase := by
  have hlocked := hs.locked
  cases h with
  | lock _ hfree => exact (hfree ▸ hlocked).lock (by decide)
  | unlock hphase => exact hlocked.unlock hphase (by decide) (by decide)
  | round => exact hlocked
  | create hphase | pass hphase _ | setFilter hphase _ | waitForReady hphase | putUp hphase
  | on hphase | finish hphase => exact hlocked.update hphase (by decide)

theorem StartupStep.filtering (h : StartupStep s l t) (hs : s.Sound) :
    StartupState.Filtering t.filterIsSet t.phase t.calls := by
  have hfiltering := hs.filtering
  cases h with
  | create hphase | lock hphase _ =>
    exact hfiltering.update hphase (by decide) (Or.inl (by decide))
  | pass hphase hset => exact hfiltering.update hphase (by decide) (Or.inr ⟨by decide, hset⟩)
  | setFilter hphase hset => exact hfiltering.setFilter hs.locked hphase hset
  | waitForReady hphase => exact hfiltering.waitForReady hphase
  | putUp hphase => exact hfiltering.putUp hphase
  | unlock hphase =>
    have hset := hfiltering.isSet hphase (by decide) (by decide)
    exact hfiltering.update hphase (by decide) (Or.inr ⟨by decide, hset⟩)
  | on hphase | finish hphase =>
    have hset := hfiltering.isSet hphase (by decide) (by decide)
    exact (hfiltering.update hphase (by decide) (Or.inr ⟨by decide, hset⟩)).called hset id
  | round hphase =>
    exact hfiltering.called (hfiltering.isSet hphase (by decide) (by decide)) id

theorem StartupStep.subscribing (h : StartupStep s l t) (hs : s.Sound) :
    StartupState.Subscribing t.phase t.calls := by
  have hsubscribing := hs.subscribing
  cases h with
  | create hphase | lock hphase _ | pass hphase _ | putUp hphase | unlock hphase =>
    exact hsubscribing.update hphase (by decide) (by nofun)
  | setFilter hphase _ | waitForReady hphase =>
    exact (hsubscribing.update hphase (by decide) (by nofun)).called (by nofun) (by nofun)
  | on hphase =>
    exact (hsubscribing.called (by nofun) (by nofun)).update hphase (by decide) fun _ =>
      List.mem_cons_self
  | round hphase =>
    refine hsubscribing.called (fun other heq => ?_) (by nofun)
    obtain rfl := StartupCall.round.inj heq
    exact hphase
  | finish hphase =>
    refine (hsubscribing.update hphase (by decide) (by nofun)).called (by nofun) fun other heq => ?_
    obtain rfl := StartupCall.removeEventHandler.inj heq
    exact Function.update_self _ _ _

theorem StartupStep.sound (h : StartupStep s l t) (hs : s.Sound) : t.Sound :=
  ⟨h.locked hs, h.filtering hs, h.subscribing hs⟩

/-- A run in which gateways do nothing but start. -/
def Reaching (s t : StartupState G) : Prop :=
  Leads StartupStep (fun _ l => l = .startup) s t

namespace StartupState

variable {gateway : G}

/-- The thread leaves the critical section, and nobody else has moved. -/
def Frees (s : StartupState G) (gateway : G) : Prop :=
  ∃ t, Reaching s t ∧ t.mutex = none ∧
    t.phase = Function.update s.phase gateway .subscribing

theorem Frees.of_step (h : StartupStep s .startup t) (ht : t.Frees gateway)
    (hsame : ∀ other, other ≠ gateway → t.phase other = s.phase other) : s.Frees gateway := by
  obtain ⟨u, hlead, hfree, hphase⟩ := ht
  refine ⟨u, (Leads.refl.tail h rfl).trans hlead, hfree, ?_⟩
  rw [hphase]
  funext other
  by_cases heq : other = gateway
  · rw [heq, Function.update_self, Function.update_self]
  · rw [Function.update_of_ne heq, Function.update_of_ne heq, hsame other heq]

theorem frees_of_leaving (h : s.phase gateway = .leaving) : s.Frees gateway :=
  ⟨_, Leads.refl.tail (.unlock h) rfl, rfl, rfl⟩

theorem frees_of_ready (h : s.phase gateway = .ready) : s.Frees gateway :=
  .of_step (.putUp h) (frees_of_leaving (Function.update_self _ _ _)) fun _ hne =>
    Function.update_of_ne hne _ _

theorem frees_of_awaiting (h : s.phase gateway = .awaiting) : s.Frees gateway :=
  .of_step (.waitForReady h) (frees_of_ready (Function.update_self _ _ _)) fun _ hne =>
    Function.update_of_ne hne _ _

theorem frees_of_checking (h : s.phase gateway = .checking) : s.Frees gateway := by
  by_cases hset : s.filterIsSet
  · exact .of_step (.pass h hset) (frees_of_leaving (Function.update_self _ _ _)) fun _ hne =>
      Function.update_of_ne hne _ _
  · exact .of_step (.setFilter h hset) (frees_of_awaiting (Function.update_self _ _ _))
      fun _ hne => Function.update_of_ne hne _ _

theorem frees (h : (s.phase gateway).Inside) : s.Frees gateway := by
  rcases h with h | h | h | h
  · exact frees_of_checking h
  · exact frees_of_awaiting h
  · exact frees_of_ready h
  · exact frees_of_leaving h

/-- The thread gets to its loop. -/
def Loops (s : StartupState G) (gateway : G) : Prop :=
  ∃ t, Reaching s t ∧ t.phase gateway = .looping

theorem Loops.of_reaching (h : Reaching s t) (ht : t.Loops gateway) : s.Loops gateway := by
  obtain ⟨u, hlead, hphase⟩ := ht
  exact ⟨u, h.trans hlead, hphase⟩

theorem loops_of_subscribing (h : s.phase gateway = .subscribing) : s.Loops gateway :=
  ⟨_, Leads.refl.tail (.on h) rfl, Function.update_self _ _ _⟩

theorem loops_of_inside (h : (s.phase gateway).Inside) : s.Loops gateway := by
  obtain ⟨t, hlead, _, hphase⟩ := frees h
  refine .of_reaching hlead (loops_of_subscribing ?_)
  rw [hphase, Function.update_self]

theorem loops_of_free (h : s.phase gateway = .starting) (hfree : s.mutex = none) :
    s.Loops gateway := by
  refine .of_reaching (Leads.refl.tail (.lock h hfree) rfl) (loops_of_inside ?_)
  exact Or.inl (Function.update_self _ _ _)

/-- Whoever has the mutex lets the others in. -/
theorem Sound.loops (hs : s.Sound) (h : (s.phase gateway).Underway) : s.Loops gateway := by
  rcases h with h | h | h
  · cases hmutex : s.mutex with
    | none => exact loops_of_free h hmutex
    | some holder =>
      have hinside := (hs.locked holder).mp hmutex
      have hne : gateway ≠ holder := by
        rintro rfl
        rw [h] at hinside
        exact absurd hinside (by decide)
      obtain ⟨t, hlead, hfree, hphase⟩ := frees hinside
      refine .of_reaching hlead (loops_of_free ?_ hfree)
      rw [hphase, Function.update_of_ne hne, h]
  · exact loops_of_inside h
  · exact loops_of_subscribing h

end StartupState

/-- However many gateways are created, and whenever: one thread sets the filter and waits for the
driver before any thread subscribes or works, all others pass, a thread works only while it is
subscribed, and whoever is on its way can get to its loop. -/
theorem filter_set_first (h : Leads StartupStep Anyhow .initial s) :
    StartupState.FilterFirst s.calls ∧ StartupState.RoundsSubscribed s.calls ∧
      ∀ gateway, (s.phase gateway).Underway →
        ∃ t, Leads StartupStep (fun _ l => l = .startup) s t ∧ t.phase gateway = .looping := by
  have hsound : s.Sound := h.invariant (fun _ _ _ hs _ hstep => hstep.sound hs) .initial
  exact ⟨hsound.filtering.filterFirst, hsound.subscribing.rounds, fun _ => hsound.loops⟩

end Steps

def firstChecking : StartupState Bool :=
  { ((StartupState.initial.goOn false .starting).goOn true .starting).goOn false .checking with
    mutex := some false }

theorem firstChecking_leads : Leads StartupStep Anyhow .initial firstChecking := by
  have hfirst := @StartupStep.create Bool _ .initial false rfl
  have hsecond := @StartupStep.create Bool _ (StartupState.initial.goOn false .starting) true rfl
  exact ((Leads.refl.step hfirst).step hsecond).step (.lock rfl rfl)

/-- The second gateway stands at the mutex while the first waits for the driver. -/
theorem filter_set_first_second :
    ∃ s : StartupState Bool, s.phase true = .starting ∧ s.calls = [.setFilter false] ∧
      ∃ t, Leads StartupStep (fun _ l => l = .startup) s t ∧ t.phase true = .looping := by
  have hset := @StartupStep.setFilter Bool _ firstChecking false rfl (by decide)
  have hrun := firstChecking_leads.step hset
  exact ⟨_, rfl, rfl, (filter_set_first hrun).2.2 true (Or.inl rfl)⟩

end SmartWebGateway
