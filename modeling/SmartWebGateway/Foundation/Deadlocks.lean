import SmartWebGateway.Foundation.Locks
import Mathlib.Data.List.Pairwise
import Mathlib.Tactic

/-!
# No deadlock by an order of the mutexes

Each mutex and each end of a thread has a level, and whoever has some of them takes
only those of lower levels. Then nobody waits for mutexes and ends in a circle, and
whoever waits for one waits in the end for a thread that goes on, or for the end of
one that waits for a notification without a timeout.
-/
namespace Foundation

/-- What somebody can wait for: that a mutex is free, or that a thread has ended. -/
inductive Resource (M T : Type*) where
  | mutex (mutex : M)
  | ending (thread : T)
  deriving DecidableEq

section Waiting

variable {M T : Type*}

/-- What a thread has with these frames to do. While it waits for a condition variable it does not
have the mutex that it locked last. -/
def taken (t : T) : List (LockFrame M T) → List (Resource M T)
  | [] => [.ending t]
  | .unlock m :: rest => .mutex m :: taken t rest
  | .asleep _ _ :: rest | .relock _ :: rest => (taken t rest).tail
  | .run _ :: rest | .join _ :: rest | .rounds :: rest => taken t rest

/-- What the next step of a thread needs. -/
def wanted : List (LockFrame M T) → Option (Resource M T)
  | .run (.locked m _) :: _ | .relock m :: _ => some (.mutex m)
  | .join t :: _ => some (.ending t)
  | _ => none

namespace LockState

/-- Nobody else can get it now. -/
def Holds (s : LockState M T) (t : T) : Resource M T → Prop
  | .mutex m => s.holder m = some t
  | .ending t' => t' = t ∧ s.stack t ≠ []

def WaitsFor (s : LockState M T) (t t' : T) : Prop :=
  ∃ r, wanted (s.stack t) = some r ∧ s.Holds t' r

/-- The thread waits for a notification without a timeout. -/
def Sleeps (s : LockState M T) (t : T) : Prop := ∃ m rest, s.stack t = .asleep m false :: rest

/-- The thread has not ended, and it waits neither for anybody nor without a timeout. -/
structure Ready (s : LockState M T) (t : T) : Prop where
  runs : s.stack t ≠ []
  free : ∀ t', ¬ s.WaitsFor t t'
  awake : ¬ s.Sleeps t

end LockState

end Waiting

section Levels

variable {M T ι : Type*} [Preorder ι]

def Below (level : Resource M T → ι) (held : List (Resource M T)) (r : Resource M T) : Prop :=
  ∀ h ∈ held, level r < level h

def Unlocked (held : List (Resource M T)) : Prop := ∀ m, .mutex m ∉ held

/-- The mutex that was taken last can be given back in a wait, which is with a timeout as long as
there are others. -/
def CanWait (held : List (Resource M T)) (m : M) (timed : Bool) : Prop :=
  held.head? = some (.mutex m) ∧ (timed = false → Unlocked held.tail)

/-- Code that is run with `held` takes what it needs downwards. -/
def LockCode.Ordered (level : Resource M T → ι) : List (Resource M T) → LockCode M T → Prop
  | _, .skip | _, .notify _ | _, .start _ => True
  | held, .locked m body =>
    Below level held (.mutex m) ∧ body.Ordered level (.mutex m :: held)
  | held, .wait m timed => CanWait held m timed
  | held, .stop t told => Below level held (.ending t) ∧ told.Ordered level held
  | held, .seq first second | held, .choice first second =>
    first.Ordered level held ∧ second.Ordered level held
  | held, .loop body => body.Ordered level held

structure LoopingThread.Ordered (level : Resource M T → ι) (t : T) (code : LoopingThread M T) :
    Prop where
  before : code.before.Ordered level [.ending t]
  round : code.round.Ordered level [.ending t]
  after : code.after.Ordered level [.ending t]

/-- What a thread has still to do is in order, and it goes round with no mutex. -/
def StackOrdered (level : Resource M T → ι) (t : T) : List (LockFrame M T) → Prop
  | [] => True
  | .run code :: rest => code.Ordered level (taken t rest) ∧ StackOrdered level t rest
  | .unlock m :: rest => Below level (taken t rest) (.mutex m) ∧ StackOrdered level t rest
  | .asleep m timed :: rest => CanWait (taken t rest) m timed ∧ StackOrdered level t rest
  | .relock m :: rest => (taken t rest).head? = some (.mutex m) ∧ StackOrdered level t rest
  | .join t' :: rest => Below level (taken t rest) (.ending t') ∧ StackOrdered level t rest
  | .rounds :: rest => taken t rest = [.ending t] ∧ StackOrdered level t rest

structure LockState.Orderly (level : Resource M T → ι) (s : LockState M T) : Prop where
  ordered : ∀ t, StackOrdered level t (s.stack t)
  holds : ∀ m t, s.holder m = some t ↔ .mutex m ∈ taken t (s.stack t)
  told : ∀ t t', .join t' ∈ s.stack t → ¬ s.enabled t'

end Levels

section Orderliness

variable {M T ι : Type*} [Preorder ι] {level : Resource M T → ι} {s s' : LockState M T}
  {t t' : T} {m : M} {r : Resource M T} {frames rest : List (LockFrame M T)}

namespace StackOrdered

theorem of_cons {frame : LockFrame M T} (h : StackOrdered level t (frame :: rest)) :
    StackOrdered level t rest := by
  cases frame <;> exact h.2

theorem descending (h : StackOrdered level t frames) :
    (taken t frames).Pairwise fun later earlier => level later < level earlier := by
  induction frames with
  | nil => exact List.pairwise_singleton _ _
  | cons frame rest ih =>
    have hrest := ih h.of_cons
    cases frame with
    | unlock m => exact List.pairwise_cons.mpr ⟨h.1, hrest⟩
    | asleep m timed | relock m => exact hrest.tail
    | run code | join t' | rounds => exact hrest

theorem ending_mem (h : StackOrdered level t frames) : .ending t ∈ taken t frames := by
  induction frames with
  | nil => exact List.mem_singleton_self _
  | cons frame rest ih =>
    have hrest := ih h.of_cons
    -- what a wait gives back is a mutex, never the thread's own end
    have htail : ∀ m, (taken t rest).head? = some (.mutex m) →
        .ending t ∈ (taken t rest).tail := by
      intro m hhead
      obtain ⟨outer, houter⟩ := List.head?_eq_some_iff.mp hhead
      rw [houter] at hrest ⊢
      exact (List.mem_cons.mp hrest).resolve_left (by simp)
    cases frame with
    | unlock m => exact List.mem_cons_of_mem _ hrest
    | asleep m timed => exact htail m h.1.1
    | relock m => exact htail m h.1
    | run code | join t' | rounds => exact hrest

theorem wanted_below (h : StackOrdered level t frames) (hwanted : wanted frames = some r) :
    Below level (taken t frames) r := by
  cases frames with
  | nil => cases hwanted
  | cons frame rest =>
    cases frame with
    | run code =>
      cases code with
      | locked m body =>
        obtain rfl := Option.some.inj hwanted
        exact h.1.1
      | _ => cases hwanted
    | relock m =>
      obtain rfl := Option.some.inj hwanted
      obtain ⟨outer, houter⟩ := List.head?_eq_some_iff.mp h.1
      have hdescending := descending h.2
      rw [houter] at hdescending
      rw [taken, houter]
      exact (List.pairwise_cons.mp hdescending).1
    | join t' =>
      obtain rfl := Option.some.inj hwanted
      exact h.1
    | unlock m => cases hwanted
    | asleep m timed => cases hwanted
    | rounds => cases hwanted

theorem not_mem_of_cons (h : StackOrdered level t frames) {outer : List (Resource M T)}
    (htaken : taken t frames = r :: outer) : r ∉ outer := by
  have hdescending := h.descending
  rw [htaken] at hdescending
  exact fun hmem => lt_irrefl _ ((List.pairwise_cons.mp hdescending).1 r hmem)

end StackOrdered

theorem LoopingThread.Ordered.stackOrdered {code : LoopingThread M T}
    (h : code.Ordered level t) : StackOrdered level t code.frames :=
  ⟨h.before, rfl, h.after, trivial⟩

theorem eq_join_of_wanted (h : wanted frames = some (.ending t)) :
    ∃ rest, frames = .join t :: rest := by
  unfold wanted at h
  split at h
  · cases h
  · cases h
  · obtain rfl := Resource.ending.inj (Option.some.inj h)
    exact ⟨_, rfl⟩
  · cases h

namespace LockState

theorem Orderly.mem_taken (h : s.Orderly level) (hholds : s.Holds t r) :
    r ∈ taken t (s.stack t) := by
  cases r with
  | mutex m => exact (h.holds m t).mp hholds
  | ending t' =>
    obtain ⟨rfl, _⟩ := hholds
    exact (h.ordered t').ending_mem

theorem Orderly.not_ended (h : s.Orderly level) (hholds : s.Holds t r) : s.stack t ≠ [] := by
  cases r with
  | mutex m =>
    intro hended
    have hmem := h.mem_taken hholds
    rw [hended] at hmem
    cases List.mem_singleton.mp hmem
  | ending t' => exact hholds.2

theorem Orderly.transGen_level (h : s.Orderly level)
    (hwaits : Relation.TransGen s.WaitsFor t t') :
    ∃ r r', wanted (s.stack t) = some r ∧ s.Holds t' r' ∧ level r' ≤ level r := by
  induction hwaits with
  | single hlast =>
    obtain ⟨r, hwanted, hholds⟩ := hlast
    exact ⟨r, r, hwanted, hholds, le_rfl⟩
  | tail _ hlast ih =>
    obtain ⟨r, r', hwanted, hholds, hle⟩ := ih
    obtain ⟨r'', hwanted', hholds'⟩ := hlast
    have hlt : level r'' < level r' :=
      (h.ordered _).wanted_below hwanted' r' (h.mem_taken hholds)
    exact ⟨r, r'', hwanted, hholds', hlt.le.trans hle⟩

/-- Nobody waits for itself, through others either. -/
theorem Orderly.not_circular (h : s.Orderly level) (t : T) :
    ¬ Relation.TransGen s.WaitsFor t t := by
  intro hwaits
  obtain ⟨r, r', hwanted, hholds, hle⟩ := h.transGen_level hwaits
  exact absurd ((h.ordered t).wanted_below hwanted r' (h.mem_taken hholds)) hle.not_gt

/-- A thread that waits for a notification without a timeout has nothing but its own end. -/
theorem Orderly.eq_ending_of_sleeps (h : s.Orderly level) (hsleeps : s.Sleeps t)
    (hholds : s.Holds t r) : r = .ending t := by
  cases r with
  | mutex m =>
    obtain ⟨m', rest, hstack⟩ := hsleeps
    have hordered := h.ordered t
    have hmem := h.mem_taken hholds
    rw [hstack] at hordered hmem
    exact absurd hmem (hordered.1.2 rfl m)
  | ending t' =>
    obtain ⟨rfl, _⟩ := hholds
    rfl

/-- Who waits, waits in the end for a thread that waits for nobody. -/
theorem Orderly.exists_last [WellFoundedLT ι] (h : s.Orderly level) (hwaits : s.WaitsFor t t') :
    ∃ u, Relation.TransGen s.WaitsFor t u ∧ s.stack u ≠ [] ∧ ∀ v, ¬ s.WaitsFor u v := by
  obtain ⟨r, hwanted, hholds⟩ := hwaits
  induction hr : level r using WellFoundedLT.induction generalizing t t' r with
  | ind n ih =>
    subst hr
    have hfirst : s.WaitsFor t t' := ⟨r, hwanted, hholds⟩
    by_cases hwaits : ∃ u, s.WaitsFor t' u
    · obtain ⟨u, r', hwanted', hholds'⟩ := hwaits
      have hlt : level r' < level r :=
        (h.ordered t').wanted_below hwanted' r (h.mem_taken hholds)
      obtain ⟨v, hchain, hlast⟩ := ih _ hlt r' hwanted' hholds' rfl
      exact ⟨v, .head hfirst hchain, hlast⟩
    · exact ⟨t', .single hfirst, h.not_ended hholds, fun u hu => hwaits ⟨u, hu⟩⟩

/-- Who waits, waits in the end for a thread that goes on, or for somebody who joins a thread that
waits for a notification without a timeout. -/
theorem Orderly.exists_ready [WellFoundedLT ι] (h : s.Orderly level) (hwaits : s.WaitsFor t t') :
    (∃ u, Relation.TransGen s.WaitsFor t u ∧ s.Ready u) ∨
    ∃ v u rest, Relation.ReflTransGen s.WaitsFor t v ∧ s.stack v = .join u :: rest ∧
      s.Sleeps u := by
  obtain ⟨u, hchain, hruns, hfree⟩ := h.exists_last hwaits
  by_cases hsleeps : s.Sleeps u
  · obtain ⟨v, hbefore, r, hwanted, hholds⟩ := Relation.TransGen.tail'_iff.mp hchain
    rw [h.eq_ending_of_sleeps hsleeps hholds] at hwanted
    obtain ⟨rest, hstack⟩ := eq_join_of_wanted hwanted
    exact Or.inr ⟨v, u, rest, hbefore, hstack, hsleeps⟩
  · exact Or.inl ⟨u, hchain, hruns, hfree, hsleeps⟩

/-- Somebody waits for a thread between two rounds only if it was told to stop. -/
theorem Orderly.told_of_waitsFor (h : s.Orderly level) (hwaits : s.WaitsFor t t')
    (hstack : s.stack t' = .rounds :: rest) : ¬ s.enabled t' := by
  obtain ⟨r, hwanted, hholds⟩ := hwaits
  have hmem := h.mem_taken hholds
  have hordered := h.ordered t'
  rw [hstack] at hmem hordered
  rw [taken, hordered.1] at hmem
  obtain rfl := List.mem_singleton.mp hmem
  obtain ⟨_, hjoin⟩ := eq_join_of_wanted hwanted
  exact h.told t t' (hjoin ▸ List.mem_cons_self)

theorem Ready.mutex_free (h : s.Ready t) (hwanted : wanted (s.stack t) = some (.mutex m)) :
    s.holder m = none := by
  by_contra hheld
  obtain ⟨t', ht'⟩ := Option.ne_none_iff_exists'.mp hheld
  exact h.free t' ⟨_, hwanted, ht'⟩

theorem Ready.ended (h : s.Ready t) (hwanted : wanted (s.stack t) = some (.ending t')) :
    s.stack t' = [] := by
  by_contra hruns
  exact h.free t' ⟨_, hwanted, rfl, hruns⟩

end LockState

section Woken

variable [DecidableEq M]

@[simp] theorem taken_woken : taken t (woken m frames) = taken t frames := by
  unfold woken
  split
  · split_ifs
    · rfl
    · rfl
  · rfl

theorem stackOrdered_woken (h : StackOrdered level t frames) :
    StackOrdered level t (woken m frames) := by
  unfold woken
  split
  · split_ifs
    · exact ⟨h.1.1, h.2⟩
    · exact h
  · exact h

theorem join_mem_woken : .join t ∈ woken m frames ↔ .join t ∈ frames := by
  unfold woken
  split
  · split_ifs
    · simp
    · rfl
  · rfl

theorem LockState.Orderly.notify (h : s.Orderly level) (m : M) : (s.notify m).Orderly level where
  ordered t := stackOrdered_woken (h.ordered t)
  holds m' t := by
    change s.holder m' = some t ↔ .mutex m' ∈ taken t (woken m (s.stack t))
    rw [taken_woken]
    exact h.holds m' t
  told t t' hjoin := h.told t t' (join_mem_woken.mp hjoin)

end Woken

section Steps

variable [DecidableEq T]

namespace LockState

namespace Orderly

theorem ordered_goOn (h : s.Orderly level) (hordered : StackOrdered level t frames) (t' : T) :
    StackOrdered level t' ((s.goOn t frames).stack t') := by
  by_cases heq : t' = t
  · subst heq
    rw [goOn_stack_self]
    exact hordered
  · rw [goOn_stack_of_ne heq]
    exact h.ordered t'

theorem told_goOn (h : s.Orderly level)
    (htold : ∀ u, .join u ∈ frames → .join u ∈ s.stack t ∨ ¬ s.enabled u) (t' u : T)
    (hjoin : .join u ∈ (s.goOn t frames).stack t') : ¬ s.enabled u := by
  by_cases heq : t' = t
  · subst heq
    rw [goOn_stack_self] at hjoin
    exact (htold u hjoin).elim (h.told t' u) id
  · rw [goOn_stack_of_ne heq] at hjoin
    exact h.told t' u hjoin

theorem goOn (h : s.Orderly level) (hordered : StackOrdered level t frames)
    (htaken : taken t frames = taken t (s.stack t))
    (htold : ∀ u, .join u ∈ frames → .join u ∈ s.stack t ∨ ¬ s.enabled u) :
    (s.goOn t frames).Orderly level where
  ordered := h.ordered_goOn hordered
  holds m t' := by
    by_cases heq : t' = t
    · subst heq
      rw [goOn_stack_self, htaken]
      exact h.holds m t'
    · rw [goOn_stack_of_ne heq]
      exact h.holds m t'
  told := h.told_goOn htold

variable [DecidableEq M]

theorem acquire (h : s.Orderly level) (hfree : s.holder m = none)
    (hordered : StackOrdered level t frames)
    (htaken : taken t frames = .mutex m :: taken t (s.stack t))
    (htold : ∀ u, .join u ∈ frames → .join u ∈ s.stack t ∨ ¬ s.enabled u) :
    ((s.goOn t frames).hold m (some t)).Orderly level where
  ordered := h.ordered_goOn hordered
  holds m' t' := by
    change Function.update s.holder m (some t) m' = some t' ↔
      .mutex m' ∈ taken t' ((s.goOn t frames).stack t')
    have hnobody : .mutex m ∉ taken t' (s.stack t') := by
      rw [← h.holds, hfree]
      exact nofun
    by_cases heq : t' = t
    · subst heq
      rw [goOn_stack_self, htaken, List.mem_cons, ← h.holds]
      by_cases hm : m' = m
      · subst hm
        simp
      · rw [Function.update_of_ne hm]
        simp [hm]
    · rw [goOn_stack_of_ne heq]
      by_cases hm : m' = m
      · subst hm
        rw [Function.update_self]
        refine iff_of_false ?_ hnobody
        exact fun hsome => heq (Option.some.inj hsome).symm
      · rw [Function.update_of_ne hm]
        exact h.holds m' t'
  told := h.told_goOn htold

theorem release (h : s.Orderly level) (hordered : StackOrdered level t frames)
    (htaken : taken t (s.stack t) = .mutex m :: taken t frames)
    (htold : ∀ u, .join u ∈ frames → .join u ∈ s.stack t ∨ ¬ s.enabled u) :
    ((s.goOn t frames).hold m none).Orderly level where
  ordered := h.ordered_goOn hordered
  holds m' t' := by
    change Function.update s.holder m none m' = some t' ↔
      .mutex m' ∈ taken t' ((s.goOn t frames).stack t')
    have hheld : s.holder m = some t := by
      rw [h.holds, htaken]
      exact List.mem_cons_self
    by_cases hm : m' = m
    · subst hm
      rw [Function.update_self]
      refine iff_of_false (by simp) ?_
      by_cases heq : t' = t
      · subst heq
        rw [goOn_stack_self]
        exact (h.ordered t').not_mem_of_cons htaken
      · rw [goOn_stack_of_ne heq, ← h.holds, hheld]
        exact fun hsome => heq (Option.some.inj hsome).symm
    · rw [Function.update_of_ne hm, h.holds]
      by_cases heq : t' = t
      · subst heq
        rw [goOn_stack_self, htaken]
        simp [hm]
      · rw [goOn_stack_of_ne heq]
  told := h.told_goOn htold

omit [DecidableEq M]

theorem disable (h : s.Orderly level) (t : T) : (s.disable t).Orderly level where
  ordered := h.ordered
  holds := h.holds
  told t' u hjoin := by
    by_cases heq : u = t
    · subst heq
      simp [LockState.disable]
    · simp only [LockState.disable, Function.update_of_ne heq]
      exact h.told t' u hjoin

theorem begin (h : s.Orderly level) {code : LoopingThread M T} (hcode : code.Ordered level t) :
    (s.begin t code).Orderly level := by
  unfold LockState.begin
  split
  · rename_i hended
    refine h.goOn hcode.stackOrdered ?_ ?_
    · rw [List.isEmpty_iff.mp hended]
      rfl
    · simp [LoopingThread.frames]
  · exact h

end Orderly

end LockState

variable [DecidableEq M] {code : T → LoopingThread M T}

omit [DecidableEq M] in
theorem LockState.Orderly.wake {timed : Bool} (h : s.Orderly level)
    (hstack : s.stack t = .asleep m timed :: rest) :
    (s.goOn t (.relock m :: rest)).Orderly level := by
  have hordered := h.ordered t
  rw [hstack] at hordered
  exact h.goOn ⟨hordered.1.1, hordered.2⟩ (by rw [hstack]; rfl) (by simp +contextual [hstack])

/-- Every step keeps the order. -/
theorem LockState.Orderly.step (h : s.Orderly level) (hcode : ∀ t, (code t).Ordered level t)
    (hstep : LockStep code s t s') : s'.Orderly level := by
  have hordered := h.ordered t
  cases hstep with
  | skip hstack | leave hstack | finish hstack | join hstack =>
    rw [hstack] at hordered
    exact h.goOn hordered.2 (by rw [hstack]; rfl) (by simp +contextual [hstack])
  | lock hstack hfree =>
    rw [hstack] at hordered
    obtain ⟨⟨hbelow, hbody⟩, hrest⟩ := hordered
    exact h.acquire hfree ⟨hbody, hbelow, hrest⟩ (by rw [hstack]; rfl)
      (by simp +contextual [hstack])
  | unlock hstack =>
    rw [hstack] at hordered
    exact h.release hordered.2 (by rw [hstack]; rfl) (by simp +contextual [hstack])
  | wait hstack =>
    rw [hstack] at hordered
    obtain ⟨outer, houter⟩ := List.head?_eq_some_iff.mp hordered.1.1
    exact h.release hordered (by rw [hstack, taken, taken, houter]; rfl)
      (by simp +contextual [hstack])
  | expire hstack => exact h.wake hstack
  | notify hstack =>
    rw [hstack] at hordered
    exact (h.goOn hordered.2 (by rw [hstack]; rfl) (by simp +contextual [hstack])).notify _
  | relock hstack hfree =>
    rw [hstack] at hordered
    obtain ⟨outer, houter⟩ := List.head?_eq_some_iff.mp hordered.1
    exact h.acquire hfree hordered.2 (by rw [hstack, taken, houter]; rfl)
      (by simp +contextual [hstack])
  | start hstack =>
    rw [hstack] at hordered
    exact (h.goOn hordered.2 (by rw [hstack]; rfl) (by simp +contextual [hstack])).begin (hcode _)
  | stop hstack =>
    rw [hstack] at hordered
    obtain ⟨⟨hbelow, htold⟩, hrest⟩ := hordered
    refine (h.disable _).goOn ⟨htold, hbelow, hrest⟩ ?_ ?_
    · change _ = taken t (s.stack t)
      rw [hstack]
      rfl
    · intro u hjoin
      rcases List.mem_cons.mp ((List.mem_cons.mp hjoin).resolve_left nofun) with heq | hjoin
      · obtain rfl := LockFrame.join.inj heq
        exact Or.inr (by simp [LockState.disable])
      · refine Or.inl ?_
        change _ ∈ s.stack t
        rw [hstack]
        exact List.mem_cons_of_mem _ hjoin
  | seq hstack =>
    rw [hstack] at hordered
    obtain ⟨⟨hfirst, hsecond⟩, hrest⟩ := hordered
    exact h.goOn ⟨hfirst, hsecond, hrest⟩ (by rw [hstack]; rfl) (by simp +contextual [hstack])
  | first hstack =>
    rw [hstack] at hordered
    exact h.goOn ⟨hordered.1.1, hordered.2⟩ (by rw [hstack]; rfl) (by simp +contextual [hstack])
  | second hstack =>
    rw [hstack] at hordered
    exact h.goOn ⟨hordered.1.2, hordered.2⟩ (by rw [hstack]; rfl) (by simp +contextual [hstack])
  | again hstack =>
    rw [hstack] at hordered
    obtain ⟨hbody, hrest⟩ := hordered
    exact h.goOn ⟨hbody, hbody, hrest⟩ (by rw [hstack]; rfl) (by simp +contextual [hstack])
  | round hstack henabled =>
    rw [hstack] at hordered
    have hround := (hcode t).round
    rw [← hordered.1] at hround
    exact h.goOn ⟨hround, hordered⟩ (by rw [hstack]; rfl) (by simp +contextual [hstack])

omit [DecidableEq M] in
theorem LockState.orderly_initial {main : T} (hcode : (code main).Ordered level main) :
    (LockState.initial main (code main) : LockState M T).Orderly level where
  ordered t := by
    by_cases heq : t = main
    · subst heq
      simp only [LockState.initial, Function.update_self]
      exact hcode.stackOrdered
    · simp only [LockState.initial, Function.update_of_ne heq]
      trivial
  holds m t := by
    refine iff_of_false (by simp [LockState.initial]) ?_
    by_cases heq : t = main
    · subst heq
      simp [LockState.initial, LoopingThread.frames, taken]
    · simp [LockState.initial, Function.update_of_ne heq, taken]
  told t u hjoin := by
    by_cases heq : t = main
    · subst heq
      simp [LockState.initial, LoopingThread.frames] at hjoin
    · simp [LockState.initial, Function.update_of_ne heq] at hjoin

theorem LockState.orderly_of_leads {main : T} (hcode : ∀ t, (code t).Ordered level t)
    (hrun : Leads (LockEvent code) Anyhow (.initial main (code main)) s) : s.Orderly level := by
  refine hrun.invariant (fun s t s' hs _ hevent => ?_) (orderly_initial (hcode main))
  cases hevent with
  | step hstep => exact hs.step hcode hstep
  | spurious hstack => exact hs.wake hstack

end Steps

end Orderliness

section Composition

variable {M M' T T' ι κ : Type*} [Preorder ι] [Preorder κ] {level : Resource M T → ι}
  {level' : Resource M' T' → κ} {held : List (Resource M T)}

namespace LockCode

theorem ordered_all {codes : List (LockCode M T)} :
    (all codes).Ordered level held ↔ ∀ code ∈ codes, code.Ordered level held :=
  foldr_iff trivial (fun _ _ => Iff.rfl) codes

theorem ordered_any {codes : List (LockCode M T)} :
    (any codes).Ordered level held ↔ ∀ code ∈ codes, code.Ordered level held :=
  foldr_iff trivial (fun _ _ => Iff.rfl) codes

theorem ordered_lockedAll {mutexes : List M} {body : LockCode M T}
    (hmutexes : ∀ m ∈ mutexes, Below level held (.mutex m))
    (hdescending : mutexes.Pairwise fun outer inner =>
      level (.mutex inner) < level (.mutex outer))
    (hbody : body.Ordered level ((mutexes.map Resource.mutex).reverse ++ held)) :
    (lockedAll mutexes body).Ordered level held := by
  induction mutexes generalizing held with
  | nil => exact hbody
  | cons m mutexes ih =>
    obtain ⟨hfirst, hrest⟩ := List.forall_mem_cons.mp hmutexes
    obtain ⟨hinner, hdescending⟩ := List.pairwise_cons.mp hdescending
    refine ⟨hfirst, ih ?_ hdescending ?_⟩
    · intro m' hm' r hr
      rcases List.mem_cons.mp hr with rfl | hr
      · exact hinner m' hm'
      · exact hrest m' hm' r hr
    · rw [List.map_cons, List.reverse_cons, List.append_assoc] at hbody
      exact hbody

end LockCode

def Resource.map (f : M → M') (g : T → T') : Resource M T → Resource M' T'
  | .mutex m => .mutex (f m)
  | .ending t => .ending (g t)

/-- A part that keeps its own order keeps that of the whole, below whatever is held around it. Its
waits all have a timeout. -/
theorem LockCode.Ordered.map {f : M → M'} {g : T → T'} {code : LockCode M T}
    (h : code.Ordered level held) (hwaits : code.Throughout fun part => ∀ m, part ≠ .wait m false)
    {outer : List (Resource M' T')}
    (hlevel : ∀ r r', level r < level r' → level' (r.map f g) < level' (r'.map f g))
    (houter : ∀ r : Resource M T, Below level' outer (r.map f g)) :
    (code.map f g).Ordered level' (held.map (Resource.map f g) ++ outer) := by
  have hbelow : ∀ {held : List (Resource M T)} {r}, Below level held r →
      Below level' (held.map (Resource.map f g) ++ outer) (r.map f g) := by
    intro held r hr r' hr'
    rcases List.mem_append.mp hr' with hmem | hmem
    · obtain ⟨r'', hr'', rfl⟩ := List.mem_map.mp hmem
      exact hlevel _ _ (hr r'' hr'')
    · exact houter r r' hmem
  induction code generalizing held with
  | skip => trivial
  | notify m => trivial
  | start t => trivial
  | locked m body ih => exact ⟨hbelow h.1, ih h.2 hwaits⟩
  | wait m timed =>
    obtain ⟨rest, rfl⟩ := List.head?_eq_some_iff.mp h.1
    refine ⟨rfl, ?_⟩
    rintro rfl
    exact absurd rfl (hwaits m)
  | stop t told ih => exact ⟨hbelow h.1, ih h.2 hwaits.2⟩
  | seq first second ihfirst ihsecond =>
    exact ⟨ihfirst h.1 hwaits.1, ihsecond h.2 hwaits.2⟩
  | choice first second ihfirst ihsecond =>
    exact ⟨ihfirst h.1 hwaits.1, ihsecond h.2 hwaits.2⟩
  | loop body ih => exact ih h hwaits

end Composition

end Foundation
