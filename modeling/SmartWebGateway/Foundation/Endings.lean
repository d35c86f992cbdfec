import SmartWebGateway.Foundation.Deadlocks
import Mathlib.Algebra.BigOperators.Fin
import Mathlib.Tactic

/-!
# Threads that come to their end

Where the threads keep the order of the levels, one that was told to stop can get
to its end, as long as no thread is bound to wait for a notification without a
timeout. One that is bound to, and that nobody will notify, keeps whoever joins it
for ever. Where one thread starts all others and stops them in the end, none of
them runs when it has ended.
-/
namespace Foundation

variable {M T ι : Type*} [Preorder ι] {level : Resource M T → ι} {s s' : LockState M T}
  {t : T} {m : M} {frames rest : List (LockFrame M T)} {code : T → LoopingThread M T} {main : T}

section Drowsiness

/-- Every way through the code comes to a wait without a timeout. -/
def LockCode.Drowsy : LockCode M T → Prop
  | .wait _ timed => timed = false
  | .locked _ body => body.Drowsy
  | .stop _ told => told.Drowsy
  | .seq first second => first.Drowsy ∨ second.Drowsy
  | .choice first second => first.Drowsy ∧ second.Drowsy
  | .skip | .notify _ | .start _ | .loop _ => False

def LockFrame.Drowsy : LockFrame M T → Prop
  | .run code => code.Drowsy
  | .asleep _ timed => timed = false
  | .unlock _ | .relock _ | .join _ | .rounds => False

/-- Before a thread with these frames ends, it waits without a timeout. -/
def Drowsy (frames : List (LockFrame M T)) : Prop := ∃ frame ∈ frames, frame.Drowsy

instance LockCode.decidableDrowsy : (code : LockCode M T) → Decidable code.Drowsy
  | .wait _ timed => inferInstanceAs (Decidable (timed = false))
  | .locked _ body => body.decidableDrowsy
  | .stop _ told => told.decidableDrowsy
  | .seq first second => @instDecidableOr _ _ first.decidableDrowsy second.decidableDrowsy
  | .choice first second => @instDecidableAnd _ _ first.decidableDrowsy second.decidableDrowsy
  | .skip | .notify _ | .start _ | .loop _ => inferInstanceAs (Decidable False)

instance LockFrame.decidableDrowsy : (frame : LockFrame M T) → Decidable frame.Drowsy
  | .run code => code.decidableDrowsy
  | .asleep _ timed => inferInstanceAs (Decidable (timed = false))
  | .unlock _ | .relock _ | .join _ | .rounds => inferInstanceAs (Decidable False)

instance : Decidable (Drowsy frames) := inferInstanceAs (Decidable (∃ frame ∈ frames, frame.Drowsy))

@[simp] theorem drowsy_cons {frame : LockFrame M T} :
    Drowsy (frame :: rest) ↔ frame.Drowsy ∨ Drowsy rest :=
  List.exists_mem_cons_iff _ _ _

theorem LockCode.Throughout.not_drowsy {p : LockCode M T → Prop} {code : LockCode M T}
    (h : code.Throughout p) (hp : ∀ m, ¬ p (.wait m false)) : ¬ code.Drowsy := by
  induction code with
  | wait m timed =>
    rintro rfl
    exact hp m h
  | locked m body ih => exact ih h
  | stop t told ih => exact ih h.2
  | seq first second ihfirst ihsecond => exact not_or.mpr ⟨ihfirst h.1, ihsecond h.2⟩
  | choice first second ihfirst ihsecond => exact fun hboth => ihfirst h.1 hboth.1
  | skip | notify m | start t | loop body => exact id

theorem LockState.Within.not_drowsy {p : T → LockCode M T → Prop} (h : s.Within p)
    (hp : ∀ m, ¬ p t (.wait m false)) : ¬ Drowsy (s.stack t) := by
  rintro ⟨frame, hframe, hdrowsy⟩
  have hwithin := h t frame hframe
  cases frame with
  | run code => exact hwithin.not_drowsy hp hdrowsy
  | asleep m timed =>
    obtain rfl : timed = false := hdrowsy
    exact hp m hwithin
  | _ => exact hdrowsy

section Waking

variable [DecidableEq M]

theorem drowsy_of_woken (h : Drowsy (woken m frames)) : Drowsy frames := by
  unfold woken at h
  split at h
  · split_ifs at h
    · exact drowsy_cons.mpr (Or.inr ((drowsy_cons.mp h).resolve_left id))
    · exact h
  · exact h

theorem drowsy_woken (h : Drowsy frames) (hother : .asleep m false ∉ frames) :
    Drowsy (woken m frames) := by
  unfold woken
  split
  · rename_i m' timed rest
    split_ifs with heq
    · subst heq
      rcases drowsy_cons.mp h with hfirst | hrest
      · obtain rfl : timed = false := hfirst
        exact absurd List.mem_cons_self hother
      · exact drowsy_cons.mpr (Or.inr hrest)
    · exact h
  · exact h

end Waking

end Drowsiness

section Ending

/-- How many steps the shortest way through the code takes at most, with those of the threads that
it starts. -/
def LockCode.weight (w : T → ℕ) : LockCode M T → ℕ
  | .skip | .notify _ | .loop _ => 1
  | .wait _ _ => 3
  | .locked _ body => body.weight w + 2
  | .start t => w t + 1
  | .stop _ told => told.weight w + 2
  | .seq first second | .choice first second => first.weight w + second.weight w + 1

def LockFrame.weight (w : T → ℕ) : LockFrame M T → ℕ
  | .run code => code.weight w
  | .asleep _ _ => 2
  | .unlock _ | .relock _ | .join _ | .rounds => 1

def stackWeight (w : T → ℕ) (frames : List (LockFrame M T)) : ℕ :=
  (frames.map (LockFrame.weight w)).sum

@[simp] theorem stackWeight_cons {w : T → ℕ} (frame : LockFrame M T) :
    stackWeight w (frame :: rest) = frame.weight w + stackWeight w rest := by
  simp [stackWeight]

theorem LockCode.weight_congr {w w' : T → ℕ} {code : LockCode M T}
    (h : code.Throughout fun part => ∀ u, part = .start u → w u = w' u) :
    code.weight w = code.weight w' := by
  induction code with
  | start t => simp only [weight, h t rfl]
  | locked m body ih => simp only [weight, ih h]
  | stop t told ih => simp only [weight, ih h.2]
  | seq first second ihfirst ihsecond | choice first second ihfirst ihsecond =>
    simp only [weight, ihfirst h.1, ihsecond h.2]
  | _ => rfl

theorem LoopingThread.weight_congr {w w' : T → ℕ} {code : LoopingThread M T}
    (h : code.Throughout fun part => ∀ u, part = .start u → w u = w' u) :
    stackWeight w code.frames = stackWeight w' code.frames := by
  have hbefore := LockCode.weight_congr h.before
  have hafter := LockCode.weight_congr h.after
  simp only [frames, stackWeight_cons, LockFrame.weight, hbefore, hafter]
  rfl

variable [DecidableEq T]

theorem exists_weight
    (hstarts : ∀ t, (code t).Throughout fun part => ∀ u, part = .start u → t = main ∧ u ≠ main) :
    ∃ w : T → ℕ, ∀ t, stackWeight w (code t).frames ≤ w t := by
  let own : T → ℕ := fun t => stackWeight (fun _ => 0) (code t).frames
  refine ⟨Function.update own main (stackWeight own (code main).frames), fun t => ?_⟩
  have hothers : (code t).Throughout fun part => ∀ u, part = .start u →
      Function.update own main (stackWeight own (code main).frames) u = own u :=
    (hstarts t).imp fun part hpart u hu => Function.update_of_ne (hpart u hu).2 _ _
  rw [LoopingThread.weight_congr hothers]
  by_cases heq : t = main
  · subst heq
    rw [Function.update_self]
  · rw [Function.update_of_ne heq]
    refine (LoopingThread.weight_congr ?_).le
    exact (hstarts t).imp fun part hpart u hu => absurd (hpart u hu).1 heq

variable [Fintype T]

def LockState.weight (w : T → ℕ) (s : LockState M T) : ℕ := ∑ t, stackWeight w (s.stack t)

theorem LockState.weight_goOn (w : T → ℕ) (s : LockState M T) (t : T)
    (frames : List (LockFrame M T)) :
    (s.goOn t frames).weight w + stackWeight w (s.stack t) = s.weight w + stackWeight w frames := by
  have hothers : ∑ u ∈ Finset.univ.erase t, stackWeight w ((s.goOn t frames).stack u) =
      ∑ u ∈ Finset.univ.erase t, stackWeight w (s.stack u) := by
    apply Finset.sum_congr rfl
    intro u hu
    rw [goOn_stack_of_ne (Finset.ne_of_mem_erase hu)]
  have hafter := Finset.add_sum_erase Finset.univ
    (fun u => stackWeight w ((s.goOn t frames).stack u)) (Finset.mem_univ t)
  have hbefore := Finset.add_sum_erase Finset.univ
    (fun u => stackWeight w (s.stack u)) (Finset.mem_univ t)
  rw [hothers, goOn_stack_self] at hafter
  unfold LockState.weight
  omega

theorem LockState.weight_begin (w : T → ℕ) (s : LockState M T) (t : T)
    (code : LoopingThread M T) :
    (s.begin t code).weight w ≤ s.weight w + stackWeight w code.frames := by
  unfold LockState.begin
  split
  · have hgoOn := s.weight_goOn w t code.frames
    omega
  · exact Nat.le_add_right _ _

theorem LockState.weight_goOn_lt {w : T → ℕ}
    (h : stackWeight w frames < stackWeight w (s.stack t)) :
    (s.goOn t frames).weight w < s.weight w := by
  have hgoOn := s.weight_goOn w t frames
  omega

variable [DecidableEq M]

omit [DecidableEq T] in
theorem LockState.weight_notify (w : T → ℕ) (s : LockState M T) (m : M) :
    (s.notify m).weight w ≤ s.weight w := by
  apply Finset.sum_le_sum
  intro t _
  change stackWeight w (woken m (s.stack t)) ≤ _
  generalize s.stack t = frames
  unfold woken
  split
  · split_ifs
    · simp [LockFrame.weight]
    · rfl
  · rfl

omit [Fintype T] [DecidableEq M] in
theorem LockState.drowsy_of_begin {u : T} {code : LoopingThread M T}
    (h : Drowsy ((s.begin t code).stack u)) : Drowsy (s.stack u) ∨ Drowsy code.frames := by
  unfold LockState.begin at h
  split at h
  · by_cases heq : u = t
    · subst heq
      rw [goOn_stack_self] at h
      exact Or.inr h
    · rw [goOn_stack_of_ne heq] at h
      exact Or.inl h
  · exact Or.inl h

omit [Fintype T] [DecidableEq M] in
theorem LockState.drowsy_of_goOn {u : T} (hframes : Drowsy frames → Drowsy (s.stack t))
    (h : Drowsy ((s.goOn t frames).stack u)) : Drowsy (s.stack u) := by
  by_cases heq : u = t
  · subst heq
    rw [goOn_stack_self] at h
    exact hframes h
  · rwa [goOn_stack_of_ne heq] at h

/-- The threads are nearer to their ends, and none has become drowsy unless it begins so. -/
structure LockState.Nearer (code : T → LoopingThread M T) (s s' : LockState M T) : Prop where
  drowsy : ∀ u, Drowsy (s'.stack u) → Drowsy (s.stack u) ∨ ∃ t, Drowsy (code t).frames
  weight : ∀ w, (∀ t, stackWeight w (code t).frames ≤ w t) → s'.weight w < s.weight w

omit [DecidableEq M] in
theorem LockState.Nearer.of_goOn {frame : LockFrame M T} (hstack : s.stack t = frame :: rest)
    (hgoOn : s'.stack = (s.goOn t frames).stack)
    (hdrowsy : Drowsy frames → frame.Drowsy ∨ Drowsy rest)
    (hweight : ∀ w, stackWeight w frames < frame.weight w + stackWeight w rest) :
    s.Nearer code s' := by
  constructor
  · intro u hu
    rw [hgoOn] at hu
    refine Or.inl (drowsy_of_goOn (fun hframes => ?_) hu)
    rw [hstack]
    exact drowsy_cons.mpr (hdrowsy hframes)
  · intro w _
    have hlt : (s.goOn t frames).weight w < s.weight w := by
      apply weight_goOn_lt
      rw [hstack, stackWeight_cons]
      exact hweight w
    unfold LockState.weight at hlt ⊢
    rwa [hgoOn]

theorem LockState.Ready.exists_step_run (h : s.Ready t) {body : LockCode M T}
    (hstack : s.stack t = .run body :: rest) : ∃ s', LockStep code s t s' ∧ s.Nearer code s' := by
  cases body with
  | skip =>
    exact ⟨_, .skip hstack, .of_goOn hstack rfl Or.inr
      (by simp [LockFrame.weight, LockCode.weight])⟩
  | locked m body =>
    have hfree : s.holder m = none := h.mutex_free (by rw [hstack]; rfl)
    refine ⟨_, .lock hstack hfree, .of_goOn hstack rfl ?_ fun w => ?_⟩
    · simp [LockFrame.Drowsy, LockCode.Drowsy]
    · simp only [stackWeight_cons, LockFrame.weight, LockCode.weight]
      omega
  | wait m timed =>
    refine ⟨_, .wait hstack, .of_goOn hstack rfl ?_ fun w => ?_⟩
    · simp [LockFrame.Drowsy, LockCode.Drowsy]
    · simp [LockFrame.weight, LockCode.weight]
  | notify m =>
    have hgoOn : s.Nearer code (s.goOn t rest) :=
      .of_goOn hstack rfl Or.inr (by simp [LockFrame.weight, LockCode.weight])
    refine ⟨_, .notify hstack, fun u hdrowsy => hgoOn.drowsy u (drowsy_of_woken hdrowsy), ?_⟩
    exact fun w hw => (weight_notify w _ m).trans_lt (hgoOn.weight w hw)
  | start t' =>
    refine ⟨_, .start hstack, fun u hdrowsy => ?_, fun w hw => ?_⟩
    · rcases drowsy_of_begin hdrowsy with hbefore | hbegun
      · refine Or.inl (drowsy_of_goOn (fun hrest => ?_) hbefore)
        rw [hstack]
        exact drowsy_cons.mpr (Or.inr hrest)
      · exact Or.inr ⟨t', hbegun⟩
    · have hbegin := (s.goOn t rest).weight_begin w t' (code t')
      have hgoOn := s.weight_goOn w t rest
      rw [hstack, stackWeight_cons, LockFrame.weight, LockCode.weight] at hgoOn
      have hcode := hw t'
      omega
  | stop t' told =>
    refine ⟨_, .stop hstack, .of_goOn hstack rfl ?_ fun w => ?_⟩
    · simp [LockFrame.Drowsy, LockCode.Drowsy]
    · simp only [stackWeight_cons, LockFrame.weight, LockCode.weight]
      omega
  | seq first second =>
    refine ⟨_, .seq hstack, .of_goOn hstack rfl ?_ fun w => ?_⟩
    · simp [LockFrame.Drowsy, LockCode.Drowsy, or_assoc]
    · simp only [stackWeight_cons, LockFrame.weight, LockCode.weight]
      omega
  | choice first second =>
    -- the way that does not lead to a wait without a timeout, if there is one
    by_cases hfirst : first.Drowsy
    · refine ⟨_, .second hstack, .of_goOn hstack rfl ?_ fun w => ?_⟩
      · simp [LockFrame.Drowsy, LockCode.Drowsy, hfirst]
      · simp only [stackWeight_cons, LockFrame.weight, LockCode.weight]
        omega
    · refine ⟨_, .first hstack, .of_goOn hstack rfl ?_ fun w => ?_⟩
      · simp [LockFrame.Drowsy, LockCode.Drowsy, hfirst]
      · simp only [stackWeight_cons, LockFrame.weight, LockCode.weight]
        omega
  | loop body =>
    exact ⟨_, .leave hstack, .of_goOn hstack rfl Or.inr
      (by simp [LockFrame.weight, LockCode.weight])⟩

/-- A thread that waits for nobody and takes no more rounds can step nearer to its end. -/
theorem LockState.Ready.exists_step (h : s.Ready t)
    (hrounds : ∀ rest, s.stack t = .rounds :: rest → ¬ s.enabled t) :
    ∃ s', LockStep code s t s' ∧ s.Nearer code s' := by
  obtain ⟨frame, rest, hstack⟩ := List.exists_cons_of_ne_nil h.runs
  cases frame with
  | run body => exact h.exists_step_run hstack
  | unlock m =>
    exact ⟨_, .unlock hstack, .of_goOn hstack rfl Or.inr (by simp [LockFrame.weight])⟩
  | asleep m timed =>
    cases timed with
    | false => exact absurd ⟨m, rest, hstack⟩ h.awake
    | true =>
      refine ⟨_, .expire hstack, .of_goOn hstack rfl ?_ (by simp [LockFrame.weight])⟩
      exact fun hdrowsy => Or.inr ((drowsy_cons.mp hdrowsy).resolve_left id)
  | relock m =>
    have hfree : s.holder m = none := h.mutex_free (by rw [hstack]; rfl)
    exact ⟨_, .relock hstack hfree, .of_goOn hstack rfl Or.inr (by simp [LockFrame.weight])⟩
  | join t' =>
    have hended : s.stack t' = [] := h.ended (by rw [hstack]; rfl)
    exact ⟨_, .join hstack hended, .of_goOn hstack rfl Or.inr (by simp [LockFrame.weight])⟩
  | rounds =>
    have htold := hrounds rest hstack
    exact ⟨_, .finish hstack htold, .of_goOn hstack rfl Or.inr (by simp [LockFrame.weight])⟩

theorem LockState.Ready.can_step (h : s.Ready t) : ∃ s', LockStep code s t s' := by
  by_cases hround : ∃ rest, s.stack t = .rounds :: rest ∧ s.enabled t
  · obtain ⟨rest, hstack, henabled⟩ := hround
    exact ⟨_, .round hstack henabled⟩
  · have hrounds : ∀ rest, s.stack t = .rounds :: rest → ¬ s.enabled t :=
      fun rest hstack henabled => hround ⟨rest, hstack, henabled⟩
    obtain ⟨s', hstep, _⟩ := h.exists_step hrounds
    exact ⟨s', hstep⟩

/-- A thread that is told to stop can get to its end while no thread is drowsy: those that it waits
for go on, and take no more rounds than it does. -/
theorem LockState.Orderly.can_end [WellFoundedLT ι] (h : s.Orderly level)
    (hcode : ∀ t, (code t).Ordered level t)
    (hstarts : ∀ t, (code t).Throughout fun part => ∀ u, part = .start u → t = main ∧ u ≠ main)
    (hcalm : ∀ t, ¬ Drowsy (code t).frames) (htold : ¬ s.enabled t)
    (hawake : ∀ u, ¬ Drowsy (s.stack u)) :
    ∃ s', Leads (LockStep code) Anyhow s s' ∧ s'.stack t = [] := by
  obtain ⟨w, hw⟩ := exists_weight hstarts
  induction hn : s.weight w using Nat.strong_induction_on generalizing s with
  | h n ih =>
    subst hn
    by_cases hended : s.stack t = []
    · exact ⟨s, .refl, hended⟩
    have hsleepless : ∀ u, ¬ s.Sleeps u := by
      rintro u ⟨m, rest, hstack⟩
      apply hawake u
      rw [hstack]
      exact drowsy_cons.mpr (Or.inl rfl)
    obtain ⟨u, hready, hrounds⟩ : ∃ u, s.Ready u ∧
        ∀ rest, s.stack u = .rounds :: rest → ¬ s.enabled u := by
      by_cases hwaits : ∃ t', s.WaitsFor t t'
      · obtain ⟨t', ht'⟩ := hwaits
        obtain ⟨u, hchain, hruns, hfree⟩ := h.exists_last ht'
        refine ⟨u, ⟨hruns, hfree, hsleepless u⟩, ?_⟩
        intro rest hstack
        obtain ⟨v, _, hlast⟩ := Relation.TransGen.tail'_iff.mp hchain
        exact h.told_of_waitsFor hlast hstack
      · exact ⟨t, ⟨hended, fun t' ht' => hwaits ⟨t', ht'⟩, hsleepless t⟩, fun _ _ => htold⟩
    obtain ⟨s', hstep, hnearer⟩ := hready.exists_step hrounds
    have hstill : ∀ u, ¬ Drowsy (s'.stack u) := by
      intro u hu
      rcases hnearer.drowsy u hu with hbefore | ⟨t', hbegun⟩
      · exact hawake u hbefore
      · exact hcalm t' hbegun
    obtain ⟨s'', hrun, hend⟩ :=
      ih _ (hnearer.weight w hw) (h.step hcode hstep) (hstep.disabled htold) hstill rfl
    exact ⟨s'', (Leads.refl.step hstep).trans hrun, hend⟩

end Ending

section Oversleeping

variable {u : T} {p : T → LockCode M T → Prop} [DecidableEq T]

omit [DecidableEq T] in
theorem Drowsy.ne_nil (h : Drowsy frames) : frames ≠ [] := by
  rintro rfl
  obtain ⟨_, hnone, _⟩ := h
  cases hnone

theorem LockState.begin_stack_of_ne_nil {code : LoopingThread M T} (h : s.stack u ≠ []) :
    (s.begin t code).stack u = s.stack u := by
  unfold LockState.begin
  split
  · rename_i hended
    apply goOn_stack_of_ne
    rintro rfl
    exact h (List.isEmpty_iff.mp hended)
  · rfl

variable [DecidableEq M]

omit [DecidableEq T] in
theorem woken_of_not_asleep (h : ∀ timed rest, frames ≠ .asleep m timed :: rest) :
    woken m frames = frames := by
  unfold woken
  split
  · split_ifs with heq
    · subst heq
      exact absurd rfl (h _ _)
    · rfl
  · rfl

theorem LockStep.stack_of_ne (hstep : LockStep code s t s') (hne : u ≠ t)
    (hruns : s.stack u ≠ []) :
    s'.stack u = s.stack u ∨
    ∃ m, .run (.notify m) ∈ s.stack t ∧ s'.stack u = woken m (s.stack u) := by
  cases hstep with
  | start hstack =>
    rw [← LockState.goOn_stack_of_ne hne] at hruns
    exact Or.inl ((LockState.begin_stack_of_ne_nil hruns).trans (LockState.goOn_stack_of_ne hne))
  | notify hstack =>
    refine Or.inr ⟨_, hstack ▸ List.mem_cons_self, ?_⟩
    exact congrArg (woken _) (LockState.goOn_stack_of_ne hne)
  | _ => exact Or.inl (LockState.goOn_stack_of_ne hne)

/-- A thread that is bound to wait without a timeout stays so while nobody notifies it. -/
theorem LockStep.drowsy (hstep : LockStep code s t s') (h : Drowsy (s.stack t))
    (hunheard : ∀ m, .run (.notify m) ∈ s.stack t → .asleep m false ∉ s.stack t) :
    Drowsy (s'.stack t) := by
  cases hstep with
  | @start t' rest hstack =>
    rw [hstack] at h
    have hrest : Drowsy ((s.goOn t rest).stack t) := by
      rw [LockState.goOn_stack_self]
      exact (drowsy_cons.mp h).resolve_left id
    rwa [LockState.begin_stack_of_ne_nil hrest.ne_nil]
  | @notify m rest hstack =>
    rw [hstack] at h hunheard
    have hother : .asleep m false ∉ rest :=
      fun hmem => hunheard m List.mem_cons_self (List.mem_cons_of_mem _ hmem)
    change Drowsy (woken m ((s.goOn t rest).stack t))
    rw [LockState.goOn_stack_self]
    exact drowsy_woken ((drowsy_cons.mp h).resolve_left id) hother
  | skip hstack | unlock hstack | relock hstack | join hstack | leave hstack | finish hstack =>
    rw [hstack] at h
    change Drowsy ((s.goOn t _).stack t)
    rw [LockState.goOn_stack_self]
    exact (drowsy_cons.mp h).resolve_left id
  | lock hstack | wait hstack | expire hstack | stop hstack | seq hstack | first hstack
  | second hstack | again hstack | round hstack =>
    rw [hstack] at h
    change Drowsy ((s.goOn t _).stack t)
    rw [LockState.goOn_stack_self]
    simp only [drowsy_cons, LockFrame.Drowsy, LockCode.Drowsy] at h ⊢
    tauto

/-- A thread is joined that is bound to wait without a timeout. -/
structure LockState.Missed (main u : T) (s : LockState M T) : Prop where
  joined : (s.stack main).head? = some (.join u)
  drowsy : Drowsy (s.stack u)

/-- If only the thread that joins it could notify it, they wait for ever. -/
theorem LockState.Missed.step (h : s.Missed main u) (hwithin : s.Within p)
    (honly : ∀ t m, p u (.wait m false) → p t (.notify m) → t = main) (hne : u ≠ main)
    (hstep : LockStep code s t s') : s'.Missed main u := by
  have hunheard : ∀ m, .run (.notify m) ∈ s.stack t → .asleep m false ∈ s.stack u → t = main :=
    fun m hnotify hasleep => honly t m (hwithin u _ hasleep) (hwithin t _ hnotify)
  obtain ⟨rest, hjoin⟩ := List.head?_eq_some_iff.mp h.joined
  by_cases hmain : t = main
  · subst hmain
    cases hstep with
    | join hstack hended =>
      rw [hjoin] at hstack
      obtain rfl := LockFrame.join.inj (List.cons.inj hstack).1
      exact absurd hended h.drowsy.ne_nil
    | skip hstack | unlock hstack | relock hstack | leave hstack | finish hstack | lock hstack
    | wait hstack | expire hstack | notify hstack | start hstack | stop hstack | seq hstack
    | first hstack | second hstack | again hstack | round hstack =>
      rw [hjoin] at hstack
      cases hstack
  · constructor
    case joined =>
      rcases hstep.stack_of_ne (Ne.symm hmain) (by simp [hjoin]) with hsame | ⟨m, _, hwoken⟩
      · rw [hsame, hjoin, List.head?_cons]
      · rw [hwoken, woken_of_not_asleep (by simp [hjoin]), hjoin, List.head?_cons]
    case drowsy =>
      by_cases heq : u = t
      · subst heq
        exact hstep.drowsy h.drowsy fun m hnotify hasleep => hmain (hunheard m hnotify hasleep)
      · rcases hstep.stack_of_ne heq h.drowsy.ne_nil with hsame | ⟨m, hnotify, hwoken⟩
        · rw [hsame]
          exact h.drowsy
        · rw [hwoken]
          exact drowsy_woken h.drowsy fun hasleep => hmain (hunheard m hnotify hasleep)

theorem LockState.Missed.leads (h : s.Missed main u) (hwithin : s.Within p)
    (hcode : ∀ t, (code t).Throughout (p t))
    (honly : ∀ t m, p u (.wait m false) → p t (.notify m) → t = main) (hne : u ≠ main)
    (hrun : Leads (LockStep code) Anyhow s s') : s'.Missed main u := by
  have hboth : s'.Within p ∧ s'.Missed main u := by
    refine @Leads.invariant _ _ _ _ _ _ (fun s => s.Within p ∧ s.Missed main u) hrun ?_ ⟨hwithin, h⟩
    rintro s t s' ⟨hwithin, hmissed⟩ _ hstep
    exact ⟨hwithin.step hcode hstep, hmissed.step hwithin honly hne hstep⟩
  exact hboth.2

end Oversleeping

section Leftovers

def LockCode.Stops (t : T) : LockCode M T → Prop
  | .stop t' told => t' = t ∨ told.Stops t
  | .locked _ body => body.Stops t
  | .seq first second => first.Stops t ∨ second.Stops t
  | .choice first second => first.Stops t ∧ second.Stops t
  | .skip | .wait _ _ | .notify _ | .start _ | .loop _ => False

/-- Behind every start of the thread it is stopped in the code, or else `behind` it. -/
def LockCode.Tidy (t : T) : Prop → LockCode M T → Prop
  | behind, .start t' => t' = t → behind
  | behind, .stop t' told => told.Tidy t (t' = t ∨ behind)
  | behind, .locked _ body | behind, .loop body => body.Tidy t behind
  | behind, .seq first second => first.Tidy t (second.Stops t ∨ behind) ∧ second.Tidy t behind
  | behind, .choice first second => first.Tidy t behind ∧ second.Tidy t behind
  | _, .skip | _, .wait _ _ | _, .notify _ => True

def Stopping (t : T) : List (LockFrame M T) → Prop
  | [] => False
  | .run code :: rest => code.Stops t ∨ Stopping t rest
  | .join t' :: rest => t' = t ∨ Stopping t rest
  | .unlock _ :: rest | .asleep _ _ :: rest | .relock _ :: rest | .rounds :: rest =>
    Stopping t rest

def TidyFrames (t : T) : List (LockFrame M T) → Prop
  | [] => True
  | .run code :: rest => code.Tidy t (Stopping t rest) ∧ TidyFrames t rest
  | .unlock _ :: rest | .asleep _ _ :: rest | .relock _ :: rest | .join _ :: rest
  | .rounds :: rest => TidyFrames t rest

/-- One thread has still to stop all others that run, or that it starts meanwhile. -/
structure LockState.Attended (main : T) (s : LockState M T) : Prop where
  tidy : ∀ t, t ≠ main → TidyFrames t (s.stack main)
  stopping : ∀ t, t ≠ main → s.stack t ≠ [] → Stopping t (s.stack main)

theorem LockCode.tidy_of_behind {code : LockCode M T} {behind : Prop} (h : behind) :
    code.Tidy t behind := by
  induction code generalizing behind with
  | start t' => exact fun _ => h
  | stop t' told ih => exact ih (Or.inr h)
  | locked m body ih | loop body ih => exact ih h
  | seq first second ihfirst ihsecond => exact ⟨ihfirst (Or.inr h), ihsecond h⟩
  | choice first second ihfirst ihsecond => exact ⟨ihfirst h, ihsecond h⟩
  | _ => trivial

theorem LockCode.Throughout.tidy {code : LockCode M T} {behind : Prop}
    (h : code.Throughout fun part => ∀ u, part ≠ .start u) : code.Tidy t behind := by
  induction code generalizing behind with
  | start t' => exact absurd rfl (h t')
  | stop t' told ih => exact ih h.2
  | locked m body ih | loop body ih => exact ih h
  | seq first second ihfirst ihsecond | choice first second ihfirst ihsecond =>
    exact ⟨ihfirst h.1, ihsecond h.2⟩
  | _ => trivial

theorem LockCode.stops_all {codes : List (LockCode M T)} :
    (all codes).Stops t ↔ ∃ code ∈ codes, code.Stops t := by
  induction codes with
  | nil => exact iff_of_false id nofun
  | cons code codes ih =>
    rw [List.exists_mem_cons_iff, ← ih]
    rfl

section Waking

variable [DecidableEq M]

theorem woken_eq_nil : woken m frames = [] ↔ frames = [] := by
  unfold woken
  split
  · simp
  · rfl

theorem stopping_woken : Stopping t (woken m frames) ↔ Stopping t frames := by
  unfold woken
  split
  · split_ifs
    · rfl
    · rfl
  · rfl

theorem tidyFrames_woken : TidyFrames t (woken m frames) ↔ TidyFrames t frames := by
  unfold woken
  split
  · split_ifs
    · rfl
    · rfl
  · rfl

theorem LockState.Attended.notify (h : s.Attended main) (m : M) : (s.notify m).Attended main where
  tidy t hne := tidyFrames_woken.mpr (h.tidy t hne)
  stopping t hne hruns :=
    stopping_woken.mpr (h.stopping t hne fun hended => hruns (woken_eq_nil.mpr hended))

end Waking

namespace LockState.Attended

theorem of_stack (h : s.Attended main) (hstack : s'.stack = s.stack) : s'.Attended main := by
  constructor
  case tidy =>
    rw [hstack]
    exact h.tidy
  case stopping =>
    rw [hstack]
    exact h.stopping

variable [DecidableEq T]

theorem goOn_main (h : s.Attended main) (htidy : ∀ t, t ≠ main → TidyFrames t frames)
    (hstopping : ∀ t, t ≠ main → Stopping t (s.stack main) → s.stack t ≠ [] → Stopping t frames) :
    (s.goOn main frames).Attended main where
  tidy t hne := by
    rw [goOn_stack_self]
    exact htidy t hne
  stopping t hne hruns := by
    rw [goOn_stack_of_ne hne] at hruns
    rw [goOn_stack_self]
    exact hstopping t hne (h.stopping t hne hruns) hruns

theorem goOn_other (h : s.Attended main) (hne : t ≠ main) (hruns : s.stack t ≠ []) :
    (s.goOn t frames).Attended main where
  tidy u hu := by
    rw [goOn_stack_of_ne hne.symm]
    exact h.tidy u hu
  stopping u hu hrunning := by
    rw [goOn_stack_of_ne hne.symm]
    by_cases heq : u = t
    · subst heq
      exact h.stopping u hu hruns
    · rw [goOn_stack_of_ne heq] at hrunning
      exact h.stopping u hu hrunning

theorem begin (h : s.Attended main) (hne : t ≠ main) (hstopping : Stopping t (s.stack main))
    {code : LoopingThread M T} : (s.begin t code).Attended main := by
  unfold LockState.begin
  split
  · constructor
    case tidy =>
      intro u hu
      rw [goOn_stack_of_ne hne.symm]
      exact h.tidy u hu
    case stopping =>
      intro u hu hruns
      rw [goOn_stack_of_ne hne.symm]
      by_cases heq : u = t
      · subst heq
        exact hstopping
      · rw [goOn_stack_of_ne heq] at hruns
        exact h.stopping u hu hruns
  · exact h

variable [DecidableEq M]

theorem step_other (h : s.Attended main) (hne : t ≠ main)
    (hstarts : ∀ u rest, s.stack t ≠ .run (.start u) :: rest) (hstep : LockStep code s t s') :
    s'.Attended main := by
  cases hstep with
  | start hstack => exact absurd hstack (hstarts _ _)
  | notify hstack => exact (h.goOn_other hne (by simp [hstack])).notify _
  | skip hstack | unlock hstack | wait hstack | expire hstack | relock hstack | join hstack
  | seq hstack | first hstack | second hstack | again hstack | leave hstack | finish hstack
  | lock hstack | stop hstack | round hstack =>
    exact (h.goOn_other hne (by simp [hstack])).of_stack rfl

theorem step_main (h : s.Attended main)
    (hstarts : ∀ rest, s.stack main ≠ .run (.start main) :: rest) (hdone : ¬ s.enabled main)
    (hstep : LockStep code s main s') : s'.Attended main := by
  have htidy := h.tidy
  cases hstep with
  | skip hstack | unlock hstack | leave hstack | finish hstack | seq hstack | first hstack
  | second hstack | again hstack | lock hstack | wait hstack | expire hstack | relock hstack
  | stop hstack =>
    simp only [hstack] at htidy
    refine (h.goOn_main (fun u hu => ?_) fun u hu hstopping _ => ?_).of_stack rfl
    · have hold := htidy u hu
      simp only [TidyFrames, LockCode.Tidy, Stopping, LockCode.Stops, false_or] at hold ⊢
      tauto
    · rw [hstack] at hstopping
      simp only [Stopping, LockCode.Stops] at hstopping ⊢
      tauto
  | notify hstack =>
    simp only [hstack] at htidy
    refine Attended.notify (h.goOn_main (fun u hu => (htidy u hu).2) fun u hu hstopping _ => ?_) _
    rw [hstack] at hstopping
    exact hstopping.resolve_left id
  | join hstack hended =>
    simp only [hstack] at htidy
    refine h.goOn_main htidy fun u hu hstopping hruns => ?_
    rw [hstack] at hstopping
    rcases hstopping with rfl | hrest
    · exact absurd hended hruns
    · exact hrest
  | @start u rest hstack =>
    have hne : u ≠ main := fun heq => hstarts rest (heq ▸ hstack)
    simp only [hstack] at htidy
    have hrest : (s.goOn main rest).Attended main := by
      refine h.goOn_main (fun v hv => (htidy v hv).2) fun v hv hstopping _ => ?_
      rw [hstack] at hstopping
      exact hstopping.resolve_left id
    refine hrest.begin hne ?_
    rw [goOn_stack_self]
    exact (htidy _ hne).1 rfl
  | round hstack henabled => exact absurd henabled hdone

omit [DecidableEq M] in
theorem wake {timed : Bool} (h : s.Attended main) (hstack : s.stack t = .asleep m timed :: rest) :
    (s.goOn t (.relock m :: rest)).Attended main := by
  by_cases heq : t = main
  · subst heq
    have htidy := h.tidy
    simp only [hstack] at htidy
    refine h.goOn_main htidy fun u hu hstopping _ => ?_
    rwa [hstack] at hstopping
  · exact h.goOn_other heq (by simp [hstack])

end LockState.Attended

/-- One thread starts all others, and in the end it stops them. -/
structure StartsAndStops (main : T) (code : T → LoopingThread M T) : Prop where
  starts : ∀ t, (code t).Throughout fun part => ∀ u, part = .start u → t = main ∧ u ≠ main
  after : (code main).after.Throughout fun part => ∀ u, part ≠ .start u
  stops : ∀ t, t ≠ main → (code main).after.Stops t

namespace LockState

/-- When the thread that started the others has ended, none of them runs. -/
theorem Attended.all_ended (h : s.Attended main) (hended : s.stack main = []) (t : T) :
    s.stack t = [] := by
  by_cases heq : t = main
  · rw [heq, hended]
  · by_contra hruns
    have hstopping := h.stopping t heq hruns
    rw [hended] at hstopping
    exact hstopping

variable [DecidableEq T]

theorem attended_initial (h : StartsAndStops main code) :
    (LockState.initial main (code main) : LockState M T).Attended main where
  tidy t hne := by
    simp only [initial, Function.update_self]
    exact ⟨LockCode.tidy_of_behind (Or.inl (h.stops t hne)), h.after.tidy, trivial⟩
  stopping t hne hruns := by
    simp only [initial, Function.update_of_ne hne] at hruns
    exact absurd rfl hruns

variable [DecidableEq M]

theorem Attended.event (h : s.Attended main) (hcode : StartsAndStops main code)
    (hwithin : s.Within fun t part => ∀ u, part = .start u → t = main ∧ u ≠ main)
    (hdone : ¬ s.enabled main) (hevent : LockEvent code s t s') : s'.Attended main := by
  have hstarts : ∀ u rest, s.stack t = .run (.start u) :: rest → t = main ∧ u ≠ main :=
    fun u rest hstack => hwithin t (.run (.start u)) (hstack ▸ List.mem_cons_self) u rfl
  cases hevent with
  | step hstep =>
    by_cases heq : t = main
    · subst heq
      exact h.step_main (fun rest hstack => (hstarts _ rest hstack).2 rfl) hdone hstep
    · exact h.step_other heq (fun u rest hstack => heq (hstarts u rest hstack).1) hstep
  | spurious hstack => exact h.wake hstack

theorem attended_of_leads (h : StartsAndStops main code)
    (hrun : Leads (LockEvent code) Anyhow (.initial main (code main)) s) :
    s.Attended main ∧ ¬ s.enabled main := by
  induction hrun with
  | refl => exact ⟨attended_initial h, by simp [initial]⟩
  | tail hbefore hlast ih =>
    obtain ⟨t, _, hevent⟩ := hlast
    obtain ⟨hattended, hdone⟩ := ih
    have hwithin := Within.of_leads h.starts hbefore
    exact ⟨hattended.event h hwithin hdone hevent, hevent.disabled hdone⟩

end LockState

end Leftovers

end Foundation
