import SmartWebGateway.Foundation.Evolution
import SmartWebGateway.Foundation.Machine
import Mathlib.Order.Filter.AtTopBot.Basic
import Mathlib.Order.OrderIsoNat
import Mathlib.Tactic

/-!
# Runs without end

What happens again and again in a run that goes on forever. A measure that
nothing puts up cannot be put down again and again, so something else happens in
between; and a state that is entered again and again is left again and again.
-/
namespace Foundation

open Filter

section Sequences

variable {α : Type*} [PartialOrder α] [WellFoundedLT α] {measure : ℕ → α}
  {move goal inside enter leave : ℕ → Prop}

theorem eventually_rests (h : ∀ᶠ n in atTop, measure (n + 1) ≤ measure n) :
    ∀ᶠ n in atTop, measure (n + 1) = measure n := by
  obtain ⟨N, hN⟩ := eventually_atTop.mp h
  have hanti : Antitone fun k => measure (N + k) :=
    antitone_nat_of_succ_le fun k => hN (N + k) (Nat.le_add_right N k)
  obtain ⟨M, hM⟩ := WellFoundedLT.antitone_chain_condition hanti
  refine eventually_atTop.mpr ⟨N + M, ?_⟩
  intro n hn
  obtain ⟨k, rfl⟩ := Nat.exists_eq_add_of_le ((Nat.le_add_right N M).trans hn)
  have hMk : M ≤ k := Nat.le_of_add_le_add_left hn
  exact (hM (k + 1) (hMk.trans (Nat.le_succ k))).symm.trans (hM k hMk)

/-- If moves go on forever, and each of them puts a measure down that nothing puts up unless the
goal is reached, then the goal is reached again and again. -/
theorem frequently_of_measure (hmove : ∃ᶠ n in atTop, move n)
    (hstep : ∀ᶠ n in atTop, ¬ goal n →
      measure (n + 1) ≤ measure n ∧ (move n → measure (n + 1) < measure n)) :
    ∃ᶠ n in atTop, goal n := by
  by_contra hnever
  have hquiet : ∀ᶠ n in atTop, ¬ goal n := not_frequently.mp hnever
  have hdown : ∀ᶠ n in atTop,
      measure (n + 1) ≤ measure n ∧ (move n → measure (n + 1) < measure n) := by
    filter_upwards [hquiet, hstep] with n hn hstep
    exact hstep hn
  have hrest := eventually_rests (hdown.mono fun n hn => hn.1)
  obtain ⟨n, hmoved, hsame, hless⟩ := (hmove.and_eventually (hrest.and hdown)).exists
  exact absurd hsame (hless.2 hmoved).ne

/-- What is entered again and again only from outside is left again and again. -/
theorem frequently_leave (henter : ∃ᶠ n in atTop, enter n)
    (hafter : ∀ᶠ n in atTop, enter n → inside (n + 1)) (houtside : ∀ n, enter n → ¬ inside n)
    (hstays : ∀ n, inside n → ¬ leave n → inside (n + 1)) : ∃ᶠ n in atTop, leave n := by
  by_contra hnever
  have hkeeps : ∀ᶠ n in atTop, ¬ leave n := not_frequently.mp hnever
  obtain ⟨N, hN⟩ := eventually_atTop.mp hkeeps
  obtain ⟨n, hentered, hinside, hn⟩ :=
    (henter.and_eventually (hafter.and (eventually_ge_atTop N))).exists
  have hforever : ∀ m ≥ n + 1, inside m := by
    intro m hm
    induction m, hm using Nat.le_induction with
    | base => exact hinside hentered
    | succ m hm ih => exact hstays m ih (hN m (hn.trans ((Nat.le_succ n).trans hm)))
  obtain ⟨m, hm, hagain⟩ := frequently_atTop.mp henter (n + 1)
  exact houtside m hagain (hforever m hm)

end Sequences

variable {S L : Type*} {Step : S → L → S → Prop}

/-- A run of a machine that goes on forever. -/
structure Endless (Step : S → L → S → Prop) where
  state : ℕ → S
  label : ℕ → L
  step : ∀ n, Step (state n) (label n) (state (n + 1))

namespace Endless

variable (run : Endless Step) {m n : ℕ}

theorem leads (h : m ≤ n) : Leads Step Anyhow (run.state m) (run.state n) := by
  induction n, h using Nat.le_induction with
  | base => exact .refl
  | succ n _ ih => exact ih.step (run.step n)

theorem eventually_rests {measure : S → ℕ} {bound : ℕ}
    (hstep : ∀ s l t, Step s l t → measure s ≤ measure t)
    (hbound : ∀ n, measure (run.state n) ≤ bound) :
    ∀ᶠ n in atTop, measure (run.state (n + 1)) = measure (run.state n) := by
  have hdown : ∀ᶠ n in atTop, bound - measure (run.state (n + 1)) ≤ bound - measure (run.state n) :=
    Eventually.of_forall fun n => Nat.sub_le_sub_left (hstep _ _ _ (run.step n)) bound
  have hrest := @Foundation.eventually_rests _ _ _ (fun n => bound - measure (run.state n)) hdown
  refine hrest.mono ?_
  intro n hn
  have hnow := hbound n
  have hnext := hbound (n + 1)
  omega

/-- Whoever could take a step of its own for ever, from some time on, does take one. -/
def Fair (mine : L → Prop) : Prop :=
  ∀ n, (∀ m ≥ n, ∃ l t, mine l ∧ Step (run.state m) l t) → ∃ m ≥ n, mine (run.label m)

variable {run} {mine : L → Prop}

theorem Fair.frequently (h : run.Fair mine)
    (hcan : ∀ᶠ n in atTop, ∃ l t, mine l ∧ Step (run.state n) l t) :
    ∃ᶠ n in atTop, mine (run.label n) := by
  obtain ⟨N, hN⟩ := eventually_atTop.mp hcan
  rw [frequently_atTop]
  intro n
  obtain ⟨m, hm, hmine⟩ := h (max n N) fun m hm => hN m ((le_max_right n N).trans hm)
  exact ⟨m, (le_max_left n N).trans hm, hmine⟩

end Endless

/-- A step of each kind in its turn that is always possible can be taken forever. -/
theorem exists_endless {P : ℕ → S → Prop} {K : ℕ → L → Prop} {s : S} (h0 : P 0 s)
    (hstep : ∀ n s, P n s → ∃ l t, K n l ∧ Step s l t ∧ P (n + 1) t) :
    ∃ run : Endless Step, run.state 0 = s ∧ ∀ n, P n (run.state n) ∧ K n (run.label n) := by
  obtain ⟨state, hstart, hstate⟩ := exists_forever h0 fun n s hs => by
    obtain ⟨l, t, hl, hst, ht⟩ := hstep n s hs
    exact (⟨t, ht, l, hl, hst⟩ : ∃ t, P (n + 1) t ∧ ∃ l, K n l ∧ Step s l t)
  choose hP label hK hrun using hstate
  exact ⟨⟨state, label, hrun⟩, hstart, fun n => ⟨hP n, hK n⟩⟩

/-- A step of `mine` wherever one is possible. -/
def Eager (Step : S → L → S → Prop) (mine : L → Prop) (s : S) (l : L) (t : S) : Prop :=
  Step s l t ∧ ((∃ l t, mine l ∧ Step s l t) → mine l)

/-- Where something else is always possible, a run exists in which whoever can take a step of its
own takes one at once. -/
theorem exists_eager {P : S → Prop} {mine idle : L → Prop} {s : S} (h0 : P s)
    (hmine : ∀ s l t, P s → mine l → Step s l t → P t)
    (hidle : ∀ s, P s → ∃ l t, idle l ∧ Step s l t ∧ P t) :
    ∃ run : Endless Step, run.state 0 = s ∧ run.Fair mine ∧
      ∀ n, P (run.state n) ∧ (mine (run.label n) ∨ idle (run.label n)) := by
  have hnext : ∀ (_ : ℕ) s, P s → ∃ l t, (mine l ∨ idle l) ∧ Eager Step mine s l t ∧ P t := by
    intro _ s hs
    by_cases hcan : ∃ l t, mine l ∧ Step s l t
    · obtain ⟨l, t, hl, hst⟩ := hcan
      exact ⟨l, t, Or.inl hl, ⟨hst, fun _ => hl⟩, hmine s l t hs hl hst⟩
    · obtain ⟨l, t, hl, hst, ht⟩ := hidle s hs
      exact ⟨l, t, Or.inr hl, ⟨hst, fun h => absurd h hcan⟩, ht⟩
  obtain ⟨run, hstart, hrun⟩ := exists_endless (P := fun _ => P) h0 hnext
  refine ⟨⟨run.state, run.label, fun n => (run.step n).1⟩, hstart, ?_, hrun⟩
  intro n hcan
  exact ⟨n, le_rfl, (run.step n).2 (hcan n le_rfl)⟩

end Foundation
