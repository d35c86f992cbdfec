import Mathlib.Logic.Relation
import Mathlib.Order.Basic
import Mathlib.Tactic

/-!
# Worlds that move on their own

An evolution is what one observer sees of a world that changes under its hands:
the world at its first observation, at its second, and so on. Between two
observations the world takes any number of its own steps, so every
interleaving of those steps with the observations is some evolution.
-/
namespace Foundation

variable {W : Type*}

/-- The worlds met at successive observations. -/
structure Evolution (Step : W → W → Prop) where
  world : ℕ → W
  advance : ∀ i, Relation.ReflTransGen Step (world i) (world (i + 1))

namespace Evolution

variable {Step : W → W → Prop} (E : Evolution Step)

/-- A reflexive and transitive relation that contains every step relates
each observation to every later one. -/
theorem relates {R : W → W → Prop} (hrefl : ∀ a, R a a)
    (htrans : ∀ a b c, R a b → R b c → R a c) (hstep : ∀ a b, Step a b → R a b)
    {i j : ℕ} (hij : i ≤ j) : R (E.world i) (E.world j) := by
  have hmany : ∀ a b, Relation.ReflTransGen Step a b → R a b := by
    intro a b hab
    induction hab with
    | refl => exact hrefl a
    | tail _ hbc ih => exact htrans _ _ _ ih (hstep _ _ hbc)
  induction hij with
  | refl => exact hrefl _
  | step _ ih => exact htrans _ _ _ ih (hmany _ _ (E.advance _))

theorem invariant {P : W → Prop} (h0 : P (E.world 0)) (hstep : ∀ a b, Step a b → P a → P b)
    (i : ℕ) : P (E.world i) :=
  E.relates (R := fun a b => P a → P b) (fun _ h => h) (fun _ _ _ hab hbc h => hbc (hab h))
    hstep (Nat.zero_le i) h0

theorem monotone {β : Type*} [Preorder β] (f : W → β) (hstep : ∀ a b, Step a b → f a ≤ f b)
    {i j : ℕ} (hij : i ≤ j) : f (E.world i) ≤ f (E.world j) :=
  E.relates (R := fun a b => f a ≤ f b) (fun _ => le_rfl) (fun _ _ _ => le_trans) hstep hij

/-- The evolution that stays in one world up to the `n`-th observation and in another one after. -/
def jump {a b : W} (n : ℕ) (h : Relation.ReflTransGen Step a b) : Evolution Step where
  world k := if k ≤ n then a else b
  advance k := by
    by_cases hk : k + 1 ≤ n
    · rw [if_pos hk, if_pos (by omega)]
    · rw [if_neg hk]
      split_ifs
      · exact h
      · exact .refl

/-- An evolution up to the `n`-th observation, and another world from then on. -/
def settle (E : Evolution Step) (n : ℕ) {b : W} (h : Relation.ReflTransGen Step (E.world n) b) :
    Evolution Step where
  world k := if k ≤ n then E.world k else b
  advance k := by
    by_cases hk : k + 1 ≤ n
    · rw [if_pos hk, if_pos (by omega)]
      exact E.advance k
    · rw [if_neg hk]
      split_ifs with hkn
      · obtain rfl : k = n := by omega
        exact h
      · exact .refl

def constant (a : W) : Evolution Step where
  world _ := a
  advance _ := .refl

end Evolution

/-- A step that is always possible again can be taken forever. -/
theorem exists_forever {α : Type*} {P : ℕ → α → Prop} {R : ℕ → α → α → Prop} {a : α}
    (h0 : P 0 a) (hstep : ∀ n x, P n x → ∃ y, P (n + 1) y ∧ R n x y) :
    ∃ seq : ℕ → α, seq 0 = a ∧ ∀ n, P n (seq n) ∧ R n (seq n) (seq (n + 1)) := by
  choose next hnext using hstep
  let seq : (n : ℕ) → { x // P n x } := fun n =>
    Nat.rec ⟨a, h0⟩ (fun n x => ⟨next n x.1 x.2, (hnext n x.1 x.2).1⟩) n
  exact ⟨fun n => (seq n).1, rfl, fun n => ⟨(seq n).2, (hnext n (seq n).1 (seq n).2).2⟩⟩

end Foundation
