import Mathlib.Tactic

/-!
# Signed arithmetic of a fixed width

A machine keeps the lowest bits of a result; a language may leave a result that
does not fit without a meaning. The two agree wherever there is a meaning.
-/
namespace Foundation

variable {w : ℕ} {x y : ℤ}

def FitsSigned (w : ℕ) (x : ℤ) : Prop := -2 ^ (w - 1) ≤ x ∧ x < 2 ^ (w - 1)

instance (w : ℕ) (x : ℤ) : Decidable (FitsSigned w x) := by
  unfold FitsSigned
  infer_instance

/-- A result of signed arithmetic, which an overflow does not have. -/
def signed (w : ℕ) (x : ℤ) : Option ℤ := if FitsSigned w x then some x else none

theorem signed_eq_some_iff : signed w x = some y ↔ FitsSigned w x ∧ x = y := by
  unfold signed
  split_ifs with hfits
  · simp [hfits]
  · simp [hfits]

theorem FitsSigned.bmod_eq (hw : 0 < w) (h : FitsSigned w x) : x.bmod (2 ^ w) = x := by
  obtain ⟨v, rfl⟩ := Nat.exists_eq_succ_of_ne_zero hw.ne'
  obtain ⟨hlow, hhigh⟩ := h
  rw [Nat.succ_sub_one] at hlow hhigh
  apply Int.bmod_eq_of_le_mul_two
  · push_cast
    rw [pow_succ]
    linarith
  · push_cast
    rw [pow_succ]
    linarith

end Foundation
