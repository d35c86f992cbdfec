import Mathlib.Data.Int.Log
import Mathlib.Data.Rat.Floor
import Mathlib.Tactic

/-!
# Binary64 values as rationals

A finite double is the exact rational it stands for, carried with the proof
that binary64 has it; signed zeros are one value. Every operation is the exact
rational operation followed by one rounding to nearest, ties to even, with
gradual underflow and overflow to an infinity.
-/
namespace Foundation

def Representable (q : ℚ) : Prop :=
  ∃ m e : ℤ, |m| ≤ 2 ^ 53 ∧ -1074 ≤ e ∧ q = m * 2 ^ e ∧ |q| < 2 ^ 1024

inductive Double where
  | nan
  | infinite (negative : Bool)
  | finite (q : ℚ) (representable : Representable q)

namespace Double

/-- The nearest integer, and the even one of two that are equally near. -/
def roundEven (q : ℚ) : ℤ :=
  if q - ⌊q⌋ < 1 / 2 then ⌊q⌋
  else if 1 / 2 < q - ⌊q⌋ then ⌊q⌋ + 1
  else ⌊q⌋ + ⌊q⌋ % 2

theorem floor_le_roundEven (q : ℚ) : ⌊q⌋ ≤ roundEven q := by
  have := Int.emod_nonneg ⌊q⌋ (by norm_num : (2 : ℤ) ≠ 0)
  unfold roundEven
  split_ifs <;> omega

theorem roundEven_le_floor_add_one (q : ℚ) : roundEven q ≤ ⌊q⌋ + 1 := by
  have := Int.emod_lt_of_pos ⌊q⌋ (by norm_num : (0 : ℤ) < 2)
  unfold roundEven
  split_ifs <;> omega

@[simp] theorem roundEven_intCast (n : ℤ) : roundEven n = n := by
  simp [roundEven]

theorem abs_roundEven_le {q : ℚ} {n : ℤ} (h : |q| < n) : |roundEven q| ≤ n := by
  have hlo := floor_le_roundEven q
  have hhi := roundEven_le_floor_add_one q
  have hq := abs_lt.mp h
  have hfloor : ⌊q⌋ < n := Int.floor_lt.mpr hq.2
  have hge : -n ≤ ⌊q⌋ := Int.le_floor.mpr (by push_cast; exact hq.1.le)
  rw [abs_le]
  constructor <;> omega

/-- Exponent of the last place of the double next to `q`. -/
def lastPlace (q : ℚ) : ℤ := max (Int.log 2 |q| - 52) (-1074)

theorem abs_lt_lastPlace (q : ℚ) : |q| < 2 ^ 53 * 2 ^ lastPlace q := by
  have hlog := Int.lt_zpow_succ_log_self (b := 2) (by norm_num) |q|
  have hexp : Int.log 2 |q| + 1 ≤ 53 + lastPlace q := by
    have := le_max_left (Int.log 2 |q| - 52) (-1074)
    unfold lastPlace
    omega
  calc
    |q| < (2 : ℚ) ^ (Int.log 2 |q| + 1) := by exact_mod_cast hlog
    _ ≤ (2 : ℚ) ^ (53 + lastPlace q) := zpow_le_zpow_right₀ (by norm_num) hexp
    _ = 2 ^ 53 * 2 ^ lastPlace q := by
      rw [zpow_add₀ (by norm_num)]
      norm_cast

/-- The significand that `q` rounds to, in units of its last place. -/
def significand (q : ℚ) : ℤ := roundEven (q / 2 ^ lastPlace q)

theorem abs_significand_le (q : ℚ) : |significand q| ≤ 2 ^ 53 := by
  apply abs_roundEven_le
  have hpos : (0 : ℚ) < 2 ^ lastPlace q := zpow_pos (by norm_num) _
  rw [abs_div, abs_of_pos hpos, div_lt_iff₀ hpos]
  exact_mod_cast abs_lt_lastPlace q

/-- The double nearest to a rational. -/
def ofRat (q : ℚ) : Double :=
  let rounded := (significand q : ℚ) * 2 ^ lastPlace q
  if h : |rounded| < 2 ^ 1024 then
    .finite rounded ⟨significand q, lastPlace q, abs_significand_le q, le_max_right _ _, rfl, h⟩
  else .infinite (q < 0)

@[simp] theorem significand_zero : significand 0 = 0 := by
  simpa [significand] using roundEven_intCast 0

theorem representable_ofNat (n : ℕ) (h : n ≤ 2 ^ 53) : Representable n := by
  refine ⟨n, 0, ?_, by norm_num, by simp, ?_⟩
  · rw [abs_of_nonneg (by positivity)]
    exact_mod_cast h
  · rw [abs_of_nonneg (by positivity)]
    exact_mod_cast h.trans_lt (Nat.pow_lt_pow_right (by norm_num) (by norm_num))

theorem representable_zero : Representable 0 := by
  exact_mod_cast representable_ofNat 0 (by norm_num)

theorem ofRat_zero : ofRat 0 = .finite 0 representable_zero := by
  simp [ofRat]

def mul : Double → Double → Double
  | .finite x _, .finite y _ => ofRat (x * y)
  | .infinite a, .finite y _ => if y = 0 then .nan else .infinite (a ^^ decide (y < 0))
  | .finite x _, .infinite b => if x = 0 then .nan else .infinite (decide (x < 0) ^^ b)
  | .infinite a, .infinite b => .infinite (a ^^ b)
  | .nan, _ => .nan
  | _, .nan => .nan

def truncate (q : ℚ) : ℤ := if 0 ≤ q then ⌊q⌋ else ⌈q⌉

/-- The conversion to an `n`-bit signed integer truncates. It has a result
only when the truncated value fits. -/
def toSigned? (n : ℕ) : Double → Option (BitVec n)
  | .finite q _ =>
    if -2 ^ (n - 1) ≤ truncate q ∧ truncate q < 2 ^ (n - 1) then some (BitVec.ofInt n (truncate q))
    else none
  | _ => none

end Double
end Foundation
