import SmartWebGateway.Foundation.Binary64
import Mathlib.Tactic

/-!
# Rounding to binary64

The rounded value of a rational, computed in the binade that the rational lies
in. Values that binary64 has are not moved, and signs do not matter.
-/
namespace Foundation.Double

section Nearest

variable {q : ℚ} {n : ℤ}

theorem roundEven_of_near (h : |q - n| < 1 / 2) : roundEven q = n := by
  obtain ⟨hlo, hhi⟩ := abs_lt.mp h
  by_cases hn : (n : ℚ) ≤ q
  · have hfloor : ⌊q⌋ = n := Int.floor_eq_iff.mpr ⟨hn, by linarith⟩
    rw [roundEven, hfloor, if_pos hhi]
  · have hfloor : ⌊q⌋ = n - 1 := by
      rw [Int.floor_eq_iff]
      push_cast
      constructor <;> linarith
    have hlow : ¬ q - ↑(n - 1) < 1 / 2 := by
      push_cast
      linarith
    have hhigh : 1 / 2 < q - ↑(n - 1) := by
      push_cast
      linarith
    rw [roundEven, hfloor, if_neg hlow, if_pos hhigh]
    omega

theorem floor_half_below (h : q = n - 1 / 2) : ⌊q⌋ = n - 1 ∧ q - ↑(n - 1) = 1 / 2 := by
  constructor
  · rw [Int.floor_eq_iff, h]
    push_cast
    constructor <;> linarith
  · rw [h]
    push_cast
    ring

theorem roundEven_half_below (hn : Even n) (h : q = n - 1 / 2) : roundEven q = n := by
  obtain ⟨hfloor, hhalf⟩ := floor_half_below h
  have hodd : (n - 1) % 2 = 1 := by
    obtain ⟨k, rfl⟩ := hn
    omega
  rw [roundEven, hfloor, hhalf, if_neg (lt_irrefl _), if_neg (lt_irrefl _), hodd]
  omega

theorem near_or_half (q : ℚ) : ∃ n : ℤ, |q - n| < 1 / 2 ∨ q = n - 1 / 2 := by
  have hlo := Int.floor_le q
  have hhi := Int.lt_floor_add_one q
  rcases lt_trichotomy (q - ⌊q⌋) (1 / 2) with h | h | h
  · refine ⟨⌊q⌋, Or.inl ?_⟩
    rw [abs_lt]
    constructor <;> linarith
  · refine ⟨⌊q⌋ + 1, Or.inr ?_⟩
    push_cast
    linarith
  · refine ⟨⌊q⌋ + 1, Or.inl ?_⟩
    rw [abs_lt]
    push_cast
    constructor <;> linarith

theorem roundEven_half_below_odd (hn : ¬ Even n) (h : q = n - 1 / 2) : roundEven q = n - 1 := by
  obtain ⟨hfloor, hhalf⟩ := floor_half_below h
  have heven : (n - 1) % 2 = 0 := by
    obtain ⟨k, rfl⟩ := Int.not_even_iff_odd.mp hn
    omega
  rw [roundEven, hfloor, hhalf, if_neg (lt_irrefl _), if_neg (lt_irrefl _), heven, add_zero]

@[simp] theorem roundEven_neg (q : ℚ) : roundEven (-q) = -roundEven q := by
  obtain ⟨n, h | h⟩ := near_or_half q
  · have hneg : |-q - ↑(-n)| < 1 / 2 := by
      rw [← abs_neg]
      push_cast
      convert h using 2
      ring
    rw [roundEven_of_near h, roundEven_of_near hneg]
  · have hneg : -q = ↑(1 - n) - 1 / 2 := by
      rw [h]
      push_cast
      ring
    by_cases hn : Even n
    · have hodd : ¬ Even (1 - n) := by
        rw [Int.even_sub]
        simp [hn]
      rw [roundEven_half_below hn h, roundEven_half_below_odd hodd hneg]
      ring
    · have heven : Even (1 - n) := by
        rw [Int.even_sub]
        simp [hn]
      rw [roundEven_half_below_odd hn h, roundEven_half_below heven hneg]
      ring

end Nearest

def rounded (q : ℚ) : ℚ := significand q * 2 ^ lastPlace q

section Rounded

variable {q : ℚ} {a : ℤ}

theorem ofRat_of_lt (h : |rounded q| < 2 ^ 1024) : ∃ hq, ofRat q = .finite (rounded q) hq :=
  ⟨_, dif_pos h⟩

@[simp] theorem lastPlace_neg (q : ℚ) : lastPlace (-q) = lastPlace q := by
  rw [lastPlace, lastPlace, abs_neg]

@[simp] theorem rounded_neg (q : ℚ) : rounded (-q) = -rounded q := by
  rw [rounded, rounded, significand, significand, lastPlace_neg, neg_div, roundEven_neg]
  push_cast
  ring

/-- A value that is a whole multiple of its last place is not moved. -/
theorem rounded_of_multiple {n : ℤ} (h : q = n * 2 ^ lastPlace q) : rounded q = q := by
  have hpos : (2 : ℚ) ^ lastPlace q ≠ 0 := zpow_ne_zero _ (by norm_num)
  have hn : q / 2 ^ lastPlace q = n := by
    rw [div_eq_iff hpos]
    exact h
  rw [rounded, significand, hn, roundEven_intCast, ← h]

theorem lastPlace_of_binade (ha : -1022 ≤ a) (hlo : 2 ^ a ≤ |q|) (hhi : |q| < 2 ^ (a + 1)) :
    lastPlace q = a - 52 := by
  have hpos : 0 < |q| := (zpow_pos (by norm_num) a).trans_le hlo
  have hle : a ≤ Int.log 2 |q| :=
    (Int.zpow_le_iff_le_log (by norm_num) hpos).mp (by exact_mod_cast hlo)
  have hlt : Int.log 2 |q| < a + 1 :=
    (Int.lt_zpow_iff_log_lt (by norm_num) hpos).mp (by exact_mod_cast hhi)
  unfold lastPlace
  omega

theorem rounded_of_binade (ha : -1022 ≤ a) (hlo : 2 ^ a ≤ q) (hhi : q < 2 ^ (a + 1)) :
    rounded q = roundEven (q / 2 ^ (a - 52)) * 2 ^ (a - 52) := by
  have hpos : 0 < q := (zpow_pos (by norm_num) a).trans_le hlo
  have hplace : lastPlace q = a - 52 :=
    lastPlace_of_binade ha (by rwa [abs_of_pos hpos]) (by rwa [abs_of_pos hpos])
  rw [rounded, significand, hplace]

/-- A significand of 53 bits whose exponent is below the last place is a power of two. -/
theorem eq_of_lt_lastPlace {m e : ℤ} (hm : |m| ≤ 2 ^ 53) (he : -1074 ≤ e) (hq : q = m * 2 ^ e)
    (hpos : 0 < |q|) (hlt : e < lastPlace q) : lastPlace q = e + 1 ∧ |m| = 2 ^ 53 := by
  have hplace : lastPlace q = Int.log 2 |q| - 52 := by
    unfold lastPlace at hlt ⊢
    omega
  have hlow : (2 : ℚ) ^ Int.log 2 |q| ≤ |q| := by
    exact_mod_cast Int.zpow_log_le_self (b := 2) (by norm_num) hpos
  have hepos : (0 : ℚ) < 2 ^ e := zpow_pos (by norm_num) e
  have hsignificand : (2 : ℚ) ^ (lastPlace q + 52 - e) ≤ |(m : ℚ)| := by
    apply le_of_mul_le_mul_right _ hepos
    calc
      (2 : ℚ) ^ (lastPlace q + 52 - e) * 2 ^ e = 2 ^ Int.log 2 |q| := by
        rw [← zpow_add₀ (by norm_num), hplace]
        congr 1
        ring
      _ ≤ |q| := hlow
      _ = |(m : ℚ)| * 2 ^ e := by rw [hq, abs_mul, abs_of_pos hepos]
  have hmq : |(m : ℚ)| ≤ 2 ^ (53 : ℤ) := by exact_mod_cast hm
  have hbound : lastPlace q + 52 - e ≤ 53 :=
    (zpow_le_zpow_iff_right₀ (by norm_num : (1 : ℚ) < 2)).mp (hsignificand.trans hmq)
  have hnext : lastPlace q = e + 1 := by omega
  refine ⟨hnext, le_antisymm hm ?_⟩
  have hfull : (2 : ℚ) ^ (53 : ℤ) ≤ |(m : ℚ)| := by
    have hexp : lastPlace q + 52 - e = 53 := by omega
    rw [hexp] at hsignificand
    exact hsignificand
  exact_mod_cast hfull

/-- Rounding leaves alone what binary64 has. -/
theorem rounded_of_representable (h : Representable q) : rounded q = q := by
  obtain ⟨m, e, hm, he, hq, -⟩ := h
  by_cases hzero : q = 0
  · rw [hzero, rounded, significand_zero]
    simp
  · have htwo : (2 : ℚ) ≠ 0 := by norm_num
    rcases le_or_gt (lastPlace q) e with hle | hlt
    · apply rounded_of_multiple (n := m * 2 ^ (e - lastPlace q).toNat)
      have hexp : (2 : ℚ) ^ (e - lastPlace q).toNat = 2 ^ (e - lastPlace q) := by
        rw [← zpow_natCast, Int.toNat_of_nonneg (by omega)]
      push_cast
      rw [hexp, mul_assoc, ← zpow_add₀ htwo, sub_add_cancel]
      exact hq
    · obtain ⟨hnext, habs⟩ := eq_of_lt_lastPlace hm he hq (abs_pos.mpr hzero) hlt
      apply rounded_of_multiple (n := m / 2)
      have hhalf : (m : ℚ) = ((m / 2 : ℤ) : ℚ) * 2 := by
        have hm2 : m = m / 2 * 2 := by
          rcases abs_eq (by norm_num) |>.mp habs with rfl | rfl <;> norm_num
        exact_mod_cast hm2
      rw [hnext, zpow_add₀ htwo, zpow_one, hq]
      nth_rewrite 1 [hhalf]
      ring

theorem abs_rounded_le (ha : 0 ≤ a) (h : |q| < 2 ^ a) : |rounded q| ≤ 2 ^ a := by
  by_cases hzero : q = 0
  · rw [hzero, rounded_of_representable representable_zero, abs_zero]
    positivity
  · have hlog : Int.log 2 |q| < a :=
      (Int.lt_zpow_iff_log_lt (by norm_num) (abs_pos.mpr hzero)).mp (by exact_mod_cast h)
    have hplace : 53 + lastPlace q ≤ a := by
      unfold lastPlace
      omega
    have hsignificand : |(significand q : ℚ)| ≤ 2 ^ (53 : ℤ) := by
      exact_mod_cast abs_significand_le q
    have hpos : (0 : ℚ) < 2 ^ lastPlace q := zpow_pos (by norm_num) _
    calc
      |rounded q| = |(significand q : ℚ)| * 2 ^ lastPlace q := by
        rw [rounded, abs_mul, abs_of_pos hpos]
      _ ≤ 2 ^ (53 : ℤ) * 2 ^ lastPlace q := mul_le_mul_of_nonneg_right hsignificand hpos.le
      _ = 2 ^ (53 + lastPlace q) := (zpow_add₀ (by norm_num) _ _).symm
      _ ≤ 2 ^ a := zpow_le_zpow_right₀ (by norm_num) hplace

theorem ofRat_of_abs_lt (ha : 0 ≤ a) (ha' : a < 1024) (h : |q| < 2 ^ a) :
    ∃ hq, ofRat q = .finite (rounded q) hq := by
  apply ofRat_of_lt
  calc
    |rounded q| ≤ 2 ^ a := abs_rounded_le ha h
    _ < 2 ^ (1024 : ℤ) := zpow_lt_zpow_right₀ (by norm_num) ha'
    _ = 2 ^ 1024 := zpow_ofNat 2 1024

end Rounded

/-- The quotient of two doubles, rounded once. A divisor 0 counts as positive. -/
def div : Double → Double → Double
  | .finite x _, .finite y _ =>
    if y = 0 then if x = 0 then .nan else .infinite (x < 0) else ofRat (x / y)
  | .infinite a, .finite y _ => .infinite (a ^^ decide (y < 0))
  | .finite _ _, .infinite _ => .finite 0 representable_zero
  | .infinite _, .infinite _ => .nan
  | .nan, _ => .nan
  | _, .nan => .nan

def ofInt (n : ℤ) : Double := ofRat n

def truncated? : Double → Option ℤ
  | .finite q _ => some (truncate q)
  | _ => none

section Values

variable {q : ℚ}

theorem toSigned?_eq_some_iff {n : ℕ} {x : Double} {v : BitVec n} :
    x.toSigned? n = some v ↔ ∃ t, x.truncated? = some t ∧ -2 ^ (n - 1) ≤ t ∧ t < 2 ^ (n - 1) ∧
      BitVec.ofInt n t = v := by
  cases x with
  | finite q hq =>
    simp only [toSigned?, truncated?, Option.some.injEq, exists_eq_left',
      Option.ite_none_right_eq_some]
    tauto
  | infinite negative => simp [toSigned?, truncated?]
  | nan => simp [toSigned?, truncated?]

theorem ofRat_of_representable (h : Representable q) : ofRat q = .finite q h := by
  have hlt : |rounded q| < 2 ^ 1024 := by
    rw [rounded_of_representable h]
    obtain ⟨_, _, _, _, _, hlt⟩ := h
    exact hlt
  obtain ⟨hq, heq⟩ := ofRat_of_lt hlt
  rw [heq]
  simp only [rounded_of_representable h]

theorem representable_intCast {n : ℤ} (h : |n| ≤ 2 ^ 53) : Representable n := by
  refine ⟨n, 0, h, by norm_num, by simp, ?_⟩
  have hn : |(n : ℚ)| ≤ 2 ^ 53 := by exact_mod_cast h
  exact hn.trans_lt (pow_lt_pow_right₀ (by norm_num) (by norm_num))

theorem representable_div_two_pow {n : ℤ} {k : ℕ} (hn : |n| ≤ 2 ^ 53) (hk : k ≤ 1074) :
    Representable (n / 2 ^ k) := by
  refine ⟨n, -k, hn, by omega, by rw [zpow_neg, zpow_natCast, div_eq_mul_inv], ?_⟩
  have hnq : |(n : ℚ)| ≤ 2 ^ 53 := by exact_mod_cast hn
  have hpos : |(2 : ℚ) ^ k| = 2 ^ k := abs_of_pos (pow_pos two_pos k)
  calc
    |(n : ℚ) / 2 ^ k| = |(n : ℚ)| / 2 ^ k := by rw [abs_div, hpos]
    _ ≤ |(n : ℚ)| := div_le_self (abs_nonneg _) (one_le_pow₀ (by norm_num))
    _ ≤ 2 ^ 53 := hnq
    _ < 2 ^ 1024 := pow_lt_pow_right₀ (by norm_num) (by norm_num)

theorem ofInt_eq {n : ℤ} (h : |n| ≤ 2 ^ 53) : ofInt n = .finite n (representable_intCast h) :=
  ofRat_of_representable _

theorem mul_ofInt_one (x : Double) : x.mul (ofInt 1) = x := by
  rw [ofInt_eq (by norm_num)]
  cases x with
  | nan => rfl
  | infinite negative =>
    have hpos : ¬ (1 : ℚ) < 0 := by norm_num
    simp [mul, hpos]
  | finite q hq =>
    have hmul : q * ((1 : ℤ) : ℚ) = q := by simp
    simp only [mul, hmul]
    exact ofRat_of_representable hq

@[simp] theorem truncate_intCast (n : ℤ) : truncate n = n := by
  simp [truncate]

@[simp] theorem truncate_neg (q : ℚ) : truncate (-q) = -truncate q := by
  unfold truncate
  rcases lt_trichotomy q 0 with h | rfl | h
  · rw [if_pos (by linarith), if_neg (by linarith), Int.floor_neg]
  · simp
  · rw [if_neg (by linarith), if_pos h.le, Int.ceil_neg]

end Values

end Foundation.Double
