import SmartWebGateway.Foundation.Rounding
import Mathlib.Tactic

/-!
# Dividing and multiplying back

A whole number is divided, the quotient is multiplied by the same divisor, both
results are rounded, and the last one is truncated. The number comes back if
the quotient was rounded up, or down by so little that the product is rounded
up again.
-/
namespace Foundation.Double

/-- What is left of `n` after division and multiplication by `d`. -/
def returned (n : ℤ) (d : ℕ) : ℤ := truncate (rounded (rounded (n / d) * d))

@[simp] theorem returned_neg (n : ℤ) (d : ℕ) : returned (-n) d = -returned n d := by
  have hneg : ((-n : ℤ) : ℚ) / d = -(n / d) := by
    push_cast
    ring
  rw [returned, hneg, rounded_neg, neg_mul, rounded_neg, truncate_neg, returned]

@[simp] theorem returned_zero (d : ℕ) : returned 0 d = 0 := by
  have hzero : rounded 0 = 0 := rounded_of_representable representable_zero
  simp [returned, hzero, truncate]

section Positive

variable {m d e k q r : ℕ} {t : ℚ}

theorem roundEven_div_down (hm : m = d * q + r) (h : 2 * r < d) :
    roundEven ((m : ℚ) / d) = q := by
  have hd : (0 : ℚ) < d := by exact_mod_cast (by omega : 0 < d)
  have hmq : (m : ℚ) = d * q + r := by exact_mod_cast hm
  have hr : 2 * (r : ℚ) < d := by exact_mod_cast h
  apply roundEven_of_near
  have hdiff : (m : ℚ) / d - (q : ℤ) = r / d := by
    rw [hmq, Int.cast_natCast]
    field_simp
    ring
  rw [hdiff, abs_of_nonneg (by positivity), div_lt_iff₀ hd]
  linarith

theorem roundEven_div_up (hm : m = d * q + r) (hr : r < d) (h : d < 2 * r) :
    roundEven ((m : ℚ) / d) = q + 1 := by
  have hd : (0 : ℚ) < d := by exact_mod_cast (by omega : 0 < d)
  have hmq : (m : ℚ) = d * q + r := by exact_mod_cast hm
  have hlt : (r : ℚ) < d := by exact_mod_cast hr
  have hhalf : (d : ℚ) < 2 * r := by exact_mod_cast h
  apply roundEven_of_near
  have hdiff : (m : ℚ) / d - ((q + 1 : ℤ) : ℚ) = -((d - r) / d) := by
    rw [hmq]
    push_cast
    field_simp
    ring
  rw [hdiff, abs_neg, abs_of_nonneg (div_nonneg (by linarith) hd.le), div_lt_iff₀ hd]
  linarith

theorem rounded_div (hd : 0 < d) (he : e ≤ 1000) (hlo : d * 2 ^ 52 ≤ m * 2 ^ e)
    (hhi : m * 2 ^ e < d * 2 ^ 53) :
    rounded ((m : ℚ) / d) = roundEven ((m * 2 ^ e : ℕ) / d) / 2 ^ e := by
  have hdq : (0 : ℚ) < d := by exact_mod_cast hd
  have htwo : (2 : ℚ) ≠ 0 := by norm_num
  have hpow : (0 : ℚ) < 2 ^ e := by positivity
  have hstart : (2 : ℚ) ^ (52 - (e : ℤ)) = 2 ^ 52 / 2 ^ e := by
    rw [zpow_sub₀ htwo, zpow_natCast]
    rfl
  have hend : (2 : ℚ) ^ (52 - (e : ℤ) + 1) = 2 ^ 53 / 2 ^ e := by
    rw [zpow_add₀ htwo, hstart, zpow_one]
    ring
  have hunit : (2 : ℚ) ^ (52 - (e : ℤ) - 52) = 1 / 2 ^ e := by
    rw [zpow_sub₀ htwo, hstart]
    field_simp
  have hloq : (d : ℚ) * 2 ^ 52 ≤ m * 2 ^ e := by exact_mod_cast hlo
  have hhiq : (m : ℚ) * 2 ^ e < d * 2 ^ 53 := by exact_mod_cast hhi
  have hbinade := rounded_of_binade (q := (m : ℚ) / d) (a := 52 - (e : ℤ)) (by omega)
    (by rw [hstart, div_le_div_iff₀ hpow hdq]; linarith)
    (by rw [hend, div_lt_div_iff₀ hdq hpow]; linarith)
  have hscaled : (m : ℚ) / d / (1 / 2 ^ e) = (m * 2 ^ e : ℕ) / d := by
    push_cast
    field_simp
  rw [hbinade, hunit, hscaled, mul_one_div]

theorem rounded_of_natBinade {x : ℚ} (hlo : 2 ^ k ≤ x) (hhi : x < 2 ^ (k + 1)) (hsmall : k ≤ 50) :
    rounded x = roundEven (x * 2 ^ (52 - k)) / 2 ^ (52 - k) := by
  have hunit : (2 : ℚ) ^ ((k : ℤ) - 52) = (2 ^ (52 - k))⁻¹ := by
    rw [← zpow_natCast, ← zpow_neg]
    congr 1
    omega
  have hbinade := rounded_of_binade (q := x) (a := k) (by omega) (by exact_mod_cast hlo)
    (by exact_mod_cast hhi)
  rw [hbinade, hunit, div_inv_eq_mul, div_eq_mul_inv]

theorem truncate_rounded_above (hk : 2 ^ k ≤ m) (hk' : m < 2 ^ (k + 1)) (hsmall : k ≤ 50)
    (ht : 0 ≤ t) (ht' : t ≤ 1 / 2) : truncate (rounded (m + t)) = m := by
  have hkq : (2 : ℚ) ^ k ≤ m := by exact_mod_cast hk
  have hkq' : (m : ℚ) + 1 ≤ 2 ^ (k + 1) := by exact_mod_cast hk'
  have hplaces : (4 : ℚ) ≤ 2 ^ (52 - k) := by
    calc
      (4 : ℚ) = 2 ^ 2 := by norm_num
      _ ≤ 2 ^ (52 - k) := pow_le_pow_right₀ (by norm_num) (by omega)
  have hpos : (0 : ℚ) < 2 ^ (52 - k) := by positivity
  have hfloor : ⌊((m : ℚ) + t) * 2 ^ (52 - k)⌋ ≤ roundEven ((m + t) * 2 ^ (52 - k)) :=
    floor_le_roundEven _
  have hbelow : (m : ℤ) * 2 ^ (52 - k) ≤ roundEven (((m : ℚ) + t) * 2 ^ (52 - k)) := by
    refine le_trans (Int.le_floor.mpr ?_) hfloor
    push_cast
    exact mul_le_mul_of_nonneg_right (by linarith) hpos.le
  have habove : (roundEven (((m : ℚ) + t) * 2 ^ (52 - k)) : ℚ) < (m + 1) * 2 ^ (52 - k) := by
    have hle : (roundEven (((m : ℚ) + t) * 2 ^ (52 - k)) : ℚ) ≤ (m + t) * 2 ^ (52 - k) + 1 := by
      have hnext : (roundEven (((m : ℚ) + t) * 2 ^ (52 - k)) : ℚ) ≤
          ⌊((m : ℚ) + t) * 2 ^ (52 - k)⌋ + 1 := by
        exact_mod_cast roundEven_le_floor_add_one _
      linarith [Int.floor_le (((m : ℚ) + t) * 2 ^ (52 - k))]
    have hhalf : t * 2 ^ (52 - k) ≤ 1 / 2 * 2 ^ (52 - k) := mul_le_mul_of_nonneg_right ht' hpos.le
    nlinarith
  have hbelowq : (m : ℚ) * 2 ^ (52 - k) ≤ roundEven (((m : ℚ) + t) * 2 ^ (52 - k)) := by
    exact_mod_cast hbelow
  rw [rounded_of_natBinade (by linarith) (by linarith) hsmall]
  have hnonneg : (m : ℚ) ≤ roundEven (((m : ℚ) + t) * 2 ^ (52 - k)) / 2 ^ (52 - k) := by
    rw [le_div_iff₀ hpos]
    exact hbelowq
  rw [truncate, if_pos ((Nat.cast_nonneg m).trans hnonneg), Int.floor_eq_iff]
  refine ⟨by exact_mod_cast hnonneg, ?_⟩
  rw [div_lt_iff₀ hpos]
  exact_mod_cast habove

/-- Slightly below a whole number the product is rounded up to it within half a place, and is one
less otherwise. -/
theorem truncate_rounded_below (hk : 2 ^ k < m) (hk' : m < 2 ^ (k + 1)) (hsmall : k ≤ 50)
    (ht : 0 ≤ t) (ht' : t * 2 ^ (52 - k) < 1) :
    truncate (rounded (m - t)) = if t * 2 ^ (52 - k) ≤ 1 / 2 then (m : ℤ) else m - 1 := by
  have hkq : (2 : ℚ) ^ k + 1 ≤ m := by exact_mod_cast hk
  have hkq' : (m : ℚ) < 2 ^ (k + 1) := by exact_mod_cast hk'
  have hpos : (0 : ℚ) < 2 ^ (52 - k) := by positivity
  have hone : (1 : ℚ) ≤ 2 ^ (52 - k) := one_le_pow₀ (by norm_num)
  have ht1 : t < 1 := by nlinarith
  have hscaled :
      ((m : ℚ) - t) * 2 ^ (52 - k) = ((m * 2 ^ (52 - k) : ℤ) : ℚ) - t * 2 ^ (52 - k) := by
    push_cast
    ring
  rw [rounded_of_natBinade (by linarith) (by linarith) hsmall, hscaled]
  have hwhole : ((m * 2 ^ (52 - k) : ℤ) : ℚ) / 2 ^ (52 - k) = (m : ℤ) := by
    push_cast
    field_simp
  rcases lt_trichotomy (t * 2 ^ (52 - k)) (1 / 2) with hlt | heq | hgt
  · have hround : roundEven (((m * 2 ^ (52 - k) : ℤ) : ℚ) - t * 2 ^ (52 - k)) =
        m * 2 ^ (52 - k) := by
      apply roundEven_of_near
      rw [sub_sub_cancel_left, abs_neg, abs_of_nonneg (by positivity)]
      exact hlt
    rw [hround, hwhole, truncate_intCast, if_pos hlt.le]
  · have heven : Even ((m : ℤ) * 2 ^ (52 - k)) := by
      apply Even.mul_left
      exact (even_two).pow_of_ne_zero (by omega)
    rw [roundEven_half_below heven (by rw [heq]), hwhole, truncate_intCast, if_pos heq.le]
  · have hround : roundEven (((m * 2 ^ (52 - k) : ℤ) : ℚ) - t * 2 ^ (52 - k)) =
        m * 2 ^ (52 - k) - 1 := by
      apply roundEven_of_near
      push_cast
      rw [abs_lt]
      constructor <;> linarith
    have hm1 : (1 : ℚ) ≤ m := by exact_mod_cast (Nat.one_le_two_pow.trans hk.le)
    have hnonneg : (0 : ℚ) ≤ ((m * 2 ^ (52 - k) - 1 : ℤ) : ℚ) / 2 ^ (52 - k) := by
      apply div_nonneg _ hpos.le
      push_cast
      linarith [one_le_mul_of_one_le_of_one_le hm1 hone]
    rw [hround, truncate, if_pos hnonneg, if_neg (not_le.mpr hgt), Int.floor_eq_iff,
      le_div_iff₀ hpos, div_lt_iff₀ hpos]
    push_cast
    constructor <;> linarith

/-- A multiple of the divisor's power of two never leaves half the divisor. -/
theorem two_mul_mod_ne {b o : ℕ} (hd : d = 2 ^ b * o) (ho : Odd o) (hdvd : 2 ^ b ∣ m) :
    2 * (m % d) ≠ d := by
  intro htie
  have hdm : d ∣ 2 * m := by
    have hsplit : 2 * m = 2 * (d * (m / d)) + 2 * (m % d) := by
      rw [← mul_add, Nat.div_add_mod]
    rw [hsplit, htie]
    exact ⟨2 * (m / d) + 1, by ring⟩
  have hodd : o ∣ m := by
    have hdvd2 : o ∣ 2 * m := (Dvd.intro_left _ hd.symm).trans hdm
    exact (Nat.Coprime.dvd_mul_left (Nat.coprime_two_right.mpr ho)).mp hdvd2
  have hcoprime : Nat.Coprime (2 ^ b) o := Nat.Coprime.pow_left b (Nat.coprime_two_left.mpr ho)
  have hmod : m % d = 0 := by
    rw [hd]
    exact Nat.mod_eq_zero_of_dvd (hcoprime.mul_dvd_of_dvd_of_dvd hdvd hodd)
  have hpos : 0 < d := by
    rw [hd]
    exact Nat.mul_pos (by positivity) ho.pos
  omega

/-- A place of the quotient is worth less than two places of the product. -/
theorem divisor_places_lt (hk' : m < 2 ^ (k + 1)) (hsmall : k ≤ 50)
    (hlo : d * 2 ^ 52 ≤ m * 2 ^ e) : d * 2 ^ (52 - k) < 2 * 2 ^ e := by
  apply lt_of_mul_lt_mul_right _ (Nat.zero_le (2 ^ k))
  calc
    d * 2 ^ (52 - k) * 2 ^ k = d * 2 ^ 52 := by
      rw [mul_assoc, pow_sub_mul_pow 2 (by omega)]
    _ ≤ m * 2 ^ e := hlo
    _ < 2 ^ (k + 1) * 2 ^ e := Nat.mul_lt_mul_of_pos_right hk' (by positivity)
    _ = 2 * 2 ^ e * 2 ^ k := by ring

theorem returned_of_down (hk : 2 ^ k < m) (hk' : m < 2 ^ (k + 1)) (hsmall : k ≤ 50) (hd : 0 < d)
    (he : e ≤ 1000) (hlo : d * 2 ^ 52 ≤ m * 2 ^ e) (hhi : m * 2 ^ e < d * 2 ^ 53)
    (hdown : 2 * (m * 2 ^ e % d) < d) :
    returned m d = if 2 * (m * 2 ^ e % d) * 2 ^ (52 - k) ≤ 2 ^ e then (m : ℤ) else m - 1 := by
  have hsplit : m * 2 ^ e = d * (m * 2 ^ e / d) + m * 2 ^ e % d := (Nat.div_add_mod _ _).symm
  generalize m * 2 ^ e / d = q at hsplit
  generalize m * 2 ^ e % d = r at hsplit hdown ⊢
  have hpow : (0 : ℚ) < 2 ^ e := by positivity
  have hsplitq : (m : ℚ) * 2 ^ e = d * q + r := by exact_mod_cast hsplit
  have hproduct : (q : ℚ) / 2 ^ e * d = m - r / 2 ^ e := by
    field_simp
    linarith
  have hsmaller : (r : ℚ) / 2 ^ e * 2 ^ (52 - k) < 1 := by
    have hr : r * 2 ^ (52 - k) < 2 ^ e := by
      apply lt_of_mul_lt_mul_left _ (Nat.zero_le 2)
      calc
        2 * (r * 2 ^ (52 - k)) = 2 * r * 2 ^ (52 - k) := by ring
        _ ≤ d * 2 ^ (52 - k) := Nat.mul_le_mul_right _ hdown.le
        _ < 2 * 2 ^ e := divisor_places_lt hk' hsmall hlo
    rw [div_mul_eq_mul_div, div_lt_one hpow]
    exact_mod_cast hr
  have hhalf : (r : ℚ) / 2 ^ e * 2 ^ (52 - k) ≤ 1 / 2 ↔ 2 * r * 2 ^ (52 - k) ≤ 2 ^ e := by
    rw [div_mul_eq_mul_div, div_le_div_iff₀ hpow (by norm_num), one_mul, mul_comm, ← mul_assoc]
    exact_mod_cast Iff.rfl
  rw [returned, Int.cast_natCast, rounded_div hd he hlo hhi, roundEven_div_down hsplit hdown,
    Int.cast_natCast, hproduct, truncate_rounded_below hk hk' hsmall (by positivity) hsmaller]
  exact if_congr hhalf rfl rfl

theorem returned_of_up (hk : 2 ^ k ≤ m) (hk' : m < 2 ^ (k + 1)) (hsmall : k ≤ 50) (hd : 0 < d)
    (he : e ≤ 1000) (hlo : d * 2 ^ 52 ≤ m * 2 ^ e) (hhi : m * 2 ^ e < d * 2 ^ 53)
    (hup : d < 2 * (m * 2 ^ e % d)) : returned m d = m := by
  have hsplit : m * 2 ^ e = d * (m * 2 ^ e / d) + m * 2 ^ e % d := (Nat.div_add_mod _ _).symm
  have hmod : m * 2 ^ e % d < d := Nat.mod_lt _ hd
  generalize m * 2 ^ e / d = q at hsplit
  generalize m * 2 ^ e % d = r at hsplit hmod hup
  have hpow : (0 : ℚ) < 2 ^ e := by positivity
  have hsplitq : (m : ℚ) * 2 ^ e = d * q + r := by exact_mod_cast hsplit
  have hproduct : ((q + 1 : ℤ) : ℚ) / 2 ^ e * d = m + (d - r) / 2 ^ e := by
    push_cast
    field_simp
    linarith
  have hr : (r : ℚ) < d := by exact_mod_cast hmod
  have hupq : (d : ℚ) < 2 * r := by exact_mod_cast hup
  have hwidth : (d : ℚ) * 2 ≤ d * 2 ^ (52 - k) :=
    mul_le_mul_of_nonneg_left (le_self_pow₀ (by norm_num) (by omega)) (Nat.cast_nonneg d)
  have hwidth' : (d : ℚ) * 2 ^ (52 - k) < 2 * 2 ^ e := by
    exact_mod_cast divisor_places_lt hk' hsmall hlo
  have hhalf : ((d : ℚ) - r) / 2 ^ e ≤ 1 / 2 := by
    rw [div_le_div_iff₀ hpow (by norm_num)]
    linarith
  rw [returned, Int.cast_natCast, rounded_div hd he hlo hhi, roundEven_div_up hsplit hmod hup,
    hproduct, truncate_rounded_above hk hk' hsmall (div_nonneg (by linarith) hpow.le) hhalf]

/-- A whole number comes back when its quotient was rounded up, or down by no more than half a place
of the product; otherwise one is lost. -/
theorem returned_eq_ite (hk : 2 ^ k ≤ m) (hk' : m < 2 ^ (k + 1)) (hsmall : k ≤ 50) (hd : 0 < d)
    (he : e ≤ 1000) (hlo : d * 2 ^ 52 ≤ m * 2 ^ e) (hhi : m * 2 ^ e < d * 2 ^ 53)
    (htie : 2 * (m * 2 ^ e % d) ≠ d) (hpower : 2 ^ k < m ∨ d < 2 * (m * 2 ^ e % d)) :
    returned m d =
      if d < 2 * (m * 2 ^ e % d) ∨ 2 * (m * 2 ^ e % d) * 2 ^ (52 - k) ≤ 2 ^ e then (m : ℤ)
      else m - 1 := by
  rcases lt_or_gt_of_ne htie with hdown | hup
  · have hk1 : 2 ^ k < m := hpower.resolve_right hdown.not_gt
    rw [returned_of_down hk1 hk' hsmall hd he hlo hhi hdown]
    exact if_congr (or_iff_right hdown.not_gt).symm rfl rfl
  · rw [returned_of_up hk hk' hsmall hd he hlo hhi hup, if_pos (Or.inl hup)]

end Positive

/-- When a whole number comes back, from its binary form: nothing is lost when the quotient has one
more place than usual, when it is rounded up, and when its remainder is small. -/
def ComesBack (m d : ℕ) : Prop :=
  m = 0 ∨ m * 2 ^ Nat.log 2 d < d * 2 ^ Nat.log 2 m ∨
    d ≤ 2 * (m * 2 ^ (52 + Nat.log 2 d - Nat.log 2 m) % d) ∨
    2 * (m * 2 ^ (52 + Nat.log 2 d - Nat.log 2 m) % d) ≤ 2 ^ Nat.log 2 d

instance (m d : ℕ) : Decidable (ComesBack m d) := by
  unfold ComesBack
  infer_instance

section Binary

variable {m d k p b o : ℕ}

theorem exponent_le (hd : d = 2 ^ b * o) (ho : Odd o) (hp' : d < 2 ^ (p + 1)) : b ≤ p := by
  by_contra hb
  have hle : 2 ^ (p + 1) ≤ 2 ^ b * o :=
    (Nat.pow_le_pow_right (by norm_num) (by omega)).trans (Nat.le_mul_of_pos_right _ ho.pos)
  omega

theorem returned_eq_of_lower (hk : 2 ^ k ≤ m) (hk' : m < 2 ^ (k + 1)) (hsmall : k ≤ 50)
    (hp' : d < 2 ^ (p + 1)) (hpsmall : p ≤ 900) (hd : d = 2 ^ b * o) (ho : Odd o)
    (hpower : d < 2 * (2 ^ (53 + p) % d)) (hlower : m * 2 ^ p < d * 2 ^ k) : returned m d = m := by
  have hb : b ≤ p := exponent_le hd ho hp'
  have hone : 2 ^ k * 2 ^ (52 - k) = 2 ^ 52 := pow_mul_pow_sub 2 (by omega)
  have hexp : 2 ^ (53 + p - k) = 2 * 2 ^ p * 2 ^ (52 - k) := by
    rw [← pow_succ', ← pow_add]
    congr 1
    omega
  have hplaces : 0 < 2 ^ (52 - k) := by positivity
  have hlo : d * 2 ^ 52 ≤ m * 2 ^ (53 + p - k) := by
    rw [hexp, ← hone]
    calc
      d * (2 ^ k * 2 ^ (52 - k)) ≤ 2 * 2 ^ p * (2 ^ k * 2 ^ (52 - k)) := by
        apply Nat.mul_le_mul_right
        rw [← pow_succ']
        exact hp'.le
      _ ≤ 2 * 2 ^ p * (m * 2 ^ (52 - k)) :=
        Nat.mul_le_mul_left _ (Nat.mul_le_mul_right _ hk)
      _ = m * (2 * 2 ^ p * 2 ^ (52 - k)) := by ring
  have hhi : m * 2 ^ (53 + p - k) < d * 2 ^ 53 := by
    rw [hexp, pow_succ, ← hone]
    calc
      m * (2 * 2 ^ p * 2 ^ (52 - k)) = m * 2 ^ p * (2 * 2 ^ (52 - k)) := by ring
      _ < d * 2 ^ k * (2 * 2 ^ (52 - k)) := Nat.mul_lt_mul_of_pos_right hlower (by positivity)
      _ = d * (2 ^ k * 2 ^ (52 - k) * 2) := by ring
  have htie : 2 * (m * 2 ^ (53 + p - k) % d) ≠ d :=
    two_mul_mod_ne hd ho (Dvd.dvd.mul_left (pow_dvd_pow 2 (by omega)) m)
  have hsingle : 2 ^ k < m ∨ d < 2 * (m * 2 ^ (53 + p - k) % d) := by
    rcases hk.lt_or_eq with hlt | rfl
    · exact Or.inl hlt
    · right
      rw [← pow_add, Nat.add_sub_cancel' (by omega)]
      exact hpower
  rw [returned_eq_ite hk hk' hsmall (by omega) (by omega) hlo hhi htie hsingle]
  apply if_pos
  rcases lt_or_gt_of_ne htie with hdown | hup
  · right
    calc
      2 * (m * 2 ^ (53 + p - k) % d) * 2 ^ (52 - k) ≤ 2 * 2 ^ p * 2 ^ (52 - k) := by
        apply Nat.mul_le_mul_right
        have hdouble := pow_succ 2 p
        omega
      _ = 2 ^ (53 + p - k) := hexp.symm
  · exact Or.inl hup

theorem returned_eq_ite_of_upper (hk : 2 ^ k ≤ m) (hk' : m < 2 ^ (k + 1)) (hsmall : k ≤ 50)
    (hp : 2 ^ p < d) (hp' : d < 2 ^ (p + 1)) (hpsmall : p ≤ 900) (hd : d = 2 ^ b * o) (ho : Odd o)
    (hupper : d * 2 ^ k ≤ m * 2 ^ p) :
    returned m d =
      if d ≤ 2 * (m * 2 ^ (52 + p - k) % d) ∨ 2 * (m * 2 ^ (52 + p - k) % d) ≤ 2 ^ p then (m : ℤ)
      else m - 1 := by
  have hb : b ≤ p := exponent_le hd ho hp'
  have hone : 2 ^ k * 2 ^ (52 - k) = 2 ^ 52 := pow_mul_pow_sub 2 (by omega)
  have hexp : 2 ^ (52 + p - k) = 2 ^ p * 2 ^ (52 - k) := by
    rw [← pow_add]
    congr 1
    omega
  have hplaces : 0 < 2 ^ (52 - k) := by positivity
  have hlo : d * 2 ^ 52 ≤ m * 2 ^ (52 + p - k) := by
    rw [hexp, ← hone]
    calc
      d * (2 ^ k * 2 ^ (52 - k)) = d * 2 ^ k * 2 ^ (52 - k) := by ring
      _ ≤ m * 2 ^ p * 2 ^ (52 - k) := Nat.mul_le_mul_right _ hupper
      _ = m * (2 ^ p * 2 ^ (52 - k)) := by ring
  have hhi : m * 2 ^ (52 + p - k) < d * 2 ^ 53 := by
    rw [hexp, pow_succ, ← hone]
    calc
      m * (2 ^ p * 2 ^ (52 - k)) < 2 ^ (k + 1) * (2 ^ p * 2 ^ (52 - k)) :=
        Nat.mul_lt_mul_of_pos_right hk' (by positivity)
      _ = 2 ^ p * (2 ^ k * 2 ^ (52 - k) * 2) := by ring
      _ ≤ d * (2 ^ k * 2 ^ (52 - k) * 2) := Nat.mul_le_mul_right _ hp.le
  have htie : 2 * (m * 2 ^ (52 + p - k) % d) ≠ d :=
    two_mul_mod_ne hd ho (Dvd.dvd.mul_left (pow_dvd_pow 2 (by omega)) m)
  have hsingle : 2 ^ k < m := by
    rcases hk.lt_or_eq with hlt | rfl
    · exact hlt
    · have hle : d * 2 ^ k ≤ 2 ^ p * 2 ^ k := by rwa [mul_comm (2 ^ p)]
      exact absurd (Nat.le_of_mul_le_mul_right hle (by positivity)) (not_le.mpr hp)
  rw [returned_eq_ite hk hk' hsmall (by omega) (by omega) hlo hhi htie (Or.inl hsingle), hexp]
  rw [hexp] at htie
  exact if_congr (or_congr (by omega) (Nat.mul_le_mul_right_iff hplaces)) rfl rfl

/-- A divisor that is no power of two, with what a power of two needs to come back. -/
structure Divides (d : ℕ) : Prop where
  positive : 2 ^ Nat.log 2 d < d
  small : d < 2 ^ 32
  split : ∃ b o, d = 2 ^ b * o ∧ Odd o
  power : d < 2 * (2 ^ (53 + Nat.log 2 d) % d)

theorem returned_eq_ite_comesBack (hd : Divides d) (hm : m < 2 ^ 51) :
    returned m d = if ComesBack m d then (m : ℤ) else m - 1 := by
  rcases Nat.eq_zero_or_pos m with rfl | hpos
  · have hback : ComesBack 0 d := Or.inl rfl
    rw [if_pos hback]
    exact returned_zero d
  · obtain ⟨b, o, hsplit, ho⟩ := hd.split
    have hk : 2 ^ Nat.log 2 m ≤ m := Nat.pow_log_le_self 2 hpos.ne'
    have hk' : m < 2 ^ (Nat.log 2 m + 1) := Nat.lt_pow_succ_log_self (by norm_num) m
    have hsmall : Nat.log 2 m < 51 := Nat.log_lt_of_lt_pow hpos.ne' hm
    have hp' : d < 2 ^ (Nat.log 2 d + 1) := Nat.lt_pow_succ_log_self (by norm_num) d
    have hpsmall : Nat.log 2 d < 32 := Nat.log_lt_of_lt_pow (by
      have := hd.positive
      omega) hd.small
    by_cases hlower : m * 2 ^ Nat.log 2 d < d * 2 ^ Nat.log 2 m
    · have hback : ComesBack m d := Or.inr (Or.inl hlower)
      rw [if_pos hback]
      exact returned_eq_of_lower hk hk' (by omega) hp' (by omega) hsplit ho hd.power hlower
    · rw [returned_eq_ite_of_upper hk hk' (by omega) hd.positive hp' (by omega) hsplit ho
        (not_lt.mp hlower)]
      apply if_congr _ rfl rfl
      rw [ComesBack, or_iff_right hpos.ne', or_iff_right hlower]

theorem returned_bounds (hd : Divides d) (hm : m < 2 ^ 51) :
    0 ≤ returned m d ∧ returned m d ≤ m := by
  rw [returned_eq_ite_comesBack hd hm]
  split_ifs with hback
  · omega
  · have hpos : m ≠ 0 := fun hzero => hback (Or.inl hzero)
    omega

end Binary

end Foundation.Double
