import SmartWebGateway.Foundation.Quotients
import SmartWebGateway.Poller.Codecs
import Mathlib.Tactic

/-!
# Writing back what was read

A fixed-point parameter is published as its raw value divided by the codec's
divisor, and written as the text times the divisor, truncated. The published
value is not always written back as the raw value that it came from.
-/
namespace SmartWebGateway

open Foundation Double

theorem div_of_getCodec {data : ParameterObject} {type : IntType} {div : ℕ}
    (h : TSmartWebClass.getCodec data = .ok (.int type div)) (hdiv : 1 < div) :
    div = 10 ∨ div = 100 ∨ div = 1000 ∨ div = 60000 := by
  unfold TSmartWebClass.getCodec at h
  split at h
  · cases h
    exact Or.inl rfl
  · split_ifs at h
    all_goals try split at h
    all_goals cases h
    all_goals simp at hdiv ⊢

theorem divides_ten : Divides 10 := ⟨by decide, by decide, ⟨1, 5, rfl, by decide⟩, by decide⟩

theorem divides_of_getCodec {data : ParameterObject} {type : IntType} {div : ℕ}
    (h : TSmartWebClass.getCodec data = .ok (.int type div)) (hdiv : 1 < div) : Divides div := by
  rcases div_of_getCodec h hdiv with rfl | rfl | rfl | rfl
  · exact divides_ten
  · exact ⟨by decide, by decide, ⟨2, 25, rfl, by decide⟩, by decide⟩
  · exact ⟨by decide, by decide, ⟨3, 125, rfl, by decide⟩, by decide⟩
  · exact ⟨by decide, by decide, ⟨5, 1875, rfl, by decide⟩, by decide⟩

section Returned

variable {type : IntType} {div : ℕ} {n : ℤ}

theorem IntType.abs_lt_of_isValue (hn : type.IsValue n) : |n| < 2 ^ 32 := by
  unfold IsValue at hn
  rw [abs_lt]
  cases type <;> simp [signed, bits, size] at hn <;> constructor <;> omega

theorem returned_eq_iff (hd : Divides div) (hn : |n| < 2 ^ 51) :
    returned n div = n ↔ ComesBack n.natAbs div := by
  have hsmall : n.natAbs < 2 ^ 51 := by
    rw [Int.abs_eq_natAbs] at hn
    exact_mod_cast hn
  have hwhole : returned n.natAbs div = n.natAbs ↔ ComesBack n.natAbs div := by
    rw [returned_eq_ite_comesBack hd hsmall]
    split_ifs with hback
    · exact iff_of_true rfl hback
    · exact iff_of_false (by omega) hback
  rcases Int.natAbs_eq n with hpos | hneg
  · rw [hpos]
    exact hwhole
  · rw [hneg, returned_neg, neg_inj, Int.natAbs_neg, Int.natAbs_natCast]
    exact hwhole

theorem IntType.isValue_returned (hd : Divides div) (hn : type.IsValue n) :
    type.IsValue (returned n div) := by
  have hsmall : n.natAbs < 2 ^ 51 := by
    have habs := IntType.abs_lt_of_isValue hn
    rw [Int.abs_eq_natAbs] at habs
    omega
  obtain ⟨hlow, hhigh⟩ := returned_bounds hd hsmall
  have hbetween : (0 ≤ n → 0 ≤ returned n div ∧ returned n div ≤ n) ∧
      (n ≤ 0 → n ≤ returned n div ∧ returned n div ≤ 0) := by
    rcases Int.natAbs_eq n with hpos | hneg
    · rw [← hpos] at hlow hhigh
      constructor <;> intro <;> omega
    · have hreturned : returned n div = -returned n.natAbs div := by
        nth_rewrite 1 [hneg]
        exact returned_neg _ _
      constructor <;> intro <;> omega
  unfold IsValue at hn ⊢
  split_ifs at hn ⊢ <;> omega

theorem truncated?_div_mul (hn : |n| < 2 ^ 51) (hd : Divides div) :
    (((ofInt n).div (ofInt div)).mul (ofInt div)).truncated? = some (returned n div) := by
  have hsmall : div < 2 ^ 32 := hd.small
  have hdivq : (1 : ℚ) ≤ div := by exact_mod_cast (Nat.zero_le _).trans_lt hd.positive
  have hdivq' : (div : ℚ) < 2 ^ 32 := by exact_mod_cast hsmall
  have hnq : |(n : ℚ)| < 2 ^ (51 : ℤ) := by exact_mod_cast hn
  have hquotient : |(n : ℚ) / div| < 2 ^ (51 : ℤ) := by
    rw [abs_div, abs_of_pos (by linarith : (0 : ℚ) < div)]
    exact (div_le_self (abs_nonneg _) hdivq).trans_lt hnq
  have hrounded := abs_rounded_le (by norm_num) hquotient
  have hproduct : |rounded ((n : ℚ) / div) * div| < 2 ^ (84 : ℤ) := by
    rw [abs_mul, abs_of_pos (by linarith : (0 : ℚ) < div)]
    calc
      |rounded ((n : ℚ) / div)| * div ≤ 2 ^ (51 : ℤ) * 2 ^ 32 :=
        mul_le_mul hrounded hdivq'.le (by linarith) (by norm_num)
      _ < 2 ^ (84 : ℤ) := by norm_num
  obtain ⟨hq, hdivided⟩ := ofRat_of_abs_lt (by norm_num) (by norm_num) hquotient
  obtain ⟨hp, hmultiplied⟩ := ofRat_of_abs_lt (by norm_num) (by norm_num) hproduct
  have hnonzero : (div : ℚ) ≠ 0 := by linarith
  rw [ofInt_eq (hn.le.trans (by norm_num)), ofInt_eq (by rw [Nat.abs_cast]; norm_cast; omega)]
  simp only [Double.div, Int.cast_natCast, hnonzero, if_false, hdivided, mul, hmultiplied,
    truncated?, returned]

end Returned

/-- The text that is published for a raw value is written back as the same bytes. -/
def Survives (formatFloat : Double → String) (stod : String → Except String Double)
    (type : IntType) (div : ℕ) (n : ℤ) : Prop :=
  ∃ text, (ISmartWebCodec.int type div).decode formatFloat (type.bytes n) = .ok text ∧
    (ISmartWebCodec.int type div).encode stod text = .ok (type.bytes n)

section Survives

variable {formatFloat : Double → String} {stod : String → Except String Double} {type : IntType}
  {div : ℕ} {n : ℤ}

theorem decode_bytes (hdiv : div ≠ 1) (hn : type.IsValue n) :
    (ISmartWebCodec.int type div).decode formatFloat (type.bytes n) =
      .ok (formatFloat ((ofInt n).div (ofInt div))) := by
  have hread : type.ofBytes (type.bytes n) = n := by
    simpa using IntType.ofBytes_bytes hn []
  simp only [ISmartWebCodec.decode, hread, if_neg hdiv]

/-- What is written back is what comes back from the division. -/
theorem encode_carried (hd : Divides div) (hn : type.IsValue n)
    (hcarry : stod (formatFloat ((ofInt n).div (ofInt div))) = .ok ((ofInt n).div (ofInt div))) :
    (ISmartWebCodec.int type div).encode stod (formatFloat ((ofInt n).div (ofInt div))) =
      .ok (type.bytes (returned n div)) := by
  have hsmall : |n| < 2 ^ 51 := (IntType.abs_lt_of_isValue hn).trans (by norm_num)
  rw [encode_int hcarry, IntType.convert_of_fits (truncated?_div_mul hsmall hd)
    (IntType.isValue_returned hd hn)]
  rfl

theorem survives_iff_comesBack (hd : Divides div) (hdiv : div ≠ 1) (hn : type.IsValue n)
    (hcarry : stod (formatFloat ((ofInt n).div (ofInt div))) = .ok ((ofInt n).div (ofInt div))) :
    Survives formatFloat stod type div n ↔ ComesBack n.natAbs div := by
  have hsmall : |n| < 2 ^ 51 := (IntType.abs_lt_of_isValue hn).trans (by norm_num)
  have hencode := encode_carried hd hn hcarry
  rw [← returned_eq_iff hd hsmall]
  constructor
  · rintro ⟨text, htext, hbytes⟩
    rw [decode_bytes hdiv hn, Except.ok.injEq] at htext
    rw [← htext, hencode, Except.ok.injEq] at hbytes
    exact IntType.bytes_inj (IntType.isValue_returned hd hn) hn hbytes
  · intro hreturned
    rw [hreturned] at hencode
    exact ⟨_, decode_bytes hdiv hn, hencode⟩

/-- A fixed-point value survives being written back exactly when its quotient comes back. -/
theorem fixed_point_survives_iff {data : ParameterObject}
    (hcodec : TSmartWebClass.getCodec data = .ok (.int type div)) (hdiv : 1 < div)
    (hn : type.IsValue n)
    (hcarry : stod (formatFloat ((ofInt n).div (ofInt div))) = .ok ((ofInt n).div (ofInt div))) :
    Survives formatFloat stod type div n ↔ ComesBack n.natAbs div :=
  survives_iff_comesBack (divides_of_getCodec hcodec hdiv) hdiv.ne' hn hcarry

theorem comesBack_ten (m : ℕ) : ComesBack m 10 := by
  have hlog : Nat.log 2 10 = 3 := by decide
  right
  right
  rw [hlog]
  omega

theorem tenths_survive (hn : type.IsValue n)
    (hcarry : stod (formatFloat ((ofInt n).div (ofInt (10 : ℕ)))) =
      .ok ((ofInt n).div (ofInt (10 : ℕ)))) :
    Survives formatFloat stod type 10 n :=
  (survives_iff_comesBack divides_ten (by norm_num) hn hcarry).mpr (comesBack_ten _)

end Survives

def hundredths : ParameterObject := .ofByte 1 none (some "short100")

theorem hundredths_codec : TSmartWebClass.getCodec hundredths = .ok (.int .int16 100) := rfl

/-- 0.25 is written back as 25 hundredths. -/
theorem fixed_point_survives_25 :
    Survives (fun _ => "0.25") (fun _ => .ok ((ofInt 25).div (ofInt (100 : ℕ)))) .int16 100 25 :=
  (fixed_point_survives_iff hundredths_codec (by norm_num) (by decide) rfl).mpr (by decide)

/-- 0.29 is written back as 28 hundredths. -/
theorem fixed_point_lost_29 :
    ¬ Survives (fun _ => "0.29") (fun _ => .ok ((ofInt 29).div (ofInt (100 : ℕ)))) .int16 100
      29 := by
  have hdivides := divides_of_getCodec hundredths_codec (by norm_num)
  rw [survives_iff_comesBack hdivides (by norm_num) (by decide) rfl]
  decide

end SmartWebGateway
