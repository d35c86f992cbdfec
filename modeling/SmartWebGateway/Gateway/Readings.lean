import SmartWebGateway.Foundation.Rounding
import SmartWebGateway.Gateway.Sensors
import Mathlib.Tactic

/-!
# What a value of a control is read as

A value is multiplied by ten and cut down to sixteen bits, and nothing is said
of a product that sixteen bits do not hold. The lowest three codes mean that
there is no value, and only the highest of them is meant for a value that
cannot be told.
-/
namespace SmartWebGateway

open Foundation
open TMqttToSmartWebGateway

namespace SensorData

def tenfold (value : Double) : Double := value.mul (.finite 10 fromDouble.representable_ten)

/-- The conversion of the product is one that C++ defines. -/
def Convertible (value : Double) : Prop := ((tenfold value).toSigned? 16).isSome

/-- What a value stands for on the bus: its tenths, or that they cannot be told. -/
def reading (value : Double) : BitVec 16 :=
  match (tenfold value).truncated? with
  | some t => if -32766 < t ∧ t ≤ 32767 then BitVec.ofInt 16 t else sensorUndefined
  | none => sensorUndefined

/-- The product has an integer part, which is `SENSOR_UNDEFINED` or any number above it. -/
def Fits (value : Double) : Prop :=
  ∃ t, (tenfold value).truncated? = some t ∧ -32766 ≤ t ∧ t ≤ 32767

section Codes

variable {value : Double} {t : ℤ}

theorem ofInt_inj {a b : ℤ} (ha : -32768 ≤ a ∧ a ≤ 32767) (hb : -32768 ≤ b ∧ b ≤ 32767)
    (h : BitVec.ofInt 16 a = BitVec.ofInt 16 b) : a = b := by
  have hint := congrArg BitVec.toInt h
  rw [BitVec.toInt_ofInt, BitVec.toInt_ofInt, Int.bmod_def, Int.bmod_def] at hint
  omega

theorem reading_ne (value : Double) :
    reading value ≠ sensorShortValue ∧ reading value ≠ sensorOpenValue := by
  have hundefined : sensorUndefined ≠ sensorShortValue ∧ sensorUndefined ≠ sensorOpenValue := by
    decide
  unfold reading
  cases (tenfold value).truncated? with
  | none => exact hundefined
  | some t =>
    dsimp only
    split_ifs with h
    · constructor
      · intro hshort
        have := ofInt_inj (by omega) (by norm_num) hshort
        omega
      · intro hopen
        have := ofInt_inj (by omega) (by norm_num) hopen
        omega
    · exact hundefined

theorem reading_of_truncated (ht : (tenfold value).truncated? = some t) (hlow : -32766 ≤ t)
    (hhigh : t ≤ 32767) : reading value = BitVec.ofInt 16 t := by
  simp only [reading, ht]
  split_ifs with h
  · rfl
  · obtain rfl : t = -32766 := by omega
    rfl

theorem fromDouble_of_truncated {undefinedCast : BitVec 16}
    (ht : (tenfold value).truncated? = some t) (hlow : -32768 ≤ t) (hhigh : t ≤ 32767) :
    fromDouble undefinedCast value = BitVec.ofInt 16 t := by
  have hconverted : (tenfold value).toSigned? 16 = some (BitVec.ofInt 16 t) :=
    Double.toSigned?_eq_some_iff.mpr ⟨t, ht, by norm_num; omega, by norm_num; omega, rfl⟩
  change ((tenfold value).toSigned? 16).getD undefinedCast = _
  rw [hconverted]
  rfl

theorem convertible_iff :
    Convertible value ↔ ∃ t, (tenfold value).truncated? = some t ∧ -32768 ≤ t ∧ t ≤ 32767 := by
  rw [Convertible, Option.isSome_iff_exists]
  constructor
  · rintro ⟨v, hv⟩
    obtain ⟨t, ht, hlow, hhigh, _⟩ := Double.toSigned?_eq_some_iff.mp hv
    norm_num at hlow hhigh
    exact ⟨t, ht, hlow, by omega⟩
  · rintro ⟨t, ht, hlow, hhigh⟩
    exact ⟨_, Double.toSigned?_eq_some_iff.mpr ⟨t, ht, by norm_num; omega, by norm_num; omega, rfl⟩⟩

/-- The cast yields what it should for the values that fit and for no others. -/
theorem fromDouble_eq_reading_iff {undefinedCast : BitVec 16} :
    Convertible value ∧ fromDouble undefinedCast value = reading value ↔ Fits value := by
  constructor
  · rintro ⟨hconvertible, hvalue⟩
    obtain ⟨t, ht, hlow, hhigh⟩ := convertible_iff.mp hconvertible
    refine ⟨t, ht, ?_, hhigh⟩
    by_contra hbelow
    have hcode : reading value = sensorUndefined := by
      simp only [reading, ht]
      rw [if_neg (by omega)]
    rw [fromDouble_of_truncated ht hlow hhigh, hcode] at hvalue
    have := ofInt_inj ⟨hlow, hhigh⟩ (by norm_num) hvalue
    omega
  · rintro ⟨t, ht, hlow, hhigh⟩
    constructor
    · exact convertible_iff.mpr ⟨t, ht, by omega, hhigh⟩
    · rw [fromDouble_of_truncated ht (by omega) hhigh, reading_of_truncated ht hlow hhigh]

end Codes

end SensorData

/-- A control that can be read, has no error and shows a number. -/
def World.Shows (w : World) (deviceId controlId : String) (value : Double) : Prop :=
  w.driver.beginTx = .ok () ∧ ∃ controls, w.driver.device deviceId = some controls ∧
    controls controlId = some ⟨"", .ok value⟩

/-- `read_mqtt_value` returns a code, and the code goes into every answer and into every output
frame that is made of the control. -/
structure Yields (w : ℕ → World) (i : ℕ) (deviceId controlId : String) (code : BitVec 16) :
    Prop where
  returned : ∀ s, ∃ j t, (readMqttValue deviceId controlId).run w i s = (.ok code, j, t)
  answered : ∀ (s : TaskState) (f : TFrame), f.AsksForParameter →
    f.IsRequestTo s.driverState.programId → f.data[0]! = ptController →
    s.driverState.parameterMapping.lookup (requestedParameter f.data).rawInfo =
      some ⟨deviceId, controlId⟩ →
    ∃ answer, ((handleRequest f.header f.data).run w i s).2.2.sentFrames =
        (answer, .parameterResponse) :: s.sentFrames ∧ answer.answeredValue = code
  broadcast : ∀ (s : TaskState) (c : Output) header buffer checkedAt,
    (s.driverState.outputMapping c).toTMqttChannel = ⟨deviceId, controlId⟩ →
    ∃ frame readAt, ((sendOutput header buffer checkedAt c).run w i s).2.2.sentFrames =
        (frame, .output ⟨c, checkedAt, i, readAt⟩) :: s.sentFrames ∧ frame.broadcastValue = code

/-- The value is read as what it stands for, never as a broken sensor, and by a conversion that is
defined. -/
structure ReadFaithfully (w : ℕ → World) (i : ℕ) (deviceId controlId : String) (value : Double) :
    Prop where
  yields : Yields w i deviceId controlId (SensorData.reading value)
  noFault : ∀ code, Yields w i deviceId controlId code →
    code ≠ sensorShortValue ∧ code ≠ sensorOpenValue
  converted : SensorData.Convertible value

section Readings

variable {w : ℕ → World} {i : ℕ} {deviceId controlId : String} {value : Double}

theorem run_readMqttValue (s : TaskState) :
    ∃ j t, (readMqttValue deviceId controlId).run w i s =
      (.ok (mqttValue w i deviceId controlId), j, t) := by
  have hwp : (readMqttValue deviceId controlId).wp w
      (fun code _ _ => code = mqttValue w i deviceId controlId) (fun _ _ _ => False) i s :=
    (wp_readMqttValue deviceId controlId).mpr rfl
  obtain ⟨code, j, t, hrun, hcode⟩ := Program.returns_of_wp hwp
  rw [hcode] at hrun
  exact ⟨j, t, hrun⟩

theorem yields_mqttValue : Yields w i deviceId controlId (mqttValue w i deviceId controlId) where
  returned := run_readMqttValue
  answered s f hf hrequest hdata hchannel := by
    have heffect := (handleRequest_outcome (w := w) (i := i) (s := s) (f := f) rfl).parameterEffect
      hf
    rw [if_pos ⟨hrequest.1, hrequest.2, hdata⟩] at heffect
    refine ⟨_, heffect.1, ?_⟩
    rw [TFrame.parameterAnswer_answeredValue, requestedValue, hchannel]
  broadcast s c header buffer checkedAt hchannel := by
    obtain ⟨frame, readAt, hframe, hvalue⟩ := sendOutput_sentFrames (w := w) (i := i) (s := s)
      header buffer checkedAt c
    refine ⟨frame, readAt, hframe, ?_⟩
    rw [hvalue, hchannel]

theorem Yields.eq_mqttValue {code : BitVec 16} (h : Yields w i deviceId controlId code)
    (s : TaskState) : code = mqttValue w i deviceId controlId := by
  obtain ⟨j, t, hrun⟩ := h.returned s
  obtain ⟨j', t', hrun'⟩ := @run_readMqttValue w i deviceId controlId s
  rw [hrun] at hrun'
  exact Except.ok.inj (congrArg Prod.fst hrun')

theorem mqttValue_of_shows (hfresh : timedOutAt w i deviceId controlId = false)
    (hshows : (w (i + 1)).Shows deviceId controlId value) :
    mqttValue w i deviceId controlId =
      SensorData.fromDouble (w (i + 1)).undefinedCast value := by
  obtain ⟨htx, controls, hdevice, hcontrol⟩ := hshows
  simp [mqttValue, hfresh, World.readControl, htx, hdevice, hcontrol]

theorem ReadFaithfully.fits (h : ReadFaithfully w i deviceId controlId value)
    (hfresh : timedOutAt w i deviceId controlId = false)
    (hshows : (w (i + 1)).Shows deviceId controlId value) : SensorData.Fits value := by
  have hcode := h.yields.eq_mqttValue (TaskState.initial roomLoading.config)
  rw [mqttValue_of_shows hfresh hshows] at hcode
  exact SensorData.fromDouble_eq_reading_iff.mp ⟨h.converted, hcode.symm⟩

/-- A fresh value is read faithfully exactly when its tenths are `SENSOR_UNDEFINED` or above and
fit into sixteen bits. -/
theorem readFaithfully_iff (hfresh : timedOutAt w i deviceId controlId = false)
    (hshows : (w (i + 1)).Shows deviceId controlId value) :
    ReadFaithfully w i deviceId controlId value ↔ SensorData.Fits value := by
  constructor
  · exact fun h => h.fits hfresh hshows
  · intro hfits
    obtain ⟨hconverted, hreading⟩ :=
      (@SensorData.fromDouble_eq_reading_iff value (w (i + 1)).undefinedCast).mpr hfits
    rw [← mqttValue_of_shows hfresh hshows] at hreading
    constructor
    · rw [← hreading]
      exact yields_mqttValue
    · intro code hcode
      have hsame := hcode.eq_mqttValue (TaskState.initial roomLoading.config)
      rw [hsame, hreading]
      exact SensorData.reading_ne value
    · exact hconverted

end Readings

def showingWorld (value : Double) : World :=
  { roomWorld with
    driver := ⟨.ok (), fun _ => some fun _ => some ⟨"", .ok value⟩⟩ }

theorem showingWorld_fresh (value : Double) :
    timedOutAt (fun _ => showingWorld value) 0 "room" "temperature" = false := by
  change timedOutAt (fun _ => roomWorld) 0 "room" "temperature" = false
  decide +kernel

theorem showingWorld_shows (value : Double) :
    (showingWorld value).Shows "room" "temperature" value := ⟨rfl, _, rfl, rfl⟩

theorem SensorData.truncated?_tenfold {n : ℤ} (h : |n| ≤ 2 ^ 49) :
    (tenfold (.ofInt n)).truncated? = some (10 * n) := by
  have hten : |n * 10| ≤ 2 ^ 53 := by
    rw [abs_le] at h ⊢
    omega
  have hproduct : (n : ℚ) * 10 = ((n * 10 : ℤ) : ℚ) := by push_cast; rfl
  rw [tenfold, Double.ofInt_eq (h.trans (by norm_num))]
  simp only [Double.mul, hproduct]
  rw [Double.ofRat_of_representable (Double.representable_intCast hten), Double.truncated?,
    Double.truncate_intCast, mul_comm]

/-- A temperature of 21 degrees. -/
theorem readFaithfully_21 :
    ReadFaithfully (fun _ => showingWorld (.ofInt 21)) 0 "room" "temperature" (.ofInt 21) :=
  (readFaithfully_iff (showingWorld_fresh _) (showingWorld_shows _)).mpr
    ⟨210, SensorData.truncated?_tenfold (by norm_num), by norm_num, by norm_num⟩

/-- -3276.75 -/
def quarters : Double :=
  .finite ((-13107 : ℤ) / 2 ^ 2) (Double.representable_div_two_pow (by norm_num) (by norm_num))

theorem SensorData.truncated?_tenfold_quarters :
    (tenfold quarters).truncated? = some (-32767) := by
  have hproduct : (((-13107 : ℤ) : ℚ) / 2 ^ 2) * 10 = ((-65535 : ℤ) : ℚ) / 2 ^ 1 := by norm_num
  have hten : Representable (((-65535 : ℤ) : ℚ) / 2 ^ 1) :=
    Double.representable_div_two_pow (by norm_num) (by norm_num)
  simp only [tenfold, quarters, Double.mul, hproduct, Double.ofRat_of_representable hten,
    Double.truncated?, Double.truncate]
  norm_num

/-- A meter that shows 4000 is converted out of range, and one that shows -3276.75 is taken for a
sensor whose wire is broken. -/
theorem readFaithfully_fails :
    ¬ ReadFaithfully (fun _ => showingWorld (.ofInt 4000)) 0 "room" "temperature" (.ofInt 4000) ∧
      Yields (fun _ => showingWorld quarters) 0 "room" "temperature" sensorOpenValue := by
  constructor
  · intro h
    obtain ⟨t, ht, _, hhigh⟩ := h.fits (showingWorld_fresh _) (showingWorld_shows _)
    rw [SensorData.truncated?_tenfold (by norm_num), Option.some.injEq] at ht
    omega
  · have hvalue := mqttValue_of_shows (w := fun _ => showingWorld quarters) (i := 0)
      (showingWorld_fresh _) (showingWorld_shows _)
    rw [SensorData.fromDouble_of_truncated SensorData.truncated?_tenfold_quarters (by norm_num)
      (by norm_num)] at hvalue
    change Yields _ 0 "room" "temperature" (BitVec.ofInt 16 (-32767))
    rw [← hvalue]
    exact yields_mqttValue

end SmartWebGateway
