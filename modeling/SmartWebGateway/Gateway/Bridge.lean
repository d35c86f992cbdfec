import SmartWebGateway.Gateway.Readings
import SmartWebGateway.Poller.FixedPoint
import SmartWebGateway.Poller.Lifetime
import Mathlib.Tactic

/-!
# A sensor on its way through MQTT and back

Both directions of the gateway use one driver, so a virtual controller can serve
the sensor of a program on the bus. The sixteen bits are divided by ten for the
control and multiplied by ten for the answer, in binary both times, and the text
of the control stands in between.
-/
namespace SmartWebGateway

open Foundation Double
open TMqttToSmartWebGateway TSmartWebToMqttGateway

/-- The thread finds a text in the driver under a control that has no error; `asDouble` stands for
`As<double>` of the driver library. -/
def World.ShowsText (w : World) (asDouble : String → Except String Double) (path : ControlPath)
    (text : String) : Prop :=
  w.driver.beginTx = .ok () ∧ ∃ controls, w.driver.device path.deviceName = some controls ∧
    controls path.controlName = some ⟨"", asDouble text⟩

/-- The response is about a sensor or an output of a program. -/
def TFrame.Indexes (f : TFrame) : Prop := f.data[0]! = ptProgram

instance (f : TFrame) : Decidable f.Indexes := inferInstanceAs (Decidable (_ = _))

/-- The sensor works, and its value is known. -/
def TFrame.ReportsReading (f : TFrame) : Prop :=
  f.answeredValue ≠ sensorShortValue ∧ f.answeredValue ≠ sensorOpenValue ∧
    f.answeredValue ≠ sensorUndefined

section Codes

variable {n : ℤ} {frame : TFrame} {gateway : TSmartWebToMqttGateway} {update : ParameterUpdate}
  {formatFloat : Double → String}

theorem tenfold_tenth (hn : |n| < 2 ^ 51) :
    (SensorData.tenfold ((ofInt n).div (ofInt 10))).truncated? = some n := by
  have hten : (.finite 10 SensorData.fromDouble.representable_ten : Double) = ofInt 10 := by
    rw [ofInt_eq (by norm_num), Double.finite.injEq]
    norm_num
  have hback : returned n 10 = n := (returned_eq_iff divides_ten hn).mpr (comesBack_ten _)
  have hproduct := truncated?_div_mul hn divides_ten
  rw [hback] at hproduct
  rw [SensorData.tenfold, hten]
  exact hproduct

theorem fromDouble_tenth (undefinedCast code : BitVec 16) :
    SensorData.fromDouble undefinedCast ((ofInt code.toInt).div (ofInt 10)) = code := by
  have hlow := BitVec.le_toInt code
  have hhigh := BitVec.toInt_lt (x := code)
  norm_num at hlow hhigh
  have hsmall : |code.toInt| < 2 ^ 51 := abs_lt.mpr ⟨by omega, by omega⟩
  rw [SensorData.fromDouble_of_truncated (tenfold_tenth hsmall) hlow (by omega),
    BitVec.ofInt_toInt]

theorem take_drop_data (data : Vector Byte 8) :
    (data.toList.drop 3).take 2 = [data[3]!, data[4]!] := by
  obtain ⟨⟨bytes⟩, hsize⟩ := data
  match bytes, hsize with
  | [_, _, _, _, _, _, _, _], _ => rfl

theorem ofBytes_answeredValue (frame : TFrame) :
    IntType.int16.ofBytes (frame.data.toList.drop 3) = frame.answeredValue.toInt := by
  have hraw : littleEndian ((frame.data.toList.drop 3).take 2) = frame.answeredValue.toNat := by
    rw [take_drop_data, TFrame.answeredValue, BitVec.toNat_append,
      ← Nat.shiftLeft_add_eq_or_of_lt (BitVec.isLt _), Nat.shiftLeft_eq]
    simp only [littleEndian]
    omega
  have hsize : IntType.int16.size = 2 := rfl
  unfold IntType.ofBytes
  rw [hsize, hraw, BitVec.toInt_eq_toNat_cond]
  simp only [IntType.signed, IntType.bits, hsize, true_and, Nat.reduceMul, Nat.reduceSub,
    Nat.reducePow]
  have hbound := frame.answeredValue.isLt
  split_ifs <;> omega

theorem valueOffset_of_indexes (h : handleGetValueResponse gateway frame = some update)
    (hframe : frame.Indexes) : update.valueOffset = 3 := by
  unfold handleGetValueResponse at h
  split at h
  · cases h
  · have hprogram : (⟨frame.data⟩ : TParameterData).programType = ptProgram := hframe
    dsimp only at h
    rw [if_pos hprogram] at h
    split_ifs at h
    · obtain ⟨p, _, rfl⟩ := Option.map_eq_some_iff.mp h
      rfl
    · obtain ⟨p, _, rfl⟩ := Option.map_eq_some_iff.mp h
      rfl

/-- What is published for a sensor that works. -/
theorem decoded_reading (hcodec : update.parameter.codec = .sensor)
    (hoffset : update.valueOffset = 3) (hworks : frame.ReportsReading) :
    update.decoded formatFloat frame =
      .ok (formatFloat ((ofInt frame.answeredValue.toInt).div (ofInt 10))) := by
  obtain ⟨hshort, hopen, hundefined⟩ := hworks
  have hne : ∀ (code : BitVec 16) (n : ℤ), code.toInt = n → frame.answeredValue ≠ code →
      frame.answeredValue.toInt ≠ n :=
    fun _ _ hn h heq => h (BitVec.eq_of_toInt_eq (heq.trans hn.symm))
  unfold ParameterUpdate.decoded
  rw [hcodec, hoffset, ISmartWebCodec.decode, ofBytes_answeredValue]
  rw [if_neg (hne _ _ (by decide) hundefined),
    if_neg (not_or.mpr ⟨hne _ _ (by decide) hshort, hne _ _ (by decide) hopen⟩)]

end Codes

section Runs

variable {D : Type*} {driver : DeviceDriver D} {formatFloat : Double → String}
  {stod asDouble : String → Except String Double} {gateway : TSmartWebToMqttGateway} {d : D}
  {s : LifeState D} {update : ParameterUpdate} {frame : TFrame} {w : ℕ → World} {i : ℕ}

/-- Whatever frames came and whatever calls to the driver failed: when the control of a sensor that
works shows what was published for it last, a controller reads and serves the very sixteen bits of
the sensor's last response, or nothing once they have timed out. -/
theorem reported_sensor_served (hdriver : driver.Documented)
    (h : Leads (LifeStep driver formatFloat stod) Anyhow (.initial gateway d) s)
    (hphase : s.phase.Keeping)
    (hlatest : Since (fun e => ∀ text, ¬ e.Shows formatFloat update.path text)
      (.published update frame true) s.log)
    (hcodec : update.parameter.codec = .sensor) (hframe : frame.Indexes)
    (hworks : frame.ReportsReading)
    (hcarry : asDouble (formatFloat ((ofInt frame.answeredValue.toInt).div (ofInt 10))) =
      .ok ((ofInt frame.answeredValue.toInt).div (ofInt 10)))
    (hshown : ∀ text, (driver.devices s.driver).valueAt update.path = some text →
      (w (i + 1)).ShowsText asDouble update.path text) :
    Yields w i update.path.deviceName update.path.controlName
      (if timedOutAt w i update.path.deviceName update.path.controlName then sensorUndefined
        else frame.answeredValue) := by
  obtain ⟨hlate, hanswered⟩ := controls_latest hdriver h hphase
  obtain ⟨_, _, hupdate⟩ := hanswered update frame true hlatest.mem
  have hdecoded : update.decoded formatFloat frame =
      .ok (formatFloat ((ofInt frame.answeredValue.toInt).div (ofInt 10))) :=
    decoded_reading hcodec (valueOffset_of_indexes hupdate hframe) hworks
  have hpublished : (LifeEvent.published update frame true).Shows formatFloat update.path
      (formatFloat ((ofInt frame.answeredValue.toInt).div (ofInt 10))) := ⟨rfl, hdecoded⟩
  have hvalue := (hlate update.path).latest _ _ hpublished hlatest
  have hshows := hshown _ hvalue
  unfold World.ShowsText at hshows
  rw [hcarry] at hshows
  have hyields := @yields_mqttValue w i update.path.deviceName update.path.controlName
  by_cases hold : timedOutAt w i update.path.deviceName update.path.controlName = true
  · rw [if_pos hold]
    rwa [mqttValue, if_pos hold] at hyields
  · rw [if_neg hold]
    rwa [mqttValue_of_shows (Bool.eq_false_iff.mpr hold) hshows, fromDouble_tenth] at hyields

end Runs

/-- The flow temperature of the heating circuit is zero degrees, and is served as such. -/
theorem reported_sensor_served_flow :
    Yields (fun _ => showingWorld ((ofInt 0).div (ofInt 10))) 0 flowControl.deviceName
      flowControl.controlName 0 := by
  obtain ⟨p, hupdate, hcodec, hcontrol⟩ := flow_update
  have hlatest : Since (fun e => ∀ text, ¬ e.Shows (fun _ => "0") (p.control 7) text)
      (.published ⟨p, 3, 7⟩ (flowPoll.emptyAnswer 7) true) flowShown.log := by
    rw [flowShown_log hupdate]
    exact ⟨[], [], rfl, by simp⟩
  have hzero : (flowPoll.emptyAnswer 7).answeredValue = 0 := by decide +kernel
  have hinteger : (flowPoll.emptyAnswer 7).answeredValue.toInt = 0 := by
    rw [hzero]
    rfl
  have hworks : (flowPoll.emptyAnswer 7).ReportsReading := by
    unfold TFrame.ReportsReading
    rw [hzero]
    decide
  have hfresh : ∀ value, timedOutAt (fun _ => showingWorld value) 0 flowControl.deviceName
      flowControl.controlName = false := by
    intro value
    change timedOutAt (fun _ => roomWorld) 0 flowControl.deviceName flowControl.controlName = false
    decide +kernel
  have hshown : ∀ value text,
      (showingWorld value).ShowsText (fun _ => .ok value) flowControl text :=
    fun _ _ => ⟨rfl, _, rfl, rfl⟩
  have hserved : ∀ value, (ofInt 0).div (ofInt 10) = value →
      Yields (fun _ => showingWorld value) 0 (p.control 7).deviceName (p.control 7).controlName
        (flowPoll.emptyAnswer 7).answeredValue := by
    intro value hvalue
    have hcarry : (fun _ => .ok value : String → Except String Double) "0" =
        .ok ((ofInt (flowPoll.emptyAnswer 7).answeredValue.toInt).div (ofInt 10)) := by
      rw [hinteger, hvalue]
    rw [← hcontrol] at hfresh hshown
    have hkeeping : flowShown.phase.Keeping :=
      Or.inl (Or.inl (Or.inl (LifeState.phase_taking _ _ _)))
    have hindexes : (flowPoll.emptyAnswer 7).Indexes := by decide +kernel
    have hyields := @reported_sensor_served _ memoryDriver (fun _ => "0") (fun _ => .error "")
      (fun _ => .ok value) circuitGateway noDevices flowShown ⟨p, 3, 7⟩ (flowPoll.emptyAnswer 7)
      (fun _ => showingWorld value) 0 memoryDriver_documented flowShown_leads hkeeping hlatest
      hcodec hindexes hworks hcarry fun text _ => hshown value text
    rw [ParameterUpdate.path, hfresh value] at hyields
    exact hyields
  rw [hzero, hcontrol] at hserved
  exact hserved _ rfl

end SmartWebGateway
