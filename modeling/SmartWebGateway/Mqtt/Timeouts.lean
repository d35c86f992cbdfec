import SmartWebGateway.Config.Controller
import SmartWebGateway.Foundation.Signed
import Mathlib.Tactic

/-!
# Timeouts that 64 bits do not hold

A timeout is a number of minutes, the clock counts nanoseconds, and the
comparison of the two converts the minutes. The schema admits any number of
them, and the loader takes each that fits an `int`, but the nanoseconds of most
of these do not fit 64 bits.
-/
namespace SmartWebGateway

open Foundation

namespace TMqttChannelTiming

/-- `now() - LastUpdateTimePoint` -/
def elapsed? (now : TTimePoint) (timing : TMqttChannelTiming) : Option ℤ :=
  signed 64 (now - timing.lastUpdateTimePoint)

/-- `ValueTimeoutMin` in the common type of the comparison. -/
def valueTimeout? (timing : TMqttChannelTiming) : Option ℤ :=
  signed 64 (timing.valueTimeoutMin * nanosecondsPerMinute)

/-- `is_timed_out`, without a result where an overflow leaves none. -/
def isTimedOut? (now : TTimePoint) (timing : TMqttChannelTiming) : Option Bool :=
  if timing.valueTimeoutMin < 0 then some false
  else do
    let elapsed ← timing.elapsed? now
    let valueTimeout ← timing.valueTimeout?
    some (valueTimeout < elapsed)

/-- There is a timeout, and the last update is longer ago than its minutes. -/
def Expired (now : TTimePoint) (timing : TMqttChannelTiming) : Prop :=
  0 ≤ timing.valueTimeoutMin ∧
    timing.valueTimeoutMin * (60 * 10 ^ 9) < now - timing.lastUpdateTimePoint

instance (now : TTimePoint) (timing : TMqttChannelTiming) : Decidable (timing.Expired now) := by
  unfold Expired
  infer_instance

/-- The comparison has a result, and that is the one over the integers. -/
def ComparesExactly (now : TTimePoint) (timing : TMqttChannelTiming) : Prop :=
  timing.isTimedOut? now = some (decide (timing.Expired now))

variable {timing : TMqttChannelTiming} {now : TTimePoint}

theorem isTimedOut?_of_neg (h : timing.valueTimeoutMin < 0) : timing.isTimedOut? now = some false :=
  if_pos h

theorem isTimedOut?_eq_some_iff (h : 0 ≤ timing.valueTimeoutMin) {timedOut : Bool} :
    timing.isTimedOut? now = some timedOut ↔
      FitsSigned 64 (now - timing.lastUpdateTimePoint) ∧
        FitsSigned 64 (timing.valueTimeoutMin * nanosecondsPerMinute) ∧
          timedOut = decide (timing.valueTimeoutMin * nanosecondsPerMinute <
            now - timing.lastUpdateTimePoint) := by
  rw [isTimedOut?, if_neg (not_lt.mpr h)]
  simp only [elapsed?, valueTimeout?, bind, Option.bind_eq_some_iff, signed_eq_some_iff,
    Option.some.injEq]
  constructor
  · rintro ⟨_, ⟨helapsed, rfl⟩, _, ⟨htimeout, rfl⟩, rfl⟩
    exact ⟨helapsed, htimeout, rfl⟩
  · rintro ⟨helapsed, htimeout, rfl⟩
    exact ⟨_, ⟨helapsed, rfl⟩, _, ⟨htimeout, rfl⟩, rfl⟩

/-- Where the comparison has a result, it is that of the machine, whose arithmetic wraps. -/
theorem isTimedOut_of_isTimedOut? {timedOut : Bool} (h : timing.isTimedOut? now = some timedOut) :
    timing.isTimedOut now = timedOut := by
  by_cases hneg : timing.valueTimeoutMin < 0
  · rw [isTimedOut?_of_neg hneg, Option.some.injEq] at h
    rw [isTimedOut, if_pos hneg, h]
  · obtain ⟨_, htimeout, rfl⟩ := (isTimedOut?_eq_some_iff (not_lt.mp hneg)).mp h
    rw [isTimedOut, if_neg hneg, toNanoseconds]
    have hwrap := htimeout.bmod_eq (by decide)
    norm_num at hwrap ⊢
    rw [hwrap]

theorem fitsSigned_nanoseconds_iff {minutes : ℤ} (h : 0 ≤ minutes) :
    FitsSigned 64 (minutes * nanosecondsPerMinute) ↔ minutes ≤ maxTimeoutMin := by
  unfold FitsSigned nanosecondsPerMinute maxTimeoutMin
  norm_num
  omega

theorem comparesExactly_iff_fits (h : 0 ≤ timing.valueTimeoutMin) :
    timing.ComparesExactly now ↔
      FitsSigned 64 (now - timing.lastUpdateTimePoint) ∧
        FitsSigned 64 (timing.valueTimeoutMin * nanosecondsPerMinute) := by
  rw [ComparesExactly, isTimedOut?_eq_some_iff h]
  constructor
  · intro hexact
    exact ⟨hexact.1, hexact.2.1⟩
  · intro hfits
    refine ⟨hfits.1, hfits.2, ?_⟩
    apply decide_eq_decide.mpr
    simp only [Expired, h, true_and, nanosecondsPerMinute]
    norm_num

end TMqttChannelTiming

open TMqttChannelTiming

/-- Between two readings of the clock the comparison is exact for no timeout, and for those whose
minutes, like the time between the readings, 64 bits can count in nanoseconds. -/
theorem comparesExactly_iff (timing : TMqttChannelTiming) (now : TTimePoint)
    (h : timing.lastUpdateTimePoint ≤ now) :
    timing.ComparesExactly now ↔ timing.valueTimeoutMin < 0 ∨
      timing.valueTimeoutMin ≤ maxTimeoutMin ∧ now - timing.lastUpdateTimePoint < 2 ^ 63 := by
  rcases lt_or_ge timing.valueTimeoutMin 0 with hneg | hpos
  · have hexpired : ¬ timing.Expired now := fun hexpired => not_lt.mpr hexpired.1 hneg
    apply iff_of_true _ (Or.inl hneg)
    rw [ComparesExactly, isTimedOut?_of_neg hneg, decide_eq_false hexpired]
  · rw [comparesExactly_iff_fits hpos, fitsSigned_nanoseconds_iff hpos]
    have helapsed : FitsSigned 64 (now - timing.lastUpdateTimePoint) ↔
        now - timing.lastUpdateTimePoint < 2 ^ 63 := by
      refine and_iff_right ?_
      have hforward : 0 ≤ now - timing.lastUpdateTimePoint := sub_nonneg.mpr h
      exact le_trans (by norm_num) hforward
    rw [helapsed, and_comm, or_iff_right (not_lt.mpr hpos)]

/-- Since the clock began, no time has passed that 64 bits cannot count. -/
theorem comparesExactly_sinceBoot : (TMqttChannelTiming.mk 1 maxTimeoutMin).ComparesExactly
    (2 ^ 63 - 1) :=
  (comparesExactly_iff _ _ (by decide)).mpr (Or.inr (by decide))

/-- One minute more: the loader stores it, and the value is stale from its first nanosecond on. -/
theorem huge_timeout_overflows :
    ∃ timing : TMqttChannelTiming,
      ((loadTiming "boiler/flow temperature" (some (.integer 153722868))).run (fun _ => 1) 0
        (.blank fun _ => ⟨0, 0, 0⟩)).2.2.mqttChannelsTiming.lookup "boiler/flow temperature" =
          some timing ∧
      timing.lastUpdateTimePoint ≤ 2 ∧ ¬ timing.Expired 2 ∧ timing.isTimedOut? 2 = none ∧
      timing.isTimedOut 2 = true ∧ ¬ timing.ComparesExactly 2 := by
  refine ⟨⟨1, 153722868⟩, ?_, ?_⟩
  · decide +kernel
  · unfold ComparesExactly
    decide

end SmartWebGateway
