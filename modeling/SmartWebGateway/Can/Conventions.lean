import SmartWebGateway.Foundation.Binary64
import Mathlib.Tactic

/-!
# Frames on the bus and the SmartWeb conventions

The unions of `smart_web_conventions.h` overlay a struct with a raw word or
with raw bytes, least significant byte first. Each is modelled by its struct
view together with the conversion to and from the raw view, and the two
conversions are proved inverse.
-/
namespace SmartWebGateway

open Foundation

abbrev Byte := BitVec 8

def canEffFlag : BitVec 32 := 0x80000000
def canRtrFlag : BitVec 32 := 0x40000000
def canErrFlag : BitVec 32 := 0x20000000

/-- `struct can_frame`: the identifier with its flags, the length, and always eight bytes. -/
structure TFrame where
  canId : BitVec 32
  canDlc : Byte
  data : Vector Byte 8
  deriving DecidableEq

def TFrame.zero : TFrame := ⟨0, 0, Vector.replicate 8 0⟩

def sensorShortValue : BitVec 16 := BitVec.ofInt 16 (-32768)
def sensorOpenValue : BitVec 16 := BitVec.ofInt 16 (-32767)
def sensorUndefined : BitVec 16 := BitVec.ofInt 16 (-32766)

def mfFormat0 : BitVec 3 := 0

def ptProgram : Byte := 1
def ptController : Byte := 11
def ptRemoteControl : Byte := 22

def mtMsgRequest : BitVec 2 := 0
def mtMsgResponse : BitVec 2 := 2

/-! Function and parameter numbers, by the program type that they belong to. -/

namespace Controller.Function
def iAmHere : Byte := 1
def getControllerType : Byte := 8
def getChannelNumber : Byte := 10
def getOutputValue : Byte := 19
end Controller.Function

namespace Controller.Parameters
def sensor : Byte := 1
end Controller.Parameters

namespace RemoteControl.Function
def getParameterValue : Byte := 1
def setParameterValue : Byte := 2
end RemoteControl.Function

namespace RemoteControl.Parameters
def sensor : Byte := 1
def output : Byte := 2
end RemoteControl.Parameters

namespace Program.Function
def iAmProgram : Byte := 7
end Program.Function

/-- Struct view of the extended identifier. The three unused bits hold the
EFF, RTR and ERR flags. -/
@[ext] structure TCanHeader where
  programType : Byte
  programId : Byte
  functionId : Byte
  messageFormat : BitVec 3
  messageType : BitVec 2
  unused : BitVec 3
  deriving DecidableEq

namespace TCanHeader

def raw (h : TCanHeader) : BitVec 32 :=
  h.unused ++ h.messageType ++ h.messageFormat ++ h.functionId ++ h.programId ++ h.programType

def ofRaw (r : BitVec 32) : TCanHeader where
  programType := r.extractLsb' 0 8
  programId := r.extractLsb' 8 8
  functionId := r.extractLsb' 16 8
  messageFormat := r.extractLsb' 24 3
  messageType := r.extractLsb' 27 2
  unused := r.extractLsb' 29 3

@[simp] theorem raw_ofRaw (r : BitVec 32) : (ofRaw r).raw = r := by
  unfold raw ofRaw
  ext i hi
  simp
  grind

@[simp] theorem ofRaw_raw (h : TCanHeader) : ofRaw h.raw = h := by
  unfold raw ofRaw
  ext i hi <;> simp <;> grind

/-- Setting the EFF flag touches one unused bit and no other field. -/
@[simp] theorem ofRaw_or_eff (r : BitVec 32) :
    ofRaw (r ||| canEffFlag) = { ofRaw r with unused := (ofRaw r).unused ||| 4 } := by
  simp only [ofRaw, canEffFlag, BitVec.extractLsb'_or]
  ext1 <;> simp

end TCanHeader

def TFrame.header (f : TFrame) : TCanHeader := .ofRaw f.canId

def TFrame.Extended (f : TFrame) : Prop := f.canId &&& canEffFlag ≠ 0

instance (f : TFrame) : Decidable f.Extended := inferInstanceAs (Decidable (_ ≠ _))

theorem TFrame.extended_of_or_eff {f : TFrame} {r : BitVec 32} (h : f.canId = r ||| canEffFlag) :
    f.Extended := by
  have heff : (r ||| canEffFlag) &&& canEffFlag = canEffFlag := by
    ext i hi
    simp only [BitVec.getElem_and, BitVec.getElem_or]
    cases canEffFlag[i] <;> simp
  rw [Extended, h, heff]
  decide

def FlagsClear (canId : BitVec 32) : Prop := canId &&& canRtrFlag = 0 ∧ canId &&& canErrFlag = 0

instance (canId : BitVec 32) : Decidable (FlagsClear canId) := inferInstanceAs (Decidable (_ ∧ _))

theorem and_twoPow_eq_zero {n : ℕ} {r : BitVec n} {i : ℕ} (hi : i < n) :
    r &&& BitVec.twoPow n i = 0 ↔ r.getLsbD i = false := by
  rw [BitVec.and_twoPow]
  split_ifs with h
  · have hne : BitVec.twoPow n i ≠ 0#n := by
      intro hzero
      have hbit := congrArg (fun v => v.getLsbD i) hzero
      simp [hi] at hbit
    simpa [h] using hne
  · simp [h]

/-- The two flags are the low bits of the header's unused ones. -/
theorem flagsClear_iff {r : BitVec 32} :
    FlagsClear r ↔ (TCanHeader.ofRaw r).unused &&& 3 = 0 := by
  have hrtr : canRtrFlag = BitVec.twoPow 32 30 := by decide
  have herr : canErrFlag = BitVec.twoPow 32 29 := by decide
  have hunused : ∀ u : BitVec 3, u &&& 3 = 0 ↔ u.getLsbD 1 = false ∧ u.getLsbD 0 = false := by
    decide
  rw [FlagsClear, hrtr, herr, and_twoPow_eq_zero (by decide), and_twoPow_eq_zero (by decide),
    hunused]
  simp [TCanHeader.ofRaw]

theorem TCanHeader.flagsClear_raw_or_eff {h : TCanHeader} {word : BitVec 32}
    (hunused : h.unused = (TCanHeader.ofRaw word).unused) :
    FlagsClear (h.raw ||| canEffFlag) ↔ FlagsClear word := by
  have heff : ∀ u : BitVec 3, (u ||| 4) &&& 3 = 0 ↔ u &&& 3 = 0 := by decide
  rw [flagsClear_iff, flagsClear_iff, ofRaw_or_eff, ofRaw_raw, ← hunused]
  exact heff h.unused
/-- A host and one of its channels. The second byte is the channel in its low
five bits and the channel's type above. -/
@[ext] structure TMappingPoint where
  hostID : Byte
  channelID : BitVec 5
  type : BitVec 3
  deriving DecidableEq

namespace TMappingPoint

def ofRawID (first second : Byte) : TMappingPoint where
  hostID := first
  channelID := second.extractLsb' 0 5
  type := second.extractLsb' 5 3

def rawSecond (p : TMappingPoint) : Byte := p.type ++ p.channelID

@[simp] theorem rawSecond_ofRawID (first second : Byte) :
    (ofRawID first second).rawSecond = second := by
  unfold rawSecond ofRawID
  ext i hi
  simp
  grind

end TMappingPoint

/-- The eight bytes of the union `TParameterData`. -/
structure TParameterData where
  bytes : Vector Byte 8
  deriving DecidableEq

namespace TParameterData

def programType (d : TParameterData) : Byte := d.bytes[0]!
def parameterId (d : TParameterData) : Byte := d.bytes[1]!

def index (d : TParameterData) : Byte := d.bytes[2]!

/-- `raw_info`: the first four bytes as one word. -/
def rawInfo (d : TParameterData) : BitVec 32 :=
  d.bytes[3]! ++ d.bytes[2]! ++ d.bytes[1]! ++ d.bytes[0]!

end TParameterData

/-- Struct view of the union `TParameterInfo`, whose fourth byte stays zero. -/
structure TParameterInfo where
  programType : Byte
  parameterId : Byte
  index : Byte
  deriving DecidableEq

namespace TParameterInfo

def raw (p : TParameterInfo) : BitVec 32 := 0#8 ++ p.index ++ p.parameterId ++ p.programType

end TParameterInfo

theorem append_inj_iff {m n : ℕ} {a a' : BitVec m} {b b' : BitVec n} :
    a ++ b = a' ++ b' ↔ a = a' ∧ b = b' := by
  constructor
  · intro h
    have hlow := congrArg (BitVec.extractLsb' 0 n) h
    have hhigh := congrArg (BitVec.extractLsb' n m) h
    rw [BitVec.extractLsb'_append_eq_right, BitVec.extractLsb'_append_eq_right] at hlow
    rw [BitVec.extractLsb'_append_eq_left, BitVec.extractLsb'_append_eq_left] at hhigh
    exact ⟨hhigh, hlow⟩
  · rintro ⟨rfl, rfl⟩
    rfl

theorem word_inj {a b c d a' b' c' d' : Byte} :
    (a ++ b ++ c ++ d : BitVec 32) = a' ++ b' ++ c' ++ d' ↔ a = a' ∧ b = b' ∧ c = c' ∧ d = d' := by
  have habc : (a ++ b ++ c : BitVec 24) = a' ++ b' ++ c' ↔ (a = a' ∧ b = b') ∧ c = c' :=
    (append_inj_iff (m := 16)).trans (and_congr_left' append_inj_iff)
  refine (append_inj_iff (m := 24)).trans ?_
  rw [habc]
  tauto

/-- The two unions pack a selector into the same word, so distinct selectors have distinct keys. -/
theorem TParameterInfo.raw_inj {p q : TParameterInfo} : p.raw = q.raw ↔ p = q := by
  cases p
  cases q
  simp only [raw, word_inj, TParameterInfo.mk.injEq]
  tauto

theorem TParameterData.rawInfo_eq_raw {d : TParameterData} {p : TParameterInfo} :
    d.rawInfo = p.raw ↔
      d.programType = p.programType ∧ d.parameterId = p.parameterId ∧ d.index = p.index ∧
        d.bytes[3]! = 0 := by
  simp only [rawInfo, TParameterInfo.raw, word_inj, programType, parameterId, index]
  tauto

/-- `0xFF & value` -/
def lowByte (value : BitVec 16) : Byte := value.extractLsb' 0 8

/-- `0xFF & value >> 8` -/
def highByte (value : BitVec 16) : Byte := value.extractLsb' 8 8

theorem highByte_append_lowByte (value : BitVec 16) : highByte value ++ lowByte value = value := by
  unfold highByte lowByte
  ext i hi
  simp
  grind

namespace SensorData

/-- `static_cast<int16_t>(value * 10)`. An out-of-range conversion is undefined
in C++; `undefinedCast` is what the machine then leaves. -/
def fromDouble (undefinedCast : BitVec 16) (value : Double) : BitVec 16 :=
  ((value.mul (.finite 10 (representable_ten))).toSigned? 16).getD undefinedCast
where
  representable_ten : Representable 10 := Double.representable_ofNat 10 (by norm_num)

theorem fromDouble_zero (undefinedCast : BitVec 16) :
    fromDouble undefinedCast (.finite 0 Double.representable_zero) = 0 := by
  simp [fromDouble, Double.mul, Double.ofRat_zero, Double.toSigned?, Double.truncate]

end SensorData
end SmartWebGateway
