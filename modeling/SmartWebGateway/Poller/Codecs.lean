import SmartWebGateway.Foundation.Rounding
import SmartWebGateway.Poller.Classes
import Mathlib.Tactic

/-!
# Codecs and set requests

A codec turns the bytes of a response into text and a text into the bytes of a
set request. Text and doubles are converted by two functions of the standard
and the support library, `std::stod` and `FormatFloat`, which are parameters.
-/
namespace SmartWebGateway

open Foundation

namespace IntType

def signed : IntType → Bool
  | .int8 | .int16 => true
  | .uint8 | .uint16 | .uint32 => false

def bits (type : IntType) : ℕ := 8 * type.size

def IsValue (type : IntType) (n : ℤ) : Prop :=
  if type.signed then -2 ^ (type.bits - 1) ≤ n ∧ n < 2 ^ (type.bits - 1)
  else 0 ≤ n ∧ n < 2 ^ type.bits

instance (type : IntType) (n : ℤ) : Decidable (type.IsValue n) := by
  unfold IsValue
  infer_instance

/-- The two's complement bytes of an integer, least significant byte first. -/
def bytes (type : IntType) (n : ℤ) : List Byte :=
  (List.range type.size).map fun i : ℕ => (BitVec.ofInt type.bits n).extractLsb' (8 * i) 8

end IntType

def littleEndian : List Byte → ℕ
  | [] => 0
  | b :: rest => b.toNat + 256 * littleEndian rest

/-- `memcpy(&res, buf, sizeof(Int))` -/
def IntType.ofBytes (type : IntType) (buf : List Byte) : ℤ :=
  let raw := littleEndian (buf.take type.size)
  if type.signed ∧ 2 ^ (type.bits - 1) ≤ raw then raw - 2 ^ type.bits else raw

/-- `res.push_back(v & 0xFF)` and `v >>= 8`, again and again. -/
def emitBytes : ℕ → ℤ → List Byte
  | 0, _ => []
  | count + 1, v => BitVec.ofInt 8 v :: emitBytes count (v >>> (8 : ℕ))

/-- How an encoding fails: by an exception, or by a conversion that has no defined result. -/
inductive EncodeFailure where
  | thrown (what : String)
  | undefinedConversion
  deriving DecidableEq

/-- The conversion of a double to an integer type: undefined when the truncated value is not one of
the type. -/
def IntType.convert (type : IntType) (x : Double) : Except EncodeFailure ℤ :=
  match x.truncated? with
  | some n => if type.IsValue n then .ok n else .error .undefinedConversion
  | none => .error .undefinedConversion

namespace ISmartWebCodec

/-- `Decode` -/
def decode (formatFloat : Double → String) (codec : ISmartWebCodec) (buf : List Byte) :
    Except String String :=
  match codec with
  | .int type div =>
    let res := type.ofBytes buf
    if div = 1 then .ok (toString res) else .ok (formatFloat ((Double.ofInt res).div (.ofInt div)))
  | .enum values =>
    match values.lookup (buf.headD 0) with
    | some label => .ok label
    | none => .ok (toString (buf.headD 0).toNat)
  | .sensor =>
    let v := IntType.int16.ofBytes buf
    if v = -32766 then .error "sensor is in undefined state"
    else if v = -32768 ∨ v = -32767 then .error ("sensor error " ++ toString v)
    else .ok (formatFloat ((Double.ofInt v).div (.ofInt 10)))
  | .onOffSensor =>
    let v := IntType.int16.ofBytes buf
    if v = -32768 then .ok "1"
    else if v = -32767 then .ok "0"
    else if v = -32766 then .error "sensor is in undefined state"
    else .ok (toString v)
  | .pwm =>
    if buf.headD 0 = 255 then .ok "100"
    else .ok (formatFloat ((Double.ofInt (buf.headD 0).toNat).div (.ofRat (254 / 100))))
  | .output => if buf.headD 0 = 0 then .ok "0" else .ok "1"

/-- `Encode`. The keys of an enumeration are its labels; of two equal labels the first counts. -/
def encode (stod : String → Except String Double) (codec : ISmartWebCodec) (value : String) :
    Except EncodeFailure (List Byte) :=
  match codec with
  | .int type div =>
    match stod value with
    | .error what => .error (.thrown what)
    | .ok x =>
      (type.convert (if div = 1 then x else x.mul (.ofInt div))).map (emitBytes type.size)
  | .enum values =>
    match (values.map Prod.swap).lookup value with
    | some key => .ok [key]
    | none => .error (.thrown ("unknown value for enum parameter: " ++ value))
  | .sensor => .error (.thrown "sensors are readonly")
  | .onOffSensor => .ok [if value = "0" then 0 else 1]
  | .pwm | .output => .error (.thrown "outputs are readonly")

end ISmartWebCodec

structure TSmartWebParameterControl where
  programId : Byte
  parameter : TSmartWebParameter

/-- The frame that sets a parameter to the given bytes. -/
def setRequestFrame (param : TSmartWebParameterControl) (bytes : List Byte) : TFrame :=
  let data := param.parameter.programClass.type :: BitVec.ofNat 8 param.parameter.id :: bytes
  { canId := { TCanHeader.ofRaw 0 with
      programType := ptRemoteControl
      programId := param.programId
      functionId := RemoteControl.Function.setParameterValue
      messageType := mtMsgRequest }.raw ||| canEffFlag
    canDlc := BitVec.ofNat 8 (bytes.length + 2)
    data := Vector.ofFn fun i => data.getD i 0 }

/-- Every exception of the codec is replaced by one that names the parameter. -/
def makeSetParameterValueRequest (stod : String → Except String Double)
    (param : TSmartWebParameterControl) (value : String) : Except EncodeFailure TFrame :=
  match param.parameter.codec.encode stod value with
  | .ok bytes => .ok (setRequestFrame param bytes)
  | .error (.thrown _) =>
    .error (.thrown ("Can't encode '" ++ value ++ "' for '" ++ param.parameter.programClass.name ++
      "'(" ++ toString param.programId.toNat ++ "):'" ++ param.parameter.name ++ "'"))
  | .error .undefinedConversion => .error .undefinedConversion

/-- The frames that the handler of a control's new value passes to `Send`. It logs exceptions. -/
def onControlValue (stod : String → Except String Double) (param : TSmartWebParameterControl)
    (value : String) : Except EncodeFailure (List TFrame) :=
  match makeSetParameterValueRequest stod param value with
  | .ok frame => .ok [frame]
  | .error (.thrown _) => .ok []
  | .error .undefinedConversion => .error .undefinedConversion

section Bytes

/-- A byte of the two's complement form is what the loop emits after as many shifts. -/
theorem byte_of_ofInt {w i : ℕ} (h : i + 8 ≤ w) (n : ℤ) :
    (BitVec.ofInt w n).extractLsb' i 8 = BitVec.ofInt 8 (n >>> i) := by
  obtain ⟨rest, rfl⟩ := Nat.exists_eq_add_of_le h
  have hmod : n % 2 ^ (i + 8 + rest) / 2 ^ i % 256 = n / 2 ^ i % 256 := by
    have hsplit : n = n % 2 ^ (i + 8 + rest) +
        2 ^ i * (256 * (2 ^ rest * (n / 2 ^ (i + 8 + rest)))) := by
      nth_rewrite 1 [← Int.emod_add_mul_ediv n (2 ^ (i + 8 + rest))]
      ring
    nth_rewrite 2 [hsplit]
    rw [Int.add_mul_ediv_left _ _ (by positivity), Int.add_mul_emod_self_left]
  apply BitVec.eq_of_toNat_eq
  rw [BitVec.extractLsb'_toNat, BitVec.toNat_ofInt, BitVec.toNat_ofInt, Nat.shiftRight_eq_div_pow,
    Int.shiftRight_eq_div_pow]
  push_cast
  rw [← hmod]
  have hnonneg : 0 ≤ n % 2 ^ (i + 8 + rest) := Int.emod_nonneg n (by positivity)
  have hbyte : 0 ≤ n % 2 ^ (i + 8 + rest) / 2 ^ i % 256 := Int.emod_nonneg _ (by norm_num)
  zify
  rw [Int.toNat_of_nonneg hnonneg, Int.toNat_of_nonneg hbyte]

theorem littleEndian_emitBytes (count : ℕ) (n : ℤ) :
    (littleEndian (emitBytes count n) : ℤ) = n % 256 ^ count := by
  induction count generalizing n with
  | zero => simp [emitBytes, littleEndian]
  | succ count ih =>
    have hpos : (0 : ℤ) < 256 ^ count := by positivity
    have hbyte : ((BitVec.ofInt 8 n).toNat : ℤ) = n % 256 := by
      rw [BitVec.toNat_ofInt, Int.toNat_of_nonneg (Int.emod_nonneg n (by norm_num))]
      rfl
    have hshift : n >>> (8 : ℕ) = n / 256 := Int.shiftRight_eq_div_pow n 8
    rw [emitBytes, littleEndian, Nat.cast_add, Nat.cast_mul, ih, hbyte, hshift]
    symm
    apply ((Int.ediv_emod_unique (q := n / 256 / 256 ^ count) (by positivity)).mpr _).2
    have hlow := Int.emod_add_mul_ediv n 256
    have hhigh := Int.emod_add_mul_ediv (n / 256) (256 ^ count)
    have hlow0 := Int.emod_nonneg n (by norm_num : (256 : ℤ) ≠ 0)
    have hlow1 := Int.emod_lt_of_pos n (by norm_num : (0 : ℤ) < 256)
    have hhigh0 := Int.emod_nonneg (n / 256) hpos.ne'
    have hhigh1 := Int.emod_lt_of_pos (n / 256) hpos
    refine ⟨?_, by positivity, ?_⟩
    · rw [pow_succ]
      push_cast
      linear_combination hlow + 256 * hhigh
    · rw [pow_succ]
      push_cast
      linarith

theorem emitBytes_eq_map (count : ℕ) (n : ℤ) :
    emitBytes count n =
      (List.range count).map fun i : ℕ => BitVec.ofInt 8 (n >>> (8 * i : ℕ)) := by
  induction count generalizing n with
  | zero => rfl
  | succ count ih =>
    rw [emitBytes, ih, List.range_succ_eq_map, List.map_cons, List.map_map]
    congr 1
    · rw [Nat.mul_zero, Int.shiftRight_zero]
    · apply List.map_congr_left
      intro i _
      rw [Function.comp_apply, ← Int.shiftRight_add, Nat.mul_succ, Nat.add_comm]

theorem emitBytes_eq_bytes (type : IntType) (n : ℤ) : emitBytes type.size n = type.bytes n := by
  rw [emitBytes_eq_map, IntType.bytes]
  apply List.map_congr_left
  intro i hi
  have hlt := List.mem_range.mp hi
  rw [byte_of_ofInt (by unfold IntType.bits; omega)]

theorem length_emitBytes (count : ℕ) (n : ℤ) : (emitBytes count n).length = count := by
  rw [emitBytes_eq_map, List.length_map, List.length_range]

theorem IntType.ofBytes_bytes {type : IntType} {n : ℤ} (hn : type.IsValue n) (rest : List Byte) :
    type.ofBytes (type.bytes n ++ rest) = n := by
  have htake : (type.bytes n ++ rest).take type.size = emitBytes type.size n := by
    rw [← emitBytes_eq_bytes, List.take_left' (length_emitBytes _ _)]
  have hvalue := littleEndian_emitBytes type.size n
  unfold IsValue at hn
  unfold ofBytes
  rw [htake]
  generalize littleEndian (emitBytes type.size n) = raw at hvalue
  cases type <;> simp [signed, bits, size] at hn hvalue ⊢ <;> omega

theorem IntType.bytes_inj {type : IntType} {n m : ℤ} (hn : type.IsValue n) (hm : type.IsValue m)
    (h : type.bytes n = type.bytes m) : n = m := by
  rw [← ofBytes_bytes hn [], ← ofBytes_bytes hm [], h]

end Bytes

def IntType.Fits (type : IntType) (x : Double) : Prop :=
  ∃ n, x.truncated? = some n ∧ type.IsValue n

section SetRequests

variable {type : IntType} {div : ℕ} {stod : String → Except String Double} {value : String}
  {x : Double} {param : TSmartWebParameterControl}

theorem IntType.convert_of_fits {n : ℤ} (hn : x.truncated? = some n) (hvalue : type.IsValue n) :
    type.convert x = .ok n := by
  simp only [convert, hn, if_pos hvalue]

theorem IntType.convert_of_not_fits (h : ¬ type.Fits x) :
    type.convert x = .error .undefinedConversion := by
  unfold convert
  cases hn : x.truncated? with
  | none => rfl
  | some n => exact if_neg fun hvalue => h ⟨n, hn, hvalue⟩

theorem encode_int (hstod : stod value = .ok x) :
    (ISmartWebCodec.int type div).encode stod value =
      (type.convert (x.mul (.ofInt div))).map type.bytes := by
  have hproduct : (if div = 1 then x else x.mul (.ofInt div)) = x.mul (.ofInt div) := by
    split_ifs with hdiv
    · rw [hdiv]
      exact (Double.mul_ofInt_one x).symm
    · rfl
  have hbytes : emitBytes type.size = type.bytes := funext (emitBytes_eq_bytes type)
  simp only [ISmartWebCodec.encode, hstod, hproduct, hbytes]

def TFrame.valueBytes (frame : TFrame) (size : ℕ) : List Byte :=
  (frame.data.toList.drop 2).take size

theorem valueBytes_setRequestFrame (bytes : List Byte) (h : bytes.length ≤ 6) :
    (setRequestFrame param bytes).valueBytes bytes.length = bytes := by
  apply List.ext_getElem?
  intro i
  simp only [TFrame.valueBytes, setRequestFrame, Vector.toList_ofFn, List.getElem?_take,
    List.getElem?_drop, List.getElem?_ofFn]
  by_cases hi : i < bytes.length
  · have hroom : i < 6 := by omega
    have hplace : 2 + i = i + 1 + 1 := by omega
    simp [hi, hroom, hplace]
  · simp [hi]

/-- A text that stands for `x` is handled rightly: a product that does not fit is refused at every
level, and one that fits is sent in its two's complement bytes. -/
structure HandledRightly (stod : String → Except String Double)
    (param : TSmartWebParameterControl) (value : String) (type : IntType) (x : Double) : Prop where
  refused : ¬ type.Fits x →
    (∃ what, param.parameter.codec.encode stod value = .error (.thrown what)) ∧
    (∃ what, makeSetParameterValueRequest stod param value = .error (.thrown what)) ∧
    onControlValue stod param value = .ok []
  sent : ∀ n, x.truncated? = some n → type.IsValue n →
    ∃ frame, makeSetParameterValueRequest stod param value = .ok frame ∧
      onControlValue stod param value = .ok [frame] ∧
      frame.canDlc.toNat = 2 + type.size ∧ frame.valueBytes type.size = type.bytes n

theorem encode_of_codec (hstod : stod value = .ok x)
    (hcodec : param.parameter.codec = .int type div) :
    param.parameter.codec.encode stod value =
      (type.convert (x.mul (.ofInt div))).map type.bytes := by
  rw [hcodec]
  exact encode_int hstod

theorem HandledRightly.fits (hstod : stod value = .ok x)
    (hcodec : param.parameter.codec = .int type div)
    (h : HandledRightly stod param value type (x.mul (.ofInt div))) :
    type.Fits (x.mul (.ofInt div)) := by
  by_contra hfits
  obtain ⟨⟨what, hthrown⟩, _⟩ := h.refused hfits
  rw [encode_of_codec hstod hcodec, IntType.convert_of_not_fits hfits] at hthrown
  cases hthrown

/-- A set request is handled rightly exactly when the value fits. -/
theorem setRequest_handledRightly_iff (hstod : stod value = .ok x)
    (hcodec : param.parameter.codec = .int type div) :
    HandledRightly stod param value type (x.mul (.ofInt div)) ↔
      type.Fits (x.mul (.ofInt div)) := by
  refine ⟨HandledRightly.fits hstod hcodec, ?_⟩
  intro hfits
  refine ⟨fun hnot => absurd hfits hnot, ?_⟩
  intro n hn hvalue
  have hbytes : param.parameter.codec.encode stod value = .ok (type.bytes n) := by
    rw [encode_of_codec hstod hcodec, IntType.convert_of_fits hn hvalue]
    rfl
  have hlength : (type.bytes n).length = type.size := by simp [IntType.bytes]
  have hsize : type.size ≤ 4 := by cases type <;> simp [IntType.size]
  have hmake : makeSetParameterValueRequest stod param value =
      .ok (setRequestFrame param (type.bytes n)) := by
    simp only [makeSetParameterValueRequest, hbytes]
  have hvalues : (setRequestFrame param (type.bytes n)).valueBytes (type.bytes n).length =
      type.bytes n := valueBytes_setRequestFrame _ (by omega)
  rw [hlength] at hvalues
  refine ⟨setRequestFrame param (type.bytes n), hmake, ?_, ?_, hvalues⟩
  · simp only [onControlValue, hmake]
  · simp only [setRequestFrame, hlength, BitVec.toNat_ofNat]
    omega

end SetRequests

def offsetParameter : TSmartWebParameterControl where
  programId := 10
  parameter :=
    { id := 1
      name := "offset"
      type := "value"
      readOnly := false
      codec := .int .int8 1
      programClass := ⟨0, 5, "ROOM_DEVICE"⟩
      order := 1 }

theorem truncated?_ofInt_mul_one {n : ℤ} (h : |n| ≤ 2 ^ 53) :
    ((Double.ofInt n).mul (.ofInt 1)).truncated? = some n := by
  rw [Double.mul_ofInt_one, Double.ofInt_eq h]
  simp [Double.truncated?]

/-- The text 20 fits into a byte. -/
theorem setRequest_handledRightly_20 :
    HandledRightly (fun _ => .ok (.ofInt 20)) offsetParameter "20" .int8
      ((Double.ofInt 20).mul (.ofInt 1)) :=
  (setRequest_handledRightly_iff rfl rfl).mpr
    ⟨20, truncated?_ofInt_mul_one (by norm_num), by decide⟩

/-- The text 200 does not fit, and its conversion is undefined. -/
theorem setRequest_200 :
    ¬ HandledRightly (fun _ => .ok (.ofInt 200)) offsetParameter "200" .int8
      ((Double.ofInt 200).mul (.ofInt 1)) := by
  intro h
  have hfits : IntType.int8.Fits ((Double.ofInt 200).mul (.ofInt 1)) :=
    HandledRightly.fits rfl rfl h
  obtain ⟨n, hn, hvalue⟩ := hfits
  rw [truncated?_ofInt_mul_one (by norm_num)] at hn
  cases hn
  exact absurd hvalue (by decide)

end SmartWebGateway
