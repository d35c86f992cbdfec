import SmartWebGateway.Config.Acceptance
import SmartWebGateway.Gateway.Runs
import Mathlib.Tactic

/-!
# The channel number

A controller announces the larger of two numbers: a running maximum of the
indices, each plus one, and the number of its selectors. The maximum lives in
one byte, in which the largest index plus one is zero.
-/
namespace SmartWebGateway

open Foundation
open TMqttToSmartWebGateway

/-- The number in the first two bytes of an answer, low byte first. -/
def TFrame.announcedNumber (f : TFrame) : ℕ := f.data[0]!.toNat + 2 ^ 8 * f.data[1]!.toNat

namespace ControllerObject

/-- The number is beyond every configured index and, up to what two bytes can count, it is no less
than the number of selectors. -/
structure CoveredBy (configJson : ControllerObject) (number : ℕ) : Prop where
  sensors : ∀ sensor ∈ configJson.sensors.getD [], sensor.sensorIndex < number
  parameters : ∀ parameter ∈ configJson.parameters.getD [],
    parameter.parameterIndex.toNat < number
  selectors : configJson.entries.length < 2 ^ 16 →
    (configJson.entries.map Entry.selector).dedup.length ≤ number

end ControllerObject

section Maximum

theorem succ_le_runningCount (entries : List Entry) :
    ∀ e ∈ entries, (e.selector.index + 1).toNat ≤ (runningCount entries).toNat := by
  induction entries using List.reverseRecOn with
  | nil => simp
  | append_singleton done e ih =>
    intro e' he'
    rw [runningCount_snoc]
    rcases List.mem_append.mp he' with he' | he'
    · have hle := ih e' he'
      split_ifs with hlt
      · exact hle.trans (BitVec.lt_def.mp hlt).le
      · exact hle
    · rw [List.mem_singleton.mp he']
      split_ifs with hlt
      · exact le_rfl
      · exact not_lt.mp (mt BitVec.lt_def.mpr hlt)

theorem index_lt_runningCount {entries : List Entry} {e : Entry} (he : e ∈ entries)
    (hindex : e.selector.index ≠ 255) :
    e.selector.index.toNat < (runningCount entries).toNat := by
  have hle := succ_le_runningCount entries e he
  have hne : e.selector.index.toNat ≠ 255 := fun h => hindex (BitVec.eq_of_toNat_eq h)
  have hsmall := e.selector.index.isLt
  have hone : BitVec.toNat (1 : Byte) = 1 := rfl
  rw [BitVec.toNat_add, hone] at hle
  omega

end Maximum

section Size

theorem MappingLoaded.length {entries : List Entry}
    {mapping : AList fun _ : BitVec 32 => TMqttChannel} (h : MappingLoaded entries mapping) :
    mapping.entries.length = entries.length := by
  have hnodup : (entries.map fun e => e.selector.raw).Nodup := by
    have hraw := h.distinct.map (f := TParameterInfo.raw) fun _ _ => TParameterInfo.raw_inj.mp
    rwa [List.map_map] at hraw
  have hperm : mapping.keys.Perm (entries.map fun e => e.selector.raw) := by
    apply (List.perm_ext_iff_of_nodup mapping.nodupKeys hnodup).mpr
    intro key
    change key ∈ mapping.keys ↔ _
    rw [← AList.mem_keys, ← AList.lookup_isSome, Option.isSome_iff_exists, List.mem_map]
    simp only [h.lookup_eq_some_iff]
    constructor
    · rintro ⟨_, e, he, hkey, _⟩
      exact ⟨e, he, hkey⟩
    · rintro ⟨e, he, hkey⟩
      obtain ⟨channel, hchannel, _⟩ := h.mapped e he
      exact ⟨channel, e, he, hkey, hchannel⟩
  have hlength := hperm.length_eq
  rwa [AList.keys, List.keys, List.length_map, List.length_map] at hlength

end Size

section Answer

variable {configJson : ControllerObject} {load : Loading configJson} {w : ℕ → World} {i : ℕ}
  {s : TaskState}

theorem announcedNumber_set (frame : TFrame) (number : ℕ) :
    TFrame.announcedNumber { frame with
      data := (frame.data.set! 0 (BitVec.ofNat 8 number)).set! 1
        (BitVec.ofNat 8 (number >>> 8)) } = number % 2 ^ 16 := by
  have hlow : ((frame.data.set! 0 (BitVec.ofNat 8 number)).set! 1
      (BitVec.ofNat 8 (number >>> 8)))[0]! = BitVec.ofNat 8 number := by simp
  have hhigh : ((frame.data.set! 0 (BitVec.ofNat 8 number)).set! 1
      (BitVec.ofNat 8 (number >>> 8)))[1]! = BitVec.ofNat 8 (number >>> 8) := by simp
  rw [TFrame.announcedNumber, hlow, hhigh, BitVec.toNat_ofNat, BitVec.toNat_ofNat,
    Nat.shiftRight_eq_div_pow]
  omega

theorem wp_getChannelNumber (header : TCanHeader) :
    (getChannelNumber header).wp w
      (fun _ _ t => ∃ frame, t = s.logged (.sent frame .channelNumber) ∧
        frame.announcedNumber = s.driverState.channelNumber % 2 ^ 16)
      (fun _ _ _ => ¬ (header.messageType = mtMsgRequest ∧
        header.programId = s.driverState.programId)) i s := by
  rw [getChannelNumber, Program.wp_bind, Program.wp_get, Program.wp_bind, Program.wp_ofExcept]
  rcases getResponseFrame_cases s.driverState.programId header with
    ⟨e, _, hresponse, hnot⟩ | ⟨_, hresponse⟩
  · rw [hresponse]
    exact hnot
  · rw [hresponse]
    exact ⟨_, rfl, announcedNumber_set _ _⟩

/-- Every number that is ever announced, by a thread that started with the controller, covers the
mapping. -/
def ChannelNumberCovers {configJson : ControllerObject} (load : Loading configJson) : Prop :=
  ∀ w i s, Acts w (0, TaskState.initial load.config) (i, s) →
    ∀ header j t frame, (getChannelNumber header).run w i s = (.ok (), j, t) →
      t.log = .sent frame .channelNumber :: s.log → configJson.CoveredBy frame.announcedNumber

theorem Acts.channelNumber (h : Acts w (0, TaskState.initial load.config) (i, s)) :
    s.driverState.channelNumber = load.config.channelNumber := by
  have hsame := h.sameChannels
  rw [ControllerMapping.channelNumber, hsame.parameterCount, hsame.parameterMapping]
  rfl

theorem Loading.channelNumber_eq (load : Loading configJson) :
    load.config.channelNumber =
      max (runningCount configJson.entries).toNat configJson.entries.length := by
  have hcount := Program.wp_ok (wp_loadMqttToSmartWebController_count load.garbage) load.accepted
  rw [ControllerMapping.channelNumber, hcount, load.loaded.mapping.length]

/-- There is one number for the whole life of the thread. -/
theorem channelNumberCovers_iff_coveredBy (load : Loading configJson) :
    ChannelNumberCovers load ↔
      configJson.CoveredBy
        (max (runningCount configJson.entries).toNat configJson.entries.length % 2 ^ 16) := by
  rw [← load.channelNumber_eq]
  constructor
  · intro hcovers
    let s := TaskState.initial load.config
    have hanswer := @wp_getChannelNumber (fun _ => roomWorld) 0 s
      ⟨ptController, s.driverState.programId, Controller.Function.getChannelNumber, mfFormat0,
        mtMsgRequest, 0⟩
    rcases hrun : (getChannelNumber ⟨ptController, s.driverState.programId,
        Controller.Function.getChannelNumber, mfFormat0, mtMsgRequest, 0⟩).run
          (fun _ => roomWorld) 0 s with ⟨_ | _, j, t⟩
    · exact absurd ⟨rfl, rfl⟩ (Program.wp_error hanswer hrun)
    · obtain ⟨frame, rfl, hnumber⟩ := Program.wp_ok hanswer hrun
      have hcovered := hcovers _ 0 s .refl _ j _ frame hrun rfl
      rwa [hnumber] at hcovered
  · intro hcovered w i s hacts header j t frame hrun hlog
    obtain ⟨frame', rfl, hnumber⟩ := Program.wp_ok (wp_getChannelNumber header) hrun
    rw [TaskState.logged_log, List.cons.injEq] at hlog
    obtain ⟨hframe, -⟩ := hlog
    cases hframe
    rw [hnumber, hacts.channelNumber]
    exact hcovered

end Answer

/-- What it takes: an index of 255 is beyond the byte, so there have to be more entries than that;
and with more entries than two bytes count it is the remainder of their number that counts. -/
def ControllerObject.Countable (configJson : ControllerObject) : Prop :=
  if configJson.entries.length < 2 ^ 16 then
    (∀ parameter ∈ configJson.parameters.getD [], parameter.parameterIndex ≠ 255) ∨
      2 ^ 8 ≤ configJson.entries.length
  else
    ∀ e ∈ configJson.entries, e.selector.index.toNat < configJson.entries.length % 2 ^ 16

theorem SensorMapping.index_toNat (sensor : SensorMapping) :
    sensor.entry.selector.index.toNat = sensor.sensorIndex := by
  have hbounds := sensor.sensorIndexBounds
  have hindex : sensor.entry.selector.index = BitVec.ofNat 8 sensor.sensorIndex := rfl
  rw [hindex, BitVec.toNat_ofNat]
  omega

theorem ControllerObject.forall_index_lt_iff {configJson : ControllerObject} {number : ℕ} :
    ((∀ sensor ∈ configJson.sensors.getD [], sensor.sensorIndex < number) ∧
      ∀ parameter ∈ configJson.parameters.getD [], parameter.parameterIndex.toNat < number) ↔
    ∀ e ∈ configJson.entries, e.selector.index.toNat < number := by
  constructor
  · rintro ⟨hsensors, hparameters⟩ e he
    rcases List.mem_append.mp he with he | he
    · obtain ⟨sensor, hsensor, rfl⟩ := List.mem_map.mp he
      rw [sensor.index_toNat]
      exact hsensors sensor hsensor
    · obtain ⟨parameter, hparameter, rfl⟩ := List.mem_map.mp he
      exact hparameters parameter hparameter
  · intro hentries
    constructor
    · intro sensor hsensor
      rw [← sensor.index_toNat]
      exact hentries _ (SensorMapping.entry_mem hsensor)
    · intro parameter hparameter
      exact hentries _ (ParamMapping.entry_mem hparameter)

/-- Sensors end at 32, so that the largest index can only be a parameter's. -/
theorem ControllerObject.index_ne_255 {configJson : ControllerObject}
    (h : ∀ parameter ∈ configJson.parameters.getD [], parameter.parameterIndex ≠ 255) :
    ∀ e ∈ configJson.entries, e.selector.index ≠ 255 := by
  intro e he hindex
  rcases List.mem_append.mp he with he | he
  · obtain ⟨sensor, _, rfl⟩ := List.mem_map.mp he
    have hbounds := sensor.sensorIndexBounds
    have hvalue := congrArg BitVec.toNat hindex
    rw [sensor.index_toNat] at hvalue
    have hbyte : BitVec.toNat (255 : Byte) = 255 := rfl
    omega
  · obtain ⟨parameter, hparameter, rfl⟩ := List.mem_map.mp he
    exact h parameter hparameter hindex

/-- No two entries of an accepted controller have one selector. -/
theorem Loading.coveredBy_iff {configJson : ControllerObject} (load : Loading configJson)
    (number : ℕ) :
    configJson.CoveredBy number ↔
      (∀ e ∈ configJson.entries, e.selector.index.toNat < number) ∧
        (configJson.entries.length < 2 ^ 16 → configJson.entries.length ≤ number) := by
  have hdistinct : (configJson.entries.map Entry.selector).dedup.length =
      configJson.entries.length := by
    rw [load.loaded.mapping.distinct.dedup, List.length_map]
  rw [← ControllerObject.forall_index_lt_iff]
  constructor
  · rintro ⟨hsensors, hparameters, hselectors⟩
    rw [hdistinct] at hselectors
    exact ⟨⟨hsensors, hparameters⟩, hselectors⟩
  · rintro ⟨⟨hsensors, hparameters⟩, hselectors⟩
    rw [← hdistinct] at hselectors
    exact ⟨hsensors, hparameters, fun hfew => hselectors (hdistinct ▸ hfew)⟩

/-- The announced number covers the mapping of an accepted controller exactly in these cases, in
whatever order its entries are. -/
theorem channelNumberCovers_iff {configJson : ControllerObject} (load : Loading configJson) :
    ChannelNumberCovers load ↔ configJson.Countable := by
  have hbyte := (runningCount configJson.entries).isLt
  rw [channelNumberCovers_iff_coveredBy, load.coveredBy_iff, ControllerObject.Countable]
  split_ifs with hfew
  · have hmod : max (runningCount configJson.entries).toNat configJson.entries.length % 2 ^ 16 =
        max (runningCount configJson.entries).toNat configJson.entries.length :=
      Nat.mod_eq_of_lt (by omega)
    rw [hmod]
    constructor
    · rintro ⟨hindices, -⟩
      by_contra hnot
      push Not at hnot
      obtain ⟨⟨parameter, hparameter, hindex⟩, hsmall⟩ := hnot
      have hlt := hindices _ (ParamMapping.entry_mem hparameter)
      have hentry : (parameter.entry configJson).selector.index.toNat = 255 :=
        congrArg BitVec.toNat hindex
      omega
    · intro hcases
      constructor
      · intro e he
        rcases hcases with hindices | hmany
        · exact (index_lt_runningCount he (ControllerObject.index_ne_255 hindices e he)).trans_le
            (le_max_left _ _)
        · have hindex := e.selector.index.isLt
          omega
      · exact fun _ => le_max_right _ _
  · have hmax : max (runningCount configJson.entries).toNat configJson.entries.length =
        configJson.entries.length := max_eq_right (by omega)
    rw [hmax]
    exact ⟨fun h => h.1, fun h => ⟨h, fun hless => absurd hless hfew⟩⟩

def boilerLoading : Loading (boilerController ⟨3, 1, 255⟩) :=
  .standing ((boilerController_schemaKeysOnly _).acceptable_iff.mpr (by decide))
    fun _ => ⟨0, 0, 0⟩

/-- The boiler announces 33 channels. -/
theorem boiler_not_covered :
    ¬ ChannelNumberCovers boilerLoading ∧ boilerLoading.config.channelNumber = 33 := by
  have hnumber : boilerLoading.config.channelNumber = 33 := by
    rw [boilerLoading.channelNumber_eq]
    decide
  constructor
  · intro hcovers
    have hcovered := (channelNumberCovers_iff_coveredBy boilerLoading).mp hcovers
    rw [← boilerLoading.channelNumber_eq, hnumber] at hcovered
    exact absurd (hcovered.parameters _ (List.mem_singleton_self _)) (by decide)
  · exact hnumber

end SmartWebGateway
