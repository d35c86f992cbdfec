import SmartWebGateway.Config.Controller
import Mathlib.Data.List.Nodup
import Mathlib.Tactic

/-!
# What a loaded controller contains

An accepted controller object is a list of entries, sensors first. The loader
builds three tables from it, and each table has an invariant of its own over
the entries loaded so far; the loader's loops keep all three, and throw only
for a reason that can be read off the controller object.
-/
namespace SmartWebGateway

open Foundation

/-- One mapping entry, as both loops see it: what it answers to, its channel, the
timeout written in it, the member that the loader takes the timeout from, and
the output of a sensor. -/
structure Entry where
  selector : TParameterInfo
  channel : String
  valueTimeoutMin : Option ℤ
  timingSource : Option JsonValue
  output : Option Output
  outputSelector : ∀ o ∈ output, selector = sensorInfo o

namespace Entry

/-- The timeout that `LoadTiming` stores for the entry, if it stores one. -/
def storedTimeout (e : Entry) : Option ℤ := e.timingSource.bind fun value => value.asInt.toOption

def Named (e : Entry) : Prop := ∃ channel, TMqttChannel.fromString e.channel = .ok channel

/-- The member that the timeout is taken from converts to an `int`. -/
def Timed (e : Entry) : Prop := ∀ value ∈ e.timingSource, ∃ minutes, value.asInt = .ok minutes

end Entry

def SensorMapping.entry (sensor : SensorMapping) : Entry where
  selector := sensor.info
  channel := sensor.channel
  valueTimeoutMin := sensor.valueTimeoutMin
  timingSource := sensor.valueTimeoutMin.map .integer
  output := some sensor.outputIndex
  outputSelector := by
    intro o ho
    rw [← Option.some.inj ho]
    exact sensor.info_eq

def ParamMapping.entry (configJson : ControllerObject) (parameter : ParamMapping) : Entry where
  selector := parameter.info
  channel := parameter.channel
  valueTimeoutMin := parameter.valueTimeoutMin
  timingSource := configJson.valueTimeoutMin
  output := none
  outputSelector := by simp

namespace ControllerObject

def sensorEntries (obj : ControllerObject) : List Entry :=
  (obj.sensors.getD []).map SensorMapping.entry

def parameterEntries (obj : ControllerObject) : List Entry :=
  (obj.parameters.getD []).map (ParamMapping.entry obj)

def entries (obj : ControllerObject) : List Entry := obj.sensorEntries ++ obj.parameterEntries

end ControllerObject

theorem SensorMapping.entry_mem {configJson : ControllerObject} {sensor : SensorMapping}
    (h : sensor ∈ configJson.sensors.getD []) : sensor.entry ∈ configJson.entries :=
  List.mem_append_left _ (List.mem_map_of_mem h)

theorem ParamMapping.entry_mem {configJson : ControllerObject} {parameter : ParamMapping}
    (h : parameter ∈ configJson.parameters.getD []) :
    parameter.entry configJson ∈ configJson.entries :=
  List.mem_append_right _ (List.mem_map_of_mem h)

/-- The timeout that ends up in the table for a channel: the last one stored under its text. -/
def governingTimeout (text : String) (entries : List Entry) : ℤ :=
  ((entries.filter fun e => e.channel = text).filterMap Entry.storedTimeout).getLast?.getD (-1)

theorem governingTimeout_snoc (text : String) (entries : List Entry) (e : Entry) :
    governingTimeout text (entries ++ [e]) =
      if e.channel = text then e.storedTimeout.getD (governingTimeout text entries)
      else governingTimeout text entries := by
  unfold governingTimeout
  by_cases htext : e.channel = text
  · cases hstored : e.storedTimeout <;> simp [htext, hstored]
  · simp [htext]

/-- The table of timings after some entries: `clock` is what the loader's clock
showed up to position `j`. -/
structure TimingLoaded (clock : ℕ → TTimePoint) (j : ℕ) (entries : List Entry)
    (timing : MqttChannelsTiming) : Prop where
  timeout : ∀ text, (timing.lookup text).map TMqttChannelTiming.valueTimeoutMin =
    if text ∈ entries.map Entry.channel then some (governingTimeout text entries) else none
  stamped : ∀ text entry, timing.lookup text = some entry →
    ∃ k < j, entry.lastUpdateTimePoint = clock k
  timed : ∀ e ∈ entries, e.Timed

structure MappingLoaded (entries : List Entry) (mapping : AList fun _ : BitVec 32 => TMqttChannel) :
    Prop where
  distinct : (entries.map Entry.selector).Nodup
  mapped : ∀ e ∈ entries, ∃ channel, TMqttChannel.fromString e.channel = .ok channel ∧
    mapping.lookup e.selector.raw = some channel
  mappedOnly : ∀ key channel, mapping.lookup key = some channel →
    ∃ e ∈ entries, e.selector.raw = key ∧ TMqttChannel.fromString e.channel = .ok channel

structure OutputsLoaded (entries : List Entry) (outputs : Output → TBroadcastChannel) : Prop where
  named : ∀ e ∈ entries, ∀ o ∈ e.output,
    TMqttChannel.fromString e.channel = .ok (outputs o).toTMqttChannel
  unnamed : ∀ o, (∀ e ∈ entries, o ∉ e.output) → (outputs o).toTMqttChannel = ⟨"", ""⟩
  idle : ∀ o, (outputs o).toTChannelState = ⟨0, 0, 0⟩

section Steps

variable {clock : ℕ → TTimePoint} {i j : ℕ} {done : List Entry} {e : Entry}
  {res : TMqttToSmartWebConfig}

theorem TimingLoaded.nil : TimingLoaded clock j [] ∅ := by
  constructor <;> simp

theorem TimingLoaded.snoc {timing timing' : MqttChannelsTiming} {entry : TMqttChannelTiming}
    (h : TimingLoaded clock j done timing) {k : ℕ} (hjk : j < k)
    (hsame : timing'.lookup e.channel = some entry)
    (hother : ∀ text ≠ e.channel, timing'.lookup text = timing.lookup text)
    (htimeout : entry.valueTimeoutMin =
      e.storedTimeout.getD (governingTimeout e.channel done))
    (hlast : entry.lastUpdateTimePoint = clock j) (htimed : e.Timed) :
    TimingLoaded clock k (done ++ [e]) timing' := by
  constructor
  · intro text
    by_cases htext : text = e.channel
    · subst htext
      simp [hsame, governingTimeout_snoc, htimeout]
    · simp [hother text htext, h.timeout text, governingTimeout_snoc, htext, Ne.symm htext]
  · intro text entry' hentry
    by_cases htext : text = e.channel
    · subst htext
      rw [hsame, Option.some.injEq] at hentry
      exact ⟨j, hjk, hentry ▸ hlast⟩
    · rw [hother text htext] at hentry
      obtain ⟨k', hk', hclock⟩ := h.stamped text entry' hentry
      exact ⟨k', hk'.trans hjk, hclock⟩
  · intro e' he'
    rcases List.mem_append.mp he' with he' | he'
    · exact h.timed e' he'
    · rwa [List.mem_singleton.mp he']

theorem TimingLoaded.mono {timing : MqttChannelsTiming} (h : TimingLoaded clock j done timing)
    {k : ℕ} (hjk : j ≤ k) : TimingLoaded clock k done timing := by
  refine ⟨h.timeout, ?_, h.timed⟩
  intro text entry hentry
  obtain ⟨k', hk', hclock⟩ := h.stamped text entry hentry
  exact ⟨k', hk'.trans_le hjk, hclock⟩

/-- The timeout that an entry starts from is the one that governed its channel so far. -/
theorem TimingLoaded.timeout_getD {timing : MqttChannelsTiming}
    (h : TimingLoaded clock j done timing) (text : String) :
    ((timing.lookup text).getD .initial).valueTimeoutMin = governingTimeout text done := by
  have htimeout := h.timeout text
  by_cases hmem : text ∈ done.map Entry.channel
  · rw [if_pos hmem] at htimeout
    obtain ⟨entry, hlookup, hentry⟩ := Option.map_eq_some_iff.mp htimeout
    rw [hlookup, Option.getD_some, hentry]
  · rw [if_neg hmem, Option.map_eq_none_iff] at htimeout
    have hempty : (done.filter fun e => e.channel = text) = [] := by
      rw [List.filter_eq_nil_iff]
      intro e he
      simp only [decide_eq_true_eq]
      rintro rfl
      exact hmem (List.mem_map_of_mem he)
    simp [htimeout, governingTimeout, hempty, TMqttChannelTiming.initial]

theorem wp_loadTiming (h : TimingLoaded clock j done res.mqttChannelsTiming) :
    (loadTiming e.channel e.timingSource).wp clock
      (fun _ k res' => TimingLoaded clock k (done ++ [e]) res'.mqttChannelsTiming ∧
        res'.toControllerMapping = res.toControllerMapping)
      (fun _ _ _ => ¬ e.Timed) j res := by
  have hgoverning := h.timeout_getD e.channel
  cases hsource : e.timingSource with
  | none =>
    have htimed : e.Timed := by simp [Entry.Timed, hsource]
    simp only [loadTiming, Program.wp_bind, Program.wp_observe, Program.wp_modify, Program.wp_pure,
      and_true]
    refine h.snoc (Nat.lt_succ_self j) (AList.lookup_insert _)
      (fun text htext => AList.lookup_insert_ne htext) ?_ rfl htimed
    simpa [Entry.storedTimeout, hsource, TMqttChannelTiming.refreshLastUpdateTimepoint]
      using hgoverning
  | some value =>
    cases hvalue : value.asInt with
    | error what => simp [loadTiming, hvalue, Entry.Timed, hsource]
    | ok minutes =>
      have htimed : e.Timed := by simp [Entry.Timed, hsource, hvalue]
      simp only [loadTiming, Program.wp_bind, Program.wp_observe, Program.wp_modify,
        Program.wp_ofExcept, hvalue, and_true]
      refine h.snoc (Nat.lt_succ_self j) (AList.lookup_insert _) ?_ ?_ ?_ htimed
      · intro text htext
        rw [AList.lookup_insert_ne htext, AList.lookup_insert_ne htext]
      · simp [Entry.storedTimeout, hsource, hvalue, Except.toOption]
      · simp [TMqttChannelTiming.refreshLastUpdateTimepoint]

theorem MappingLoaded.nil : MappingLoaded [] ∅ := by
  constructor <;> simp

theorem MappingLoaded.snoc {mapping : AList fun _ : BitVec 32 => TMqttChannel}
    {channel : TMqttChannel} (h : MappingLoaded done mapping)
    (hnew : mapping.lookup e.selector.raw = none)
    (hchannel : TMqttChannel.fromString e.channel = .ok channel) :
    MappingLoaded (done ++ [e]) (mapping.insert e.selector.raw channel) := by
  have hne : ∀ e' ∈ done, e'.selector.raw ≠ e.selector.raw := by
    intro e' he' heq
    obtain ⟨channel', _, hlookup⟩ := h.mapped e' he'
    rw [heq, hnew] at hlookup
    exact absurd hlookup (by simp)
  constructor
  · rw [List.map_append, List.nodup_append]
    refine ⟨h.distinct, by simp, ?_⟩
    intro a ha b hb hab
    obtain ⟨e', he', rfl⟩ := List.mem_map.mp ha
    rw [List.map_singleton, List.mem_singleton] at hb
    exact hne e' he' (by rw [hab, hb])
  · intro e' he'
    rcases List.mem_append.mp he' with he' | he'
    · obtain ⟨channel', hok, hlookup⟩ := h.mapped e' he'
      exact ⟨channel', hok, by rwa [AList.lookup_insert_ne (hne e' he')]⟩
    · rw [List.mem_singleton] at he'
      subst he'
      exact ⟨channel, hchannel, AList.lookup_insert _⟩
  · intro key channel' hlookup
    by_cases hkey : key = e.selector.raw
    · subst hkey
      rw [AList.lookup_insert, Option.some.injEq] at hlookup
      exact ⟨e, by simp, rfl, hlookup ▸ hchannel⟩
    · rw [AList.lookup_insert_ne hkey] at hlookup
      obtain ⟨e', he', hraw, hok⟩ := h.mappedOnly key channel' hlookup
      exact ⟨e', List.mem_append_left _ he', hraw, hok⟩

theorem wp_mapParameter (duplicate : String) (h : MappingLoaded done res.parameterMapping) :
    (mapParameter duplicate e.selector e.channel).wp clock
      (fun _ _ res' => MappingLoaded (done ++ [e]) res'.parameterMapping ∧
        res'.mqttChannelsTiming = res.mqttChannelsTiming ∧
        res'.outputMapping = res.outputMapping ∧ res'.programId = res.programId)
      (fun _ _ _ => e.selector ∈ done.map Entry.selector ∨ ¬ e.Named) j res := by
  simp only [mapParameter, Program.wp_bind, Program.wp_get, Program.wp_ite, Program.wp_throw,
    Program.wp_ofExcept, Program.wp_modify]
  split_ifs with hdup
  · obtain ⟨channel, hlookup⟩ := Option.isSome_iff_exists.mp hdup
    obtain ⟨e', he', hraw, _⟩ := h.mappedOnly _ _ hlookup
    left
    rw [← TParameterInfo.raw_inj.mp hraw]
    exact List.mem_map_of_mem he'
  · cases hchannel : TMqttChannel.fromString e.channel with
    | error what =>
      right
      simp [Entry.Named, hchannel]
    | ok channel =>
      simpa using h.snoc (by simpa using hdup) hchannel

theorem OutputsLoaded.nil (garbage : Output → TMappingPoint) :
    OutputsLoaded [] fun output => .uninitialized (garbage output) := by
  constructor <;> simp [TBroadcastChannel.uninitialized]

theorem OutputsLoaded.snoc_none {outputs : Output → TBroadcastChannel}
    (h : OutputsLoaded done outputs) (he : e.output = none) :
    OutputsLoaded (done ++ [e]) outputs := by
  constructor
  · intro e' he' o ho
    rcases List.mem_append.mp he' with he' | he'
    · exact h.named e' he' o ho
    · rw [List.mem_singleton] at he'
      simp [he', he] at ho
  · intro o ho
    exact h.unnamed o fun e' he' => ho e' (List.mem_append_left _ he')
  · exact h.idle

theorem OutputsLoaded.snoc_some {outputs : Output → TBroadcastChannel} {o : Output}
    {channel : TMqttChannel} (h : OutputsLoaded done outputs) (he : e.output = some o)
    (hfree : ∀ e' ∈ done, o ∉ e'.output)
    (hchannel : TMqttChannel.fromString e.channel = .ok channel) :
    OutputsLoaded (done ++ [e])
      (Function.update outputs o { outputs o with toTMqttChannel := channel }) := by
  constructor
  · intro e' he' o' ho'
    rcases List.mem_append.mp he' with he' | he'
    · have hne : o' ≠ o := by
        rintro rfl
        exact hfree e' he' ho'
      simpa [hne] using h.named e' he' o' ho'
    · rw [List.mem_singleton] at he'
      rw [he', he, Option.mem_some_iff] at ho'
      subst ho'
      simpa [he'] using hchannel
  · intro o' ho'
    have hne : o' ≠ o := by
      rintro rfl
      exact ho' e (by simp) (by simp [he])
    simpa [hne] using h.unnamed o' fun e' he' => ho' e' (List.mem_append_left _ he')
  · intro o'
    by_cases ho' : o' = o
    · subst ho'
      simpa using h.idle o'
    · simpa [ho'] using h.idle o'

end Steps

/-- Everything that is known of a controller once some of its entries are loaded. -/
structure LoadedUpTo (configJson : ControllerObject) (clock : ℕ → TTimePoint) (j : ℕ)
    (entries : List Entry) (res : TMqttToSmartWebConfig) : Prop where
  programId : res.programId = BitVec.ofNat 8 configJson.controllerId
  timing : TimingLoaded clock j entries res.mqttChannelsTiming
  mapping : MappingLoaded entries res.parameterMapping
  outputs : OutputsLoaded entries res.outputMapping

/-- The reasons for which an entry is refused after those loaded before it. -/
def Entry.RefusedAfter (e : Entry) (done : List Entry) : Prop :=
  e.selector ∈ done.map Entry.selector ∨ ¬ e.Named ∨ ¬ e.Timed

section Loops

variable {configJson : ControllerObject} {clock : ℕ → TTimePoint} {j : ℕ} {done : List Entry}
  {res : TMqttToSmartWebConfig}

theorem wp_mapEntry (e : Entry) (duplicate : String) (h : LoadedUpTo configJson clock j done res) :
    Program.wp (do
        loadTiming e.channel e.timingSource
        mapParameter duplicate e.selector e.channel) clock
      (fun _ k res' => res'.programId = res.programId ∧
        TimingLoaded clock k (done ++ [e]) res'.mqttChannelsTiming ∧
        MappingLoaded (done ++ [e]) res'.parameterMapping ∧ res'.outputMapping = res.outputMapping)
      (fun _ _ _ => e.RefusedAfter done) j res := by
  rw [Program.wp_bind]
  refine Program.wp_mono (wp_loadTiming h.timing) ?_
    (fun _ _ _ _ htimed => Or.inr (Or.inr htimed))
  rintro _ k res1 - ⟨htiming, hrest⟩
  have hmapping : MappingLoaded done res1.parameterMapping := by simpa [hrest] using h.mapping
  refine Program.wp_mono (wp_mapParameter duplicate hmapping) ?_
    (fun _ _ _ _ hrefused => by unfold Entry.RefusedAfter; tauto)
  rintro _ l res2 hkl ⟨hmapping2, htiming2, houtputs2, hprogram2⟩
  rw [houtputs2, hprogram2, htiming2, hrest]
  exact ⟨rfl, htiming.mono hkl, hmapping2, rfl⟩

theorem wp_loadParameter (parameter : ParamMapping)
    (h : LoadedUpTo configJson clock j done res) :
    (loadParameter configJson parameter).wp clock
      (fun _ k res' => LoadedUpTo configJson clock k (done ++ [parameter.entry configJson]) res')
      (fun _ _ _ => (parameter.entry configJson).RefusedAfter done) j res := by
  refine Program.wp_mono (wp_mapEntry (parameter.entry configJson) _ h) ?_ (fun _ _ _ _ he => he)
  rintro _ k res' - ⟨hprogram, htiming, hmapping, houtputs⟩
  exact ⟨hprogram.trans h.programId, htiming, hmapping, houtputs ▸ h.outputs.snoc_none rfl⟩

theorem MappingLoaded.output_free {e : Entry} {mapping : AList fun _ : BitVec 32 => TMqttChannel}
    (h : MappingLoaded (done ++ [e]) mapping) {o : Output} (ho : e.output = some o) :
    ∀ e' ∈ done, o ∉ e'.output := by
  intro e' he' ho'
  have hdistinct := h.distinct
  rw [List.map_append, List.nodup_append] at hdistinct
  apply hdistinct.2.2 e'.selector (List.mem_map_of_mem he') e.selector (by simp)
  rw [e'.outputSelector o ho', e.outputSelector o ho]

theorem OutputsLoaded.not_isInitialized {outputs : Output → TBroadcastChannel} {o : Output}
    (h : OutputsLoaded done outputs) (ho : ∀ e ∈ done, o ∉ e.output) :
    (outputs o).isInitialized = false := by
  simp [TMqttChannel.isInitialized, h.unnamed o ho]

theorem wp_loadSensor (sensor : SensorMapping) (h : LoadedUpTo configJson clock j done res) :
    (loadSensor sensor).wp clock
      (fun _ k res' => LoadedUpTo configJson clock k (done ++ [sensor.entry]) res')
      (fun _ _ _ => sensor.entry.RefusedAfter done) j res := by
  have hmap := wp_mapEntry sensor.entry "Malformed JSON config: duplicate sensor" h
  rw [Program.wp_bind] at hmap
  rw [loadSensor, Program.wp_bind]
  refine Program.wp_mono hmap ?_ (fun _ _ _ _ he => he)
  intro _ k res1 _ hmap1
  rw [Program.wp_bind]
  refine Program.wp_mono hmap1 ?_ (fun _ _ _ _ he => he)
  rintro _ l res2 - ⟨hprogram, htiming, hmapping, houtputs⟩
  have hfree : ∀ e ∈ done, sensor.outputIndex ∉ e.output := hmapping.output_free rfl
  have hidle : (res.outputMapping sensor.outputIndex).isInitialized = false :=
    h.outputs.not_isInitialized hfree
  obtain ⟨channel, hchannel, _⟩ := hmapping.mapped sensor.entry (by simp)
  have hchannel' : TMqttChannel.fromString sensor.channel = .ok channel := hchannel
  simp only [Program.wp_bind, Program.wp_get, hidle, Bool.false_eq_true, if_false,
    Program.wp_ofExcept, hchannel', Program.wp_modify, houtputs]
  exact ⟨hprogram.trans h.programId, htiming, hmapping,
    h.outputs.snoc_some rfl hfree hchannel⟩

end Loops

/-- When a validated controller object is accepted. -/
structure ControllerObject.Acceptable (configJson : ControllerObject) : Prop where
  mapping : configJson.sensors.isSome ∨ configJson.parameters.isSome
  distinct : (configJson.entries.map Entry.selector).Nodup
  named : ∀ e ∈ configJson.entries, e.Named
  timed : ∀ e ∈ configJson.entries, e.Timed

abbrev Loaded (configJson : ControllerObject) (clock : ℕ → TTimePoint) (j : ℕ)
    (res : TMqttToSmartWebConfig) : Prop :=
  LoadedUpTo configJson clock j configJson.entries res

theorem Entry.RefusedAfter.not_acceptable {configJson : ControllerObject} {e : Entry}
    {done : List Entry} (h : e.RefusedAfter done) (rest : List Entry)
    (hentries : configJson.entries = done ++ e :: rest) : ¬ configJson.Acceptable := by
  intro hacceptable
  have hmem : e ∈ configJson.entries := by simp [hentries]
  rcases h with hdup | hnamed | htimed
  · have hdistinct := hacceptable.distinct
    rw [hentries, List.map_append, List.nodup_append] at hdistinct
    exact hdistinct.2.2 _ hdup e.selector (by simp) rfl
  · exact hnamed (hacceptable.named e hmem)
  · exact htimed (hacceptable.timed e hmem)

/-- Invariant rule for the loader: its two loops go over the entries in one order, and the object
that maps nothing is refused at the end. -/
theorem wp_loadMqttToSmartWebController_entries {configJson : ControllerObject}
    {clock : ℕ → TTimePoint} {i : ℕ} {garbage : Output → TMappingPoint}
    {E : Exc → ℕ → TMqttToSmartWebConfig → Prop}
    (Inv : List Entry → ℕ → TMqttToSmartWebConfig → Prop)
    (hstart : Inv [] i { TMqttToSmartWebConfig.blank garbage with
      programId := BitVec.ofNat 8 configJson.controllerId })
    (hsensor : ∀ done (sensor : SensorMapping) rest j res,
      configJson.entries = done ++ sensor.entry :: rest → Inv done j res →
      (loadSensor sensor).wp clock (fun _ => Inv (done ++ [sensor.entry])) E j res)
    (hparameter : ∀ done (parameter : ParamMapping) rest j res,
      configJson.entries = done ++ parameter.entry configJson :: rest → Inv done j res →
      (loadParameter configJson parameter).wp clock
        (fun _ => Inv (done ++ [parameter.entry configJson])) E j res)
    (hempty : ∀ j res, ¬ (configJson.sensors.isSome ∨ configJson.parameters.isSome) →
      E (.runtime "Malformed JSON config: no parameter or sensor in mapping") j res) :
    (loadMqttToSmartWebController configJson).wp clock
      (fun _ j res => (configJson.sensors.isSome ∨ configJson.parameters.isSome) ∧
        Inv configJson.entries j res) E i (.blank garbage) := by
  rw [loadMqttToSmartWebController, Program.wp_bind, Program.wp_modify, Program.wp_bind]
  apply Program.wp_mono (Program.wp_forEach
    (fun done j res => Inv (done.map SensorMapping.entry) j res) hstart _) _
    (fun _ _ _ _ he => he)
  · intro done sensor rest j res hsensors _ hinv
    have hentries : configJson.entries = done.map SensorMapping.entry ++
        sensor.entry :: (rest.map SensorMapping.entry ++ configJson.parameterEntries) := by
      simp [ControllerObject.entries, ControllerObject.sensorEntries, hsensors]
    simpa using hsensor _ sensor _ j res hentries hinv
  intro _ j res _ hsensors
  rw [Program.wp_bind]
  apply Program.wp_mono (Program.wp_forEach (fun done k res' =>
      Inv (configJson.sensorEntries ++ done.map (ParamMapping.entry configJson)) k res')
    (by simpa [ControllerObject.sensorEntries] using hsensors) _) _ (fun _ _ _ _ he => he)
  · intro done parameter rest k res' hparameters _ hinv
    have hentries : configJson.entries =
        (configJson.sensorEntries ++ done.map (ParamMapping.entry configJson)) ++
          parameter.entry configJson :: rest.map (ParamMapping.entry configJson) := by
      simp [ControllerObject.entries, ControllerObject.parameterEntries, hparameters]
    simpa using hparameter _ parameter _ k res' hentries hinv
  intro _ k res' _ hinv
  rw [Program.wp_ite, Program.wp_throw, Program.wp_pure]
  have hnone : (configJson.parameters.isNone ∧ configJson.sensors.isNone) ↔
      ¬ (configJson.sensors.isSome ∨ configJson.parameters.isSome) := by
    simp [and_comm]
  split_ifs with hmaps
  · exact hempty k res' (hnone.mp hmaps)
  · exact ⟨not_not.mp (mt hnone.mpr hmaps), hinv⟩

/-- The loader accepts exactly the acceptable objects, and then every table is complete. -/
theorem wp_loadMqttToSmartWebController (configJson : ControllerObject) (clock : ℕ → TTimePoint)
    (i : ℕ) (garbage : Output → TMappingPoint) :
    (loadMqttToSmartWebController configJson).wp clock
      (fun _ j res => configJson.Acceptable ∧ Loaded configJson clock j res)
      (fun _ _ _ => ¬ configJson.Acceptable) i (.blank garbage) := by
  apply Program.wp_mono (wp_loadMqttToSmartWebController_entries
    (fun done j res => LoadedUpTo configJson clock j done res) ⟨rfl, .nil, .nil, .nil garbage⟩
    _ _ _) _ (fun _ _ _ _ he => he)
  · intro done sensor rest j res hentries hloaded
    exact Program.wp_mono (wp_loadSensor sensor hloaded) (fun _ _ _ _ hloaded' => hloaded')
      (fun _ _ _ _ hrefused => hrefused.not_acceptable rest hentries)
  · intro done parameter rest j res hentries hloaded
    exact Program.wp_mono (wp_loadParameter parameter hloaded) (fun _ _ _ _ hloaded' => hloaded')
      (fun _ _ _ _ hrefused => hrefused.not_acceptable rest hentries)
  · intro _ _ hempty hacceptable
    exact hempty hacceptable.mapping
  · rintro _ j res - ⟨hmapping, hloaded⟩
    refine ⟨⟨hmapping, hloaded.mapping.distinct, ?_, hloaded.timing.timed⟩, hloaded⟩
    intro e he
    obtain ⟨channel, hchannel, _⟩ := hloaded.mapping.mapped e he
    exact ⟨channel, hchannel⟩

/-- Whatever the clock shows, and whatever was in memory. -/
theorem run_eq_ok_iff_acceptable {configJson : ControllerObject} {clock : ℕ → TTimePoint} {i : ℕ}
    (garbage : Output → TMappingPoint) :
    ((loadMqttToSmartWebController configJson).run clock i (.blank garbage)).1 = .ok () ↔
      configJson.Acceptable := by
  have hwp := wp_loadMqttToSmartWebController configJson clock i garbage
  rcases hrun : (loadMqttToSmartWebController configJson).run clock i (.blank garbage) with
    ⟨e | _, j, config⟩
  · exact iff_of_false (by simp) (Program.wp_error hwp hrun)
  · exact iff_of_true rfl (Program.wp_ok hwp hrun).1

/-- A run of the loader that ends with a configuration. -/
structure Loading (configJson : ControllerObject) where
  clock : ℕ → TTimePoint
  monotone : Monotone clock
  positive : ∀ k, 0 < clock k
  start : ℕ
  garbage : Output → TMappingPoint
  finish : ℕ
  config : TMqttToSmartWebConfig
  accepted : (loadMqttToSmartWebController configJson).run clock start (.blank garbage) =
    (.ok (), finish, config)

namespace Loading

variable {configJson : ControllerObject} (load : Loading configJson)

def time : TTimePoint := load.clock load.finish

theorem spec : configJson.Acceptable ∧ Loaded configJson load.clock load.finish load.config :=
  Program.wp_ok (wp_loadMqttToSmartWebController configJson load.clock load.start load.garbage)
    load.accepted

theorem loaded : Loaded configJson load.clock load.finish load.config := load.spec.2

theorem lastUpdate_le_time {key : String} {entry : TMqttChannelTiming}
    (h : load.config.mqttChannelsTiming.lookup key = some entry) :
    entry.lastUpdateTimePoint ≤ load.time := by
  obtain ⟨k, hk, hclock⟩ := load.loaded.timing.stamped key entry h
  exact hclock.trans_le (load.monotone hk.le)

theorem entry_unique (load : Loading configJson) {e e' : Entry}
    (he : e ∈ configJson.entries) (he' : e' ∈ configJson.entries)
    (h : e.selector = e'.selector) : e = e' :=
  List.inj_on_of_nodup_map load.loaded.mapping.distinct he he' h

def ofAcceptable (h : configJson.Acceptable) (clock : ℕ → TTimePoint) (hclock : Monotone clock)
    (hpositive : ∀ k, 0 < clock k) (garbage : Output → TMappingPoint) : Loading configJson where
  clock := clock
  monotone := hclock
  positive := hpositive
  start := 0
  garbage := garbage
  finish := ((loadMqttToSmartWebController configJson).run clock 0 (.blank garbage)).2.1
  config := ((loadMqttToSmartWebController configJson).run clock 0 (.blank garbage)).2.2
  accepted := Prod.ext ((run_eq_ok_iff_acceptable garbage).mpr h) rfl

def standing (h : configJson.Acceptable) (garbage : Output → TMappingPoint) :
    Loading configJson :=
  ofAcceptable h (fun _ => 1) monotone_const (fun _ => one_pos) garbage

end Loading

/-- The controllers that are kept, each with the object that it was loaded from. -/
def keptControllers (clock : ℕ → TTimePoint) (garbage : ℕ → Output → TMappingPoint) :
    ℕ → List ControllerObject → List (ControllerObject × TMqttToSmartWebConfig)
  | _, [] => []
  | i, controller :: rest =>
    match (loadMqttToSmartWebController controller).run clock i (.blank (garbage i)) with
    | (.ok (), j, config) => (controller, config) :: keptControllers clock garbage j rest
    | (.error _, j, _) => keptControllers clock garbage j rest

section Kept

variable {clock : ℕ → TTimePoint} {garbage : ℕ → Output → TMappingPoint} {i : ℕ}
  {objects : List ControllerObject}

theorem Loading.kept {controller : ControllerObject} (load : Loading controller)
    (hgarbage : garbage load.start = load.garbage) (rest : List ControllerObject) :
    keptControllers load.clock garbage load.start (controller :: rest) =
      (controller, load.config) :: keptControllers load.clock garbage load.finish rest := by
  rw [keptControllers, hgarbage, load.accepted]

theorem keptControllers_config :
    (keptControllers clock garbage i objects).map Prod.snd =
      loadMqttToSmartWebConfig clock garbage i objects := by
  induction objects generalizing i with
  | nil => rfl
  | cons controller rest ih =>
    rw [keptControllers, loadMqttToSmartWebConfig]
    rcases (loadMqttToSmartWebController controller).run clock i (.blank (garbage i)) with
      ⟨_ | _, j, config⟩
    · exact ih
    · exact congrArg (config :: ·) ih

theorem exists_loading (hmono : Monotone clock) (hpositive : ∀ k, 0 < clock k)
    {controller : ControllerObject} {config : TMqttToSmartWebConfig}
    (hkept : (controller, config) ∈ keptControllers clock garbage i objects) :
    controller ∈ objects ∧ ∃ load : Loading controller, load.clock = clock ∧
      load.config = config := by
  induction objects generalizing i with
  | nil => exact absurd hkept List.not_mem_nil
  | cons first rest ih =>
    rw [keptControllers] at hkept
    rcases hrun : (loadMqttToSmartWebController first).run clock i (.blank (garbage i)) with
      ⟨_ | _, j, config'⟩
    · rw [hrun] at hkept
      obtain ⟨hmem, hload⟩ := ih hkept
      exact ⟨List.mem_cons_of_mem _ hmem, hload⟩
    · rw [hrun] at hkept
      rcases List.mem_cons.mp hkept with heq | hkept
      · cases heq
        exact ⟨List.mem_cons_self, ⟨clock, hmono, hpositive, i, garbage i, j, _, hrun⟩, rfl, rfl⟩
      · obtain ⟨hmem, hload⟩ := ih hkept
        exact ⟨List.mem_cons_of_mem _ hmem, hload⟩

end Kept
end SmartWebGateway
