import SmartWebGateway.Foundation.Journal
import SmartWebGateway.Poller.Publishing
import Mathlib.Tactic

/-!
# The gateway from its constructor to its destructor

The reader's thread publishes values and the driver's thread hands over what is
written to controls, while the destructor stops one thread after the other.
Only then does it remove the devices, by the ids that were kept. Devices and
controls are made by the reader alone, and the handler of a written value reads
only what a control was made with, so a frame is handled in one step.
-/
namespace SmartWebGateway

open Foundation
open TSmartWebToMqttGateway

/-- How far the destructor is. An exception that leaves it ends the process, with the devices that
are still to be removed. -/
inductive LifePhase where
  | running
  | schedulerStopped
  | readerStopped
  | unsubscribed
  | removing (rest : List String)
  | destroyed
  | terminated (rest : List String)

namespace LifePhase

/-- The reader's thread may be handling frames. -/
def Reading (phase : LifePhase) : Prop := phase = .running ∨ phase = .schedulerStopped

/-- The handler of written values is registered. -/
def Listening (phase : LifePhase) : Prop := phase.Reading ∨ phase = .readerStopped

/-- No device has been removed. -/
def Keeping (phase : LifePhase) : Prop := phase.Listening ∨ phase = .unsubscribed

/-- The devices that are still to be removed, of those that were made. -/
def remaining (deviceIds : List String) : LifePhase → List String
  | .removing rest | .terminated rest => rest
  | .destroyed => []
  | _ => deviceIds

end LifePhase

/-- `SetParameter` went through or was ended by an exception; a set request was handed to the
port. -/
inductive LifeEvent where
  | published (update : ParameterUpdate) (frame : TFrame) (completed : Bool)
  | setRequested (path : ControlPath) (text : String) (frame : TFrame)

/-- `received` and `log` are history, newest first. -/
structure LifeState (D : Type*) where
  gateway : TSmartWebToMqttGateway
  driver : D
  deviceIds : List String
  phase : LifePhase
  received : List TFrame
  log : List LifeEvent

namespace LifeState

variable {D : Type*}

def initial (gateway : TSmartWebToMqttGateway) (driver : D) : LifeState D where
  gateway := gateway
  driver := driver
  deviceIds := []
  phase := .running
  received := []
  log := []

/-- The reader handles a frame that leads to no update. -/
def ignored (s : LifeState D) (frame : TFrame) (gateway : TSmartWebToMqttGateway) : LifeState D :=
  { s with gateway := gateway, received := frame :: s.received }

/-- The reader handles a frame with an update, which leaves the driver in a state and adds the ids
of the devices that were made. -/
def published (s : LifeState D) (frame : TFrame) (gateway : TSmartWebToMqttGateway)
    (update : ParameterUpdate) (completed : Bool) (made : List String) (driver : D) :
    LifeState D where
  gateway := gateway
  driver := driver
  deviceIds := s.deviceIds ++ made
  phase := s.phase
  received := frame :: s.received
  log := .published update frame completed :: s.log

/-- The frames that are sent for a text written to a control. A control without user data makes the
handler throw, which it logs. -/
def onValue (driver : DeviceDriver D) (stod : String → Except String Double) (s : LifeState D)
    (path : ControlPath) (text : String) : Except EncodeFailure (List TFrame) :=
  match (driver.devices s.driver).userData? path with
  | none => .ok []
  | some param => onControlValue stod param text

end LifeState

inductive LifeLabel where
  | handled (frame : TFrame)
  | written (path : ControlPath) (text : String)
  | destructor

/-- The steps of the reader's thread, of the driver's thread and of the destructor. -/
inductive LifeStep {D : Type*} (driver : DeviceDriver D) (formatFloat : Double → String)
    (stod : String → Except String Double) : LifeState D → LifeLabel → LifeState D → Prop
  | ignored {s : LifeState D} {frame : TFrame} {fuel : ℕ} {gateway : TSmartWebToMqttGateway}
      (hphase : s.phase.Reading) (haccepted : acceptFrame frame)
      (h : handleFrame fuel s.gateway frame = some (gateway, none)) :
      LifeStep driver formatFloat stod s (.handled frame) (s.ignored frame gateway)
  | published {s : LifeState D} {frame : TFrame} {fuel : ℕ} {gateway : TSmartWebToMqttGateway}
      {update : ParameterUpdate} {completed : Bool} {made : List String} {d : D}
      (hphase : s.phase.Reading) (haccepted : acceptFrame frame)
      (h : handleFrame fuel s.gateway frame = some (gateway, some update))
      (hpublishes : update.Publishes driver formatFloat frame s.driver completed made d) :
      LifeStep driver formatFloat stod s (.handled frame)
        (s.published frame gateway update completed made d)
  | written {s : LifeState D} {path : ControlPath} {text : String} {frames : List TFrame}
      (hphase : s.phase.Listening) (hcontrol : ((driver.devices s.driver).control? path).isSome)
      (h : s.onValue driver stod path text = .ok frames) :
      LifeStep driver formatFloat stod s (.written path text)
        { s with log := frames.map (.setRequested path text) ++ s.log }
  | stopScheduler {s : LifeState D} (hphase : s.phase = .running) :
      LifeStep driver formatFloat stod s .destructor { s with phase := .schedulerStopped }
  | stopReader {s : LifeState D} (hphase : s.phase = .schedulerStopped) :
      LifeStep driver formatFloat stod s .destructor { s with phase := .readerStopped }
  | removeEventHandler {s : LifeState D} (hphase : s.phase = .readerStopped) :
      LifeStep driver formatFloat stod s .destructor { s with phase := .unsubscribed }
  | beginTx {s : LifeState D} (hphase : s.phase = .unsubscribed) :
      LifeStep driver formatFloat stod s .destructor { s with phase := .removing s.deviceIds }
  | callFailed {s : LifeState D} (hphase : s.phase = .readerStopped ∨ s.phase = .unsubscribed) :
      LifeStep driver formatFloat stod s .destructor { s with phase := .terminated s.deviceIds }
  | removeDevice {s : LifeState D} {deviceName : String} {rest : List String} {d : D}
      (hphase : s.phase = .removing (deviceName :: rest))
      (hcall : driver.call s.driver (.removeDevice deviceName) true d) :
      LifeStep driver formatFloat stod s .destructor { s with driver := d, phase := .removing rest }
  | removeDeviceFailed {s : LifeState D} {deviceName : String} {rest : List String} {d : D}
      (hphase : s.phase = .removing (deviceName :: rest))
      (hcall : driver.call s.driver (.removeDevice deviceName) false d) :
      LifeStep driver formatFloat stod s .destructor
        { s with driver := d, phase := .terminated (deviceName :: rest) }
  | destroyed {s : LifeState D} (hphase : s.phase = .removing []) :
      LifeStep driver formatFloat stod s .destructor { s with phase := .destroyed }

/-- What every run keeps of the devices: those that were there before, and of those that were made
the ones that are still to be removed. -/
structure LifeState.KeepsDevices {D : Type*} (driver : DeviceDriver D) (devices : LocalDevices)
    (s : LifeState D) : Prop where
  nodup : s.deviceIds.Nodup
  own : ∀ name ∈ s.deviceIds, devices name = none
  suffix : s.phase.remaining s.deviceIds <:+ s.deviceIds
  present : ∀ name, (driver.devices s.driver name).isSome ↔
    (devices name).isSome ∨ name ∈ s.phase.remaining s.deviceIds
  kept : ∀ path, (devices.control? path).isSome →
    ((driver.devices s.driver).control? path).isSome

section Devices

variable {D : Type*} {driver : DeviceDriver D} {formatFloat : Double → String}
  {stod : String → Except String Double} {s t : LifeState D} {l : LifeLabel}
  {devices : LocalDevices} {path : ControlPath} {deviceName : String} {rest : List String} {d : D}

theorem LifePhase.Reading.remaining_eq {phase : LifePhase} (h : phase.Reading)
    (deviceIds : List String) : phase.remaining deviceIds = deviceIds := by
  rcases h with rfl | rfl
  · rfl
  · rfl

theorem LocalDevices.isSome_of_control? (h : (devices.control? path).isSome) :
    (devices path.deviceName).isSome := by
  unfold control? at h
  cases hdevice : devices path.deviceName with
  | none =>
    rw [hdevice] at h
    cases h
  | some device => rfl

namespace LifeState.KeepsDevices

theorem initial (gateway : TSmartWebToMqttGateway) (d : D) :
    (LifeState.initial gateway d).KeepsDevices driver (driver.devices d) where
  nodup := List.nodup_nil
  own := by simp [LifeState.initial]
  suffix := List.suffix_rfl
  present := by simp [LifeState.initial, LifePhase.remaining]
  kept _ h := h

theorem published (hdriver : driver.Documented) (h : s.KeepsDevices driver devices)
    (hphase : s.phase.Reading) {frame : TFrame} {gateway : TSmartWebToMqttGateway}
    {update : ParameterUpdate} {completed : Bool} {made : List String}
    (hpublishes : update.Publishes driver formatFloat frame s.driver completed made d) :
    (s.published frame gateway update completed made d).KeepsDevices driver devices := by
  have hpresent := h.present
  rw [hphase.remaining_eq] at hpresent
  have hnew : ∀ name ∈ made, driver.devices s.driver name = none := by
    intro name hname
    rcases hpublishes.made_cases hdriver with rfl | ⟨hmissing, rfl⟩
    · cases hname
    · exact List.mem_singleton.mp hname ▸ hmissing
  have hone : made.Nodup := by
    rcases hpublishes.made_cases hdriver with rfl | ⟨_, rfl⟩
    · exact List.nodup_nil
    · exact List.nodup_singleton _
  constructor
  case nodup =>
    refine List.nodup_append.mpr ⟨h.nodup, hone, ?_⟩
    rintro name hold _ hname rfl
    have hthere := (hpresent name).mpr (Or.inr hold)
    rw [hnew name hname] at hthere
    cases hthere
  case own =>
    intro name hname
    rcases List.mem_append.mp hname with hold | hname
    · exact h.own name hold
    · by_contra hother
      have hthere := (hpresent name).mpr (Or.inl (Option.isSome_iff_ne_none.mpr hother))
      rw [hnew name hname] at hthere
      cases hthere
  case suffix =>
    change s.phase.remaining _ <:+ _
    rw [hphase.remaining_eq]
  case present =>
    intro name
    change (driver.devices d name).isSome ↔ (devices name).isSome ∨ name ∈ s.phase.remaining _
    rw [hpublishes.isSome_devices hdriver, hpresent, hphase.remaining_eq, or_assoc]
    exact or_congr_right List.mem_append.symm
  case kept =>
    intro path hpath
    change ((driver.devices d).control? path).isSome
    rw [hpublishes.control?_devices hdriver]
    split_ifs
    · rfl
    · exact h.kept path hpath

theorem removeDevice (hdriver : driver.Documented) (h : s.KeepsDevices driver devices)
    (hphase : s.phase = .removing (deviceName :: rest))
    (hcall : driver.call s.driver (.removeDevice deviceName) true d) :
    LifeState.KeepsDevices driver devices { s with driver := d, phase := .removing rest } := by
  have hsuffix := h.suffix
  have hpresent := h.present
  rw [hphase] at hsuffix hpresent
  have hown : devices deviceName = none := h.own _ (hsuffix.mem List.mem_cons_self)
  have honce : deviceName ∉ rest := (List.nodup_cons.mp (h.nodup.sublist hsuffix.sublist)).1
  constructor
  case nodup => exact h.nodup
  case own => exact h.own
  case suffix => exact (List.suffix_cons _ _).trans hsuffix
  case present =>
    intro name
    change (driver.devices d name).isSome ↔ (devices name).isSome ∨ name ∈ rest
    rw [hdriver.returned hcall, LocalDevices.isSome_removeDevice, hpresent]
    change name ≠ deviceName ∧ ((devices name).isSome ∨ name ∈ deviceName :: rest) ↔ _
    rw [List.mem_cons]
    constructor
    · rintro ⟨hne, hother | hsame | hrest⟩
      · exact Or.inl hother
      · exact absurd hsame hne
      · exact Or.inr hrest
    · rintro (hother | hrest)
      · refine ⟨?_, Or.inl hother⟩
        rintro rfl
        rw [hown] at hother
        cases hother
      · exact ⟨fun hsame => honce (hsame ▸ hrest), Or.inr (Or.inr hrest)⟩
  case kept =>
    intro path hpath
    have hdevice := LocalDevices.isSome_of_control? hpath
    have hne : path.deviceName ≠ deviceName := by
      intro hsame
      rw [hsame, hown] at hdevice
      cases hdevice
    change ((driver.devices d).control? path).isSome
    rw [hdriver.returned hcall, LocalDevices.control?_removeDevice, if_neg hne]
    exact h.kept path hpath

end LifeState.KeepsDevices

theorem LifeStep.keepsDevices (hdriver : driver.Documented)
    (h : LifeStep driver formatFloat stod s l t) (hs : s.KeepsDevices driver devices) :
    t.KeepsDevices driver devices := by
  have hmove : ∀ (phase : LifePhase) (d : D), driver.devices d = driver.devices s.driver →
      phase.remaining s.deviceIds = s.phase.remaining s.deviceIds →
      LifeState.KeepsDevices driver devices { s with driver := d, phase := phase } := by
    intro phase d hdevices hsame
    refine ⟨hs.nodup, hs.own, ?_, ?_, ?_⟩
    · rw [hsame]
      exact hs.suffix
    · rw [hsame, hdevices]
      exact hs.present
    · rw [hdevices]
      exact hs.kept
  cases h with
  | ignored _ _ _ => exact ⟨hs.nodup, hs.own, hs.suffix, hs.present, hs.kept⟩
  | published hphase _ _ hpublishes => exact hs.published hdriver hphase hpublishes
  | written _ _ _ => exact ⟨hs.nodup, hs.own, hs.suffix, hs.present, hs.kept⟩
  | stopScheduler hphase => exact hmove _ _ rfl (by rw [hphase]; rfl)
  | stopReader hphase => exact hmove _ _ rfl (by rw [hphase]; rfl)
  | removeEventHandler hphase => exact hmove _ _ rfl (by rw [hphase]; rfl)
  | beginTx hphase => exact hmove _ _ rfl (by rw [hphase]; rfl)
  | callFailed hphase =>
    rcases hphase with hphase | hphase
    · exact hmove _ _ rfl (by rw [hphase]; rfl)
    · exact hmove _ _ rfl (by rw [hphase]; rfl)
  | removeDevice hphase hcall => exact hs.removeDevice hdriver hphase hcall
  | removeDeviceFailed hphase hcall =>
    exact hmove _ _ (hdriver.thrown hcall) (by rw [hphase]; rfl)
  | destroyed hphase => exact hmove _ _ rfl (by rw [hphase]; rfl)

/-- The destructor leaves alone what the gateway did not make. -/
theorem LifeStep.untouched (hdriver : driver.Documented)
    (h : LifeStep driver formatFloat stod s .destructor t) (hs : s.KeepsDevices driver devices)
    {name : String} (hother : name ∉ s.deviceIds) :
    driver.devices t.driver name = driver.devices s.driver name := by
  cases h with
  | removeDevice hphase hcall =>
    have hsuffix := hs.suffix
    rw [hphase] at hsuffix
    have hne := ne_of_mem_of_not_mem (hsuffix.mem List.mem_cons_self) hother
    rw [hdriver.returned hcall]
    exact Function.update_of_ne hne.symm _ _
  | removeDeviceFailed _ hcall => exact congrFun (hdriver.thrown hcall) name
  | _ => rfl

end Devices

/-- `SetParameter` went through for an entry of the control. -/
def LifeEvent.Writes (path : ControlPath) : LifeEvent → Prop
  | .published update _ true => update.path = path
  | _ => False

/-- `SetParameter` went through for an entry of the control, and decoded a text. -/
def LifeEvent.Shows (formatFloat : Double → String) (path : ControlPath) (value : String) :
    LifeEvent → Prop
  | .published update frame true =>
    update.path = path ∧ update.decoded formatFloat frame = .ok value
  | _ => False

/-- The control shows what was decoded last. If nothing was decoded, it shows what it showed at
first, or zero if it has been made since. -/
structure LifeState.ShowsLatest {D : Type*} (driver : DeviceDriver D)
    (formatFloat : Double → String) (devices : LocalDevices) (path : ControlPath)
    (s : LifeState D) : Prop where
  latest : ∀ e value, e.Shows formatFloat path value →
    Since (fun e => ∀ value, ¬ e.Shows formatFloat path value) e s.log →
    (driver.devices s.driver).valueAt path = some value
  undecoded : (∀ e ∈ s.log, ∀ value, ¬ e.Shows formatFloat path value) →
    (∃ e ∈ s.log, e.Writes path) →
    (driver.devices s.driver).valueAt path = some ((devices.valueAt path).getD "0")
  untouched : (∀ e ∈ s.log, ¬ e.Writes path) →
    (driver.devices s.driver).valueAt path = devices.valueAt path

section Values

variable {D : Type*} {driver : DeviceDriver D} {formatFloat : Double → String}
  {stod : String → Except String Double} {s t : LifeState D} {l : LifeLabel}
  {devices : LocalDevices} {path : ControlPath}

theorem LifeEvent.Shows.writes {e : LifeEvent} {value : String}
    (h : e.Shows formatFloat path value) : e.Writes path := by
  cases e with
  | published update frame completed =>
    cases completed with
    | false => exact h
    | true => exact h.1
  | setRequested path' text frame => exact h

namespace LifeState.ShowsLatest

theorem initial (gateway : TSmartWebToMqttGateway) (d : D) :
    (LifeState.initial gateway d).ShowsLatest driver formatFloat (driver.devices d) path where
  latest _ _ _ hsince := absurd hsince not_since_nil
  undecoded _ := by simp [LifeState.initial]
  untouched _ := rfl

theorem quiet (h : s.ShowsLatest driver formatFloat devices path) {recent : List LifeEvent}
    (hlog : t.log = recent ++ s.log) (hrecent : ∀ e ∈ recent, ¬ e.Writes path)
    (hvalue : (driver.devices t.driver).valueAt path = (driver.devices s.driver).valueAt path) :
    t.ShowsLatest driver formatFloat devices path := by
  constructor
  case latest =>
    intro e value he hsince
    rw [hlog] at hsince
    have hold : e ∉ recent := fun hmem => hrecent e hmem he.writes
    rw [hvalue]
    exact h.latest e value he (hsince.of_append hold)
  case undecoded =>
    intro hnone hwritten
    rw [hlog] at hnone hwritten
    obtain ⟨e, he, hwrites⟩ := hwritten
    have hmem : e ∈ s.log := by
      rcases List.mem_append.mp he with hnew | hold
      · exact absurd hwrites (hrecent e hnew)
      · exact hold
    rw [hvalue]
    exact h.undecoded (fun e he => hnone e (List.mem_append_right _ he)) ⟨e, hmem, hwrites⟩
  case untouched =>
    intro hnone
    rw [hlog] at hnone
    rw [hvalue]
    exact h.untouched fun e he => hnone e (List.mem_append_right _ he)

theorem written (h : s.ShowsLatest driver formatFloat devices path) {update : ParameterUpdate}
    {frame : TFrame} (hpath : update.path = path)
    (hlog : t.log = .published update frame true :: s.log)
    (hvalue : (driver.devices t.driver).valueAt path =
      some (match update.decoded formatFloat frame with
        | .ok value => value
        | .error _ => ((driver.devices s.driver).valueAt path).getD "0")) :
    t.ShowsLatest driver formatFloat devices path := by
  have hwrites : (LifeEvent.published update frame true).Writes path := hpath
  cases hdecoded : update.decoded formatFloat frame with
  | ok text =>
    have hshows : (LifeEvent.published update frame true).Shows formatFloat path text :=
      ⟨hpath, hdecoded⟩
    simp only [hdecoded] at hvalue
    constructor
    case latest =>
      intro e value he hsince
      rw [hlog, since_cons] at hsince
      rcases hsince with rfl | ⟨hnot, _⟩
      · have htext : Except.ok text = .ok value := hdecoded.symm.trans he.2
        rw [hvalue, Except.ok.inj htext]
      · exact absurd hshows (hnot text)
    case undecoded =>
      intro hnone
      rw [hlog] at hnone
      exact absurd hshows (hnone _ List.mem_cons_self text)
    case untouched =>
      intro hnone
      rw [hlog] at hnone
      exact absurd hwrites (hnone _ List.mem_cons_self)
  | error what =>
    have hshows : ∀ value,
        ¬ (LifeEvent.published update frame true).Shows formatFloat path value := by
      intro value he
      have htext : Except.error what = .ok value := hdecoded.symm.trans he.2
      cases htext
    simp only [hdecoded] at hvalue
    constructor
    case latest =>
      intro e value he hsince
      rw [hlog, since_cons] at hsince
      rcases hsince with rfl | ⟨_, hsince⟩
      · exact absurd he (hshows value)
      · rw [hvalue, h.latest e value he hsince, Option.getD_some]
    case undecoded =>
      intro hnone _
      rw [hlog] at hnone
      have hold := fun e he => hnone e (List.mem_cons_of_mem _ he)
      by_cases hbefore : ∃ e ∈ s.log, e.Writes path
      · rw [hvalue, h.undecoded hold hbefore, Option.getD_some]
      · push Not at hbefore
        rw [hvalue, h.untouched hbefore]
    case untouched =>
      intro hnone
      rw [hlog] at hnone
      exact absurd hwrites (hnone _ List.mem_cons_self)

theorem published (hdriver : driver.Documented) (h : s.ShowsLatest driver formatFloat devices path)
    {frame : TFrame} {gateway : TSmartWebToMqttGateway} {update : ParameterUpdate}
    {completed : Bool} {made : List String} {d : D}
    (hpublishes : update.Publishes driver formatFloat frame s.driver completed made d) :
    (s.published frame gateway update completed made d).ShowsLatest driver formatFloat devices
      path := by
  have hvalue := hpublishes.valueAt_devices hdriver path
  by_cases hwrites : completed = true ∧ path = update.path
  · rw [if_pos hwrites] at hvalue
    obtain ⟨rfl, hpath⟩ := hwrites
    exact h.written hpath.symm rfl hvalue
  · rw [if_neg hwrites] at hvalue
    have hlog : (s.published frame gateway update completed made d).log =
        [.published update frame completed] ++ s.log := rfl
    refine h.quiet hlog ?_ hvalue
    intro e he hpath
    obtain rfl := List.mem_singleton.mp he
    cases completed with
    | false => exact hpath
    | true => exact hwrites ⟨rfl, Eq.symm hpath⟩

end LifeState.ShowsLatest

theorem LifeStep.showsLatest (hdriver : driver.Documented)
    (h : LifeStep driver formatFloat stod s l t)
    (hs : s.phase.Keeping → s.ShowsLatest driver formatFloat devices path) :
    t.phase.Keeping → t.ShowsLatest driver formatFloat devices path := by
  have hmove : ∀ phase : LifePhase, s.phase.Keeping →
      LifeState.ShowsLatest driver formatFloat devices path { s with phase := phase } := by
    intro phase hkeeping
    have h := hs hkeeping
    exact ⟨h.latest, h.undecoded, h.untouched⟩
  intro ht
  cases h with
  | ignored hphase _ _ =>
    have h := hs (Or.inl (Or.inl hphase))
    exact ⟨h.latest, h.undecoded, h.untouched⟩
  | published hphase _ _ hpublishes =>
    exact (hs (Or.inl (Or.inl hphase))).published hdriver hpublishes
  | @written path' text frames hphase _ _ =>
    refine (hs (Or.inl hphase)).quiet rfl ?_ rfl
    intro e he
    obtain ⟨frame, _, rfl⟩ := List.mem_map.mp he
    exact id
  | stopScheduler hphase => exact hmove _ (Or.inl (Or.inl (Or.inl hphase)))
  | stopReader hphase => exact hmove _ (Or.inl (Or.inl (Or.inr hphase)))
  | removeEventHandler hphase => exact hmove _ (Or.inl (Or.inr hphase))
  | beginTx _ | callFailed _ | removeDevice _ _ | removeDeviceFailed _ _ | destroyed _ =>
    exact absurd ht (by simp [LifePhase.Keeping, LifePhase.Listening, LifePhase.Reading])

end Values

/-- Whatever was published is from a response that was received, and that the gateway would still
take for the same entry. -/
def LifeState.Answered {D : Type*} (s : LifeState D) : Prop :=
  ∀ update frame completed, .published update frame completed ∈ s.log →
    frame ∈ s.received ∧ acceptFrame frame ∧ handleGetValueResponse s.gateway frame = some update

section Answers

variable {D : Type*} {driver : DeviceDriver D} {formatFloat : Double → String}
  {stod : String → Except String Double} {gateway gateway' : TSmartWebToMqttGateway} {fuel : ℕ}
  {frame frame' : TFrame} {update : Option ParameterUpdate} {s t : LifeState D} {l : LifeLabel}

theorem receive_of_handleFrame (haccepted : acceptFrame frame)
    (h : handleFrame fuel gateway frame = some (gateway', update)) :
    receive fuel gateway frame = some gateway' := by
  rw [receive, if_pos haccepted, h, Option.map_some]

theorem TFrame.IsShortResponse.handleFrame_eq (h : frame.IsShortResponse) (fuel : ℕ) :
    handleFrame fuel gateway frame = some (gateway, handleGetValueResponse gateway frame) := by
  have hother : ptRemoteControl ≠ ptProgram := by decide
  simp [handleFrame, h.programType, h.functionId, hother]

theorem update_of_handleFrame {u : ParameterUpdate}
    (h : handleFrame fuel gateway frame = some (gateway', some u)) :
    gateway' = gateway ∧ handleGetValueResponse gateway frame = some u := by
  unfold handleFrame at h
  split_ifs at h
  · obtain ⟨_, _, heq⟩ := Option.map_eq_some_iff.mp h
    cases heq
  · obtain ⟨hgateway, hupdate⟩ := Prod.mk.inj (Option.some.inj h)
    exact ⟨hgateway.symm, hupdate⟩
  · cases h

theorem lookup_receive (h : receive fuel gateway frame = some gateway') {programId : Byte}
    {cl : TSmartWebClass} (hknown : gateway.knownPrograms.lookup programId = some cl) :
    gateway'.classes = gateway.classes ∧ gateway'.knownPrograms.lookup programId = some cl := by
  rcases receive_cases h with ⟨_, rfl⟩ | ⟨program, _, _, hnew, _, rfl⟩
  · exact ⟨rfl, hknown⟩
  · refine ⟨rfl, ?_⟩
    have hne : programId ≠ program.1 := by
      rintro rfl
      rw [← AList.lookup_isSome, hknown] at hnew
      exact hnew rfl
    rwa [AList.lookup_insert_ne hne]

/-- A response is taken for the same entry ever after. -/
theorem handleGetValueResponse_receive (h : receive fuel gateway frame = some gateway')
    {u : ParameterUpdate} (hupdate : handleGetValueResponse gateway frame' = some u) :
    handleGetValueResponse gateway' frame' = some u := by
  unfold handleGetValueResponse at hupdate ⊢
  cases hknown : gateway.knownPrograms.lookup frame'.header.programId with
  | none =>
    rw [hknown] at hupdate
    cases hupdate
  | some cl =>
    obtain ⟨hclasses, hknown'⟩ := lookup_receive h hknown
    rw [hknown] at hupdate
    rw [hknown', hclasses]
    exact hupdate

theorem LifeStep.answered (h : LifeStep driver formatFloat stod s l t) (hs : s.Answered) :
    t.Answered := by
  have hold : ∀ {frame : TFrame} {fuel : ℕ} {gateway : TSmartWebToMqttGateway}
      {update : Option ParameterUpdate}, acceptFrame frame →
      handleFrame fuel s.gateway frame = some (gateway, update) →
      ∀ u frame' completed, .published u frame' completed ∈ s.log →
        frame' ∈ frame :: s.received ∧ acceptFrame frame' ∧
          handleGetValueResponse gateway frame' = some u := by
    intro frame fuel gateway update haccepted hhandle u frame' completed hmem
    obtain ⟨hreceived, haccepted', hupdate⟩ := hs u frame' completed hmem
    exact ⟨List.mem_cons_of_mem _ hreceived, haccepted',
      handleGetValueResponse_receive (receive_of_handleFrame haccepted hhandle) hupdate⟩
  cases h with
  | ignored _ haccepted hhandle => exact hold haccepted hhandle
  | published _ haccepted hhandle _ =>
    intro u frame' completed hmem
    rcases List.mem_cons.mp hmem with heq | hmem
    · cases heq
      obtain ⟨rfl, hupdate⟩ := update_of_handleFrame hhandle
      exact ⟨List.mem_cons_self, haccepted, hupdate⟩
    · exact hold haccepted hhandle u frame' completed hmem
  | written _ _ _ =>
    intro u frame' completed hmem
    rcases List.mem_append.mp hmem with hnew | hmem
    · obtain ⟨_, _, heq⟩ := List.mem_map.mp hnew
      cases heq
    · exact hs u frame' completed hmem
  | _ => exact hs

end Answers

section Runs

variable {D : Type*} {driver : DeviceDriver D} {formatFloat : Double → String}
  {stod : String → Except String Double} {gateway : TSmartWebToMqttGateway} {d : D}
  {s : LifeState D}

/-- Whatever frames came and whatever calls to the driver failed: the destructor removes every
device that was made, each once while it is there, and no other. If a call of its own fails, the
process ends with the devices that are left. -/
theorem destructor_leaves_no_device (hdriver : driver.Documented)
    (h : Leads (LifeStep driver formatFloat stod) Anyhow (.initial gateway d) s) :
    (∀ deviceName rest, s.phase = .removing (deviceName :: rest) →
      (driver.devices s.driver deviceName).isSome ∧ driver.devices d deviceName = none) ∧
    (s.phase = .destroyed → ∀ name,
      (driver.devices s.driver name).isSome ↔ (driver.devices d name).isSome) ∧
    (∀ rest, s.phase = .terminated rest → rest <:+ s.deviceIds ∧ ∀ name,
      (driver.devices s.driver name).isSome ↔ (driver.devices d name).isSome ∨ name ∈ rest) ∧
    (∀ path, ((driver.devices d).control? path).isSome →
      ((driver.devices s.driver).control? path).isSome) ∧
    ∀ t, LifeStep driver formatFloat stod s .destructor t → ∀ name ∉ s.deviceIds,
      driver.devices t.driver name = driver.devices s.driver name := by
  have hs : s.KeepsDevices driver (driver.devices d) :=
    h.invariant (fun _ _ _ hs _ hstep => hstep.keepsDevices hdriver hs) (.initial gateway d)
  have hsuffix := hs.suffix
  have hpresent := hs.present
  refine ⟨?_, ?_, ?_, hs.kept, fun t hstep name hother => hstep.untouched hdriver hs hother⟩
  · intro deviceName rest hphase
    rw [hphase] at hsuffix hpresent
    exact ⟨(hpresent deviceName).mpr (Or.inr List.mem_cons_self),
      hs.own deviceName (hsuffix.mem List.mem_cons_self)⟩
  · intro hphase name
    rw [hphase] at hpresent
    simpa [LifePhase.remaining] using hpresent name
  · intro rest hphase
    rw [hphase] at hsuffix hpresent
    exact ⟨hsuffix, hpresent⟩

/-- What holds of a run until the destructor removes devices. -/
theorem controls_latest (hdriver : driver.Documented)
    (h : Leads (LifeStep driver formatFloat stod) Anyhow (.initial gateway d) s)
    (hphase : s.phase.Keeping) :
    (∀ path, s.ShowsLatest driver formatFloat (driver.devices d) path) ∧ s.Answered := by
  constructor
  · intro path
    have hlatest : s.phase.Keeping → s.ShowsLatest driver formatFloat (driver.devices d) path :=
      h.invariant (fun _ _ _ hs _ hstep => hstep.showsLatest hdriver hs) fun _ =>
        .initial gateway d
    exact hlatest hphase
  · exact h.invariant (fun _ _ _ hs _ hstep => hstep.answered hs)
      (by simp [LifeState.Answered, LifeState.initial])

/-- Until the destructor removes devices, every control shows what was decoded last for it by an
update that went through, and each update is of a response that was received. -/
theorem controls_show_latest (hdriver : driver.Documented)
    (h : Leads (LifeStep driver formatFloat stod) Anyhow (.initial gateway d) s)
    (hphase : s.phase.Keeping) :
    (∀ path, s.ShowsLatest driver formatFloat (driver.devices d) path) ∧
    ∀ update frame completed, .published update frame completed ∈ s.log →
      frame ∈ s.received ∧ acceptFrame frame ∧
        handleGetValueResponse s.gateway frame = some update :=
  controls_latest hdriver h hphase

end Runs

/-! A sensor of the heating circuit is shown, and the gateway is destroyed. -/

/-- A driver that is nothing but its devices, and whose calls succeed or do nothing. -/
def memoryDriver : DeviceDriver LocalDevices where
  devices devices := devices
  call devices call completed devices' :=
    devices' = if completed then call.apply devices else devices

theorem memoryDriver_documented : memoryDriver.Documented where
  returned h := h
  thrown h := h

theorem memoryDriver_performs (calls : List DriverCall) (devices : LocalDevices) :
    memoryDriver.Performs devices calls true (calls.filterMap DriverCall.created)
      (calls.foldl DriverCall.apply devices) := by
  induction calls generalizing devices with
  | nil => exact .finished devices
  | cons call calls ih =>
    have hcall : memoryDriver.call devices call true (call.apply devices) := rfl
    have hperforms := DeviceDriver.Performs.returned hcall (ih (call.apply devices))
    cases hcreated : call.created with
    | none =>
      rw [hcreated] at hperforms
      rwa [List.filterMap_cons_none hcreated]
    | some deviceName =>
      rw [hcreated] at hperforms
      rwa [List.filterMap_cons_some hcreated]

def LifeState.taking (formatFloat : Double → String) (s : LifeState LocalDevices) (frame : TFrame) :
    LifeState LocalDevices :=
  match handleFrame 2 s.gateway frame with
  | none => s
  | some (gateway, none) => s.ignored frame gateway
  | some (gateway, some update) =>
    let calls := update.publish formatFloat s.driver frame
    s.published frame gateway update true (calls.filterMap DriverCall.created)
      (calls.foldl DriverCall.apply s.driver)

section Taking

variable {formatFloat : Double → String} {stod : String → Except String Double}
  {s t : LifeState LocalDevices} {frame : TFrame}

theorem LifeState.phase_taking (formatFloat : Double → String) (s : LifeState LocalDevices)
    (frame : TFrame) : (s.taking formatFloat frame).phase = s.phase := by
  unfold taking
  split <;> rfl

theorem LifeState.leads_taking
    (h : Leads (LifeStep memoryDriver formatFloat stod) Anyhow s t) (hphase : t.phase = .running)
    (haccepted : acceptFrame frame) :
    Leads (LifeStep memoryDriver formatFloat stod) Anyhow s (t.taking formatFloat frame) := by
  unfold taking
  split
  next => exact h
  next gateway hhandle => exact h.step (.ignored (Or.inl hphase) haccepted hhandle)
  next gateway update hhandle =>
    exact h.step (.published (Or.inl hphase) haccepted hhandle
      (.performed (memoryDriver_performs _ _)))

end Taking

def noDevices : LocalDevices := fun _ => none

def flowShown : LifeState LocalDevices :=
  (LifeState.initial circuitGateway noDevices).taking (fun _ => "0") (flowPoll.emptyAnswer 7)

theorem flowPoll_isShort : flowPoll.canDlc.toNat ≤ if flowPoll.Indexed then 3 else 2 := by
  decide +kernel

theorem flowShown_leads : Leads (LifeStep memoryDriver (fun _ => "0") fun _ => .error "") Anyhow
    (.initial circuitGateway noDevices) flowShown :=
  LifeState.leads_taking .refl rfl (TFrame.emptyAnswer_isShortResponse 7 flowPoll_isShort).accepted

theorem flowShown_log {p : TSmartWebParameter}
    (h : handleGetValueResponse circuitGateway (flowPoll.emptyAnswer 7) = some ⟨p, 3, 7⟩) :
    flowShown.log = [.published ⟨p, 3, 7⟩ (flowPoll.emptyAnswer 7) true] := by
  have hhandle := @TFrame.IsShortResponse.handleFrame_eq circuitGateway _
    (TFrame.emptyAnswer_isShortResponse 7 flowPoll_isShort) 2
  rw [h] at hhandle
  unfold flowShown LifeState.taking
  rw [show (LifeState.initial circuitGateway noDevices).gateway = circuitGateway from rfl, hhandle]
  rfl

theorem controls_show_latest_flow : flowShown.driver.valueAt flowControl = some "0" := by
  obtain ⟨p, hupdate, hcodec, hcontrol⟩ := flow_update
  have hzero : IntType.int16.ofBytes ((flowPoll.emptyAnswer 7).data.toList.drop 3) = 0 := by
    decide +kernel
  have hdecoded : (⟨p, 3, 7⟩ : ParameterUpdate).decoded (fun _ => "0") (flowPoll.emptyAnswer 7) =
      .ok "0" := by
    rw [ParameterUpdate.decoded, hcodec, ISmartWebCodec.decode]
    simp only [hzero]
    rfl
  have hphase : flowShown.phase = .running := LifeState.phase_taking _ _ _
  have hlatest := ((controls_show_latest memoryDriver_documented flowShown_leads
    (Or.inl (Or.inl (Or.inl hphase)))).1 flowControl).latest
  refine hlatest (.published ⟨p, 3, 7⟩ (flowPoll.emptyAnswer 7) true) "0" ⟨hcontrol, hdecoded⟩ ?_
  rw [flowShown_log hupdate]
  exact ⟨[], [], rfl, by simp⟩

def flowDestroyed : LifeState LocalDevices :=
  { flowShown with
    driver := (DriverCall.removeDevice "sw HEATING_CIRCUIT 7").apply flowShown.driver
    phase := .destroyed }

theorem flowDestroyed_leads : Leads (LifeStep memoryDriver (fun _ => "0") fun _ => .error "") Anyhow
    (.initial circuitGateway noDevices) flowDestroyed := by
  have hids : flowShown.deviceIds = ["sw HEATING_CIRCUIT 7"] := by decide +kernel
  have hphase : flowShown.phase = .running := LifeState.phase_taking _ _ _
  have hremoving := (((flowShown_leads.step (.stopScheduler hphase)).step (.stopReader rfl)).step
    (.removeEventHandler rfl)).step (.beginTx rfl)
  rw [hids] at hremoving
  exact (hremoving.step (.removeDevice rfl rfl)).step (.destroyed rfl)

theorem destructor_leaves_no_device_flow :
    (flowShown.driver "sw HEATING_CIRCUIT 7").isSome ∧
      ¬ (flowDestroyed.driver "sw HEATING_CIRCUIT 7").isSome := by
  refine ⟨by decide +kernel, ?_⟩
  have hleft := (destructor_leaves_no_device memoryDriver_documented flowDestroyed_leads).2.1 rfl
    "sw HEATING_CIRCUIT 7"
  exact fun hthere => absurd (hleft.mp hthere) (by decide)

end SmartWebGateway
