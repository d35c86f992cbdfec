import SmartWebGateway.Config.Controller
import SmartWebGateway.Poller.Precedence
import Mathlib.Tactic

/-!
# Directories that cannot be listed

`LoadConfig` loads the controllers and then the classes of two directories. The
helper that lists a directory turns the library's exception into one of its
own, and the handler above it is for the library's. Both are modelled with
their exceptions kept apart, as C++ tells them apart.
-/
namespace SmartWebGateway

open Foundation

/-- The exceptions of loading. A `filesystem_error` and a `TNoDirError` are both
`std::runtime_error`s, and neither is the other. -/
inductive LoadException where
  | filesystemError (what : String)
  | noDirError (what : String)
  | exception (what : String)
  deriving DecidableEq

def LoadException.what : LoadException → String
  | .filesystemError what | .noDirError what | .exception what => what

/-- The document of the configuration, after validation. -/
structure ConfigJson where
  debug : Option Bool
  interfaceName : Option String
  pollIntervalMs : Option ℕ
  controllers : List ControllerObject

/-- `TConfig`, with the polling interval in milliseconds beside the classes. -/
structure TConfig where
  controllers : List TMqttToSmartWebConfig
  smartWebToMqtt : TSmartWebToMqttConfig
  pollInterval : ℕ
  debug : Bool
  interfaceName : String

def TConfig.initial : TConfig where
  controllers := []
  smartWebToMqtt := ⟨∅, 0⟩
  pollInterval := 500
  debug := false
  interfaceName := "can0"

/-- `errors` is what was logged as an error, newest first. -/
structure LoadState where
  config : TConfig
  errors : List String

structure DirectoryEntry where
  filename : String
  file : ClassFile

/-- What a directory answers: whether it can be opened, and what each increment of the iterator
gives. -/
structure ClassDirectory where
  path : String
  opened : Except String Unit
  increments : List (Except String DirectoryEntry)

/-- `std::set::insert` of a path. -/
def insertPath (sortedByPath : List DirectoryEntry) (entry : DirectoryEntry) :
    List DirectoryEntry :=
  if sortedByPath.any fun other => other.filename = entry.filename then sortedByPath
  else
    sortedByPath.filter (·.filename < entry.filename) ++
      entry :: sortedByPath.filter (entry.filename < ·.filename)

/-- The loop over the iterator, which has to end before any file is read. -/
def ClassDirectory.listing (directory : ClassDirectory) : Except String (List DirectoryEntry) := do
  directory.opened
  let entries ← directory.increments.mapM id
  .ok (entries.foldl insertPath [])

abbrev ConfigM := Program Unit LoadState LoadException

namespace ConfigM

def logError (line : String) : ConfigM Unit :=
  Program.modify fun s => { s with errors := line :: s.errors }

/-- A program on the table of classes, whose exceptions are others than those of directories. -/
def onClasses (x : ClassM Unit) : ConfigM Unit :=
  Program.within (fun s => s.config.smartWebToMqtt)
    (fun s classes => { s with config := { s.config with smartWebToMqtt := classes } })
    LoadException.exception x

/-- The loop over the sorted paths, up to the first file for which `fn` is true. -/
def visit (fn : DirectoryEntry → ConfigM Bool) :
    List DirectoryEntry → ConfigM (Option DirectoryEntry)
  | [] => pure none
  | entry :: rest => do
    let stop ← fn entry
    if stop then pure (some entry) else visit fn rest

def iterateDir (directory : ClassDirectory) (fn : DirectoryEntry → ConfigM Bool) :
    ConfigM (Option DirectoryEntry) :=
  Program.tryCatch (do
    let sortedByPath ← Program.ofExcept (directory.listing.mapError .filesystemError)
    visit fn sortedByPath) fun e =>
      match e with
      | .filesystemError what => Program.throw (.noDirError what)
      | e => Program.throw e

/-- `fn` also gets the path of the file; the path is returned when `fn` is true. -/
def iterateDirByPattern (directory : ClassDirectory) (pattern : String)
    (fn : String → DirectoryEntry → ConfigM Bool) : ConfigM String := do
  let found ← iterateDir directory fun entry =>
    if pattern.toList <:+: entry.filename.toList then
      fn (directory.path ++ "/" ++ entry.filename) entry
    else pure false
  pure (match found with
    | some entry => directory.path ++ "/" ++ entry.filename
    | none => "")

/-- The lambda that is called for each class file; it never stops the scan. -/
def loadClassFile (source : TDeviceClassSource) (filePath : String) (entry : DirectoryEntry) :
    ConfigM Bool := do
  Program.tryCatch (onClasses do
    let data ← Program.ofExcept entry.file.parsed
    Program.ofExcept entry.file.validated
    data.loadSmartWebClass source) fun e =>
      logError ("Failed to parse " ++ filePath ++ "\n" ++ e.what)
  pure false

/-- `asUInt` -/
def asUInt (value : ℕ) : Except LoadException ℕ :=
  if value < 2 ^ 32 then .ok value else .error (.exception "LargestInt out of UInt range")

def loadPollInterval (configJson : ConfigJson) : ConfigM Unit :=
  match configJson.pollIntervalMs with
  | none => pure ()
  | some value => do
    let interval ← Program.ofExcept (asUInt value)
    Program.modify fun s => { s with config := { s.config with pollInterval := interval } }

def loadSmartWebToMqttConfig (configJson : ConfigJson) (directory : ClassDirectory)
    (source : TDeviceClassSource) : ConfigM Unit := do
  loadPollInterval configJson
  Program.tryCatch (do
    let _ ← iterateDirByPattern directory ".json" (loadClassFile source)) fun e =>
      match e with
      | .filesystemError what =>
        logError ("Cannot open " ++ directory.path ++ " directory: " ++ what)
      | e => Program.throw e

/-- The clock and what memory held are those of the controllers' loader. -/
def loadMqttToSmartWebConfig (clock : ℕ → TTimePoint) (garbage : ℕ → Output → TMappingPoint)
    (configJson : ConfigJson) : ConfigM Unit :=
  Program.modify fun s =>
    { s with
      config := { s.config with
        debug := configJson.debug.getD s.config.debug
        interfaceName := configJson.interfaceName.getD s.config.interfaceName
        controllers := s.config.controllers ++
          SmartWebGateway.loadMqttToSmartWebConfig clock garbage 0 configJson.controllers } }

end ConfigM

/-- The files that `LoadConfig` is given. `config` is what `Parse` and then `Validate` make of the
configuration and its schema, `classSchema` whether the other schema can be read. -/
structure ConfigFiles where
  config : Except String ConfigJson
  classSchema : Except String Unit
  builtin : ClassDirectory
  user : ClassDirectory

namespace ConfigFiles

def loadConfig (clock : ℕ → TTimePoint) (garbage : ℕ → Output → TMappingPoint)
    (files : ConfigFiles) : ConfigM Unit := do
  let configJson ← Program.ofExcept (files.config.mapError .exception)
  ConfigM.loadMqttToSmartWebConfig clock garbage configJson
  Program.ofExcept (files.classSchema.mapError .exception)
  ConfigM.loadSmartWebToMqttConfig configJson files.builtin .builtin
  ConfigM.loadSmartWebToMqttConfig configJson files.user .user

end ConfigFiles

/-- The status that `main` exits with when it is not to go on: 6 is `EXIT_NOTCONFIGURED`. -/
def mainStatus : Except LoadException Unit → Option ℕ
  | .ok () => none
  | .error _ => some 6

/-- The class files of a listing. -/
def jsonFiles (entries : List DirectoryEntry) : List ClassFile :=
  (entries.filter fun entry => ".json".toList <:+: entry.filename.toList).map DirectoryEntry.file

/-- The class files of a directory, none if it cannot be listed. -/
def ClassDirectory.classFiles (directory : ClassDirectory) : List ClassFile :=
  match directory.listing with
  | .ok entries => jsonFiles entries
  | .error _ => []

section Listing

variable {w : ℕ → Unit} {i : ℕ} {s : LoadState} {source : TDeviceClassSource}

/-- The state with another table of classes. -/
def LoadState.withClasses (s : LoadState) (classes : TSmartWebToMqttConfig) (errors : List String) :
    LoadState :=
  { config := { s.config with smartWebToMqtt := classes }, errors := errors }

theorem ConfigM.wp_loadClassFile (filePath : String) (entry : DirectoryEntry) :
    (ConfigM.loadClassFile source filePath entry).wp w
      (fun stop j t => stop = false ∧ ∃ classes errors, t = s.withClasses classes errors ∧
        (SmartWebGateway.loadClassFile source entry.file).run w i s.config.smartWebToMqtt =
          (.ok (), j, classes))
      (fun _ _ _ => False) i s := by
  rw [ConfigM.loadClassFile, Program.wp_bind, Program.wp_tryCatch, ConfigM.onClasses,
    Program.wp_within, SmartWebGateway.loadClassFile]
  generalize (do
    let data ← Program.ofExcept entry.file.parsed
    Program.ofExcept entry.file.validated
    data.loadSmartWebClass source : ClassM Unit) = body
  unfold Program.wp
  rcases hrun : body.run w i s.config.smartWebToMqtt with ⟨what | _, j, classes⟩
  · have hcaught : (Program.tryCatch body fun _ => pure ()).run w i s.config.smartWebToMqtt =
        (.ok (), j, classes) := by
      simp only [Program.tryCatch, hrun]
      rfl
    exact ⟨rfl, classes, _, rfl, hcaught⟩
  · have hended : (Program.tryCatch body fun _ => pure ()).run w i s.config.smartWebToMqtt =
        (.ok (), j, classes) := by
      simp only [Program.tryCatch, hrun]
    exact ⟨rfl, classes, s.errors, rfl, hended⟩

/-- The loop over a directory goes through all class files, in their order, and over others. -/
theorem ConfigM.wp_visit (directory : ClassDirectory) (entries : List DirectoryEntry) :
    (ConfigM.visit (fun entry =>
        if ".json".toList <:+: entry.filename.toList then
          ConfigM.loadClassFile source (directory.path ++ "/" ++ entry.filename) entry
        else pure false) entries).wp w
      (fun _ j t => ∃ classes errors, t = s.withClasses classes errors ∧
        (SmartWebGateway.loadSmartWebToMqttConfig (jsonFiles entries) source).run w i
          s.config.smartWebToMqtt = (.ok (), j, classes))
      (fun _ _ _ => False) i s := by
  induction entries generalizing i s with
  | nil => exact ⟨s.config.smartWebToMqtt, s.errors, rfl, rfl⟩
  | cons entry rest ih =>
    rw [ConfigM.visit, Program.wp_bind, Program.wp_ite]
    split_ifs with hpattern
    · have hfiles : jsonFiles (entry :: rest) = entry.file :: jsonFiles rest := by
        simp only [jsonFiles, List.filter_cons_of_pos, decide_eq_true hpattern, List.map_cons]
      refine Program.wp_mono (ConfigM.wp_loadClassFile _ entry) ?_ (fun _ _ _ _ he => he)
      rintro stop j t - ⟨rfl, classes, errors, rfl, hrun⟩
      refine Program.wp_mono ih ?_ (fun _ _ _ _ he => he)
      rintro _ k t - ⟨classes', errors', rfl, hrest⟩
      refine ⟨classes', errors', rfl, ?_⟩
      rw [hfiles, SmartWebGateway.loadSmartWebToMqttConfig, Program.forEach, Program.foldl,
        Program.run_bind_of_ok hrun]
      exact hrest
    · have hfiles : jsonFiles (entry :: rest) = jsonFiles rest := by
        rw [jsonFiles, List.filter_cons_of_neg (by simpa using hpattern)]
        rfl
      rw [Program.wp_pure, hfiles]
      exact ih

variable {configJson : ConfigJson} {directory : ClassDirectory}

theorem ConfigM.wp_loadPollInterval (h : ∀ value ∈ configJson.pollIntervalMs, value < 2 ^ 32) :
    (ConfigM.loadPollInterval configJson).wp w
      (fun _ j t => j = i ∧ t = { s with config := { s.config with
        pollInterval := configJson.pollIntervalMs.getD s.config.pollInterval } })
      (fun _ _ _ => False) i s := by
  unfold ConfigM.loadPollInterval
  cases hvalue : configJson.pollIntervalMs with
  | none => exact ⟨rfl, rfl⟩
  | some value =>
    have hfits : ConfigM.asUInt value = .ok value := if_pos (h value hvalue)
    simp [hfits]

/-- A directory that cannot be listed ends the loading, whatever handler there is. -/
theorem ConfigM.wp_loadSmartWebToMqttConfig_failed {what : String}
    (hlisting : directory.listing = .error what)
    (h : ∀ value ∈ configJson.pollIntervalMs, value < 2 ^ 32) :
    (ConfigM.loadSmartWebToMqttConfig configJson directory source).wp w (fun _ _ _ => False)
      (fun e _ _ => e = .noDirError what) i s := by
  rw [ConfigM.loadSmartWebToMqttConfig, Program.wp_bind]
  refine Program.wp_mono (ConfigM.wp_loadPollInterval h) ?_ (fun _ _ _ _ he => he.elim)
  intro _ j t _ _
  simp only [ConfigM.iterateDirByPattern, ConfigM.iterateDir, hlisting, Except.mapError,
    Program.wp_tryCatch, Program.wp_bind, Program.wp_ofExcept, Program.wp_throw]

theorem ConfigM.wp_loadSmartWebToMqttConfig_listed {entries : List DirectoryEntry}
    (hlisting : directory.listing = .ok entries)
    (h : ∀ value ∈ configJson.pollIntervalMs, value < 2 ^ 32) :
    (ConfigM.loadSmartWebToMqttConfig configJson directory source).wp w
      (fun _ j t => t.config.controllers = s.config.controllers ∧
        (SmartWebGateway.loadSmartWebToMqttConfig directory.classFiles source).run w i
          s.config.smartWebToMqtt = (.ok (), j, t.config.smartWebToMqtt))
      (fun _ _ _ => False) i s := by
  rw [ConfigM.loadSmartWebToMqttConfig, Program.wp_bind]
  refine Program.wp_mono (ConfigM.wp_loadPollInterval h) ?_ (fun _ _ _ _ he => he)
  rintro _ j t - ⟨rfl, rfl⟩
  simp only [ConfigM.iterateDirByPattern, ConfigM.iterateDir, hlisting, Except.mapError,
    Program.wp_tryCatch, Program.wp_bind, Program.wp_ofExcept]
  refine Program.wp_mono (ConfigM.wp_visit directory entries) ?_ (fun _ _ _ _ he => he.elim)
  rintro _ k t - ⟨classes, errors, rfl, hrun⟩
  rw [ClassDirectory.classFiles, hlisting]
  exact ⟨rfl, hrun⟩

end Listing

namespace ConfigFiles

variable {files : ConfigFiles} {clock : ℕ → TTimePoint} {garbage : ℕ → Output → TMappingPoint}

/-- What `LoadConfig` does to the configuration that `main` starts with. -/
def loading (clock : ℕ → TTimePoint) (garbage : ℕ → Output → TMappingPoint)
    (files : ConfigFiles) : Except LoadException Unit × ℕ × LoadState :=
  (files.loadConfig clock garbage).run (fun _ => ()) 0 ⟨.initial, []⟩

/-- Loading has nothing to stumble on but the directories. -/
structure Sound (files : ConfigFiles) (configJson : ConfigJson) : Prop where
  config : files.config = .ok configJson
  classSchema : files.classSchema = .ok ()
  pollInterval : ∀ value ∈ configJson.pollIntervalMs, value < 2 ^ 32

/-- One of the two directories cannot be listed. -/
def Unlistable (files : ConfigFiles) : Prop :=
  ∃ directory what, (directory = files.builtin ∨ directory = files.user) ∧
    directory.listing = .error what

/-- A normal end with the controllers, with the classes of whatever could be listed, and with an
error in the log for each directory that could not. -/
structure Tolerated (clock : ℕ → TTimePoint) (garbage : ℕ → Output → TMappingPoint)
    (files : ConfigFiles) (configJson : ConfigJson) : Prop where
  returned : (files.loading clock garbage).1 = .ok ()
  controllers : (files.loading clock garbage).2.2.config.controllers =
    SmartWebGateway.loadMqttToSmartWebConfig clock garbage 0 configJson.controllers
  classes : ∃ i, (SmartWebGateway.loadConfig files.builtin.classFiles files.user.classFiles).run
    (fun _ => ()) 0 ⟨∅, 0⟩ = (.ok (), i, (files.loading clock garbage).2.2.config.smartWebToMqtt)
  logged : ∀ directory what, (directory = files.builtin ∨ directory = files.user) →
    directory.listing = .error what →
    ("Cannot open " ++ directory.path ++ " directory: " ++ what) ∈
      (files.loading clock garbage).2.2.errors

theorem Sound.wp_loadConfig {configJson : ConfigJson} (h : files.Sound configJson)
    {Q : Unit → ℕ → LoadState → Prop} {E : LoadException → ℕ → LoadState → Prop}
    (hscans : ∀ s, s.config.controllers =
        SmartWebGateway.loadMqttToSmartWebConfig clock garbage 0 configJson.controllers →
      s.config.smartWebToMqtt = ⟨∅, 0⟩ →
      (ConfigM.loadSmartWebToMqttConfig configJson files.builtin .builtin).wp (fun _ => ())
        (fun _ => (ConfigM.loadSmartWebToMqttConfig configJson files.user .user).wp
          (fun _ => ()) Q E) E 0 s) :
    (files.loadConfig clock garbage).wp (fun _ => ()) Q E 0 ⟨.initial, []⟩ := by
  simp only [loadConfig, h.config, h.classSchema, Except.mapError, Program.wp_bind,
    Program.wp_ofExcept, ConfigM.loadMqttToSmartWebConfig, Program.wp_modify]
  exact hscans _ (by simp [TConfig.initial]) rfl

theorem Unlistable.escapes {configJson : ConfigJson} (h : files.Unlistable)
    (hsound : files.Sound configJson) :
    ∃ what, (files.loading clock garbage).1 = .error (.noDirError what) := by
  have hwp : (files.loadConfig clock garbage).wp (fun _ => ()) (fun _ _ _ => False)
      (fun e _ _ => ∃ what, e = .noDirError what) 0 ⟨.initial, []⟩ := by
    apply hsound.wp_loadConfig
    intro s _ _
    cases hbuiltin : files.builtin.listing with
    | error what =>
      exact Program.wp_mono (ConfigM.wp_loadSmartWebToMqttConfig_failed hbuiltin
        hsound.pollInterval) (fun _ _ _ _ hfalse => hfalse.elim) (fun _ _ _ _ he => ⟨what, he⟩)
    | ok entries =>
      obtain ⟨directory, what, rfl | rfl, hlisting⟩ := h
      · rw [hbuiltin] at hlisting
        cases hlisting
      · apply Program.wp_mono (ConfigM.wp_loadSmartWebToMqttConfig_listed hbuiltin
          hsound.pollInterval) _ (fun _ _ _ _ he => he.elim)
        intro _ j t _ _
        exact Program.wp_mono (ConfigM.wp_loadSmartWebToMqttConfig_failed hlisting
          hsound.pollInterval) (fun _ _ _ _ hfalse => hfalse) (fun _ _ _ _ he => ⟨what, he⟩)
  unfold loading
  rcases hrun : (files.loadConfig clock garbage).run (fun _ => ()) 0 ⟨.initial, []⟩ with
    ⟨e | _, j, t⟩
  · obtain ⟨what, rfl⟩ := Program.wp_error hwp hrun
    exact ⟨what, rfl⟩
  · exact (Program.wp_ok hwp hrun).elim

theorem Sound.tolerated {configJson : ConfigJson} (h : files.Sound configJson)
    (hlistable : ¬ files.Unlistable) : files.Tolerated clock garbage configJson := by
  have hlisted : ∀ directory, (directory = files.builtin ∨ directory = files.user) →
      ∃ entries, directory.listing = .ok entries := by
    intro directory hdirectory
    cases hlisting : directory.listing with
    | error what => exact absurd ⟨directory, what, hdirectory, hlisting⟩ hlistable
    | ok entries => exact ⟨entries, rfl⟩
  obtain ⟨builtin, hbuiltin⟩ := hlisted files.builtin (Or.inl rfl)
  obtain ⟨user, huser⟩ := hlisted files.user (Or.inr rfl)
  have hwp : (files.loadConfig clock garbage).wp (fun _ => ())
      (fun _ j t => t.config.controllers =
          SmartWebGateway.loadMqttToSmartWebConfig clock garbage 0 configJson.controllers ∧
        (SmartWebGateway.loadConfig files.builtin.classFiles files.user.classFiles).run
          (fun _ => ()) 0 ⟨∅, 0⟩ = (.ok (), j, t.config.smartWebToMqtt))
      (fun _ _ _ => False) 0 ⟨.initial, []⟩ := by
    apply h.wp_loadConfig
    intro s hcontrollers hclasses
    apply Program.wp_mono (ConfigM.wp_loadSmartWebToMqttConfig_listed hbuiltin h.pollInterval) _
      (fun _ _ _ _ he => he)
    rintro _ j t - ⟨hcontrollers1, hrun1⟩
    apply Program.wp_mono (ConfigM.wp_loadSmartWebToMqttConfig_listed huser h.pollInterval) _
      (fun _ _ _ _ he => he)
    rintro _ k t' - ⟨hcontrollers2, hrun2⟩
    rw [hclasses] at hrun1
    rw [SmartWebGateway.loadConfig, Program.run_bind_of_ok hrun1]
    exact ⟨hcontrollers2.trans (hcontrollers1.trans hcontrollers), hrun2⟩
  obtain ⟨_, j, t, hrun, hcontrollers, hclasses⟩ := Program.returns_of_wp hwp
  constructor
  · simp only [loading, hrun]
  · simp only [loading, hrun]
    exact hcontrollers
  · simp only [loading, hrun]
    exact ⟨j, hclasses⟩
  · intro directory what hdirectory hlisting
    exact absurd ⟨directory, what, hdirectory, hlisting⟩ hlistable

theorem sound_of_returned (h : (files.loading clock garbage).1 = .ok ()) :
    ∃ configJson, files.Sound configJson := by
  have hwp : (files.loadConfig clock garbage).wp (fun _ => ())
      (fun _ _ _ => ∃ configJson, files.Sound configJson) (fun _ _ _ => True) 0
      ⟨.initial, []⟩ := by
    cases hconfig : files.config with
    | error what => simp [loadConfig, hconfig, Except.mapError]
    | ok configJson =>
      cases hschema : files.classSchema with
      | error what =>
        simp [loadConfig, hconfig, hschema, Except.mapError, ConfigM.loadMqttToSmartWebConfig]
      | ok _ =>
        by_cases hinterval : ∀ value ∈ configJson.pollIntervalMs, value < 2 ^ 32
        · exact Program.wp_mono (Program.wp_true _) (fun _ _ _ _ _ => ⟨configJson, hconfig,
            hschema, hinterval⟩) (fun _ _ _ _ _ => trivial)
        · push Not at hinterval
          obtain ⟨value, hvalue, hlarge⟩ := hinterval
          have hunfit : ConfigM.asUInt value =
              .error (.exception "LargestInt out of UInt range") := if_neg (by omega)
          simp [loadConfig, hconfig, hschema, Except.mapError, ConfigM.loadMqttToSmartWebConfig,
            ConfigM.loadSmartWebToMqttConfig, ConfigM.loadPollInterval,
            Option.mem_def.mp hvalue, hunfit]
  rcases hrun : (files.loadConfig clock garbage).run (fun _ => ()) 0 ⟨.initial, []⟩ with
    ⟨e | _, j, t⟩
  · rw [loading, hrun] at h
    cases h
  · exact Program.wp_ok hwp hrun

theorem Unlistable.not_tolerated (h : files.Unlistable) (configJson : ConfigJson) :
    ¬ files.Tolerated clock garbage configJson := by
  intro htolerated
  obtain ⟨configJson', hsound⟩ := sound_of_returned htolerated.returned
  obtain ⟨what, hescapes⟩ := @Unlistable.escapes files clock garbage configJson' h hsound
  rw [htolerated.returned] at hescapes
  cases hescapes

end ConfigFiles

/-- No directory that cannot be listed is tolerated: the exception that `IterateDir` makes of the
library's passes the handler for the library's, and `main` exits with the status after which
systemd does not start the service again. -/
theorem unlistable_not_tolerated (clock : ℕ → TTimePoint) (garbage : ℕ → Output → TMappingPoint)
    (files : ConfigFiles) (h : files.Unlistable) :
    (∀ configJson, ¬ files.Tolerated clock garbage configJson) ∧
      ∀ configJson, files.Sound configJson →
        ∃ what, (files.loading clock garbage).1 = .error (.noDirError what) ∧
          mainStatus (files.loading clock garbage).1 = some 6 := by
  constructor
  · exact h.not_tolerated
  · intro configJson hsound
    obtain ⟨what, hescapes⟩ := h.escapes hsound
    rw [hescapes]
    exact ⟨what, rfl, rfl⟩

/-- The package's classes with one file, and no directory of the user's. -/
def noUserDirectory : ConfigFiles where
  config := .ok ⟨none, none, none, []⟩
  classSchema := .ok ()
  builtin :=
    { path := "/usr/share/wb-mqtt-smartweb/classes"
      opened := .ok ()
      increments := [.ok ⟨"pump.json", .ofObject pump⟩] }
  user :=
    { path := "/etc/wb-mqtt-smartweb.conf.d/classes"
      opened := .error "No such file or directory"
      increments := [] }

theorem unlistable_not_tolerated_noUserDirectory :
    (∀ configJson, ¬ noUserDirectory.Tolerated (fun _ => 0) (fun _ _ => ⟨0, 0, 0⟩) configJson) ∧
      ∀ configJson, noUserDirectory.Sound configJson →
        ∃ what, (noUserDirectory.loading (fun _ => 0) (fun _ _ => ⟨0, 0, 0⟩)).1 =
            .error (.noDirError what) ∧
          mainStatus (noUserDirectory.loading (fun _ => 0) (fun _ _ => ⟨0, 0, 0⟩)).1 = some 6 :=
  unlistable_not_tolerated _ _ noUserDirectory
    ⟨noUserDirectory.user, "No such file or directory", Or.inr rfl, rfl⟩

/-- The class of the package is lost with the directory of the user. -/
theorem noUserDirectory_escapes :
    noUserDirectory.Sound ⟨none, none, none, []⟩ ∧
      noUserDirectory.builtin.classFiles = [.ofObject pump] ∧
      noUserDirectory.user.listing = .error "No such file or directory" ∧
      ¬ noUserDirectory.Tolerated (fun _ => 0) (fun _ _ => ⟨0, 0, 0⟩) ⟨none, none, none, []⟩ := by
  have hlisting : noUserDirectory.user.listing = .error "No such file or directory" := rfl
  constructor
  · exact ⟨rfl, rfl, by simp⟩
  · exact ⟨rfl, hlisting, ConfigFiles.Unlistable.not_tolerated
      ⟨noUserDirectory.user, _, Or.inr rfl, hlisting⟩ _⟩

end SmartWebGateway
