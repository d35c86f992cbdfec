import SmartWebGateway.Foundation.Program
import SmartWebGateway.Poller.Classes
import Mathlib.Tactic

/-!
# Which class file wins

The built-in class files are loaded before those of the user. A file may fail
at any point, when it is parsed, when it is validated, or when one of its parts
is read; the loader logs that and goes on with the next file. The table is
written last of all, so a file that fails leaves it as it was.
-/
namespace SmartWebGateway

open Foundation

/-- The loader of classes sees no world; its exceptions carry a text. -/
abbrev ClassM := Program Unit TSmartWebToMqttConfig String

/-- The document of a class file. What the JSON library makes of a part is a value or an
exception; the members of a section are listed as the library iterates over them. -/
structure ClassJson where
  programType : Except String Byte
  className : Except String String
  implements : Option (List (Except String String))
  inputs : Option (List (String × Except String ChannelObject))
  outputs : Option (List (String × Except String ChannelObject))
  parameters : Option (List (String × Except String ParameterObject))

/-- What `Parse` and then `Validate` make of a class file. -/
structure ClassFile where
  parsed : Except String ClassJson
  validated : Except String Unit

def readMember {α : Type} (member : String × Except String α) : Except String (String × α) :=
  member.2.map fun value => (member.1, value)

/-- The loops over inputs and outputs stop at the first member that fails. -/
def readMembers {α : Type} (members : Option (List (String × Except String α))) :
    Except String (Option (List (String × α))) :=
  match members with
  | none => .ok none
  | some ar => (ar.mapM readMember).map some

namespace ClassJson

/-- What the loader reads of a document after its type and its name. Parameters that fail are left
out. -/
def readParts (data : ClassJson) (programType : Byte) (className : String) :
    Except String ClassObject := do
  let implements ← (data.implements.getD []).mapM id
  let inputs ← readMembers data.inputs
  let outputs ← readMembers data.outputs
  .ok
    { className := className
      programType := programType
      implements := implements
      inputs := inputs
      outputs := outputs
      parameters := data.parameters.map fun ar => ar.filterMap fun p => (readMember p).toOption }

/-- `LoadSmartWebClass` on a document whose parts may fail. -/
def loadSmartWebClass (data : ClassJson) (source : TDeviceClassSource) : ClassM Unit := do
  let programType ← Program.ofExcept data.programType
  let className ← Program.ofExcept data.className
  let config ← Program.get
  let load : ClassM Unit := do
    Program.modify fun config => { config with objects := config.objects + 1 }
    let object ← Program.ofExcept (data.readParts programType className)
    Program.modify fun after =>
      { after with
        classes := after.classes.insert programType (.ofObject config.objects object source) }
  match config.classes.lookup programType with
  | none => load
  | some old =>
    if old.source = source then pure ()
    else if old.source = .user then pure ()
    else load

/-- The class that a document describes, if nothing in it fails. -/
def describes (data : ClassJson) : Except String ClassObject := do
  let programType ← data.programType
  let className ← data.className
  data.readParts programType className

end ClassJson

def loadClassFile (source : TDeviceClassSource) (file : ClassFile) : ClassM Unit :=
  Program.tryCatch (do
    let data ← Program.ofExcept file.parsed
    Program.ofExcept file.validated
    data.loadSmartWebClass source) fun _ => pure ()

def loadSmartWebToMqttConfig (files : List ClassFile) (source : TDeviceClassSource) :
    ClassM Unit :=
  Program.forEach (loadClassFile source) files

/-- The part of `LoadConfig` about classes, when both directories can be listed. -/
def loadConfig (builtin user : List ClassFile) : ClassM Unit := do
  loadSmartWebToMqttConfig builtin .builtin
  loadSmartWebToMqttConfig user .user

/-- The class that a file describes, unless the file fails at some point. -/
def ClassFile.describes? (file : ClassFile) : Option ClassObject :=
  (do
    let data ← file.parsed
    file.validated
    data.describes).toOption

/-- The class of the first file for a type that does not fail. -/
def firstFor (type : Byte) (files : List ClassFile) : Option ClassObject :=
  (files.filterMap ClassFile.describes?).find? fun data => data.programType = type

/-- The class that has precedence for a type, with the directory that it comes from. -/
def preferred (type : Byte) (builtin user : List ClassFile) :
    Option (ClassObject × TDeviceClassSource) :=
  ((firstFor type user).map fun data => (data, .user)).or
    ((firstFor type builtin).map fun data => (data, .builtin))

/-- The entry of a type is an object that was made of the given class, or there is none. -/
def TSmartWebToMqttConfig.Holds (config : TSmartWebToMqttConfig) (type : Byte)
    (winner : Option (ClassObject × TDeviceClassSource)) : Prop :=
  match winner with
  | none => config.classes.lookup type = none
  | some (data, source) =>
    ∃ object, config.classes.lookup type = some (.ofObject object data source)

/-- What becomes of the configuration, by the class that a file describes. -/
inductive LoadOutcome (config : TSmartWebToMqttConfig) (source : TDeviceClassSource) :
    Option ClassObject → TSmartWebToMqttConfig → Prop
  | failed (objects : ℕ) (h : config.objects ≤ objects) :
      LoadOutcome config source none { config with objects := objects }
  | loaded (data : ClassObject) :
      LoadOutcome config source (some data) (loadSmartWebClass config data source)

section Files

variable {w : ℕ → Unit} {i : ℕ} {config : TSmartWebToMqttConfig} {source : TDeviceClassSource}

theorem LoadOutcome.unchanged : LoadOutcome config source none config :=
  .failed config.objects le_rfl

theorem ClassJson.readParts_programType {data : ClassJson} {programType : Byte}
    {className : String} {object : ClassObject}
    (h : data.readParts programType className = .ok object) :
    object.programType = programType := by
  unfold readParts at h
  cases himplements : (data.implements.getD []).mapM id with
  | error what => simp [himplements, bind, Except.bind] at h
  | ok implements =>
    cases hinputs : readMembers data.inputs with
    | error what => simp [himplements, hinputs, bind, Except.bind] at h
    | ok inputs =>
      cases houtputs : readMembers data.outputs with
      | error what => simp [himplements, hinputs, houtputs, bind, Except.bind] at h
      | ok outputs =>
        simp only [himplements, hinputs, houtputs, bind, Except.bind, Except.ok.injEq] at h
        rw [← h]

/-- A document that is kept out of the table, because of the entry that is there already, changes
nothing, whether it would have failed or not. -/
theorem LoadOutcome.kept {data : ClassJson} {programType : Byte} {className : String}
    {old : TSmartWebClass} (hold : config.classes.lookup programType = some old)
    (hkept : old.source = source ∨ old.source = .user) :
    LoadOutcome config source (data.readParts programType className).toOption config := by
  cases hparts : data.readParts programType className with
  | error what => exact .unchanged
  | ok object =>
    have hsame : loadSmartWebClass config object source = config := by
      unfold loadSmartWebClass
      rw [ClassJson.readParts_programType hparts, hold]
      dsimp only
      split_ifs with hsource huser
      · rfl
      · rfl
      · tauto
    nth_rewrite 2 [← hsame]
    exact .loaded object

/-- The rest of `LoadSmartWebClass`, when the class is to be put into the table. -/
theorem wp_load {data : ClassJson} {programType : Byte} {className : String}
    (hnew : ∀ object : ClassObject, object.programType = programType →
      loadSmartWebClass config object source =
        { classes := config.classes.insert programType (.ofObject config.objects object source)
          objects := config.objects + 1 }) :
    Program.wp (do
        Program.modify fun config => { config with objects := config.objects + 1 }
        let object ← Program.ofExcept (data.readParts programType className)
        Program.modify fun after =>
          { after with
            classes := after.classes.insert programType
              (.ofObject config.objects object source) }) w
      (fun _ _ after =>
        LoadOutcome config source (data.readParts programType className).toOption after)
      (fun _ _ after =>
        LoadOutcome config source (data.readParts programType className).toOption after)
      i config := by
  simp only [Program.wp_bind, Program.wp_modify, Program.wp_ofExcept]
  cases hparts : data.readParts programType className with
  | error what => exact .failed (config.objects + 1) (Nat.le_succ _)
  | ok object =>
    have hloaded : LoadOutcome config source (some object) _ := .loaded object
    rwa [hnew object (ClassJson.readParts_programType hparts)] at hloaded

theorem wp_loadSmartWebClass (data : ClassJson) :
    (data.loadSmartWebClass source).wp w
      (fun _ _ after => LoadOutcome config source data.describes.toOption after)
      (fun _ _ after => LoadOutcome config source data.describes.toOption after) i config := by
  unfold ClassJson.loadSmartWebClass ClassJson.describes
  simp only [Program.wp_bind, Program.wp_ofExcept]
  cases data.programType with
  | error what => exact .unchanged
  | ok programType =>
    cases data.className with
    | error what => exact .unchanged
    | ok className =>
      simp only [Program.wp_get]
      cases hold : config.classes.lookup programType with
      | none =>
        apply wp_load
        rintro object rfl
        rw [loadSmartWebClass, hold]
      | some old =>
        simp only [Program.wp_ite, Program.wp_pure]
        split_ifs with hsource huser
        · exact .kept hold (Or.inl hsource)
        · exact .kept hold (Or.inr huser)
        · apply wp_load
          rintro object rfl
          simp only [loadSmartWebClass, hold, if_neg hsource, if_neg huser]

theorem wp_loadClassFile (file : ClassFile) :
    (loadClassFile source file).wp w
      (fun _ _ after => LoadOutcome config source file.describes? after)
      (fun _ _ _ => False) i config := by
  unfold loadClassFile ClassFile.describes?
  rw [Program.wp_tryCatch]
  simp only [Program.wp_bind, Program.wp_ofExcept, Program.wp_pure]
  cases file.parsed with
  | error what => exact .unchanged
  | ok data =>
    cases file.validated with
    | error what => exact .unchanged
    | ok => exact wp_loadSmartWebClass data

end Files

section Precedence

variable {config after : TSmartWebToMqttConfig} {source : TDeviceClassSource} {type : Byte}
  {builtin user : List ClassFile}

@[simp] theorem TSmartWebClass.ofObject_source (object : ℕ) (data : ClassObject)
    (source : TDeviceClassSource) : (ofObject object data source).source = source := rfl

/-- What the table holds under a type once a class was offered: the class, unless an entry of the
same directory or of the user was there. -/
theorem lookup_loadSmartWebClass (data : ClassObject) :
    (loadSmartWebClass config data source).classes.lookup type =
      if type = data.programType ∧ ∀ old ∈ config.classes.lookup type,
          old.source ≠ source ∧ old.source ≠ .user then
        some (.ofObject config.objects data source)
      else config.classes.lookup type := by
  unfold loadSmartWebClass
  by_cases htype : type = data.programType
  · subst htype
    cases hold : config.classes.lookup data.programType with
    | none => simp
    | some old =>
      dsimp only
      split_ifs <;> simp_all
  · rw [if_neg fun h => htype h.1]
    have hother : (config.classes.insert data.programType
        (.ofObject config.objects data source)).lookup type = config.classes.lookup type :=
      AList.lookup_insert_ne htype
    cases config.classes.lookup data.programType with
    | none => exact hother
    | some old =>
      dsimp only
      split_ifs
      · rfl
      · rfl
      · exact hother

/-- The class that has precedence when one more file of a directory was offered. -/
def superseded (type : Byte) (source : TDeviceClassSource) (described : Option ClassObject)
    (winner : Option (ClassObject × TDeviceClassSource)) :
    Option (ClassObject × TDeviceClassSource) :=
  match described, winner with
  | none, winner => winner
  | some data, none => if data.programType = type then some (data, source) else none
  | some data, some old =>
    if data.programType = type ∧ old.2 ≠ source ∧ old.2 ≠ .user then some (data, source)
    else some old

theorem LoadOutcome.holds {described : Option ClassObject}
    {winner : Option (ClassObject × TDeviceClassSource)}
    (h : LoadOutcome config source described after) (hconfig : config.Holds type winner) :
    after.Holds type (superseded type source described winner) := by
  cases h with
  | failed objects _ => exact hconfig
  | loaded data =>
    have hlookup := @lookup_loadSmartWebClass config source type data
    cases winner with
    | none =>
      have hnone : config.classes.lookup type = none := hconfig
      rw [hnone] at hlookup
      unfold superseded
      dsimp only
      by_cases htype : data.programType = type
      · rw [if_pos htype]
        rw [if_pos ⟨htype.symm, by simp⟩] at hlookup
        exact ⟨config.objects, hlookup⟩
      · rw [if_neg htype]
        rw [if_neg fun h => htype h.1.symm] at hlookup
        exact hlookup
    | some old =>
      obtain ⟨object, hold⟩ := hconfig
      rw [hold] at hlookup
      unfold superseded
      dsimp only
      by_cases hnew : data.programType = type ∧ old.2 ≠ source ∧ old.2 ≠ .user
      · rw [if_pos hnew]
        rw [if_pos ⟨hnew.1.symm, by simpa using hnew.2⟩] at hlookup
        exact ⟨config.objects, hlookup⟩
      · rw [if_neg hnew]
        rw [if_neg fun h => hnew ⟨h.1.symm, h.2 _ rfl⟩] at hlookup
        exact ⟨object, hlookup⟩

theorem firstFor_concat (type : Byte) (files : List ClassFile) (file : ClassFile) :
    firstFor type (files ++ [file]) =
      (firstFor type files).or (file.describes?.filter fun data => data.programType = type) := by
  unfold firstFor
  rw [List.filterMap_append, List.find?_append]
  cases h : file.describes? with
  | none => simp [h]
  | some data => by_cases htype : data.programType = type <;> simp [h, htype, Option.filter]

theorem preferred_concat_builtin (type : Byte) (builtin : List ClassFile) (file : ClassFile) :
    preferred type (builtin ++ [file]) [] =
      superseded type .builtin file.describes? (preferred type builtin []) := by
  unfold preferred superseded
  rw [firstFor_concat]
  cases file.describes? with
  | none => cases firstFor type builtin <;> rfl
  | some data =>
    cases firstFor type builtin with
    | none => by_cases htype : data.programType = type <;> simp [htype, firstFor, Option.filter]
    | some old => simp [firstFor]

theorem preferred_concat_user (type : Byte) (builtin user : List ClassFile) (file : ClassFile) :
    preferred type builtin (user ++ [file]) =
      superseded type .user file.describes? (preferred type builtin user) := by
  unfold preferred superseded
  rw [firstFor_concat]
  cases file.describes? with
  | none => cases firstFor type user <;> cases firstFor type builtin <;> rfl
  | some data =>
    cases firstFor type user with
    | none =>
      cases firstFor type builtin with
      | none => by_cases htype : data.programType = type <;> simp [htype, Option.filter]
      | some old => by_cases htype : data.programType = type <;> simp [htype, Option.filter]
    | some old => simp

/-- The classes of the table are separate objects, and no object made later is one of them. -/
structure TSmartWebToMqttConfig.Separate (config : TSmartWebToMqttConfig) : Prop where
  made : ∀ type cl, config.classes.lookup type = some cl → cl.object < config.objects
  distinct : ∀ type type' cl cl', config.classes.lookup type = some cl →
    config.classes.lookup type' = some cl' → cl.object = cl'.object → type = type'

theorem TSmartWebToMqttConfig.Separate.load (h : config.Separate) (data : ClassObject) :
    (loadSmartWebClass config data source).Separate := by
  rcases @loadSmartWebClass_cases config source data with hsame | hloaded
  · rwa [hsame]
  rw [hloaded]
  have hcases : ∀ type cl, (config.classes.insert data.programType
      (.ofObject config.objects data source)).lookup type = some cl →
      type = data.programType ∧ cl.object = config.objects ∨
        config.classes.lookup type = some cl := by
    intro type cl hlookup
    by_cases htype : type = data.programType
    · subst htype
      rw [AList.lookup_insert, Option.some.injEq] at hlookup
      exact Or.inl ⟨rfl, congrArg (fun cl => cl.object) hlookup.symm⟩
    · rw [AList.lookup_insert_ne htype] at hlookup
      exact Or.inr hlookup
  constructor
  · intro type cl hlookup
    rcases hcases type cl hlookup with ⟨_, hobject⟩ | hold
    · exact hobject ▸ Nat.lt_succ_self _
    · exact (h.made type cl hold).trans (Nat.lt_succ_self _)
  · intro type type' cl cl' hlookup hlookup' hobject
    rcases hcases type cl hlookup with ⟨htype, hnew⟩ | hold
    · rcases hcases type' cl' hlookup' with ⟨htype', _⟩ | hold'
      · exact htype.trans htype'.symm
      · have hmade := h.made type' cl' hold'
        omega
    · rcases hcases type' cl' hlookup' with ⟨_, hnew'⟩ | hold'
      · have hmade := h.made type cl hold
        omega
      · exact h.distinct type type' cl cl' hold hold' hobject

/-- What is known of the table when some files of both directories were offered. -/
structure LoadedFrom (builtin user : List ClassFile) (config : TSmartWebToMqttConfig) : Prop where
  holds : ∀ type, config.Holds type (preferred type builtin user)
  wellFormed : config.WellFormed
  separate : config.Separate

theorem LoadOutcome.wellFormed {described : Option ClassObject}
    (h : LoadOutcome config source described after) (hconfig : config.WellFormed) :
    after.WellFormed := by
  cases h with
  | failed => exact hconfig
  | loaded data => exact hconfig.load data source

theorem LoadOutcome.separate {described : Option ClassObject}
    (h : LoadOutcome config source described after) (hconfig : config.Separate) :
    after.Separate := by
  cases h with
  | failed objects hobjects =>
    exact ⟨fun type cl hlookup => (hconfig.made type cl hlookup).trans_le hobjects,
      hconfig.distinct⟩
  | loaded data => exact hconfig.load data

theorem LoadedFrom.offer_builtin {file : ClassFile}
    (h : LoadOutcome config .builtin file.describes? after)
    (hconfig : LoadedFrom builtin [] config) :
    LoadedFrom (builtin ++ [file]) [] after where
  holds type := by
    rw [preferred_concat_builtin]
    exact h.holds (hconfig.holds type)
  wellFormed := h.wellFormed hconfig.wellFormed
  separate := h.separate hconfig.separate

theorem LoadedFrom.offer_user {file : ClassFile}
    (h : LoadOutcome config .user file.describes? after)
    (hconfig : LoadedFrom builtin user config) :
    LoadedFrom builtin (user ++ [file]) after where
  holds type := by
    rw [preferred_concat_user]
    exact h.holds (hconfig.holds type)
  wellFormed := h.wellFormed hconfig.wellFormed
  separate := h.separate hconfig.separate

theorem LoadedFrom.empty : LoadedFrom [] [] ⟨∅, 0⟩ where
  holds _ := rfl
  wellFormed type cl h := absurd h (by simp)
  separate := ⟨fun type cl h => absurd h (by simp), fun type type' cl cl' h => absurd h (by simp)⟩

/-- Both loops go through all of their files, whatever becomes of each. -/
theorem wp_loadConfig {w : ℕ → Unit} {i : ℕ} (builtin user : List ClassFile) :
    (loadConfig builtin user).wp w (fun _ _ after => LoadedFrom builtin user after)
      (fun _ _ _ => False) i ⟨∅, 0⟩ := by
  have hbuiltin : (loadSmartWebToMqttConfig builtin .builtin).wp w
      (fun _ _ after => LoadedFrom builtin [] after) (fun _ _ _ => False) i ⟨∅, 0⟩ := by
    apply Program.wp_forEach (fun done _ config => LoadedFrom done [] config) .empty
    intro done file _ j config _ _ hconfig
    exact Program.wp_mono (wp_loadClassFile file) (fun _ _ _ _ h => hconfig.offer_builtin h)
      (fun _ _ _ _ he => he)
  rw [loadConfig, Program.wp_bind]
  refine Program.wp_mono hbuiltin ?_ (fun _ _ _ _ he => he)
  intro _ j config _ hconfig
  apply Program.wp_forEach (fun done _ config => LoadedFrom builtin done config) hconfig
  intro done file _ k config _ _ hconfig
  exact Program.wp_mono (wp_loadClassFile file) (fun _ _ _ _ h => hconfig.offer_user h)
    (fun _ _ _ _ he => he)

/-- For every list of built-in files and every list of user files, no exception leaves the loader;
the entry of a type is the class of the first user file for it that does not fail, otherwise of the
first such built-in file, and there is no other entry; the entries are separate objects, and all
members of each are its own and stand under their ids. A file that fails leaves every table as it
is. -/
theorem class_precedence (builtin user : List ClassFile) :
    (∃ i config, (loadConfig builtin user).run (fun _ => ()) 0 ⟨∅, 0⟩ = (.ok (), i, config) ∧
      (∀ type, config.Holds type (preferred type builtin user)) ∧ config.WellFormed ∧
      config.Separate) ∧
    ∀ (file : ClassFile) (source : TDeviceClassSource) (config : TSmartWebToMqttConfig),
      file.describes? = none →
      ∃ i after, (loadClassFile source file).run (fun _ => ()) 0 config = (.ok (), i, after) ∧
        after.classes = config.classes := by
  constructor
  · obtain ⟨_, i, config, hrun, hholds, hwell, hseparate⟩ :=
      Program.returns_of_wp (wp_loadConfig (w := fun _ => ()) (i := 0) builtin user)
    exact ⟨i, config, hrun, hholds, hwell, hseparate⟩
  · intro file source config hfile
    obtain ⟨_, i, after, hrun, houtcome⟩ :=
      Program.returns_of_wp (@wp_loadClassFile (fun _ => ()) 0 config source file)
    rw [hfile] at houtcome
    refine ⟨i, after, hrun, ?_⟩
    cases houtcome
    rfl

end Precedence

/-! Files in which nothing fails are loaded as their classes are. -/

/-- A file whose document has all its parts. -/
def ClassFile.ofObject (data : ClassObject) : ClassFile where
  parsed := .ok
    { programType := .ok data.programType
      className := .ok data.className
      implements := some (data.implements.map .ok)
      inputs := data.inputs.map fun ar => ar.map fun member => (member.1, .ok member.2)
      outputs := data.outputs.map fun ar => ar.map fun member => (member.1, .ok member.2)
      parameters := data.parameters.map fun ar => ar.map fun member => (member.1, .ok member.2) }
  validated := .ok ()

section Sound

theorem mapM_ok {α β : Type} (f : α → Except String β) (g : β → α) (h : ∀ b, f (g b) = .ok b)
    (bs : List β) : (bs.map g).mapM f = .ok bs := by
  induction bs with
  | nil => rfl
  | cons b bs ih =>
    rw [List.map_cons, List.mapM_cons, h, ih]
    rfl

theorem readMembers_ok {α : Type} (members : Option (List (String × α))) :
    readMembers (members.map fun ar => ar.map fun member => (member.1, .ok member.2)) =
      .ok members := by
  cases members with
  | none => rfl
  | some ar =>
    change ((ar.map fun member => (member.1, .ok member.2)).mapM readMember).map some = _
    rw [mapM_ok readMember (fun member => (member.1, .ok member.2)) (fun _ => rfl)]
    rfl

theorem ClassFile.describes?_ofObject (data : ClassObject) :
    (ClassFile.ofObject data).describes? = some data := by
  have himplements : (data.implements.map Except.ok).mapM id = .ok data.implements :=
    mapM_ok id .ok (fun _ => rfl) data.implements
  have hinputs := readMembers_ok data.inputs
  have houtputs := readMembers_ok data.outputs
  have hparameters : (data.parameters.map fun ar => ar.map fun member =>
      (member.1, (.ok member.2 : Except String ParameterObject))).map (fun ar =>
        ar.filterMap fun p => (readMember p).toOption) = data.parameters := by
    cases data.parameters with
    | none => rfl
    | some ar => simp [readMember, Except.map, Except.toOption, List.filterMap_map]
  simp only [describes?, ofObject, ClassJson.describes, ClassJson.readParts, Option.getD_some,
    himplements, hinputs, houtputs, hparameters, bind, Except.bind]
  rfl

/-- The state after more and more files is the table of their classes. -/
theorem wp_loadSmartWebToMqttConfig {w : ℕ → Unit} {i : ℕ} (objects : List ClassObject)
    (source : TDeviceClassSource) (before : List (ClassObject × TDeviceClassSource)) :
    (loadSmartWebToMqttConfig (objects.map .ofObject) source).wp w
      (fun _ _ after => after = loadClasses (before ++ objects.map fun data => (data, source)))
      (fun _ _ _ => False) i (loadClasses before) := by
  induction objects generalizing before i with
  | nil => exact (congrArg loadClasses (List.append_nil before)).symm
  | cons data objects ih =>
    rw [List.map_cons, List.map_cons, loadSmartWebToMqttConfig, Program.forEach, Program.foldl,
      Program.wp_bind]
    refine Program.wp_mono (wp_loadClassFile _) ?_ (fun _ _ _ _ he => he)
    intro _ j config _ houtcome
    rw [ClassFile.describes?_ofObject] at houtcome
    cases houtcome
    have hnext : loadSmartWebClass (loadClasses before) data source =
        loadClasses (before ++ [(data, source)]) := by
      rw [loadClasses, loadClasses, List.foldl_append]
      rfl
    have hrest := @ih j (before ++ [(data, source)])
    rw [List.append_assoc, List.singleton_append] at hrest
    rw [hnext]
    exact hrest

theorem loadConfig_ofObject (builtin user : List ClassObject) :
    ∃ i, (loadConfig (builtin.map .ofObject) (user.map .ofObject)).run (fun _ => ()) 0 ⟨∅, 0⟩ =
      (.ok (), i, loadClasses (builtin.map (fun data => (data, .builtin)) ++
        user.map fun data => (data, .user))) := by
  have hwp : (loadConfig (builtin.map .ofObject) (user.map .ofObject)).wp (fun _ => ())
      (fun _ _ after => after = loadClasses (builtin.map (fun data => (data, .builtin)) ++
        user.map fun data => (data, .user))) (fun _ _ _ => False) 0 ⟨∅, 0⟩ := by
    rw [loadConfig, Program.wp_bind]
    refine Program.wp_mono (wp_loadSmartWebToMqttConfig builtin .builtin []) ?_
      (fun _ _ _ _ he => he)
    rintro _ j _ _ rfl
    exact wp_loadSmartWebToMqttConfig user .user _
  obtain ⟨_, i, config, hrun, hconfig⟩ := Program.returns_of_wp hwp
  rw [hconfig] at hrun
  exact ⟨i, hrun⟩

end Sound

def pump : ClassObject where
  className := "PUMP"
  programType := 12
  implements := []
  inputs := none
  outputs := none
  parameters := none

/-- A user file for the pump's type that breaks off at an input. -/
def brokenFile : ClassFile where
  parsed := .ok
    { programType := .ok 12
      className := .ok "BROKEN"
      implements := none
      inputs := some [("flow", .error "Value is not convertible to UInt.")]
      outputs := none
      parameters := none }
  validated := .ok ()

example : (preferred 12 [.ofObject pump] [brokenFile]).map Prod.snd = some .builtin := by decide

example :
    (preferred 12 [.ofObject pump] [brokenFile, .ofObject pump]).map Prod.snd = some .user := by
  decide

end SmartWebGateway
