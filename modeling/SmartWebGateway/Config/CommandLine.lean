import SmartWebGateway.Poller.Classes
import Mathlib.Tactic

/-!
# The command line

`getopt` goes through the arguments and leaves out the words that are no
options. Every letter in its string wants a value, which stands in the same word
or is the next word, whatever that is. `-i` is described in the usage and handled
in the loop, but is not in the string.
-/
namespace SmartWebGateway

open TSmartWebClass

/-- The loggers that `ApplyDebugParam` turns on and off. -/
inductive DebugLogger where
  | errorMqttToSw
  | warnMqttToSw
  | infoMqttToSw
  | debugMqttToSw
  | errorSwToMqtt
  | warnSwToMqtt
  | infoSwToMqtt
  | debugSwToMqtt
  | info
  | debug
  deriving DecidableEq

@[ext]
structure CommandLine where
  enabled : DebugLogger → Bool
  configFile : String
  port : ℤ
  host : String
  topicPrefix : String
  user : String
  password : String
  interfaceName : String

def mainOptions : CommandLine where
  enabled logger := logger ∉ [.debugMqttToSw, .debugSwToMqtt, .debug]
  configFile := "/etc/wb-mqtt-smartweb.conf"
  port := 1883
  host := "localhost"
  topicPrefix := ""
  user := ""
  password := ""
  interfaceName := "can0"

/-- How a command line ends the process: with the usage and the exit status 2, or with an exception
that nobody catches. -/
inductive CommandLineEnd where
  | usage
  | uncaught (what : String)
  deriving DecidableEq

/-- An option as `getopt` returns it, with `optarg`. -/
structure OptionGiven where
  letter : Char
  value : String
  deriving DecidableEq

def stoi (text : String) : Except CommandLineEnd ℤ :=
  let digits (rest : List Char) (sign : ℤ) : Except CommandLineEnd ℤ :=
    if (rest.head?.any Char.isDigit) then
      let number := sign * leadingNumber 0 rest
      if -2 ^ 31 ≤ number ∧ number < 2 ^ 31 then .ok number else .error (.uncaught "stoi")
    else .error (.uncaught "stoi")
  match text.toList.dropWhile (· ∈ [' ', '\t', '\n', '\x0b', '\x0c', '\r']) with
  | '-' :: rest => digits rest (-1)
  | '+' :: rest => digits rest 1
  | rest => digits rest 1

def debugParam (debugLevel : ℤ) : Except CommandLineEnd (DebugLogger → Option Bool) :=
  let turn (value : Bool) (loggers : List DebugLogger) (logger : DebugLogger) : Option Bool :=
    if logger ∈ loggers then some value else none
  let mqttToSw := [.errorMqttToSw, .warnMqttToSw, .infoMqttToSw, .debugMqttToSw]
  let swToMqtt := [.errorSwToMqtt, .warnSwToMqtt, .infoSwToMqtt, .debugSwToMqtt]
  if debugLevel = 0 then .ok (turn true [])
  else if debugLevel = -1 then .ok (turn false mqttToSw)
  else if debugLevel = -2 then .ok (turn false swToMqtt)
  else if debugLevel = -3 then .ok (turn false [.info])
  else if debugLevel = -4 then .ok (turn false (mqttToSw ++ swToMqtt ++ [.info]))
  else if debugLevel = 1 then .ok (turn true [.debugMqttToSw])
  else if debugLevel = 2 then .ok (turn true [.debugSwToMqtt])
  else if debugLevel = 3 then .ok (turn true [.debug])
  else if debugLevel = 4 then .ok (turn true [.debugMqttToSw, .debugSwToMqtt, .debug])
  else .error .usage

def applyDebugParam (options : CommandLine) (debugLevel : ℤ) :
    Except CommandLineEnd CommandLine := do
  let turned ← debugParam debugLevel
  return { options with enabled := fun logger => (turned logger).getD (options.enabled logger) }

/-- The letters of the option string, each of which has a colon behind it. -/
def optionLetters : List Char := ['d', 'c', 'g', 'p', 'h', 'H', 'T', 'u', 'P']

/-- What `getopt` returns call by call before it returns -1, where `none` is `'?'`, after which
it is not called again. Words that are no options move behind those that are; two dashes end the
options. -/
def getopt (letters : List Char) : List String → List (Option OptionGiven)
  | [] => []
  | arg :: rest =>
    match arg.toList with
    | ['-', '-'] => []
    | ['-', letter] =>
      if letter ∈ letters then
        match rest with
        | [] => [none]
        | value :: rest => some ⟨letter, value⟩ :: getopt letters rest
      else [none]
    | '-' :: letter :: glued =>
      if letter ∈ letters then some ⟨letter, String.ofList glued⟩ :: getopt letters rest
      else [none]
    | _ => getopt letters rest

def handleOption (options : CommandLine) : Option OptionGiven → Except CommandLineEnd CommandLine
  | some ⟨'d', optarg⟩ => do applyDebugParam options (← stoi optarg)
  | some ⟨'c', optarg⟩ => .ok { options with configFile := optarg }
  | some ⟨'p', optarg⟩ => do return { options with port := ← stoi optarg }
  | some ⟨'h', optarg⟩ | some ⟨'H', optarg⟩ => .ok { options with host := optarg }
  | some ⟨'T', optarg⟩ => .ok { options with topicPrefix := optarg }
  | some ⟨'u', optarg⟩ => .ok { options with user := optarg }
  | some ⟨'P', optarg⟩ => .ok { options with password := optarg }
  | some ⟨'i', optarg⟩ => .ok { options with interfaceName := optarg }
  | _ => .error .usage

def parseCommandLine (options : CommandLine) (args : List String) :
    Except CommandLineEnd CommandLine :=
  (getopt optionLetters args).foldlM handleOption options

/-- A piece of a command line: a word that is no option, or an option whose value stands in the
same word or in the next one. -/
inductive ArgumentItem where
  | word (text : String)
  | glued (given : OptionGiven)
  | separate (given : OptionGiven)

namespace ArgumentItem

def words : ArgumentItem → List String
  | .word text => [text]
  | .glued given => [String.ofList ('-' :: given.letter :: given.value.toList)]
  | .separate given => [String.ofList ['-', given.letter], given.value]

def option? : ArgumentItem → Option OptionGiven
  | .word _ => none
  | .glued given | .separate given => some given

def WellFormed (letters : List Char) : ArgumentItem → Prop
  | .word text => ∀ letter glued, text.toList ≠ '-' :: letter :: glued
  | .glued given => given.letter ∈ letters ∧ given.value.toList ≠ []
  | .separate given => given.letter ∈ letters

end ArgumentItem

def EndsOptions (tail : List String) : Prop := tail = [] ∨ tail.head? = some "--"

section Getopt

variable {letters : List Char} {args tail : List String} {items : List ArgumentItem}

theorem getopt_word {text : String} (h : ∀ letter glued, text.toList ≠ '-' :: letter :: glued) :
    getopt letters (text :: tail) = getopt letters tail := by
  rw [getopt]
  split
  · exact absurd ‹_› (h _ _)
  · exact absurd ‹_› (h _ _)
  · exact absurd ‹_› (h _ _)
  · rfl

theorem getopt_glued {arg : String} {letter : Char} {glued : List Char}
    (harg : arg.toList = '-' :: letter :: glued) (hletter : letter ∈ letters)
    (hglued : glued ≠ []) :
    getopt letters (arg :: tail) =
      some ⟨letter, String.ofList glued⟩ :: getopt letters tail := by
  obtain ⟨first, glued, rfl⟩ := List.exists_cons_of_ne_nil hglued
  rw [getopt, harg]
  simp [hletter]

theorem getopt_separate {arg : String} {letter : Char} (harg : arg.toList = ['-', letter])
    (hletter : letter ∈ letters) (hne : letter ≠ '-') (value : String) :
    getopt letters (arg :: value :: tail) = some ⟨letter, value⟩ :: getopt letters tail := by
  rw [getopt, harg]
  simp [hletter]

theorem getopt_missing {arg : String} {letter : Char} (harg : arg.toList = ['-', letter])
    (hletter : letter ∈ letters) (hne : letter ≠ '-') : getopt letters [arg] = [none] := by
  rw [getopt, harg]
  simp [hletter]

theorem getopt_unknown {arg : String} {letter : Char} {glued : List Char}
    (harg : arg.toList = '-' :: letter :: glued) (hletter : letter ∉ letters)
    (hdashes : letter = '-' → glued ≠ []) : getopt letters (arg :: tail) = [none] := by
  rw [getopt, harg]
  cases glued with
  | nil =>
    have hne : letter ≠ '-' := fun heq => hdashes heq rfl
    simp [hletter]
  | cons => simp [hletter]

theorem getopt_append (hletters : '-' ∉ letters)
    (hitems : ∀ item ∈ items, item.WellFormed letters) :
    getopt letters (items.flatMap ArgumentItem.words ++ tail) =
      (items.filterMap ArgumentItem.option?).map some ++ getopt letters tail := by
  induction items with
  | nil => rfl
  | cons item items ih =>
    have hitem := hitems item List.mem_cons_self
    have hrest := ih fun item hmem => hitems item (List.mem_cons_of_mem _ hmem)
    rw [List.flatMap_cons, List.append_assoc]
    cases item with
    | word text =>
      rw [ArgumentItem.words, List.singleton_append, getopt_word hitem, hrest]
      rfl
    | glued given =>
      rw [ArgumentItem.words, List.singleton_append,
        getopt_glued String.toList_ofList hitem.1 hitem.2, hrest, String.ofList_toList]
      rfl
    | separate given =>
      have hne : given.letter ≠ '-' := fun heq => hletters (heq ▸ hitem)
      rw [ArgumentItem.words, List.cons_append, List.singleton_append,
        getopt_separate String.toList_ofList hitem hne, hrest]
      rfl

/-- Every command line is read up to its end, to two dashes, or to what `getopt` refuses. -/
theorem exists_items (letters : List Char) (args : List String) :
    ∃ (items : List ArgumentItem) (tail : List String),
      args = items.flatMap ArgumentItem.words ++ tail ∧
      (∀ item ∈ items, item.WellFormed letters) ∧
      (EndsOptions tail ∨ getopt letters tail = [none]) := by
  induction args using getopt.induct letters with
  | case1 => exact ⟨[], [], rfl, by simp, Or.inl (Or.inl rfl)⟩
  | case2 arg rest hdashes =>
    obtain rfl : arg = "--" := String.toList_inj.mp hdashes
    exact ⟨[], _, rfl, by simp, Or.inl (Or.inr rfl)⟩
  | case3 arg letter hne harg hletter =>
    exact ⟨[], _, rfl, by simp, Or.inr (getopt_missing harg hletter hne)⟩
  | case4 arg letter hne harg hletter value rest ih =>
    obtain ⟨items, tail, rfl, hitems, htail⟩ := ih
    refine ⟨.separate ⟨letter, value⟩ :: items, tail, ?_,
      List.forall_mem_cons.mpr ⟨hletter, hitems⟩, htail⟩
    simp [ArgumentItem.words, ← harg]
  | case5 arg rest letter hne harg hletter =>
    exact ⟨[], _, rfl, by simp, Or.inr (getopt_unknown harg hletter fun heq => (hne heq).elim)⟩
  | case6 arg rest letter glued _ hglued harg hletter ih =>
    obtain ⟨items, tail, rfl, hitems, htail⟩ := ih
    refine ⟨.glued ⟨letter, String.ofList glued⟩ :: items, tail, ?_,
      List.forall_mem_cons.mpr ⟨⟨hletter, ?_⟩, hitems⟩, htail⟩
    · simp [ArgumentItem.words, ← harg]
    · rw [String.toList_ofList]
      exact hglued
  | case7 arg rest letter glued hdashes _ harg hletter =>
    exact ⟨[], _, rfl, by simp, Or.inr (getopt_unknown harg hletter hdashes)⟩
  | case8 arg rest _ _ hword ih =>
    obtain ⟨items, tail, rfl, hitems, htail⟩ := ih
    exact ⟨.word arg :: items, tail, rfl, List.forall_mem_cons.mpr ⟨hword, hitems⟩, htail⟩

end Getopt

namespace OptionGiven

def latest {β : Type} (reads : OptionGiven → Option β) (givens : List OptionGiven) : Option β :=
  givens.reverse.findSome? reads

def text (letters : List Char) (given : OptionGiven) : Option String :=
  if given.letter ∈ letters then some given.value else none

def port (given : OptionGiven) : Option ℤ :=
  (given.text ['p']).bind fun value => (stoi value).toOption

def turns (logger : DebugLogger) (given : OptionGiven) : Option Bool :=
  (given.text ['d']).bind fun value => (stoi value).toOption.bind fun debugLevel =>
    (debugParam debugLevel).toOption.bind fun turned => turned logger

structure Usable (given : OptionGiven) : Prop where
  handled : given.letter ≠ 'g'
  port : given.letter = 'p' → ∃ port, stoi given.value = .ok port
  level : given.letter = 'd' → ∃ level, stoi given.value = .ok level ∧ -4 ≤ level ∧ level ≤ 4

end OptionGiven

def CommandLine.set (options : CommandLine) (given : OptionGiven) : CommandLine where
  enabled logger := (given.turns logger).getD (options.enabled logger)
  configFile := (given.text ['c']).getD options.configFile
  port := given.port.getD options.port
  host := (given.text ['h', 'H']).getD options.host
  topicPrefix := (given.text ['T']).getD options.topicPrefix
  user := (given.text ['u']).getD options.user
  password := (given.text ['P']).getD options.password
  interfaceName := options.interfaceName

open OptionGiven in
/-- What is in force after these options: of each kind the last one. -/
structure CommandLine.SetBy (options : CommandLine) (givens : List OptionGiven)
    (after : CommandLine) : Prop where
  enabled : ∀ logger, after.enabled logger =
    (latest (·.turns logger) givens).getD (options.enabled logger)
  configFile : after.configFile = (latest (·.text ['c']) givens).getD options.configFile
  port : after.port = (latest (·.port) givens).getD options.port
  host : after.host = (latest (·.text ['h', 'H']) givens).getD options.host
  topicPrefix : after.topicPrefix = (latest (·.text ['T']) givens).getD options.topicPrefix
  user : after.user = (latest (·.text ['u']) givens).getD options.user
  password : after.password = (latest (·.text ['P']) givens).getD options.password
  interfaceName : after.interfaceName = options.interfaceName

section Options

open OptionGiven

variable {options after : CommandLine} {given : OptionGiven} {givens : List OptionGiven}
  {level : ℤ} {letter : Char} {value : String}

theorem exists_debugParam_iff :
    (∃ turned, debugParam level = .ok turned) ↔ -4 ≤ level ∧ level ≤ 4 := by
  constructor
  · rintro ⟨turned, h⟩
    unfold debugParam at h
    split_ifs at h <;> omega
  · rintro ⟨hlow, hhigh⟩
    interval_cases level <;> exact ⟨_, rfl⟩

theorem handleOption_stored (hletter : letter ∉ ['g', 'p', 'd'])
    (hset : handleOption options (some ⟨letter, value⟩) = .ok (options.set ⟨letter, value⟩)) :
    handleOption options (some ⟨letter, value⟩) = .ok after ↔
      OptionGiven.Usable ⟨letter, value⟩ ∧ after = options.set ⟨letter, value⟩ := by
  simp only [List.mem_cons, List.not_mem_nil, or_false, not_or] at hletter
  obtain ⟨hg, hp, hd⟩ := hletter
  have husable : OptionGiven.Usable ⟨letter, value⟩ :=
    ⟨hg, fun heq => absurd heq hp, fun heq => absurd heq hd⟩
  rw [hset, Except.ok.injEq, eq_comm]
  exact (and_iff_right husable).symm

theorem handleOption_port :
    handleOption options (some ⟨'p', value⟩) = .ok after ↔
      OptionGiven.Usable ⟨'p', value⟩ ∧ after = options.set ⟨'p', value⟩ := by
  cases hport : stoi value with
  | error what =>
    refine iff_of_false ?_ ?_
    · simp only [handleOption, hport]
      exact nofun
    · rintro ⟨husable, _⟩
      obtain ⟨port, heq⟩ := husable.port rfl
      rw [hport] at heq
      cases heq
  | ok port =>
    have husable : OptionGiven.Usable ⟨'p', value⟩ := ⟨by simp, fun _ => ⟨port, hport⟩, by simp⟩
    have hset : options.set ⟨'p', value⟩ = { options with port := port } := by
      simp [CommandLine.set, OptionGiven.text, OptionGiven.port, OptionGiven.turns, hport,
        Except.toOption]
    have hhandle :
        handleOption options (some ⟨'p', value⟩) = .ok { options with port := port } := by
      simp only [handleOption, hport]
      rfl
    rw [hhandle, hset, Except.ok.injEq, eq_comm]
    exact (and_iff_right husable).symm

theorem handleOption_level :
    handleOption options (some ⟨'d', value⟩) = .ok after ↔
      OptionGiven.Usable ⟨'d', value⟩ ∧ after = options.set ⟨'d', value⟩ := by
  have hhandle : handleOption options (some ⟨'d', value⟩) =
      (stoi value).bind fun level => (debugParam level).bind fun turned =>
        .ok { options with
          enabled := fun logger => (turned logger).getD (options.enabled logger) } := rfl
  rw [hhandle]
  cases hlevel : stoi value with
  | error what =>
    refine iff_of_false nofun ?_
    rintro ⟨husable, _⟩
    obtain ⟨level, heq, _⟩ := husable.level rfl
    rw [hlevel] at heq
    cases heq
  | ok level =>
    rw [Except.bind]
    cases hturned : debugParam level with
    | error what =>
      refine iff_of_false nofun ?_
      rintro ⟨husable, _⟩
      obtain ⟨level', heq, hbounds⟩ := husable.level rfl
      obtain rfl := Except.ok.inj (hlevel.symm.trans heq)
      obtain ⟨turned, heq⟩ := exists_debugParam_iff.mpr hbounds
      rw [hturned] at heq
      cases heq
    | ok turned =>
      have husable : OptionGiven.Usable ⟨'d', value⟩ :=
        ⟨by simp, by simp, fun _ => ⟨level, hlevel, exists_debugParam_iff.mp ⟨turned, hturned⟩⟩⟩
      have hset : options.set ⟨'d', value⟩ =
          { options with
            enabled := fun logger => (turned logger).getD (options.enabled logger) } := by
        simp [CommandLine.set, OptionGiven.text, OptionGiven.port, OptionGiven.turns, hlevel,
          hturned, Except.toOption]
      rw [Except.bind, hset, Except.ok.injEq, eq_comm]
      exact (and_iff_right husable).symm

theorem handleOption_eq_ok_iff (hletter : given.letter ∈ optionLetters) :
    handleOption options (some given) = .ok after ↔ given.Usable ∧ after = options.set given := by
  obtain ⟨letter, value⟩ := given
  simp only [optionLetters, List.mem_cons, List.not_mem_nil, or_false] at hletter
  rcases hletter with rfl | rfl | rfl | rfl | rfl | rfl | rfl | rfl | rfl
  · exact handleOption_level
  · exact handleOption_stored (by decide) rfl
  · exact iff_of_false nofun fun h => h.1.handled rfl
  · exact handleOption_port
  · exact handleOption_stored (by decide) rfl
  · exact handleOption_stored (by decide) rfl
  · exact handleOption_stored (by decide) rfl
  · exact handleOption_stored (by decide) rfl
  · exact handleOption_stored (by decide) rfl

theorem foldlM_handleOption (hletters : ∀ given ∈ givens, given.letter ∈ optionLetters) :
    (givens.map some).foldlM handleOption options = .ok after ↔
      (∀ given ∈ givens, given.Usable) ∧ after = givens.foldl CommandLine.set options := by
  induction givens generalizing options with
  | nil => simp [Pure.pure, Except.pure, eq_comm]
  | cons given givens ih =>
    obtain ⟨hletter, hrest⟩ := List.forall_mem_cons.mp hletters
    rw [List.map_cons, List.foldlM_cons, List.forall_mem_cons, List.foldl_cons]
    constructor
    · intro h
      cases hhandle : handleOption options (some given) with
      | error what =>
        rw [hhandle] at h
        cases h
      | ok middle =>
        rw [hhandle] at h
        obtain ⟨husable, rfl⟩ := (handleOption_eq_ok_iff hletter).mp hhandle
        obtain ⟨husables, hafter⟩ := (ih hrest).mp h
        exact ⟨⟨husable, husables⟩, hafter⟩
    · rintro ⟨⟨husable, husables⟩, rfl⟩
      have hhandle : handleOption options (some given) = .ok (options.set given) :=
        (handleOption_eq_ok_iff hletter).mpr ⟨husable, rfl⟩
      rw [hhandle]
      exact (ih hrest).mpr ⟨husables, rfl⟩

theorem foldl_set {β : Type} {field : CommandLine → β} {reads : OptionGiven → Option β}
    (h : ∀ options given, field (options.set given) = (reads given).getD (field options)) :
    field (givens.foldl CommandLine.set options) = (latest reads givens).getD (field options) := by
  induction givens generalizing options with
  | nil => rfl
  | cons given givens ih =>
    rw [List.foldl_cons, ih, h, latest, latest, List.reverse_cons, List.findSome?_append]
    cases List.findSome? reads givens.reverse with
    | none => cases hreads : reads given <;> simp [hreads]
    | some value => rfl

theorem setBy_foldl (options : CommandLine) (givens : List OptionGiven) :
    options.SetBy givens (givens.foldl CommandLine.set options) where
  enabled logger := @foldl_set _ _ _ (fun options => options.enabled logger) _ fun _ _ => rfl
  configFile := foldl_set fun _ _ => rfl
  port := foldl_set fun _ _ => rfl
  host := foldl_set fun _ _ => rfl
  topicPrefix := foldl_set fun _ _ => rfl
  user := foldl_set fun _ _ => rfl
  password := foldl_set fun _ _ => rfl
  interfaceName := by
    induction givens generalizing options with
    | nil => rfl
    | cons given givens ih => exact ih _

theorem CommandLine.setBy_iff :
    options.SetBy givens after ↔ after = givens.foldl CommandLine.set options := by
  constructor
  · intro h
    have hfold := setBy_foldl options givens
    ext1
    · funext logger
      rw [h.enabled, hfold.enabled]
    · rw [h.configFile, hfold.configFile]
    · rw [h.port, hfold.port]
    · rw [h.host, hfold.host]
    · rw [h.topicPrefix, hfold.topicPrefix]
    · rw [h.user, hfold.user]
    · rw [h.password, hfold.password]
    · rw [h.interfaceName, hfold.interfaceName]
  · rintro rfl
    exact setBy_foldl options givens

end Options

section Parsing

variable {options after : CommandLine} {items : List ArgumentItem} {args tail : List String}

theorem letter_mem_of_option? (hitems : ∀ item ∈ items, item.WellFormed optionLetters) :
    ∀ given ∈ items.filterMap ArgumentItem.option?, given.letter ∈ optionLetters := by
  intro given hgiven
  obtain ⟨item, hmem, hoption⟩ := List.mem_filterMap.mp hgiven
  have hitem := hitems item hmem
  cases item with
  | word text => cases hoption
  | glued given =>
    obtain rfl := Option.some.inj hoption
    exact hitem.1
  | separate given =>
    obtain rfl := Option.some.inj hoption
    exact hitem

theorem getopt_ends (h : EndsOptions tail) : getopt optionLetters tail = [] := by
  rcases h with rfl | hdashes
  · rfl
  · obtain ⟨rest, rfl⟩ := List.head?_eq_some_iff.mp hdashes
    have hwords : "--".toList = ['-', '-'] := rfl
    rw [getopt, hwords]
    rfl

theorem parseCommandLine_append (hitems : ∀ item ∈ items, item.WellFormed optionLetters) :
    parseCommandLine options (items.flatMap ArgumentItem.words ++ tail) = (do
      let middle ← ((items.filterMap ArgumentItem.option?).map some).foldlM handleOption options
      parseCommandLine middle tail) := by
  rw [parseCommandLine, getopt_append (by decide) hitems, List.foldlM_append]
  rfl

/-- Words and options that `getopt` knows, with values that the loop gets past. -/
structure AcceptableItems (items : List ArgumentItem) : Prop where
  wellFormed : ∀ item ∈ items, item.WellFormed optionLetters
  usable : ∀ given ∈ items.filterMap ArgumentItem.option?, given.Usable

theorem AcceptableItems.parseCommandLine_append (h : AcceptableItems items)
    (options : CommandLine) (tail : List String) :
    ∃ middle, options.SetBy (items.filterMap ArgumentItem.option?) middle ∧
      parseCommandLine options (items.flatMap ArgumentItem.words ++ tail) =
        parseCommandLine middle tail := by
  have hmiddle : ((items.filterMap ArgumentItem.option?).map some).foldlM handleOption options =
      .ok ((items.filterMap ArgumentItem.option?).foldl CommandLine.set options) :=
    (foldlM_handleOption (letter_mem_of_option? h.wellFormed)).mpr ⟨h.usable, rfl⟩
  refine ⟨_, setBy_foldl _ _, ?_⟩
  rw [SmartWebGateway.parseCommandLine_append h.wellFormed, hmiddle]
  rfl

/-- The options are accepted exactly if the command line consists of words and of options that
`getopt` knows, up to two dashes if there are any, no option is `-g`, the port is a number and the
debug level one of the nine; the last option of each kind is then in force. -/
theorem parseCommandLine_eq_ok_iff :
    parseCommandLine options args = .ok after ↔
      ∃ (items : List ArgumentItem) (tail : List String),
        args = items.flatMap ArgumentItem.words ++ tail ∧ EndsOptions tail ∧ AcceptableItems items ∧
        options.SetBy (items.filterMap ArgumentItem.option?) after := by
  constructor
  · intro h
    obtain ⟨items, tail, rfl, hitems, htail⟩ := exists_items optionLetters args
    rw [parseCommandLine_append hitems] at h
    cases hmiddle :
      ((items.filterMap ArgumentItem.option?).map some).foldlM handleOption options with
    | error what =>
      rw [hmiddle] at h
      cases h
    | ok middle =>
      rw [hmiddle] at h
      change parseCommandLine middle tail = .ok after at h
      rcases htail with hends | hrefused
      · rw [parseCommandLine, getopt_ends hends] at h
        obtain rfl : middle = after := Except.ok.inj h
        obtain ⟨husable, hafter⟩ := (foldlM_handleOption (letter_mem_of_option? hitems)).mp hmiddle
        exact ⟨items, tail, rfl, hends, ⟨hitems, husable⟩, CommandLine.setBy_iff.mpr hafter⟩
      · rw [parseCommandLine, hrefused] at h
        cases h
  · rintro ⟨items, tail, rfl, hends, hitems, hset⟩
    obtain ⟨middle, hmiddle, hparse⟩ := hitems.parseCommandLine_append options tail
    obtain rfl : middle = after :=
      (CommandLine.setBy_iff.mp hmiddle).trans (CommandLine.setBy_iff.mp hset).symm
    rw [hparse, parseCommandLine, getopt_ends hends]
    rfl

/-- A command line is accepted exactly if it consists of words and of options that `getopt` knows,
up to two dashes if there are any, no option is `-g`, every port is a number and every debug level
one of the nine; the last option of each kind is then in force. An `-i` for the interface ends the
process with the usage, wherever it stands among the options. -/
theorem command_line_accepted_iff (options : CommandLine) (args : List String) :
    (∀ after, parseCommandLine options args = .ok after ↔
      ∃ (items : List ArgumentItem) (tail : List String),
        args = items.flatMap ArgumentItem.words ++ tail ∧ EndsOptions tail ∧ AcceptableItems items ∧
        options.SetBy (items.filterMap ArgumentItem.option?) after) ∧
    ∀ (items : List ArgumentItem) (arg : String) (glued : List Char) (rest : List String),
      AcceptableItems items → arg.toList = '-' :: 'i' :: glued →
        args = items.flatMap ArgumentItem.words ++ arg :: rest →
          parseCommandLine options args = .error .usage := by
  refine ⟨fun after => parseCommandLine_eq_ok_iff, ?_⟩
  rintro items arg glued rest hitems harg rfl
  obtain ⟨middle, _, hparse⟩ := hitems.parseCommandLine_append options (arg :: rest)
  rw [hparse, parseCommandLine, getopt_unknown harg (by decide) (by simp)]
  rfl

end Parsing

example : (parseCommandLine mainOptions ["-p1884", "x", "-h", "-p", "-p", "1885"]).map
    (fun options => (options.host, options.port)) = .ok ("-p", 1885) := by
  decide +kernel

end SmartWebGateway
