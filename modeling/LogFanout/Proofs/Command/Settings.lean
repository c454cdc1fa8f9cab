import LogFanout.Command.Arguments
import LogFanout.Proofs.Text.Numeral

/-!
# Settings

What an option of `emit` sets, and from what value (`Setting.Takes`). As long as no option but
`verbose` is given twice, what is kept of the options is what the row of settings says
(`Given.turnOn_ofSettings`, `Given.assign_ofSettings`).
-/

namespace LogFanout.Command

/-- What one option of `emit` sets. -/
inductive Setting where
  | verbose
  | quiet
  | stats
  | logFormat (format : LogFormat)
  | metricsPort (port : UInt16)
  | config (path : String)
  | tag (text : String)
  | level (rank : UInt8)
  deriving DecidableEq

namespace Setting

/-- The option of a setting. -/
@[simp]
def flag : Setting → Flag
  | verbose => .verbose
  | quiet => .quiet
  | stats => .stats
  | logFormat _ => .logFormat
  | metricsPort _ => .metricsPort
  | config _ => .config
  | tag _ => .tag
  | level _ => .level

/-- The value that an option makes a setting from; a switch has none. -/
inductive Takes : Setting → Option String → Prop where
  | verbose : Takes .verbose none
  | quiet : Takes .quiet none
  | stats : Takes .stats none
  | json : Takes (.logFormat .json) (some "json")
  | pretty : Takes (.logFormat .pretty) (some "pretty")
  | compact : Takes (.logFormat .compact) (some "compact")
  | port {text n} :
    Text.Numeral 65535 text.toList (.ok n) →
    Takes (.metricsPort (.ofNat n)) (some text)
  | minusZero {text n} :
    text.toList = '-' :: List.replicate (n + 1) '0' →
    Takes (.metricsPort 0) (some text)
  | config {path} :
    path ≠ "" →
    Takes (.config path) (some path)
  | tag {text} : Takes (.tag text) (some text)
  | number {text n} :
    Text.Numeral 255 text.toList (.ok n) →
    Takes (.level (.ofNat n)) (some text)
  | name {text level} :
    Level.ofName? text = some level →
    Takes (.level level.rank) (some text)

/-- The first setting of an option. -/
def of? (settings : List Setting) (flag : Flag) : Option Setting :=
  settings.find? (·.flag = flag)

@[simp]
def format? : Setting → Option LogFormat
  | logFormat format => some format
  | _ => none

@[simp]
def port? : Setting → Option UInt16
  | metricsPort port => some port
  | _ => none

@[simp]
def path? : Setting → Option String
  | config path => some path
  | _ => none

@[simp]
def tag? : Setting → Option String
  | tag text => some text
  | _ => none

@[simp]
def rank? : Setting → Option UInt8
  | level rank => some rank
  | _ => none

end Setting

/-- Settings that can be made together: only `verbose` is made more than once, and not beside
`quiet`. -/
structure ConflictFree (settings : List Setting) : Prop where
  once : settings.Pairwise fun earlier later => earlier.flag = later.flag → later.flag = .verbose
  loudness : ¬(.quiet ∈ settings ∧ .verbose ∈ settings)

/-- What settings in front of a message ask for. -/
def emission (settings : List Setting) (words : List String) : Invocation where
  globals :=
    { verbose := .ofNat (min (settings.count .verbose) 255)
      quiet := .quiet ∈ settings
      logFormat := ((Setting.of? settings .logFormat).bind Setting.format?).getD .compact
      metricsPort := (Setting.of? settings .metricsPort).bind Setting.port? }
  command := .emit
    { config := (Setting.of? settings .config).bind Setting.path?
      tag := ((Setting.of? settings .tag).bind Setting.tag?).getD "RLOG"
      rank := ((Setting.of? settings .level).bind Setting.rank?).getD 2
      stats := .stats ∈ settings
      words := words }

/-- What is kept of settings. -/
def Given.ofSettings (settings : List Setting) : Given where
  verbose :=
    if settings.count .verbose = 0 then none
    else some (.ofNat (min (settings.count .verbose) 255))
  quiet := .quiet ∈ settings
  logFormat := (Setting.of? settings .logFormat).bind Setting.format?
  metricsPort := (Setting.of? settings .metricsPort).bind Setting.port?
  config := (Setting.of? settings .config).bind Setting.path?
  tag := (Setting.of? settings .tag).bind Setting.tag?
  rank := (Setting.of? settings .level).bind Setting.rank?
  stats := .stats ∈ settings
  json := false

variable {settings : List Setting} {setting : Setting} {text : String}

namespace ConflictFree

lemma left {more : List Setting} (free : ConflictFree (settings ++ more)) :
    ConflictFree settings where
  once := (List.pairwise_append.mp free.once).1
  loudness := fun ⟨quiet, verbose⟩ =>
    free.loudness ⟨List.mem_append_left more quiet, List.mem_append_left more verbose⟩

/-- An option but `verbose` has not been set before. -/
lemma fresh (free : ConflictFree (settings ++ [setting])) (single : setting.flag ≠ .verbose) :
    Setting.of? settings setting.flag = none := by
  refine List.find?_eq_none.mpr fun earlier mem same => single ?_
  have once := (List.pairwise_append.mp free.once).2.2
  exact once earlier mem setting List.mem_cons_self (of_decide_eq_true same)

lemma notMem (free : ConflictFree (settings ++ [setting])) (single : setting.flag ≠ .verbose) :
    setting ∉ settings :=
  fun mem => List.find?_eq_none.mp (free.fresh single) setting mem (decide_eq_true rfl)

end ConflictFree

lemma Setting.of?_concat (settings : List Setting) (setting : Setting) (flag : Flag) :
    of? (settings ++ [setting]) flag =
      (of? settings flag).or (if setting.flag = flag then some setting else none) := by
  rw [of?, List.find?_append, List.find?_singleton]
  simp only [decide_eq_true_eq, of?]

section Values

lemma Setting.Takes.readFormat {format : LogFormat}
    (takes : (Setting.logFormat format).Takes (some text)) :
    Given.readFormat text = .ok format := by
  cases takes <;> rfl

lemma Setting.Takes.readPort {port : UInt16}
    (takes : (Setting.metricsPort port).Takes (some text)) :
    Given.readPort text = .ok port := by
  rw [Given.readPort, Given.readWhole]
  cases takes with
  | port numeral =>
    rw [show Scheme.maxPort = 65535 from rfl, numeral.readNumeral]
    rfl
  | minusZero zeros =>
    have noNumeral : Text.readNumeral Scheme.maxPort text.toList = .error .invalidDigit := by
      rw [zeros, List.replicate_succ]
      rfl
    have minusZero : Given.isMinusZero text.toList = true := by
      rw [zeros, List.replicate_succ, Given.isMinusZero, ← List.replicate_succ, List.all_replicate]
      rfl
    simp only [noNumeral, minusZero, if_true]
    rfl

lemma Setting.Takes.readPath {path : String} (takes : (Setting.config path).Takes (some text)) :
    Given.readPath text = .ok path := by
  cases takes with
  | config some => exact if_neg some

lemma Setting.Takes.readRank {rank : UInt8} (takes : (Setting.level rank).Takes (some text)) :
    Given.readRank text = .ok rank := by
  rw [Given.readRank]
  cases takes with
  | number numeral => rw [numeral.readNumeral]
  | name named =>
    cases read : Text.readNumeral 255 text.toList with
    | error => simp only [named]
    | ok n =>
      -- A name that is a numeral as well is the numeral of its level.
      rw [Level.ofName?, Text.asciiLower_numeral (Text.readNumeral_eq_iff.mp read)] at named
      split at named
      all_goals cases named
      all_goals cases read
      all_goals rfl

end Values

namespace Given

lemma ofSettings_nil : ofSettings [] = nothing := by
  simp [ofSettings, nothing, Setting.of?]

/-- The number of verbose flags stays where it is when it has come to its bound. -/
lemma saturated_succ (count : Nat) :
    (if UInt8.ofNat (min count 255) = 255 then 255 else UInt8.ofNat (min count 255) + 1) =
      UInt8.ofNat (min (count + 1) 255) := by
  rcases Nat.lt_or_ge count 255 with small | large
  · have below : UInt8.ofNat count ≠ 255 := by
      intro same
      have value := congrArg UInt8.toNat same
      rw [UInt8.toNat_ofNat_of_lt' (Nat.lt_succ_of_lt small)] at value
      exact Nat.ne_of_lt small value
    rw [Nat.min_eq_left (Nat.le_of_lt small), if_neg below,
      Nat.min_eq_left (show count + 1 ≤ 255 from small), UInt8.ofNat_add]
    rfl
  · rw [Nat.min_eq_right large, Nat.min_eq_right (Nat.le_succ_of_le large)]
    rfl

lemma verbose_ofSettings (settings : List Setting) :
    (ofSettings settings).verbose.getD 0 = .ofNat (min (settings.count .verbose) 255) := by
  by_cases none : settings.count .verbose = 0
  · rw [ofSettings, if_pos none, none]
    rfl
  · rw [ofSettings, if_neg none]
    rfl

/-- A switch is turned on. -/
lemma turnOn_ofSettings (takes : setting.Takes none) (free : ConflictFree (settings ++ [setting])) :
    (ofSettings settings).turnOn setting.flag = .ok (ofSettings (settings ++ [setting])) := by
  cases takes with
  | verbose =>
    rw [Setting.flag, turnOn, verbose_ofSettings, saturated_succ]
    simp [ofSettings, Setting.of?_concat]
  | quiet =>
    have off : decide (.quiet ∈ settings) = false := decide_eq_false (free.notMem nofun)
    simp [turnOn, onceOn, ofSettings, Setting.of?_concat, off, bind, Except.bind, pure, Except.pure]
  | stats =>
    have off : decide (.stats ∈ settings) = false := decide_eq_false (free.notMem nofun)
    simp [turnOn, onceOn, ofSettings, Setting.of?_concat, off, bind, Except.bind, pure, Except.pure]

lemma once_none {α : Type} {value : Except UsageError α} {x : α} (read : value = .ok x) :
    once none value = .ok (some x) := by
  rw [read]
  rfl

/-- An option is set to a value. -/
lemma assign_ofSettings (takes : setting.Takes (some text))
    (free : ConflictFree (settings ++ [setting])) :
    (ofSettings settings).assign setting.flag text = .ok (ofSettings (settings ++ [setting])) := by
  cases setting with
  | verbose => cases takes
  | quiet => cases takes
  | stats => cases takes
  | logFormat format =>
    have absent : Setting.of? settings .logFormat = none := free.fresh nofun
    rw [Setting.flag, assign, ofSettings, absent, Option.bind_none, once_none takes.readFormat]
    simp [ofSettings, Setting.of?_concat, absent, bind, Except.bind, pure, Except.pure]
  | metricsPort port =>
    have absent : Setting.of? settings .metricsPort = none := free.fresh nofun
    rw [Setting.flag, assign, ofSettings, absent, Option.bind_none, once_none takes.readPort]
    simp [ofSettings, Setting.of?_concat, absent, bind, Except.bind, pure, Except.pure]
  | config path =>
    have absent : Setting.of? settings .config = none := free.fresh nofun
    rw [Setting.flag, assign, ofSettings, absent, Option.bind_none, once_none takes.readPath]
    simp [ofSettings, Setting.of?_concat, absent, bind, Except.bind, pure, Except.pure]
  | tag name =>
    have absent : Setting.of? settings .tag = none := free.fresh nofun
    cases takes
    rw [Setting.flag, assign, ofSettings, absent, Option.bind_none, once_none rfl]
    simp [ofSettings, Setting.of?_concat, absent, bind, Except.bind, pure, Except.pure]
  | level rank =>
    have absent : Setting.of? settings .level = none := free.fresh nofun
    rw [Setting.flag, assign, ofSettings, absent, Option.bind_none, once_none takes.readRank]
    simp [ofSettings, Setting.of?_concat, absent, bind, Except.bind, pure, Except.pure]

@[simp]
lemma orVariable_none {α : Type} (present : Option α) (read : String → Except UsageError α) :
    orVariable present none read = .ok present := by
  cases present <;> rfl

/-- Variables that are not set make no difference. -/
lemma fill_unset (side : Side) (given : Given) : given.fill .unset side = .ok given := by
  rw [fill]
  simp only [Environment.unset, orVariable_none, ite_self]
  rfl

/-- No more than four settings come from the environment. -/
lemma exists_of_fill {environment : Environment} {side : Side} {given filled : Given}
    (fills : given.fill environment side = .ok filled) :
    ∃ config verbose logFormat metricsPort,
      filled = { given with config, verbose, logFormat, metricsPort } := by
  simp only [fill, bind, Except.bind] at fills
  -- Each of the four variables can be wrong; then nothing is filled in.
  split at fills
  · cases fills
  split at fills
  · cases fills
  split at fills
  · cases fills
  split at fills
  · cases fills
  cases fills
  exact ⟨_, _, _, _, rfl⟩

end Given

end LogFanout.Command
