import LogFanout.Command.Invocation
import LogFanout.Target
import LogFanout.Text.Cut

/-!
# Scanning the words of a command line

One side of a command line is the words before the name of the command, or those after it. The
options of a side are gathered one word at a time. A value that stands in a word of its own is
looked at only when the next known option, the message or the end of the side is reached.
-/

namespace LogFanout.Command

/-- The sides of a command line, by the options known there. -/
inductive Side where
  | before
  | emit
  | validate
  | info
  deriving DecidableEq, Repr

/-- An option. -/
inductive Flag where
  | verbose
  | quiet
  | logFormat
  | metricsPort
  | help
  | version
  | config
  | tag
  | level
  | stats
  | json
  deriving DecidableEq, Repr

/-- Whether an option takes a value. -/
def Flag.takesValue : Flag → Bool
  | .logFormat | .metricsPort | .config | .tag | .level => true
  | .verbose | .quiet | .help | .version | .stats | .json => false

/-- The options known on a side. -/
def Side.knows : Side → Flag → Bool
  | _, .verbose | _, .quiet | _, .logFormat | _, .metricsPort | _, .help => true
  | side, .version => side = .before
  | side, .config => side ≠ .before
  | side, .tag | side, .level | side, .stats => side = .emit
  | side, .json => side = .validate || side = .info

/-- The option of a long name. -/
def Flag.ofName? : String → Option Flag
  | "verbose" => some .verbose
  | "quiet" => some .quiet
  | "log-format" => some .logFormat
  | "metrics-port" => some .metricsPort
  | "help" => some .help
  | "version" => some .version
  | "config" => some .config
  | "tag" => some .tag
  | "level" => some .level
  | "stats" => some .stats
  | "json" => some .json
  | _ => none

/-- The option of a letter. -/
def Flag.ofLetter? (c : Char) : Option Flag :=
  if c = 'v' then some .verbose
  else if c = 'q' then some .quiet
  else if c = 'h' then some .help
  else if c = 'V' then some .version
  else if c = 'c' then some .config
  else if c = 't' then some .tag
  else if c = 'l' then some .level
  else none

/-- The option of a long name on a side. -/
def Side.named? (side : Side) (name : String) : Option Flag :=
  (Flag.ofName? name).filter side.knows

/-- The option of a letter on a side. -/
def Side.lettered? (side : Side) (c : Char) : Option Flag :=
  (Flag.ofLetter? c).filter side.knows

/-- What the options of a side have set. -/
structure Given where
  /-- The number of verbose flags, if there are any. -/
  verbose : Option UInt8
  quiet : Bool
  logFormat : Option LogFormat
  metricsPort : Option UInt16
  config : Option String
  tag : Option String
  rank : Option UInt8
  stats : Bool
  json : Bool
  deriving DecidableEq, Repr

namespace Given

/-- Nothing set. -/
def nothing : Given :=
  ⟨none, false, none, none, none, none, none, false, false⟩

/-- Sets an option that must not be set twice. -/
def once {α : Type} (present : Option α) (value : Except UsageError α) :
    Except UsageError (Option α) :=
  if present.isSome then .error .argumentConflict else value.map some

/-- Sets a flag that must not be set twice. -/
def onceOn (present : Bool) : Except UsageError Bool :=
  if present then .error .argumentConflict else .ok true

/-- The level of a text: a number, or the name of a level. -/
def readRank (text : String) : Except UsageError UInt8 :=
  match Text.readNumeral 255 text.toList with
  | .ok n => .ok (UInt8.ofNat n)
  | .error _ =>
    match Level.ofName? text with
    | some level => .ok level.rank
    | none => .error .valueValidation

/-- Whether a text is a zero with a minus sign. -/
def isMinusZero : List Char → Bool
  | '-' :: c :: cs => (c :: cs).all (· = '0')
  | _ => false

/-- The number of a text, at most `bound`: a whole number with a sign or without. -/
def readWhole (bound : Nat) (text : String) : Except UsageError Nat :=
  match Text.readNumeral bound text.toList with
  | .ok n => .ok n
  | .error _ => if isMinusZero text.toList then .ok 0 else .error .valueValidation

/-- The port of a text. -/
def readPort (text : String) : Except UsageError UInt16 :=
  (readWhole Scheme.maxPort text).map UInt16.ofNat

/-- The number of verbose flags that a text stands for. -/
def readCount (text : String) : Except UsageError UInt8 :=
  (readWhole 255 text).map UInt8.ofNat

/-- The log format of a text. -/
def readFormat (text : String) : Except UsageError LogFormat :=
  match LogFormat.ofName? text with
  | some format => .ok format
  | none => .error .invalidValue

/-- The path of a text. -/
def readPath (text : String) : Except UsageError String :=
  if text = "" then .error .invalidValue else .ok text

/-- Sets an option to a value. -/
def assign (given : Given) (flag : Flag) (text : String) : Except UsageError Given :=
  match flag with
  | .logFormat => do
    return { given with logFormat := ← once given.logFormat (readFormat text) }
  | .metricsPort => do
    return { given with metricsPort := ← once given.metricsPort (readPort text) }
  | .config => do
    return { given with config := ← once given.config (readPath text) }
  | .tag => do
    return { given with tag := ← once given.tag (.ok text) }
  | .level => do
    return { given with rank := ← once given.rank (readRank text) }
  | _ => .error .tooManyValues

/-- Sets an option that takes no value. -/
def turnOn (given : Given) (flag : Flag) : Except UsageError Given :=
  match flag with
  | .verbose =>
    let count := given.verbose.getD 0
    .ok { given with verbose := some (if count = 255 then 255 else count + 1) }
  | .quiet => do
    return { given with quiet := ← onceOn given.quiet }
  | .stats => do
    return { given with stats := ← onceOn given.stats }
  | .json => do
    return { given with json := ← onceOn given.json }
  | .help => .error .displayHelp
  | .version => .error .displayVersion
  | _ => .error .invalidValue

/-- An option that is not given has the value of its variable, if that is set. -/
def orVariable {α : Type} (present : Option α) (text? : Option String)
    (read : String → Except UsageError α) : Except UsageError (Option α) :=
  match present, text? with
  | none, some text => (read text).map some
  | present, _ => .ok present

/-- What is set on a side, by its options or by the environment. -/
def fill (environment : Environment) (side : Side) (given : Given) : Except UsageError Given := do
  let path := if side = .emit then environment.config else none
  let config ← orVariable given.config path readPath
  let verbose ← orVariable given.verbose environment.verbose readCount
  let logFormat ← orVariable given.logFormat environment.logFormat readFormat
  let metricsPort ← orVariable given.metricsPort environment.metricsPort readPort
  return { given with config, verbose, logFormat, metricsPort }

/-- Whether two options exclude each other. -/
def inConflict (given : Given) : Bool :=
  given.quiet && given.verbose.isSome

/-- Whether no option is set. -/
def isNothing (given : Given) : Bool :=
  given = nothing

end Given

/-- A side while its words are being read. -/
structure Scan where
  given : Given
  /-- An option whose value has not been looked at, and the value if it has been reached. -/
  pending : Option (Flag × Option String)
  deriving DecidableEq, Repr

namespace Scan

/-- A side of which nothing has been read. -/
def start : Scan :=
  ⟨.nothing, none⟩

/-- The option that the next word is the value of. -/
def awaiting (scan : Scan) : Option Flag :=
  match scan.pending with
  | some (flag, none) => some flag
  | _ => none

/-- Looks at the value that has not been looked at. -/
def settle (scan : Scan) : Except UsageError Given :=
  match scan.pending with
  | none => .ok scan.given
  | some (_, none) => .error .invalidValue
  | some (flag, some text) => scan.given.assign flag text

/-- Reads an option without a value. -/
def turnOn (scan : Scan) (flag : Flag) : Except UsageError Scan := do
  let given ← scan.settle
  let given ← given.turnOn flag
  return ⟨given, none⟩

/-- Reads an option with its value. -/
def assign (scan : Scan) (flag : Flag) (text : String) : Except UsageError Scan := do
  let given ← scan.settle
  let given ← given.assign flag text
  return ⟨given, none⟩

/-- Reads an option whose value is the next word. -/
def await (scan : Scan) (flag : Flag) : Except UsageError Scan := do
  let given ← scan.settle
  return ⟨given, some (flag, none)⟩

/-- Reads an option by its long name, with the value after an equals sign if there is one. -/
def readLong (side : Side) (name : String) (value : Option String) (scan : Scan) :
    Except UsageError Scan :=
  match side.named? name with
  | none => .error .unknownArgument
  | some flag =>
    match flag.takesValue, value with
    | true, some text => scan.assign flag text
    | true, none => scan.await flag
    | false, some _ => .error .tooManyValues
    | false, none => scan.turnOn flag

/-- Reads options by their letters; what follows an option that takes a value is its value. -/
def readShort (side : Side) : List Char → Scan → Except UsageError Scan
  | [], scan => .ok scan
  | c :: cs, scan =>
    match side.lettered? c with
    | none => .error .unknownArgument
    | some flag =>
      if flag.takesValue then
        match cs with
        | [] => scan.await flag
        | '=' :: value => scan.assign flag (String.ofList value)
        | value => scan.assign flag (String.ofList value)
      else do
        let scan ← scan.turnOn flag
        readShort side cs scan

end Scan

/-- The kinds of words. -/
inductive Word where
  /-- Two dashes: all words after them are plain. -/
  | dashes
  | long (name : String) (value : Option String)
  | short (letters : List Char)
  | plain
  deriving DecidableEq, Repr

/-- The kind of a word. A single dash is a plain word. -/
def Word.of (word : String) : Word :=
  match word.toList with
  | '-' :: '-' :: [] => .dashes
  | '-' :: '-' :: cs =>
    match Text.cutFirst ['='] cs with
    | some (name, value) => .long (String.ofList name) (some (String.ofList value))
    | none => .long (String.ofList cs) none
  | '-' :: c :: cs => .short (c :: cs)
  | _ => .plain

/-- Reads a word that is no plain one. -/
def Scan.readOption (side : Side) (word : Word) (scan : Scan) : Except UsageError Scan :=
  match word with
  | .long name value => scan.readLong side name value
  | .short letters => scan.readShort side letters
  | .dashes | .plain => .ok scan

end LogFanout.Command
