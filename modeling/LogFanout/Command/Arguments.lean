import LogFanout.Command.Scan

/-!
# Understanding a command line

Options stand before or after the name of the command; of those that are known on both sides the
ones after it win. The first plain word after `emit` and all words behind it are the message,
whatever they look like. What is wrong after the name of the command is reported before what is
wrong with the values in front of it. A variable of the environment counts on each side as if its
option were given there, but gives way to an option of either side.
-/

namespace LogFanout.Command

/-- What the words after the name of a command have set. -/
structure Tail where
  given : Given
  /-- The words of the message. -/
  words : List String
  deriving DecidableEq, Repr

/-- Reads the words after the name of a command; `plain` says that two dashes have been read. -/
def readTail (side : Side) : (plain : Bool) → Scan → List String → Except UsageError Tail
  | _, scan, [] => do
    return ⟨← scan.settle, []⟩
  | plain, scan, word :: words =>
    let kind := if plain then .plain else Word.of word
    match kind with
    | .dashes => readTail side true scan words
    | .long .. | .short .. => do
      let scan ← scan.readOption side kind
      readTail side plain scan words
    | .plain =>
      match if plain then none else scan.awaiting with
      | some flag => readTail side plain ⟨scan.given, some (flag, some word)⟩ words
      | none =>
        if side = .emit then do
          return ⟨← scan.settle, word :: words⟩
        else .error .unknownArgument

/-- The side after the name of a command. -/
def sideOf? : String → Option Side
  | "emit" => some .emit
  | "validate" => some .validate
  | "info" => some .info
  | _ => none

/-- The words `help` and the names of commands. -/
def isCommandName (word : String) : Bool :=
  word = "help" || (sideOf? word).isSome

/-- What comes of asking for the help of a command by the words after `help`. -/
def helpError : List String → UsageError
  | [] => .displayHelp
  | [word] => if isCommandName word then .displayHelp else .invalidSubcommand
  | _ :: _ => .invalidSubcommand

/-- Reads the words up to the name of a command; gives the side after it and the words behind it. -/
def readFront :
    (plain : Bool) → Scan → List String → Except UsageError (Scan × Option (Side × List String))
  | _, scan, [] => .ok (scan, none)
  | true, _, word :: _ =>
    if isCommandName word then .error .unknownArgument else .error .invalidSubcommand
  | false, scan, word :: words =>
    match scan.awaiting, sideOf? word with
    | none, some side => .ok (scan, some (side, words))
    | awaiting, _ =>
      if awaiting = none ∧ word = "help" then .error (helpError words)
      else
        match Word.of word with
        | .dashes => readFront true scan words
        | .long name value => do
          let scan ← scan.readLong .before name value
          readFront false scan words
        | .short letters => do
          let scan ← scan.readShort .before letters
          readFront false scan words
        | .plain =>
          match awaiting with
          | some flag => readFront false ⟨scan.given, some (flag, some word)⟩ words
          | none => .error .invalidSubcommand

/-- The settings of both sides; those after the name of the command win. -/
def globals (before after : Given) : Globals where
  verbose := (after.verbose.or before.verbose).getD 0
  quiet := after.quiet || before.quiet
  logFormat := (after.logFormat.or before.logFormat).getD .compact
  metricsPort := after.metricsPort.or before.metricsPort

/-- The command of a side. -/
def ofTail (side : Side) (tail : Tail) : Except UsageError Command :=
  let given := tail.given
  if given.inConflict then .error .argumentConflict
  else
    let about : ConfigArguments := ⟨given.config.getD defaultConfig, given.json⟩
    match side with
    | .emit =>
      if tail.words = [] then .error .missingMessage
      else
        .ok (.emit
          { config := given.config
            tag := given.tag.getD defaultTag
            rank := given.rank.getD defaultLevel.rank
            stats := given.stats
            words := tail.words })
    | .validate => .ok (.validate about)
    | .info => .ok (.info about)
    | .before => .error .missingSubcommand

/-- Understands the words of a command line in an environment. -/
def parseIn (environment : Environment) (words : List String) : Except UsageError Invocation := do
  match ← readFront false .start words with
  | (scan, none) =>
    let given ← (← scan.settle).fill environment .before
    if given.isNothing then .error .nothingGiven else .error .missingSubcommand
  | (scan, some (side, words)) =>
    let tail ← readTail side false .start words
    let filled ← tail.given.fill environment side
    let command ← ofTail side ⟨filled, tail.words⟩
    let given ← (← scan.settle).fill environment .before
    if given.inConflict then .error .argumentConflict
    else .ok ⟨globals given tail.given, command⟩

/-- Understands the words of a command line where no variable is set. -/
def parse (words : List String) : Except UsageError Invocation :=
  parseIn .unset words

end LogFanout.Command
