import LogFanout.Line.Render
import LogFanout.Writer.Basic

/-!
# Scripted writers

Writers that refuse to open a number of times, refuse every so many writes, and may send out a line
of their own from inside a write. Everything asked of them is written down in a journal.
-/

namespace LogFanout

/-- The line that a writer sends out by itself. -/
inductive EchoLine where
  | raw (line : Bytes)
  /-- A message printed through a logger with lines of `capacity` bytes; nothing if it has no tag.
  -/
  | printed (capacity : Nat) (message : Message)
  deriving DecidableEq, Repr

/-- What a writer does from inside a write: it asks whether an endpoint is enabled and sends out a
line. -/
structure Echo where
  query : String
  line : EchoLine
  deriving DecidableEq, Repr

/-- What a writer does when it is called. -/
structure Script where
  id : String
  /-- Whether opening, closing, writing and letting go are written down; what is not, succeeds. -/
  onInit : Bool
  onDestroy : Bool
  onWrite : Bool
  onRelease : Bool
  /-- The number of times that opening is refused. -/
  refusedInits : Nat
  /-- Every so many writes are refused, none if it is zero. -/
  refusedEvery : Nat
  echo : Option Echo
  deriving DecidableEq, Repr

/-- A script as messages show it. -/
def Script.shown (script : Script) : String :=
  let word (b : Bool) : String := if b then "true" else "false"
  "FnWriter \x7b init: " ++ word script.onInit ++ ", destroy: " ++ word script.onDestroy
    ++ ", write: " ++ word script.onWrite ++ " \x7d"

/-- A writer that follows a script. -/
structure Scripted where
  script : Script
  /-- The number of times that it was opened, or refused to be. -/
  inits : Nat
  /-- The number of lines written to it, or refused by it. -/
  writes : Nat
  deriving DecidableEq, Repr

/-- What a writer was asked to do. -/
inductive Event where
  | init (id : String) (argument : Argument)
  | destroy (id : String)
  | write (id : String) (line : Bytes)
  | enabled (id : String) (answer : Bool)
  | release (id : String)
  deriving DecidableEq, Repr

/-- The scripted writers by their number, their journal, and the time by which they print. -/
structure Stage where
  writers : List Scripted
  journal : List Event
  now : Instant
  deriving DecidableEq, Repr

/-- The line to send out, if there is one. -/
def EchoLine.bytes? (now : Instant) : EchoLine → Option Bytes
  | .raw line => some line
  | .printed capacity message =>
    if message.tag = "" then none else some (message.render capacity 0 now)

namespace Scripted

/-- Opens a writer; gives what is written down. -/
def init (writer : Scripted) (argument : Argument) :
    Except InitFault Unit × Scripted × List Event :=
  if writer.script.onInit then
    let count := writer.inits + 1
    let outcome :=
      if count ≤ writer.script.refusedInits then
        .error (.refused writer.script.id ("init refused #" ++ Text.decimal count))
      else .ok ()
    (outcome, { writer with inits := count }, [.init writer.script.id argument])
  else (.ok (), writer, [])

/-- Writes a line; gives what is written down. -/
def write (writer : Scripted) (situation : Situation) (line : Bytes) (now : Instant) :
    Written × Scripted × List Event :=
  if writer.script.onWrite then
    let count := writer.writes + 1
    let outcome :=
      if 0 < writer.script.refusedEvery ∧ count % writer.script.refusedEvery = 0 then
        .error (.refused writer.script.id ("write refused #" ++ Text.decimal count))
      else .ok ()
    let noted := Event.write writer.script.id line
    match writer.script.echo with
    | some echo =>
      if situation.nested then (⟨outcome, none⟩, { writer with writes := count }, [noted])
      else
        (⟨outcome, echo.line.bytes? now⟩, { writer with writes := count },
          [noted, .enabled writer.script.id (situation.enabled.contains echo.query)])
    | none => (⟨outcome, none⟩, { writer with writes := count }, [noted])
  else (⟨.ok (), none⟩, writer, [])

end Scripted

namespace Stage

/-- A stage without writers. -/
def start (now : Instant) : Stage :=
  ⟨[], [], now⟩

/-- Adds a writer; gives its number. -/
def addWriter (stage : Stage) (script : Script) : Nat × Stage :=
  (stage.writers.length, { stage with writers := stage.writers ++ [⟨script, 0, 0⟩] })

/-- Writes events down. -/
def note (stage : Stage) (events : List Event) : Stage :=
  { stage with journal := stage.journal ++ events }

/-- The scripted writers, by their number. -/
def scripted : Writers Nat Stage where
  create _ stage := (stage.writers.length, stage)
  init _ number argument stage :=
    match stage.writers[number]? with
    | none => (.ok (), stage)
    | some writer =>
      let (outcome, writer, events) := writer.init argument
      (outcome, { stage with writers := stage.writers.set number writer }.note events)
  write situation number line stage :=
    match stage.writers[number]? with
    | none => (⟨.ok (), none⟩, stage)
    | some writer =>
      let (written, writer, events) := writer.write situation line stage.now
      (written, { stage with writers := stage.writers.set number writer }.note events)
  destroy _ number stage :=
    match stage.writers[number]? with
    | none => stage
    | some writer =>
      if writer.script.onDestroy then stage.note [.destroy writer.script.id] else stage
  release number stage :=
    match stage.writers[number]? with
    | none => stage
    | some writer =>
      if writer.script.onRelease then stage.note [.release writer.script.id] else stage

end Stage

end LogFanout
