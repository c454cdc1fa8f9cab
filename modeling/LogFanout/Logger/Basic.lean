import LogFanout.Blueprint.Basic
import LogFanout.Line.Render
import LogFanout.Registry.FanOut
import LogFanout.Summary

/-!
# Loggers

A logger is a registry together with the size of its lines. Printing renders one line and fans it
out; a message without a tag is dropped.
-/

namespace LogFanout

/-- A registry and the size of its lines. -/
structure Logger (ω : Type) where
  registry : Registry ω
  /-- The largest number of bytes of a line. -/
  capacity : Nat

namespace Logger

variable {ω σ : Type}

/-- The descriptor of standard output. -/
def standardOutput : Int32 :=
  1

/-- A logger without endpoints. -/
def bare (capacity : Nat) : Logger ω :=
  ⟨.empty, max capacity LineBuffer.minCapacity⟩

/-- Adds an endpoint on standard output; where it cannot be opened it stays disabled. -/
def seed (w : Writers ω σ) (logger : Logger ω) (s : σ) : Logger ω × σ :=
  match logger.registry.addBuiltin w Blueprint.seedName .descriptor s with
  | (.error _, registry, s) => ({ logger with registry }, s)
  | (.ok (), registry, s) =>
    let (_, registry, s) := registry.enable w Blueprint.seedName (.descriptor standardOutput) s
    ({ logger with registry }, s)

/-- A new logger, with an endpoint on standard output if it is to be seeded. -/
def build (w : Writers ω σ) (capacity : Nat) (seeded : Bool) (s : σ) : Logger ω × σ :=
  if seeded then (bare capacity).seed w s else (bare capacity, s)

/-- A logger with standard settings. -/
def standard (w : Writers ω σ) (s : σ) : Logger ω × σ :=
  build w Settings.standard.capacity.toNat Settings.standard.seeded s

/-- Prints a message through a logger whose zone is universal time. -/
def print [DecidableEq ω] (w : Writers ω σ) (now : Instant) (message : Message)
    (logger : Logger ω) (s : σ) : Logger ω × σ :=
  if message.tag = "" then (logger, s)
  else
    let (_, registry, s) := logger.registry.fanOut w (message.render logger.capacity 0 now) s
    ({ logger with registry }, s)

/-- Prints a message of a level that gated statements let through; says whether they do. -/
def printGated [DecidableEq ω] (w : Writers ω σ) (now : Instant) (level : Level) (tag text : String)
    (logger : Logger ω) (s : σ) : Bool × Logger ω × σ :=
  if level.isOpen then (true, logger.print w now ⟨level.rank, tag, text⟩ s) else (false, logger, s)

/-- Removes all endpoints. -/
def shutdown (w : Writers ω σ) (logger : Logger ω) (s : σ) : σ :=
  (logger.registry.clear w s).2

/-- The counters of all endpoints, ascending by name. -/
def snapshot (logger : Logger ω) : Snapshot :=
  logger.registry.counters

/-- A logger as messages show it. -/
def shown (logger : Logger ω) : String :=
  "Logger \x7b buffer_capacity: " ++ Text.decimal logger.capacity ++ ", enabled: ["
    ++ String.intercalate ", " (logger.registry.enabledNames.map Text.quoted) ++ "] \x7d"

end Logger

end LogFanout
