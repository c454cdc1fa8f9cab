import LogFanout.Logger.Basic
import LogFanout.Registry.Change

/-!
# Histories of a logger

A history is a row of operations carried out one after the other. A logger that was shut down has no
endpoints, but new ones can be added.
-/

namespace LogFanout.Logger

/-- Something done with a logger. -/
inductive Operation (ω : Type) where
  | change (change : Change ω)
  | addBuiltin (name : String) (transport : Transport)
  | print (now : Instant) (message : Message)
  | shutdown
  deriving DecidableEq, Repr

variable {ω σ : Type} [DecidableEq ω]

/-- Carries out an operation; only printing and shutting down never fail. -/
def perform (w : Writers ω σ) (operation : Operation ω) (logger : Logger ω) (s : σ) :
    Status × Logger ω × σ :=
  match operation with
  | .change change =>
    let (status, registry, s) := logger.registry.change w change s
    (status, { logger with registry }, s)
  | .addBuiltin name transport =>
    let (status, registry, s) := logger.registry.addBuiltin w name transport s
    (status, { logger with registry }, s)
  | .print now message =>
    let (logger, s) := logger.print w now message s
    (.ok (), logger, s)
  | .shutdown =>
    let (registry, s) := logger.registry.clear w s
    (.ok (), { logger with registry }, s)

/-- Carries out a history; gives the statuses in order. -/
def run (w : Writers ω σ) : List (Operation ω) → Logger ω → σ → List Status × Logger ω × σ
  | [], logger, s => ([], logger, s)
  | operation :: history, logger, s =>
    let (status, logger, s) := logger.perform w operation s
    let (statuses, logger, s) := run w history logger s
    (status :: statuses, logger, s)

end LogFanout.Logger
