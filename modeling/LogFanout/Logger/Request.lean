import LogFanout.Logger.History

/-!
# Requests

What the holder of a reference to a logger can ask of it. Everything that can be seen of a logger is
in the logger itself, so looking at one is asking for it.
-/

namespace LogFanout
namespace Logger

/-- Something asked of a logger. -/
inductive Request (ω : Type) where
  | view
  | add (name : String) (writer : ω) (ownership : Ownership)
  | addBuiltin (name : String) (transport : Transport)
  | remove (name : String)
  | setEnabled (name : String) (argument : Argument) (on : Bool)
  | print (now : Instant) (level : Level) (tag text : String)
  | printRaw (now : Instant) (message : Message)

/-- What a request is answered with; neither removing nor printing tells anything. -/
inductive Answer (ω : Type) where
  | logger (logger : Logger ω)
  | status (status : Status)
  | done

variable {ω σ : Type} [DecidableEq ω]

/-- Adds an endpoint, disabled. -/
def add (w : Writers ω σ) (name : String) (writer : ω) (ownership : Ownership) (logger : Logger ω)
    (s : σ) : Status × Logger ω × σ :=
  logger.perform w (.change (.add name writer ownership)) s

/-- Adds an endpoint with a new writer of a built-in kind. -/
def addBuiltin (w : Writers ω σ) (name : String) (transport : Transport) (logger : Logger ω)
    (s : σ) : Status × Logger ω × σ :=
  logger.perform w (.addBuiltin name transport) s

/-- Removes an endpoint; unknown names are ignored. -/
def remove (w : Writers ω σ) (name : String) (logger : Logger ω) (s : σ) : Logger ω × σ :=
  (logger.perform w (.change (.remove name)) s).2

/-- Enables or disables an endpoint. -/
def setEnabled (w : Writers ω σ) (name : String) (argument : Argument) (on : Bool)
    (logger : Logger ω) (s : σ) : Status × Logger ω × σ :=
  logger.perform w (.change (.setEnabled name argument on)) s

/-- Prints a text with a level. -/
def printLevel (w : Writers ω σ) (now : Instant) (level : Level) (tag text : String)
    (logger : Logger ω) (s : σ) : Logger ω × σ :=
  logger.print w now ⟨level.rank, tag, text⟩ s

/-- Does what was asked. -/
def serve (w : Writers ω σ) (request : Request ω) (logger : Logger ω) (s : σ) :
    Answer ω × Logger ω × σ :=
  match request with
  | .view => (.logger logger, logger, s)
  | .add name writer ownership =>
    let (status, logger, s) := logger.add w name writer ownership s
    (.status status, logger, s)
  | .addBuiltin name transport =>
    let (status, logger, s) := logger.addBuiltin w name transport s
    (.status status, logger, s)
  | .remove name => (.done, logger.remove w name s)
  | .setEnabled name argument on =>
    let (status, logger, s) := logger.setEnabled w name argument on s
    (.status status, logger, s)
  | .print now level tag text => (.done, logger.printLevel w now level tag text s)
  | .printRaw now message => (.done, logger.print w now message s)

end Logger
end LogFanout
