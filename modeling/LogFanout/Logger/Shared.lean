import LogFanout.Logger.Request

/-!
# The shared logger

A program has one logger that all of its parts share. It is the one that was installed before any
use, or a standard one made by the first use; from then on it stays. What can be asked of a logger
can be asked of the shared one by a function of its own.
-/

namespace LogFanout

/-- The place of the shared logger. -/
structure SharedLogger (ω : Type) where
  logger : Option (Logger ω)

namespace SharedLogger

variable {ω σ : Type}

/-- The place before any use. -/
def unused : SharedLogger ω :=
  ⟨none⟩

/-- The shared logger; the first use makes it. -/
def get (w : Writers ω σ) (shared : SharedLogger ω) (s : σ) : Logger ω × σ :=
  match shared.logger with
  | some logger => (logger, s)
  | none => Logger.standard w s

/-- Installs a logger; a logger that comes too late is handed back. -/
def install (logger : Logger ω) (shared : SharedLogger ω) :
    Except (Logger ω) Unit × SharedLogger ω :=
  match shared.logger with
  | some _ => (.error logger, shared)
  | none => (.ok (), ⟨some logger⟩)

/-- Does something with the shared logger. -/
def use {α : Type} (w : Writers ω σ) (action : Logger ω → σ → α × Logger ω × σ)
    (shared : SharedLogger ω) (s : σ) : α × SharedLogger ω × σ :=
  let (logger, s) := shared.get w s
  let (answer, logger, s) := action logger s
  (answer, ⟨some logger⟩, s)

/-- The shared logger, to be looked at. -/
def view (w : Writers ω σ) (shared : SharedLogger ω) (s : σ) : Logger ω × SharedLogger ω × σ :=
  shared.use w (fun logger s => (logger, logger, s)) s

variable [DecidableEq ω]

/-- Adds an endpoint to the shared logger. -/
def add (w : Writers ω σ) (name : String) (writer : ω) (ownership : Ownership)
    (shared : SharedLogger ω) (s : σ) : Status × SharedLogger ω × σ :=
  shared.use w (Logger.add w name writer ownership) s

/-- Adds an endpoint with a new writer of a built-in kind to the shared logger. -/
def addBuiltin (w : Writers ω σ) (name : String) (transport : Transport) (shared : SharedLogger ω)
    (s : σ) : Status × SharedLogger ω × σ :=
  shared.use w (Logger.addBuiltin w name transport) s

/-- Removes an endpoint of the shared logger. -/
def remove (w : Writers ω σ) (name : String) (shared : SharedLogger ω) (s : σ) :
    SharedLogger ω × σ :=
  (shared.use w (fun logger s => ((), logger.remove w name s)) s).2

/-- Enables or disables an endpoint of the shared logger. -/
def setEnabled (w : Writers ω σ) (name : String) (argument : Argument) (on : Bool)
    (shared : SharedLogger ω) (s : σ) : Status × SharedLogger ω × σ :=
  shared.use w (Logger.setEnabled w name argument on) s

/-- Prints a text with a level through the shared logger. -/
def print (w : Writers ω σ) (now : Instant) (level : Level) (tag text : String)
    (shared : SharedLogger ω) (s : σ) : SharedLogger ω × σ :=
  (shared.use w (fun logger s => ((), logger.printLevel w now level tag text s)) s).2

/-- Prints a message through the shared logger. -/
def printRaw (w : Writers ω σ) (now : Instant) (message : Message) (shared : SharedLogger ω)
    (s : σ) : SharedLogger ω × σ :=
  (shared.use w (fun logger s => ((), logger.print w now message s)) s).2

/-- Does what was asked, each request by the function for it. -/
def serve (w : Writers ω σ) (request : Logger.Request ω) (shared : SharedLogger ω) (s : σ) :
    Logger.Answer ω × SharedLogger ω × σ :=
  match request with
  | .view =>
    let (logger, shared, s) := shared.view w s
    (.logger logger, shared, s)
  | .add name writer ownership =>
    let (status, shared, s) := shared.add w name writer ownership s
    (.status status, shared, s)
  | .addBuiltin name transport =>
    let (status, shared, s) := shared.addBuiltin w name transport s
    (.status status, shared, s)
  | .remove name => (.done, shared.remove w name s)
  | .setEnabled name argument on =>
    let (status, shared, s) := shared.setEnabled w name argument on s
    (.status status, shared, s)
  | .print now level tag text => (.done, shared.print w now level tag text s)
  | .printRaw now message => (.done, shared.printRaw w now message s)

end SharedLogger

end LogFanout
