import LogFanout.Ledger
import LogFanout.Table
import LogFanout.Writer.Basic

/-!
# Registries

A registry keeps endpoints by name. An endpoint is added disabled, opened by an enable and closed by
a disable; while it is open it has a route, and lines go out by the routes. The record of an
endpoint and its route share a page of the ledger, on which the writes are counted. An operation
that fails leaves the registry as it was.
-/

namespace LogFanout

/-- Who lets go of the writer of an endpoint. -/
inductive Ownership where
  /-- The registry, when the endpoint is removed. -/
  | owned
  /-- The caller, who keeps the writer. -/
  | shared
  deriving DecidableEq, Repr

/-- A registered endpoint. -/
structure Endpoint (ω : Type) where
  writer : ω
  ownership : Ownership
  /-- The page on which its writes are counted. -/
  page : Nat
  /-- The argument of the enable that is in force. -/
  argument : Option Argument
  enabled : Bool
  deriving DecidableEq, Repr

/-- The way by which lines go out to an endpoint. -/
structure Route (ω : Type) where
  writer : ω
  /-- The page on which the writes are counted. -/
  page : Nat
  deriving DecidableEq, Repr

/-- Endpoints by name, the routes of those that are enabled, and the counters of all. -/
structure Registry (ω : Type) where
  endpoints : Table (Endpoint ω)
  routes : Table (Route ω)
  ledger : Ledger

/-- What can be seen of an endpoint. -/
structure EndpointView where
  name : String
  enabled : Bool
  ownership : Ownership
  argument : Option Argument
  counters : Counters
  deriving DecidableEq, Repr

/-- Why a registry refused an operation. -/
inductive RegistryError where
  | emptyName
  | duplicateName (name : String)
  | notFound (name : String)
  | alreadyEnabled (name : String)
  | initFailed (name : String) (why : InitFault)
  deriving DecidableEq, Repr

namespace RegistryError

/-- The wording of an error. -/
def message : RegistryError → String
  | .emptyName => "invalid argument: endpoint name is empty"
  | .duplicateName name => "endpoint '" ++ name ++ "' already registered"
  | .notFound name => "endpoint '" ++ name ++ "' not found"
  | .alreadyEnabled name => "endpoint '" ++ name ++ "' already enabled"
  | .initFailed name why => "endpoint '" ++ name ++ "' writer init failed: " ++ why.message

/-- The number of an error. -/
def code : RegistryError → Int
  | .duplicateName _ => -1
  | .notFound _ => -2
  | .alreadyEnabled _ => -3
  | .initFailed .. => -4
  | .emptyName => -5

/-- The error and what lies behind it, outermost first. -/
def chain (error : RegistryError) : List String :=
  match error with
  | .initFailed _ why => [error.message, why.message]
  | _ => [error.message]

end RegistryError

/-- Whether an operation of a registry succeeded. -/
abbrev Status := Except RegistryError Unit

/-- The number of a status, zero for success. -/
def Status.code : Status → Int
  | .ok () => 0
  | .error e => e.code

namespace Endpoint

variable {ω : Type}

/-- An endpoint that has just been added. -/
def fresh (writer : ω) (ownership : Ownership) (page : Nat) : Endpoint ω :=
  ⟨writer, ownership, page, none, false⟩

/-- An endpoint after an enable. -/
def opened (argument : Argument) (endpoint : Endpoint ω) : Endpoint ω :=
  { endpoint with argument := some argument, enabled := true }

/-- An endpoint after a disable. -/
def closed (endpoint : Endpoint ω) : Endpoint ω :=
  { endpoint with argument := none, enabled := false }

/-- The route of an endpoint. -/
def route (endpoint : Endpoint ω) : Route ω :=
  ⟨endpoint.writer, endpoint.page⟩

/-- What can be seen of an endpoint. -/
def view (ledger : Ledger) (name : String) (endpoint : Endpoint ω) : EndpointView :=
  ⟨name, endpoint.enabled, endpoint.ownership, endpoint.argument, ledger.page endpoint.page⟩

end Endpoint

namespace Registry

variable {ω σ : Type}

/-- The registry without endpoints. -/
def empty : Registry ω :=
  ⟨.empty, .empty, .empty⟩

/-- Lets go of a writer if the registry is the one to do it. -/
def letGo (w : Writers ω σ) (ownership : Ownership) (writer : ω) (s : σ) : σ :=
  match ownership with
  | .owned => w.release writer s
  | .shared => s

/-- Adds an endpoint, disabled, with counters at zero. A writer that is refused is let go of at once. -/
def add (w : Writers ω σ) (name : String) (writer : ω) (ownership : Ownership) (r : Registry ω)
    (s : σ) : Status × Registry ω × σ :=
  if name = "" then (.error .emptyName, r, letGo w ownership writer s)
  else if r.endpoints.contains name then
    (.error (.duplicateName name), r, letGo w ownership writer s)
  else
    (.ok (),
      { r with
        endpoints := r.endpoints.insert name (.fresh writer ownership r.ledger.next)
        ledger := r.ledger.extend },
      s)

/-- Adds an endpoint with a new writer of a built-in kind. -/
def addBuiltin (w : Writers ω σ) (name : String) (transport : Transport) (r : Registry ω) (s : σ) :
    Status × Registry ω × σ :=
  let (writer, s) := w.create transport s
  r.add w name writer .owned s

/-- Takes the route of an enabled endpoint away and closes its writer; a disabled one is left as it
is. -/
def close (w : Writers ω σ) (name : String) (endpoint : Endpoint ω) (routes : Table (Route ω))
    (s : σ) : Endpoint ω × Table (Route ω) × σ :=
  if endpoint.enabled then
    (endpoint.closed, routes.erase name, w.destroy name endpoint.writer s)
  else (endpoint, routes, s)

/-- Removes an endpoint, closing it first; unknown names are ignored. -/
def remove (w : Writers ω σ) (name : String) (r : Registry ω) (s : σ) : Registry ω × σ :=
  match r.endpoints.find? name with
  | none => (r, s)
  | some endpoint =>
    let (endpoint, routes, s) := close w name endpoint r.routes s
    ({ r with endpoints := r.endpoints.erase name, routes },
      letGo w endpoint.ownership endpoint.writer s)

/-- Opens an endpoint with an argument and gives it a route. -/
def enable (w : Writers ω σ) (name : String) (argument : Argument) (r : Registry ω) (s : σ) :
    Status × Registry ω × σ :=
  if name = "" then (.error .emptyName, r, s)
  else
    match r.endpoints.find? name with
    | none => (.error (.notFound name), r, s)
    | some endpoint =>
      if endpoint.enabled then (.error (.alreadyEnabled name), r, s)
      else
        match w.init name endpoint.writer argument s with
        | (.error why, s) => (.error (.initFailed name why), r, s)
        | (.ok (), s) =>
          (.ok (),
            { r with
              endpoints := r.endpoints.insert name (endpoint.opened argument)
              routes := r.routes.insert name endpoint.route },
            s)

/-- Closes an endpoint; nothing is done if it is disabled. -/
def disable (w : Writers ω σ) (name : String) (r : Registry ω) (s : σ) : Status × Registry ω × σ :=
  if name = "" then (.error .emptyName, r, s)
  else
    match r.endpoints.find? name with
    | none => (.error (.notFound name), r, s)
    | some endpoint =>
      let (endpoint, routes, s) := close w name endpoint r.routes s
      (.ok (), { r with endpoints := r.endpoints.insert name endpoint, routes }, s)

/-- Enables or disables an endpoint; the argument is not looked at when disabling. -/
def setEnabled (w : Writers ω σ) (name : String) (argument : Argument) (on : Bool)
    (r : Registry ω) (s : σ) : Status × Registry ω × σ :=
  if on then r.enable w name argument s else r.disable w name s

/-- Closes endpoints and lets go of them, one after the other. -/
def closeAll (w : Writers ω σ) :
    List (String × Endpoint ω) → Table (Route ω) → σ → Table (Route ω) × σ
  | [], routes, s => (routes, s)
  | (name, endpoint) :: rest, routes, s =>
    let (endpoint, routes, s) := close w name endpoint routes s
    closeAll w rest routes (letGo w endpoint.ownership endpoint.writer s)

/-- Removes all endpoints. -/
def clear (w : Writers ω σ) (r : Registry ω) (s : σ) : Registry ω × σ :=
  let (routes, s) := closeAll w r.endpoints.entries r.routes s
  ({ r with endpoints := .empty, routes }, s)

/-- Whether a name is registered. -/
def contains (r : Registry ω) (name : String) : Bool :=
  r.endpoints.contains name

/-- Whether lines go out to a name. -/
def isEnabled (r : Registry ω) (name : String) : Bool :=
  r.routes.contains name

/-- The number of endpoints. -/
def size (r : Registry ω) : Nat :=
  r.endpoints.size

/-- The names to which lines go out, ascending. -/
def enabledNames (r : Registry ω) : List String :=
  r.routes.names

/-- What can be seen of all endpoints, ascending by name. -/
def views (r : Registry ω) : List EndpointView :=
  r.endpoints.entries.map fun (name, endpoint) => endpoint.view r.ledger name

/-- The counters of all endpoints, ascending by name. -/
def counters (r : Registry ω) : List (String × Counters) :=
  r.views.map fun view => (view.name, view.counters)

end Registry

end LogFanout
