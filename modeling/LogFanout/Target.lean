import LogFanout.Host.Path
import LogFanout.Text.Cut
import LogFanout.Text.Numeral
import LogFanout.Text.Quoted

/-!
# Socket targets

Where a log service listens: `tcp://host:port`, `udp://host:port` or `unix://path`. A target keeps
the text after the scheme as it was written, so a target shows as the text that it was read from.
Targets are the same if they are reached in one way and have one address; the addresses of sockets in
the file system are paths and are compared as such.
-/

namespace LogFanout

/-- How a log service is reached. -/
inductive Scheme where
  | tcp
  | udp
  | unix
  deriving DecidableEq, Repr

/-- What is wrong with the text of a target. -/
inductive TargetFault where
  | missingScheme
  | missingPort
  | emptyHost
  | badPort (port : String) (fault : Text.NumeralFault)
  | emptyPath
  | unknownScheme (scheme : String)
  deriving DecidableEq, Repr

/-- The wording of a fault. -/
def TargetFault.message : TargetFault → String
  | .missingScheme => "missing scheme"
  | .missingPort => "expected host:port"
  | .emptyHost => "empty host"
  | .badPort port fault => "bad port '" ++ port ++ "': " ++ fault.message
  | .emptyPath => "empty socket path"
  | .unknownScheme scheme => "unknown scheme '" ++ scheme ++ "'"

/-- A text refused as a target. -/
structure TargetError where
  /-- The whole text. -/
  text : String
  /-- The first thing wrong with it. -/
  fault : TargetFault
  deriving DecidableEq, Repr

/-- The wording of a refusal. -/
def TargetError.message (e : TargetError) : String :=
  "invalid socket target '" ++ e.text ++ "': " ++ e.fault.message

namespace Scheme

/-- The name of a scheme, as it stands before the colon. -/
def name : Scheme → String
  | .tcp => "tcp"
  | .udp => "udp"
  | .unix => "unix"

/-- The scheme of a name; case matters. -/
def ofName? : String → Option Scheme
  | "tcp" => some .tcp
  | "udp" => some .udp
  | "unix" => some .unix
  | _ => none

/-- The largest port. -/
def maxPort : Nat :=
  65535

/-- Checks a host and a port; the port stands after the last colon. -/
def checkHostPort (address : String) : Except TargetFault Unit :=
  match Text.cutLast ':' address.toList with
  | none => .error .missingPort
  | some ([], _) => .error .emptyHost
  | some (_, port) =>
    match Text.readNumeral maxPort port with
    | .ok _ => .ok ()
    | .error fault => .error (.badPort (String.ofList port) fault)

/-- Checks the address of a scheme. -/
def check (scheme : Scheme) (address : String) : Except TargetFault Unit :=
  match scheme with
  | .tcp | .udp => checkHostPort address
  | .unix => if address = "" then .error .emptyPath else .ok ()

end Scheme

/-- A place to connect to, with an address that its scheme accepts. -/
structure Target where
  /-- How it is reached. -/
  scheme : Scheme
  /-- The text after the scheme, as written. -/
  address : String
  /-- The address is one that the scheme accepts. -/
  sound : scheme.check address = .ok ()
  deriving DecidableEq, Repr

namespace Target

/-- The mark between the scheme and the address. -/
def mark : List Char :=
  [':', '/', '/']

/-- Reads a target. -/
def parse (text : String) : Except TargetError Target :=
  match Text.cutFirst mark text.toList with
  | none => .error ⟨text, .missingScheme⟩
  | some (before, after) =>
    match Scheme.ofName? (String.ofList before) with
    | none => .error ⟨text, .unknownScheme (String.ofList before)⟩
    | some scheme =>
      match sound : scheme.check (String.ofList after) with
      | .ok () => .ok ⟨scheme, String.ofList after, sound⟩
      | .error fault => .error ⟨text, fault⟩

/-- The text of a target. -/
def text (target : Target) : String :=
  target.scheme.name ++ String.ofList mark ++ target.address

/-- Where a target is: a service by its address as it is written, a path by its components. -/
def place (target : Target) : String ⊕ Path.Components :=
  match target.scheme with
  | .tcp | .udp => .inl target.address
  | .unix => .inr (Path.components target.address)

/-- Two targets are the same. -/
def Same (target other : Target) : Prop :=
  target.scheme = other.scheme ∧ target.place = other.place

instance (target other : Target) : Decidable (Same target other) :=
  inferInstanceAs (Decidable (_ ∧ _))

/-- A target as messages show it. -/
def shown (target : Target) : String :=
  match target.scheme with
  | .tcp => "Tcp(" ++ Text.quoted target.address ++ ")"
  | .udp => "Udp(" ++ Text.quoted target.address ++ ")"
  | .unix => "Unix(" ++ Text.quoted target.address ++ ")"

end Target

end LogFanout
