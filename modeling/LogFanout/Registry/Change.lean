import LogFanout.Registry.Basic

/-!
# Changes to a registry

What can be done with one endpoint, as data: it is added, removed, enabled or disabled.
-/

namespace LogFanout

/-- Something done with the endpoint of a name. -/
inductive Change (ω : Type) where
  | add (name : String) (writer : ω) (ownership : Ownership)
  | remove (name : String)
  | enable (name : String) (argument : Argument)
  | disable (name : String)
  | setEnabled (name : String) (argument : Argument) (on : Bool)
  deriving DecidableEq, Repr

variable {ω σ : Type}

/-- The name of the endpoint. -/
def Change.name : Change ω → String
  | .add name _ _ | .remove name | .enable name _ | .disable name | .setEnabled name _ _ => name

/-- Makes a change; removing never fails. -/
def Registry.change (w : Writers ω σ) (change : Change ω) (r : Registry ω) (s : σ) :
    Status × Registry ω × σ :=
  match change with
  | .add name writer ownership => r.add w name writer ownership s
  | .remove name =>
    let (r, s) := r.remove w name s
    (.ok (), r, s)
  | .enable name argument => r.enable w name argument s
  | .disable name => r.disable w name s
  | .setEnabled name argument on => r.setEnabled w name argument on s

end LogFanout
