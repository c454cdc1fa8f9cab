import LogFanout.Blueprint.Basic

/-!
# Checking a blueprint

A blueprint is accepted if its lines have a sensible size, its endpoints have distinct names that
are not empty and not taken by the seeded endpoint, and each endpoint says what it is opened on. The
size is tested first, then all names, then all arguments; the first thing wrong is reported.
-/

namespace LogFanout

/-- Why a blueprint is refused. -/
inductive CheckError where
  | capacity (found : UInt64)
  | emptyName (index : Nat)
  | reservedName (name : String)
  | duplicateName (name : String)
  | negativeDescriptor (name : String) (found : Int32)
  | missingDescriptor (name : String)
  | missingTarget (name : String)
  deriving DecidableEq, Repr

namespace Check

/-- The least size of a line. -/
def minCapacity : Nat :=
  64

/-- The largest size of a line. -/
def maxCapacity : Nat :=
  1048576

end Check

namespace CheckError

/-- The place in the blueprint that an error is about. -/
def field : CheckError → String
  | .capacity _ => "logger.buffer_capacity"
  | .emptyName index => "endpoints[" ++ Text.decimal index ++ "].name"
  | .reservedName name | .duplicateName name => "endpoints[name=" ++ name ++ "]"
  | .negativeDescriptor name _ | .missingDescriptor name => "endpoints[" ++ name ++ "].fd"
  | .missingTarget name => "endpoints[" ++ name ++ "].target"

/-- What is wrong there. -/
def reason : CheckError → String
  | .capacity found =>
    "buffer_capacity must be within " ++ Text.decimal Check.minCapacity ++ "..="
      ++ Text.decimal Check.maxCapacity ++ ", got " ++ Text.decimal found.toNat
  | .emptyName _ => "endpoint name cannot be empty"
  | .reservedName _ => "name is reserved while logger.seed_std is set"
  | .duplicateName _ => "duplicate endpoint name"
  | .negativeDescriptor _ found => "fd must be >= 0, got " ++ Text.decimalInt found.toInt
  | .missingDescriptor _ => "fd endpoints require a descriptor"
  | .missingTarget _ => "socket endpoints require a target"

/-- The wording of an error. -/
def message (e : CheckError) : String :=
  "config validation error at '" ++ e.field ++ "': " ++ e.reason

end CheckError

namespace Settings

/-- Checks the size of a line. -/
def check (settings : Settings) : Except CheckError Unit :=
  if Check.minCapacity ≤ settings.capacity.toNat ∧ settings.capacity.toNat ≤ Check.maxCapacity then
    .ok ()
  else
    .error (.capacity settings.capacity)

end Settings

namespace Plan

/-- Checks that an endpoint says what it is opened on. -/
def checkArgument (plan : Plan) : Except CheckError Unit :=
  match plan.transport with
  | .descriptor =>
    match plan.descriptor with
    | some number =>
      if 0 ≤ number.toInt then .ok () else .error (.negativeDescriptor plan.name number)
    | none => .error (.missingDescriptor plan.name)
  | .socket => if plan.target.isSome then .ok () else .error (.missingTarget plan.name)

end Plan

namespace Blueprint

/-- Checks the names of endpoints, the first of which has number `index`, after endpoints named
`seen`. -/
def checkNames (seeded : Bool) :
    (index : Nat) → (seen : List String) → List Plan → Except CheckError Unit
  | _, _, [] => .ok ()
  | index, seen, plan :: plans =>
    if plan.name = "" then .error (.emptyName index)
    else if seeded ∧ plan.name = seedName then .error (.reservedName plan.name)
    else if plan.name ∈ seen then .error (.duplicateName plan.name)
    else checkNames seeded (index + 1) (plan.name :: seen) plans

/-- Checks what the endpoints are opened on. -/
def checkArguments (plans : List Plan) : Except CheckError Unit :=
  plans.forM Plan.checkArgument

/-- Checks a blueprint. -/
def check (blueprint : Blueprint) : Except CheckError Unit := do
  blueprint.settings.check
  checkNames blueprint.settings.seeded 0 [] blueprint.plans
  checkArguments blueprint.plans

end Blueprint

end LogFanout
