import LogFanout.Blueprint.Build
import LogFanout.Proofs.Registry.Mapped
import LogFanout.Proofs.Registry.Transition

/-!
# Enrolment

Setting up a plan makes a writer, adds an endpoint and, if the plan starts enabled, opens it. What
this comes to does not depend on how the registry goes about it: unless the name is refused, the
plan is enrolled (`Plan.register_free`). `Enrolled` relates a row of plans to the registry in which
all of them have an endpoint, to the state of the writers and to the calls made on the way; the
endpoint on standard output is one more plan in front of them.
-/

namespace LogFanout

variable {ω σ : Type}

/-- Makes the writer of a plan and opens it, if the plan starts enabled. -/
def Plan.opening (w : Writers ω σ) (plan : Plan) (s : σ) : Except InitFault Unit × σ :=
  let (writer, s) := w.create plan.transport s
  if plan.enabled then w.init plan.name writer plan.argument s else (.ok (), s)

/-- The state after the writers of a row of plans were made and opened. -/
def Plan.openAll (w : Writers ω σ) (s : σ) (plans : List Plan) : σ :=
  plans.foldl (fun s plan => (plan.opening w s).2) s

/-- The calls that opening the writer of a plan takes. -/
def Plan.openingCalls (w : Writers ω σ) (plan : Plan) (s : σ) : List (Call ω) :=
  if plan.enabled then
    [⟨plan.name, (w.create plan.transport s).1, .init plan.argument (plan.opening w s).1⟩]
  else []

/-- Whether the endpoint of a plan is enabled once it is set up. -/
def Plan.starts (w : Writers ω σ) (plan : Plan) (s : σ) : Bool :=
  plan.enabled && (plan.opening w s).1.isOk

/-- The endpoint of a plan that was set up. -/
def Plan.endpoint (w : Writers ω σ) (plan : Plan) (page : Nat) (s : σ) : Endpoint ω :=
  let endpoint := Endpoint.fresh (w.create plan.transport s).1 .owned page
  if plan.starts w s then endpoint.opened plan.argument else endpoint

/-- The endpoint on standard output as a plan. -/
def Plan.seed : Plan :=
  ⟨Blueprint.seedName, .descriptor, true, some Logger.standardOutput, none⟩

/-- The plans that come before those of a blueprint. -/
def Blueprint.seeds (blueprint : Blueprint) : List Plan :=
  if blueprint.settings.seeded then [.seed] else []

lemma Plan.opening_recorded (w : Writers ω σ) (plan : Plan) (s : σ) (calls : List (Call ω)) :
    plan.opening w.recorded (s, calls) =
      ((plan.opening w s).1, (plan.opening w s).2, calls ++ plan.openingCalls w s) := by
  simp only [opening, openingCalls, Writers.recorded]
  split
  · rfl
  · rw [List.append_nil]

lemma Plan.openAll_append (w : Writers ω σ) (s : σ) (plans : List Plan) (plan : Plan) :
    Plan.openAll w s (plans ++ [plan]) = (plan.opening w (Plan.openAll w s plans)).2 := by
  rw [openAll, List.foldl_append]
  rfl

/-- The calls that open a plan are made on its writer. -/
lemma Plan.eq_of_mem_openingCalls {w : Writers ω σ} {plan : Plan} {s : σ} {call : Call ω}
    (mem : call ∈ plan.openingCalls w s) :
    call = ⟨plan.name, (w.create plan.transport s).1,
      .init plan.argument (plan.opening w s).1⟩ := by
  rw [openingCalls] at mem
  split at mem
  · exact List.mem_singleton.mp mem
  · cases mem

namespace Registry

/-- The registry with the endpoint of one more plan. -/
def enrol (w : Writers ω σ) (plan : Plan) (r : Registry ω) (s : σ) : Registry ω where
  endpoints := r.endpoints.insert plan.name (plan.endpoint w r.ledger.next s)
  routes :=
    if plan.starts w s then
      r.routes.insert plan.name (plan.endpoint w r.ledger.next s).route
    else r.routes
  ledger := r.ledger.extend

variable {r : Registry ω} {w : Writers ω σ} {plan : Plan}

/-- Recording makes no difference to the registry. -/
lemma enrol_recorded (w : Writers ω σ) (plan : Plan) (r : Registry ω) (s : σ)
    (calls : List (Call ω)) : r.enrol w.recorded plan (s, calls) = r.enrol w plan s := by
  simp only [enrol, Plan.endpoint, Plan.starts, Plan.opening_recorded]
  rfl

lemma addBuiltin_free {name : String} (named : name ≠ "")
    (free : r.endpoints.find? name = none) (transport : Transport) (s : σ) :
    r.addBuiltin w name transport s =
      (.ok (),
        { r with
          endpoints := r.endpoints.insert name
            (.fresh (w.create transport s).1 .owned r.ledger.next)
          ledger := r.ledger.extend },
        (w.create transport s).2) := by
  have absent : ¬r.endpoints.contains name := by simp [Table.contains, free]
  simp only [addBuiltin, add, if_neg named, if_neg absent]

/-- An endpoint that is added and opened at once. -/
lemma enable_added (named : plan.name ≠ "") (on : plan.enabled = true) (s : σ) :
    let added : Registry ω := { r with
      endpoints := r.endpoints.insert plan.name
        (.fresh (w.create plan.transport s).1 .owned r.ledger.next)
      ledger := r.ledger.extend }
    added.enable w plan.name plan.argument (w.create plan.transport s).2 =
      ((plan.opening w s).1.mapError (.initFailed plan.name), r.enrol w plan s,
        (plan.opening w s).2) := by
  intro added
  have found : added.endpoints.find? plan.name =
      some (.fresh (w.create plan.transport s).1 .owned r.ledger.next) := by
    rw [Table.find?_insert, if_pos rfl]
  have opening : plan.opening w s = w.init plan.name (w.create plan.transport s).1 plan.argument
      (w.create plan.transport s).2 := if_pos on
  rw [enable, if_neg named, found]
  simp only [Endpoint.fresh, Bool.false_eq_true, if_false, enrol, Plan.starts, Plan.endpoint, on,
    opening, Bool.true_and]
  rcases w.init plan.name (w.create plan.transport s).1 plan.argument (w.create plan.transport s).2
    with ⟨why | ⟨⟨⟩⟩, s'⟩
  · rfl
  · simp only [added, Table.insert_insert]
    rfl

/-- Enrolling a plan keeps a registry sound. -/
lemma Sound.enrol (sound : r.Sound) (named : plan.name ≠ "")
    (free : r.endpoints.find? plan.name = none) (s : σ) : (r.enrol w plan s).Sound := by
  have added := sound.added named (w.create plan.transport s).1 .owned free
  simp only [Registry.enrol, Plan.endpoint]
  cases plan.starts w s with
  | true =>
    have found := Table.find?_insert r.endpoints plan.name plan.name
      (.fresh (w.create plan.transport s).1 .owned r.ledger.next)
    rw [if_pos rfl] at found
    have opened := added.opened found plan.argument
    simp only [Table.insert_insert] at opened
    exact opened
  | false => exact added

end Registry

/-- A plan whose name is not refused is enrolled, whether or not its writer can be opened. -/
lemma Plan.register_free {r : Registry ω} {w : Writers ω σ} {plan : Plan} (named : plan.name ≠ "")
    (free : r.endpoints.find? plan.name = none) (s : σ) :
    plan.register w r s =
      ((plan.opening w s).1.mapError (.initFailed plan.name), r.enrol w plan s,
        (plan.opening w s).2) := by
  simp only [register, Registry.addBuiltin_free named free]
  cases on : plan.enabled with
  | true => exact Registry.enable_added named on s
  | false => simp [opening, Registry.enrol, starts, endpoint, on, Except.mapError]

/-- A plan without a name is refused, and so is its writer. -/
lemma Plan.register_nameless (w : Writers ω σ) {plan : Plan} (nameless : plan.name = "")
    (r : Registry ω) (s : σ) :
    plan.register w r s =
      (.error .emptyName, r,
        w.release (w.create plan.transport s).1 (w.create plan.transport s).2) := by
  simp only [register, Registry.addBuiltin, Registry.add, if_pos nameless, Registry.letGo]

/-- A plan whose name is taken is refused, and so is its writer. -/
lemma Plan.register_taken {w : Writers ω σ} {plan : Plan} {r : Registry ω}
    (named : plan.name ≠ "") (taken : r.endpoints.contains plan.name = true) (s : σ) :
    plan.register w r s =
      (.error (.duplicateName plan.name), r,
        w.release (w.create plan.transport s).1 (w.create plan.transport s).2) := by
  simp only [register, Registry.addBuiltin, Registry.add, if_neg named, if_pos taken,
    Registry.letGo]

/-- The plans have an endpoint each in the registry, set up one after the other from the state
`start` on, with these calls. -/
inductive Enrolled (w : Writers ω σ) (start : σ) :
    List Plan → Registry ω → σ → List (Call ω) → Prop where
  | none :
    Enrolled w start [] .empty start []
  | more {plans r s calls plan} :
    Enrolled w start plans r s calls →
    plan.name ≠ "" →
    r.endpoints.find? plan.name = none →
    Enrolled w start (plans ++ [plan]) (r.enrol w plan s) (plan.opening w s).2
      (calls ++ plan.openingCalls w s)

namespace Enrolled

variable {w : Writers ω σ} {start : σ} {plans : List Plan} {r : Registry ω} {s : σ}
  {calls : List (Call ω)}

lemma state (enrolled : Enrolled w start plans r s calls) : s = Plan.openAll w start plans := by
  induction enrolled with
  | none => rfl
  | more _ _ _ ih => rw [Plan.openAll_append, ← ih]

/-- The names registered are those of the plans. -/
lemma contains_iff (enrolled : Enrolled w start plans r s calls) {name : String} :
    r.endpoints.contains name = true ↔ name ∈ plans.map Plan.name := by
  induction enrolled with
  | none => simp [Registry.empty, Table.contains]
  | @more plans r s calls plan _ _ _ ih =>
    rw [List.map_append, List.mem_append, ← ih, Registry.enrol, Table.contains, Table.find?_insert]
    split
    · rename_i eq
      simp [eq]
    · rename_i ne
      simp [ne, Table.contains]

lemma sound (enrolled : Enrolled w start plans r s calls) : r.Sound := by
  induction enrolled with
  | none => exact .cleared _
  | more _ named free ih => exact ih.enrol named free _

end Enrolled

end LogFanout
