import LogFanout.Logger.Shared
import LogFanout.Blueprint.Build
import LogFanout.Proofs.Logger.Trace
import LogFanout.Proofs.Registry.Moves

/-!
# What the built-in writers of a logger hold

A logger makes writers of built-in kinds by itself, besides those that callers bring along. However
it was made and whatever was done with it, its built-in writers hold what their endpoints are
enabled with and nothing else, and after a shutdown they hold nothing (`builtins_held`).
-/

namespace LogFanout

open World (builtins)

variable {ω ω' σ : Type}

/-- A change with another kind of handles for writers. -/
def Change.map (f : ω' → ω) : Change ω' → Change ω
  | .add name writer ownership => .add name (f writer) ownership
  | .remove name => .remove name
  | .enable name argument => .enable name argument
  | .disable name => .disable name
  | .setEnabled name argument on => .setEnabled name argument on

/-- A change that brings along no built-in writer. -/
def Change.Foreign (number? : ω → Option Nat) : Change ω → Prop
  | .add _ writer _ => number? writer = none
  | _ => True

lemma Change.Foreign.offers {number? : ω → Option Nat} {change : Change ω}
    (foreign : change.Foreign number?) (start : World) (r : Registry ω) (world : World) :
    r.Offers number? start world change := by
  cases change with
  | add _ _ _ =>
    intro number own
    cases foreign.symm.trans own
  | _ => trivial

lemma Change.foreign_map {number? : ω → Option Nat} {f : ω' → ω}
    (none : ∀ writer, number? (f writer) = none) (change : Change ω') :
    (change.map f).Foreign number? := by
  cases change with
  | add _ writer _ => exact none writer
  | _ => trivial

namespace Logger

/-- An operation with another kind of handles for writers. -/
def Operation.map (f : ω' → ω) : Operation ω' → Operation ω
  | .change made => .change (made.map f)
  | .addBuiltin name transport => .addBuiltin name transport
  | .print now message => .print now message
  | .shutdown => .shutdown

/-- An operation that brings along no built-in writer. -/
def Operation.Foreign (number? : ω → Option Nat) : Operation ω → Prop
  | .change made => made.Foreign number?
  | _ => True

lemma Operation.foreign_map {number? : ω → Option Nat} {f : ω' → ω}
    (none : ∀ writer, number? (f writer) = none) (operation : Operation ω') :
    (operation.map f).Foreign number? := by
  cases operation with
  | change made => exact made.foreign_map none
  | _ => trivial

lemma foreign_history {number? : ω → Option Nat} {f : ω' → ω}
    (none : ∀ writer, number? (f writer) = none) (history : List (Operation ω')) :
    ∀ operation ∈ history.map (Operation.map f), operation.Foreign number? := by
  intro operation mem
  obtain ⟨operation, -, rfl⟩ := List.mem_map.mp mem
  exact operation.foreign_map none

lemma foreign_seeding (number? : ω → Option Nat) (seeded : Bool) :
    ∀ operation ∈ seeding seeded, operation.Foreign number? := by
  cases seeded with
  | false => exact List.forall_mem_nil _
  | true => exact List.forall_mem_cons.mpr ⟨trivial, List.forall_mem_singleton.mpr trivial⟩

variable {w : Writers ω σ} {host : Host} {number? : ω → Option Nat} {world : σ → World}
  {start : World} {s : σ}

section

variable [DecidableEq ω] {logger : Logger ω}

/-- Every operation keeps what the endpoints hold. -/
lemma perform_holds (among : w.Extends host number? world)
    (holds : logger.registry.Holds number? start (world s)) {operation : Operation ω}
    (foreign : operation.Foreign number?) :
    (logger.perform w operation s).2.1.registry.Holds number? start
      (world (logger.perform w operation s).2.2) := by
  cases operation with
  | change made => exact holds.change among (foreign.offers start _ _)
  | addBuiltin name transport => exact holds.addBuiltin among name transport
  | print now message =>
    simp only [perform, print]
    split
    · exact holds
    · exact holds.fanOut among _
  | shutdown => exact holds.clear among

lemma run_holds (among : w.Extends host number? world)
    (holds : logger.registry.Holds number? start (world s)) {history : List (Operation ω)}
    (foreign : ∀ operation ∈ history, operation.Foreign number?) :
    (run w history logger s).2.1.registry.Holds number? start
      (world (run w history logger s).2.2) := by
  induction history generalizing logger s with
  | nil => exact holds
  | cons operation history ih =>
    obtain ⟨first, rest⟩ := List.forall_mem_cons.mp foreign
    exact ih (perform_holds among holds first) rest

/-- A new logger holds what it should. -/
lemma build_holds (among : w.Extends host number? world) (capacity : Nat) (seeded : Bool) (s : σ) :
    (build w capacity seeded s).1.registry.Holds number? (world s)
      (world (build w capacity seeded s).2) := by
  rw [build_eq_run]
  exact run_holds among (.empty (world s)) (foreign_seeding number? seeded)

end

/-- Registering the endpoint of a plan, whether or not it is refused. -/
lemma register_holds {r : Registry ω} (among : w.Extends host number? world)
    (holds : r.Holds number? start (world s)) (plan : Plan) :
    (plan.register w r s).2.1.Holds number? start (world (plan.register w r s).2.2) := by
  have added := holds.addBuiltin among plan.name plan.transport
  rw [Plan.register]
  split <;> rename_i eq <;> rw [eq] at added
  · exact added
  · split
    · exact (Registry.enable_moves among _ plan.name plan.argument _).holds added trivial
    · exact added

lemma registerAll_holds {r : Registry ω} (among : w.Extends host number? world)
    (holds : r.Holds number? start (world s)) (plans : List Plan) :
    (Blueprint.registerAll w plans r s).2.1.Holds number? start
      (world (Blueprint.registerAll w plans r s).2.2) := by
  induction plans generalizing r s with
  | nil => exact holds
  | cons plan plans ih =>
    have registered := register_holds among holds plan
    rw [Blueprint.registerAll]
    split <;> rename_i eq <;> rw [eq] at registered
    · exact ih registered
    · exact registered

/-- A logger set up from a blueprint, or what is left if there is none. -/
lemma blueprint_holds [DecidableEq ω] (among : w.Extends host number? world)
    (blueprint : Blueprint) (s : σ) :
    match blueprint.build w s with
    | (.ok logger, s') => logger.registry.Holds number? (world s) (world s')
    | (.error _, s') => World.Shut (world s) (world s') := by
  have built := build_holds among blueprint.settings.capacity.toNat blueprint.settings.seeded s
  have registered := registerAll_holds among built blueprint.plans
  simp only [Blueprint.build]
  split <;> rename_i eq
  · split at eq
    · rename_i done
      cases eq
      rw [done] at registered
      exact registered
    · cases eq
  · split at eq
    · cases eq
    · rename_i refused
      cases eq
      rw [refused] at registered
      exact registered.clear_shut among

/-- The writers that a logger has made since the world was `start` hold what they should. -/
structure Tight (w : Writers (Nat ⊕ ω) (World × σ)) (start : World) (logger : Logger (Nat ⊕ ω))
    (s : World × σ) : Prop where
  holds : logger.registry.Holds Sum.getLeft? start s.1
  /-- A writer is open exactly while its endpoint is enabled. -/
  isOpen : ∀ {name endpoint number}, logger.registry.endpoints.find? name = some endpoint →
    endpoint.writer = .inl number → (s.1.writer number).isOpen = endpoint.enabled
  /-- A shutdown would leave none of them open. -/
  shut : World.Shut start (logger.shutdown w s).1

/-- However a logger was made, seeded or from a blueprint, and whatever was done with it, among
writers that callers brought along: the writer that the logger made for an endpoint is open exactly
while the endpoint is enabled, and then it is open on the argument of the enable; all other writers
that were made, those of removed endpoints and of refused registrations among them, are closed. If
the logger is shut down, or could not be set up, then all are. -/
theorem builtins_held [DecidableEq ω] (host : Host) (others : Writers ω σ) (start : World) (s : σ) :
    let w := Writers.both (builtins host) others
    (∀ capacity seeded (history : List (Operation ω)),
      let built := build w capacity seeded (start, s)
      let used := (run w (history.map (Operation.map .inr)) built.1 built.2).2
      Tight w start used.1 used.2) ∧
    (∀ (blueprint : Blueprint) (history : List (Operation ω)),
      match blueprint.build w (start, s) with
      | (.ok logger, s') =>
        let used := (run w (history.map (Operation.map .inr)) logger s').2
        Tight w start used.1 used.2
      | (.error _, s') => World.Shut start s'.1) := by
  intro w
  have among := Writers.both_extends host others
  have tight : ∀ {logger : Logger (Nat ⊕ ω)} {s' : World × σ} (history : List (Operation ω)),
      logger.registry.Holds Sum.getLeft? start s'.1 →
      Tight w start (run w (history.map (Operation.map .inr)) logger s').2.1
        (run w (history.map (Operation.map .inr)) logger s').2.2 := by
    intro logger s' history holds
    have foreign : ∀ operation ∈ history.map (Operation.map Sum.inr),
        operation.Foreign (Sum.getLeft? : Nat ⊕ ω → Option Nat) :=
      foreign_history (fun _ => rfl) history
    have used := run_holds among holds foreign
    refine ⟨used, fun found own => used.isOpen_eq ⟨found, ?_⟩, used.clear_shut among⟩
    rw [own]
    rfl
  refine ⟨fun capacity seeded history => ?_, fun blueprint history => ?_⟩
  · exact tight history (build_holds among capacity seeded (start, s))
  · have built := blueprint_holds among blueprint (start, s)
    split <;> rename_i eq <;> rw [eq] at built
    · exact tight history built
    · exact built

end Logger
end LogFanout
