import LogFanout.Proofs.Logger.Trace
import LogFanout.Proofs.Registry.Lifecycle

/-!
# The lifecycle of the writers of a logger

Writers are opened, written to and closed in turn, by registries and by loggers, and after a clear
or a shutdown none is left open (`calls_bracketed`).
-/

namespace LogFanout
namespace Logger

variable {ω σ : Type} [DecidableEq ω]

/-- A history of a logger that was built leads on by transitions. -/
lemma build_reaches (w : Writers ω σ) (capacity : Nat) (seeded : Bool)
    (history : List (Operation ω)) (s : σ) :
    Registry.Reaches (trace w (seeding seeded ++ history) (bare capacity) s)
      (run w history (build w capacity seeded s).1 (build w capacity seeded s).2).2.1.registry := by
  have reaches := run_reaches w capacity (seeding seeded ++ history) s
  rw [run_append, ← build_eq_run] at reaches
  exact reaches

lemma contains_shutdown (w : Writers ω σ) (history : List (Operation ω)) (logger : Logger ω) (s : σ)
    (name : String) :
    (run w (history ++ [.shutdown]) logger s).2.1.registry.contains name = false := by
  rw [run_append]
  rfl

/-- Whatever was done with a registry or a logger and whatever the writers answered: on behalf of a
name the writer of its registration is opened, written to and closed in turn, it is open exactly
while lines go out to the name, and no call is made outside the registrations. After a clear or a
shutdown all registrations have ended, so every writer was closed as often as it was opened. -/
theorem calls_bracketed (w : Writers ω σ) (s : σ) (name : String) :
    (∀ history, Registry.Bracketed name (Registry.trace w history .empty s)
      (Registry.run w history .empty s).2.1) ∧
    (∀ history, (Registry.registrations name
      (Registry.trace w (history ++ [.clear]) .empty s)).current = none) ∧
    (∀ capacity seeded history, Registry.Bracketed name
      (trace w (seeding seeded ++ history) (bare capacity) s)
      (run w history (build w capacity seeded s).1 (build w capacity seeded s).2).2.1.registry) ∧
    (∀ capacity seeded history, (Registry.registrations name
      (trace w (seeding seeded ++ (history ++ [.shutdown])) (bare capacity) s)).current = none) := by
  refine ⟨fun history => ?_, fun history => ?_, fun capacity seeded history => ?_,
    fun capacity seeded history => ?_⟩
  · exact (Registry.run_reaches w history s).bracketed name
  · have bracketed := (Registry.run_reaches w (history ++ [.clear]) s).bracketed name
    refine bracketed.current_eq_none ?_
    rw [Registry.run_append]
    rfl
  · exact (build_reaches w capacity seeded history s).bracketed name
  · have bracketed :=
      (build_reaches w capacity seeded (history ++ [.shutdown]) s).bracketed name
    exact bracketed.current_eq_none (contains_shutdown w history _ _ name)

end Logger
end LogFanout
