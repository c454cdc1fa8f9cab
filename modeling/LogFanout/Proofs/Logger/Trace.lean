import LogFanout.Logger.History
import LogFanout.Proofs.Registry.Trace

/-!
# Traces of loggers

All that a logger does it asks of its registry (`perform_recorded`), so a history of a logger has
the trace of a registry, and every run of a logger is a row of transitions (`run_reaches`). A logger
that is built with an endpoint on standard output is one without endpoints to which that endpoint
was added (`build_eq_run`).
-/

namespace LogFanout
namespace Logger

variable {ω σ : Type}

/-- What an operation asks of the registry, and in which state; a message without a tag asks for
nothing. -/
def Operation.asks? (w : Writers ω σ) (capacity : Nat) (s : σ) :
    Operation ω → Option (Registry.Operation ω × σ)
  | .change made => some (.change made, s)
  | .addBuiltin name transport =>
    let (writer, s) := w.create transport s
    some (.change (.add name writer .owned), s)
  | .print now message =>
    if message.tag = "" then none else some (.fanOut (message.render capacity 0 now), s)
  | .shutdown => some (.clear, s)

/-- The operations by which a new logger gets an endpoint on standard output. -/
def seeding (seeded : Bool) : List (Operation ω) :=
  if seeded then
    [.addBuiltin Blueprint.seedName .descriptor,
      .change (.enable Blueprint.seedName (.descriptor standardOutput))]
  else []

variable [DecidableEq ω]

/-- Carries out an operation and gives the steps of the registry, of which there is one at most. -/
def observe (w : Writers ω σ) (operation : Operation ω) (logger : Logger ω) (s : σ) :
    List (Registry.Step ω) × Logger ω × σ :=
  match operation.asks? w logger.capacity s with
  | none => ([], logger, s)
  | some (asked, s) =>
    let (step, registry, s) := logger.registry.observe w asked s
    ([step], { logger with registry }, s)

/-- The steps of the registry in a history. -/
def trace (w : Writers ω σ) : List (Operation ω) → Logger ω → σ → List (Registry.Step ω)
  | [], _, _ => []
  | operation :: history, logger, s =>
    let (steps, logger, s) := logger.observe w operation s
    steps ++ trace w history logger s

/-- An operation does what it asks of the registry. -/
lemma perform_asks (w : Writers ω σ) (operation : Operation ω) (logger : Logger ω) (s : σ) :
    (logger.perform w operation s).2 =
      match operation.asks? w logger.capacity s with
      | none => (logger, s)
      | some (asked, s) =>
        let (_, registry, s) := logger.registry.perform w asked s
        ({ logger with registry }, s) := by
  cases operation with
  | change change => rfl
  | addBuiltin name transport => rfl
  | print now message =>
    simp only [perform, Operation.asks?, print]
    split <;> rfl
  | shutdown => rfl

/-- An operation does what its steps do. -/
lemma perform_eq (w : Writers ω σ) (operation : Operation ω) (logger : Logger ω) (s : σ) :
    (logger.perform w operation s).2 = (logger.observe w operation s).2 := by
  rw [perform_asks, observe]
  cases operation.asks? w logger.capacity s with
  | none => rfl
  | some asked => simp only [Registry.observe_eq]

/-- An operation makes the calls of its steps, and no other ones. -/
lemma perform_recorded (w : Writers ω σ) (operation : Operation ω) (logger : Logger ω) (s : σ) :
    (logger.perform w.recorded operation (s, [])).2 =
      ((logger.observe w operation s).2.1, (logger.observe w operation s).2.2,
        (logger.observe w operation s).1.flatMap Registry.Step.calls) := by
  have same : operation.asks? w.recorded logger.capacity (s, []) =
      (operation.asks? w logger.capacity s).map fun (asked, s) => (asked, (s, [])) := by
    cases operation with
    | print now message =>
      simp only [Operation.asks?]
      split <;> rfl
    | _ => rfl
  rw [perform_asks, observe, same]
  cases operation.asks? w logger.capacity s with
  | none => rfl
  | some asked => simp [Registry.observe]

/-- An operation of a logger leads on by transitions. -/
lemma observe_reaches {steps : List (Registry.Step ω)} {logger : Logger ω}
    (reaches : Registry.Reaches steps logger.registry) (w : Writers ω σ) (operation : Operation ω)
    (s : σ) :
    Registry.Reaches (steps ++ (logger.observe w operation s).1)
      (logger.observe w operation s).2.1.registry := by
  rw [observe]
  split
  · exact (List.append_nil steps).symm ▸ reaches
  · exact reaches.observe w _ _

lemma trace_reaches {steps : List (Registry.Step ω)} {logger : Logger ω}
    (reaches : Registry.Reaches steps logger.registry) (w : Writers ω σ)
    (history : List (Operation ω)) (s : σ) :
    Registry.Reaches (steps ++ trace w history logger s)
      (run w history logger s).2.1.registry := by
  induction history generalizing steps logger s with
  | nil =>
    rw [trace, List.append_nil]
    exact reaches
  | cons operation history ih =>
    have after := ih (observe_reaches reaches w operation s) (logger.observe w operation s).2.2
    simp only [run, perform_eq, trace]
    rw [List.append_assoc] at after
    exact after

/-- A history leads from a logger without endpoints by transitions. -/
lemma run_reaches (w : Writers ω σ) (capacity : Nat) (history : List (Operation ω)) (s : σ) :
    Registry.Reaches (trace w history (bare capacity) s)
      (run w history (bare capacity) s).2.1.registry := by
  have empty : Registry.Reaches [] (bare capacity : Logger ω).registry := .start
  exact trace_reaches empty w history s

lemma run_append (w : Writers ω σ) (history later : List (Operation ω)) (logger : Logger ω)
    (s : σ) :
    (run w (history ++ later) logger s).2 =
      (run w later (run w history logger s).2.1 (run w history logger s).2.2).2 := by
  induction history generalizing logger s with
  | nil => rfl
  | cons operation history ih => exact ih _ _

/-- A logger that is built is one without endpoints to which the one on standard output was added,
if it was to be. -/
lemma build_eq_run (w : Writers ω σ) (capacity : Nat) (seeded : Bool) (s : σ) :
    build w capacity seeded s = (run w (seeding seeded) (bare capacity) s).2 := by
  cases seeded with
  | false => rfl
  | true =>
    have added : (bare capacity : Logger ω).registry.addBuiltin w Blueprint.seedName .descriptor s =
        (.ok (), (run w [.addBuiltin Blueprint.seedName .descriptor] (bare capacity) s).2.1.registry,
          (w.create .descriptor s).2) := by
      have named : Blueprint.seedName ≠ "" := by decide
      simp [Registry.addBuiltin, Registry.add, named, bare, Registry.empty, Table.contains, run,
        perform]
    simp only [build, if_true, seed, added]
    rfl

end Logger
end LogFanout
