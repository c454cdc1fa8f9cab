import LogFanout.Proofs.Registry.Mapped
import LogFanout.Proofs.Registry.Transition

/-!
# Traces of registries

The trace of a history holds one step for each operation, with its answer and the calls that it made
on writers. Nothing is lost by looking at traces instead of runs (`run_eq_trace`), and every run is a
row of transitions (`run_reaches`), so that what all runs have in common is proved by induction on
`Reaches`.
-/

namespace LogFanout
namespace Registry

variable {ω σ : Type}

/-- The registries that transitions lead to from an empty one, with the steps on the way. -/
inductive Reaches : List (Step ω) → Registry ω → Prop where
  | start : Reaches [] .empty
  | step {steps step r r'} :
    Reaches steps r →
    Takes r step r' →
    Reaches (steps ++ [step]) r'

/-- All registries that transitions lead to are sound. -/
lemma Reaches.sound {steps : List (Step ω)} {r : Registry ω} (reaches : Reaches steps r) :
    r.Sound := by
  induction reaches with
  | start => exact .cleared _
  | step _ takes ih => exact takes.sound ih

variable [DecidableEq ω]

/-- Carries out an operation and gives the step that it was. -/
def observe (w : Writers ω σ) (operation : Operation ω) (r : Registry ω) (s : σ) :
    Step ω × Registry ω × σ :=
  let (answer, r', s', calls) := r.perform w.recorded operation (s, [])
  (⟨operation, answer, calls, r.enabledNames⟩, r', s')

/-- The steps of a history. -/
def trace (w : Writers ω σ) : List (Operation ω) → Registry ω → σ → List (Step ω)
  | [], _, _ => []
  | operation :: history, r, s =>
    let (step, r, s) := r.observe w operation s
    step :: trace w history r s

/-- An operation that is watched does what it does otherwise. -/
lemma observe_eq (w : Writers ω σ) (operation : Operation ω) (r : Registry ω) (s : σ) :
    r.perform w operation s =
      ((r.observe w operation s).1.answer, (r.observe w operation s).2) :=
  perform_map w.recorded_maps operation r (s, [])

@[simp] lemma observe_operation (w : Writers ω σ) (operation : Operation ω) (r : Registry ω)
    (s : σ) : (r.observe w operation s).1.operation = operation :=
  rfl

/-- The answers of a run are those of its trace, and its operations are the history. -/
lemma run_eq_trace (w : Writers ω σ) (history : List (Operation ω)) (r : Registry ω) (s : σ) :
    (run w history r s).1 = (trace w history r s).map Step.answer ∧
      history = (trace w history r s).map Step.operation := by
  induction history generalizing r s with
  | nil => exact ⟨rfl, rfl⟩
  | cons operation history ih =>
    simp only [run, trace, observe_eq, List.map_cons, observe_operation]
    obtain ⟨answers, operations⟩ := ih (r.observe w operation s).2.1 (r.observe w operation s).2.2
    exact ⟨congrArg _ answers, congrArg _ operations⟩

lemma run_append (w : Writers ω σ) (history later : List (Operation ω)) (r : Registry ω) (s : σ) :
    (run w (history ++ later) r s).2 =
      (run w later (run w history r s).2.1 (run w history r s).2.2).2 := by
  induction history generalizing r s with
  | nil => rfl
  | cons operation history ih => exact ih _ _

/-- An operation on a sound registry is one of the transitions. -/
lemma observe_takes {r : Registry ω} (sound : r.Sound) (w : Writers ω σ)
    (operation : Operation ω) (s : σ) :
    r.Takes (r.observe w operation s).1 (r.observe w operation s).2.1 := by
  cases operation with
  | change change =>
    obtain ⟨status, r', s', calls, eq, makes⟩ := change_makes sound w change (s, [])
    simp only [observe, perform, eq]
    exact .changed makes
  | fanOut line =>
    obtain ⟨count, calls, ledger, s', eq, fanned⟩ := fanOut_fanned w line r (s, [])
    simp only [observe, perform, eq]
    exact .fannedOut fanned
  | clear =>
    obtain ⟨s', eq⟩ := clear_recorded sound w (s, [])
    simp only [observe, perform, eq]
    exact .cleared (.refl _)

/-- An operation leads on by a transition. -/
lemma Reaches.observe {steps : List (Step ω)} {r : Registry ω} (reaches : Reaches steps r)
    (w : Writers ω σ) (operation : Operation ω) (s : σ) :
    Reaches (steps ++ [(r.observe w operation s).1]) (r.observe w operation s).2.1 :=
  reaches.step (observe_takes reaches.sound w operation s)

lemma Reaches.run {steps : List (Step ω)} {r : Registry ω} (reaches : Reaches steps r)
    (w : Writers ω σ) (history : List (Operation ω)) (s : σ) :
    Reaches (steps ++ trace w history r s) (run w history r s).2.1 := by
  induction history generalizing steps r s with
  | nil =>
    rw [trace, List.append_nil]
    exact reaches
  | cons operation history ih =>
    have after := ih (reaches.observe w operation s) (r.observe w operation s).2.2
    simp only [Registry.run, observe_eq, trace]
    rw [List.append_assoc] at after
    exact after

/-- A history leads from an empty registry by transitions. -/
lemma run_reaches (w : Writers ω σ) (history : List (Operation ω)) (s : σ) :
    Reaches (trace w history .empty s) (run w history .empty s).2.1 :=
  Reaches.start.run w history s

end Registry
end LogFanout
