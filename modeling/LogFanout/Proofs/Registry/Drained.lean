import LogFanout.Proofs.Registry.Trace

/-!
# Traces with clears in any order

`traceIn` holds the steps of a history whose clears go through the endpoints in the orders that they
are told. The steps are transitions as those of `trace` are (`observeIn_takes`), so that all that is
known of transitions holds in whatever order a registry is cleared. With ascending names `runIn` is
`run` (`runIn_ascending`).
-/

namespace LogFanout
namespace Registry

variable {ω σ : Type}

@[simp] lemma drained_ascending (r : Registry ω) : r.drained .ascending = r.endpoints.entries :=
  Table.inOrder_names _

@[simp] lemma clearIn_ascending (w : Writers ω σ) (r : Registry ω) (s : σ) :
    r.clearIn w .ascending s = r.clear w s := by
  rw [clearIn, drained_ascending, clear]

variable [DecidableEq ω]

lemma performIn_ascending (w : Writers ω σ) (operation : Operation ω) (r : Registry ω) (s : σ) :
    r.performIn w .ascending operation s = r.perform w operation s := by
  cases operation with
  | change _ => rfl
  | fanOut _ => rfl
  | clear => rw [performIn, clearIn_ascending, perform]

/-- With ascending names a history is carried out as `run` does. -/
lemma runIn_ascending (w : Writers ω σ) (history : List (Operation ω)) (r : Registry ω) (s : σ) :
    runIn w history (fun _ => .ascending) r s = run w history r s := by
  induction history generalizing r s with
  | nil => rfl
  | cons operation history ih =>
    have later : operation.later (fun _ => .ascending) = fun _ => .ascending := by
      cases operation <;> rfl
    simp only [runIn, later, performIn_ascending, ih, run]

/-- Carries out an operation and gives the step that it was. -/
def observeIn (w : Writers ω σ) (drain : Drain) (operation : Operation ω) (r : Registry ω) (s : σ) :
    Step ω × Registry ω × σ :=
  let (answer, r', s', calls) := r.performIn w.recorded drain operation (s, [])
  (⟨operation, answer, calls, r.enabledNames⟩, r', s')

/-- The steps of a history. -/
def traceIn (w : Writers ω σ) :
    List (Operation ω) → (Nat → Drain) → Registry ω → σ → List (Step ω)
  | [], _, _, _ => []
  | operation :: history, drains, r, s =>
    let (step, r, s) := r.observeIn w (drains 0) operation s
    step :: traceIn w history (operation.later drains) r s

/-- An operation that is watched does what it does otherwise. -/
lemma observeIn_eq (w : Writers ω σ) (drain : Drain) (operation : Operation ω) (r : Registry ω)
    (s : σ) :
    r.performIn w drain operation s =
      ((r.observeIn w drain operation s).1.answer, (r.observeIn w drain operation s).2) :=
  performIn_map w.recorded_maps drain operation r (s, [])

@[simp] lemma observeIn_operation (w : Writers ω σ) (drain : Drain) (operation : Operation ω)
    (r : Registry ω) (s : σ) : (r.observeIn w drain operation s).1.operation = operation :=
  rfl

/-- The answers of a run are those of its trace, and its operations are the history. -/
lemma runIn_eq_traceIn (w : Writers ω σ) (history : List (Operation ω)) (drains : Nat → Drain)
    (r : Registry ω) (s : σ) :
    (runIn w history drains r s).1 = (traceIn w history drains r s).map Step.answer ∧
      history = (traceIn w history drains r s).map Step.operation := by
  induction history generalizing drains r s with
  | nil => exact ⟨rfl, rfl⟩
  | cons operation history ih =>
    simp only [runIn, traceIn, observeIn_eq, List.map_cons, observeIn_operation]
    obtain ⟨answers, operations⟩ := ih (operation.later drains)
      (r.observeIn w (drains 0) operation s).2.1 (r.observeIn w (drains 0) operation s).2.2
    exact ⟨congrArg _ answers, congrArg _ operations⟩

end Registry
end LogFanout
