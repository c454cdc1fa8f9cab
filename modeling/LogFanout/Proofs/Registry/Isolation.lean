import LogFanout.Proofs.Registry.Accounting
import LogFanout.Proofs.Registry.Effect
import LogFanout.Proofs.Registry.Teardown
import LogFanout.Proofs.Writer.Scripted

/-!
# Isolation of endpoints

A history is compared with the one from which all is deleted that is done with the endpoint of one
name; both may go through the endpoints in orders of their own when they clear. If the writers of
that endpoint share no state with the others, who do not hear of it by way of the registry either,
and if the orders make no difference to the others, nothing changes for any other name
(`run_isolated`): the same changes succeed, the same calls are made on the writers with the same
answers, and the same is seen of the endpoints. Shared state is not the only way by which an
endpoint can be noticed (`run_noticed`).
-/

namespace LogFanout
namespace Registry

variable {ω σ : Type} {name : String}

/-- The writer of an endpoint was added by the last step, or it was there before. -/
lemma Serves.writer {step : Step ω} {before : Option (Endpoint ω)} {endpoint : Endpoint ω}
    (serves : Serves name step before (some endpoint)) :
    (∃ ownership, step.adds? name = some (endpoint.writer, ownership)) ∨
      ∃ endpoint', before = some endpoint' ∧ endpoint.writer = endpoint'.writer := by
  cases serves with
  | added adds _ => exact .inl ⟨_, adds⟩
  | kept _ _ _ phase => exact .inr ⟨_, rfl, phase.own.1⟩

/-- A step that registers a name is an add of that name. -/
lemma Step.adds?_eq_some {step : Step ω} {writer : ω} {ownership : Ownership}
    (adds : step.adds? name = some (writer, ownership)) :
    step.operation = .change (.add name writer ownership) := by
  obtain ⟨operation, answer, calls, enabled⟩ := step
  rw [Step.adds?] at adds
  split at adds
  · rename_i eq _
    split at adds
    · rename_i same
      cases adds
      exact same ▸ eq
    · cases adds
  · cases adds

/-- Whether an operation is none on the endpoint of a name. -/
def Operation.spares (name : String) : Operation ω → Bool
  | .change made => made.name ≠ name
  | _ => true

/-- Steps are the same for names other than `name`. -/
structure Step.Matches (name : String) (step step' : Step ω) : Prop where
  operation : step.operation = step'.operation
  status : step.answer.status? = step'.answer.status?
  calls : ∀ other ≠ name, step.callsOf other = step'.callsOf other
  /-- Only a clear may call the writers of different names in another order. -/
  order : step.operation ≠ .clear → callsExcept name step.calls = callsExcept name step'.calls

/-- Steps that match have the same effect on other names. -/
lemma Step.Matches.effect {step step' : Step ω} (same : step.Matches name step') {other : String}
    (ne : other ≠ name) : step.effect other = step'.effect other := by
  funext endpoint
  cases endpoint with
  | none => rw [Step.effect, Step.effect, Step.adds?, same.operation, same.status, Step.adds?]
  | some endpoint =>
    rw [Step.effect, Step.effect, Step.ends, same.operation, Step.ends, same.calls other ne]

/-- An operation adds writers of `own` under the name, and no others. -/
def Operation.Allots (name : String) (own : ω → Prop) : Operation ω → Prop
  | .change (.add other writer _) => own writer ↔ other = name
  | _ => True

instance (own : ω → Prop) [DecidablePred own] (operation : Operation ω) :
    Decidable (operation.Allots name own) :=
  match operation with
  | .change (.add other writer _) => inferInstanceAs (Decidable (own writer ↔ other = name))
  | .change (.remove _) | .change (.enable ..) | .change (.disable _) | .change (.setEnabled ..)
  | .fanOut _ | .clear => inferInstanceAs (Decidable True)

/-- The writers of the endpoint are told from the others in the registry that is left behind, too. -/
lemma Takes.own {own : ω → Prop} {r r₁ : Registry ω} {step : Step ω} (sound : r.Sound)
    (takes : r.Takes step r₁)
    (before : ∀ {other endpoint}, r.endpoints.find? other = some endpoint →
      (own endpoint.writer ↔ other = name))
    (allots : step.operation.Allots name own) {other : String} {endpoint : Endpoint ω}
    (found : r₁.endpoints.find? other = some endpoint) : own endpoint.writer ↔ other = name := by
  have serves := takes.serves sound other
  rw [found] at serves
  rcases serves.writer with ⟨ownership, added⟩ | ⟨endpoint', listed, eq⟩
  · rw [Step.adds?_eq_some added] at allots
    exact allots
  · rw [eq]
    exact before listed

variable {w : Writers ω σ} {own : ω → Prop} {alike : σ → σ → Prop} {s s' : σ} {r r' : Registry ω}
  {drain drain' : Drain} {drains drains' : Nat → Drain}

variable [DecidableEq ω]

omit [DecidableEq ω] in
/-- Of all other endpoints the same is seen in both registries. -/
lemma Beside.views (beside : Beside name own r r') :
    r.views.filter (fun view => view.name ≠ name) = r'.views := by
  have seen : (r.endpoints.erase name).map (Endpoint.view r.ledger "") =
      r'.endpoints.map (Endpoint.view r'.ledger "") := by
    refine Table.ext_find? fun other => ?_
    rw [Table.find?_map, Table.find?_map, Table.find?_erase]
    split
    · rename_i eq
      rw [eq, beside.absent]
      rfl
    · rename_i ne
      have counters := beside.counters other ne
      rw [lookup_counters, lookup_counters] at counters
      rcases beside.find? ne with ⟨none, none'⟩ | ⟨endpoint, endpoint', some, some', eq, -⟩
      · rw [none, none']
        rfl
      · rw [some, some'] at counters ⊢
        obtain ⟨writer, ownership, argument, enabled⟩ := Endpoint.unpaged_inj eq
        simp only [Option.map_some, Option.some.injEq] at counters ⊢
        simp only [Endpoint.view, ownership, argument, enabled, counters]
  -- A view without its name is a value of the table; the names are put in again afterwards.
  have named : ∀ (ledger : Ledger) (table : Table (Endpoint ω)),
      (table.entries.map fun entry => entry.2.view ledger entry.1) =
        (table.map (Endpoint.view ledger "")).entries.map
          fun entry => { entry.2 with name := entry.1 } := by
    intro ledger table
    rw [Table.map, List.map_map]
    rfl
  calc r.views.filter (fun view => view.name ≠ name)
      = (r.endpoints.erase name).entries.map fun entry => entry.2.view r.ledger entry.1 :=
        List.filter_map
    _ = r'.endpoints.entries.map fun entry => entry.2.view r'.ledger entry.1 := by
        rw [named r.ledger, seen, ← named r'.ledger]
    _ = r'.views := rfl

end Registry
end LogFanout
