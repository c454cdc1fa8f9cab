import LogFanout.Proofs.Registry.Depth
import LogFanout.Proofs.Registry.Sound
import LogFanout.Proofs.Writer.Apart
import LogFanout.Registry.History

/-!
# Registries of writers that share no state

Two registries are `Beside` each other if they differ by the endpoint of one name only, and by the
pages on which the writes are counted. If the writers of that endpoint share no state with the
others, then a change does the same with the other writers in both registries, and changes of the
endpoint itself do nothing with them; if the others do not hear of the endpoint by way of the
registry either, then the same holds for fan-outs.
-/

namespace LogFanout

variable {ω σ : Type}

/-- An endpoint without the page on which its writes are counted. -/
def Endpoint.unpaged (endpoint : Endpoint ω) : Endpoint ω :=
  { endpoint with page := 0 }

/-- Endpoints that differ by their pages only. -/
lemma Endpoint.unpaged_inj {endpoint endpoint' : Endpoint ω}
    (eq : endpoint.unpaged = endpoint'.unpaged) :
    endpoint.writer = endpoint'.writer ∧ endpoint.ownership = endpoint'.ownership ∧
      endpoint.argument = endpoint'.argument ∧ endpoint.enabled = endpoint'.enabled := by
  simpa [unpaged] using eq

namespace Registry

/-- The registry `r'` is `r` without the endpoint `name`, whose writer is one of `own`. -/
structure Beside (name : String) (own : ω → Prop) (r r' : Registry ω) : Prop where
  absent : r'.endpoints.find? name = none
  endpoints : ∀ other ≠ name,
    (r.endpoints.find? other).map Endpoint.unpaged =
      (r'.endpoints.find? other).map Endpoint.unpaged
  counters : ∀ other ≠ name, r.counters.lookup other = r'.counters.lookup other
  own : ∀ {other endpoint}, r.endpoints.find? other = some endpoint →
    (own endpoint.writer ↔ other = name)

/-- Another name is registered in both registries or in none. -/
lemma Beside.find? {name : String} {own : ω → Prop} {r r' : Registry ω}
    (beside : Beside name own r r') {other : String} (ne : other ≠ name) :
    r.endpoints.find? other = none ∧ r'.endpoints.find? other = none ∨
      ∃ endpoint endpoint', r.endpoints.find? other = some endpoint ∧
        r'.endpoints.find? other = some endpoint' ∧ endpoint.unpaged = endpoint'.unpaged ∧
        ¬own endpoint.writer := by
  have same := beside.endpoints other ne
  cases found : r.endpoints.find? other with
  | none =>
    rw [found] at same
    exact .inl ⟨rfl, Option.map_eq_none_iff.mp same.symm⟩
  | some endpoint =>
    rw [found] at same
    obtain ⟨endpoint', found', eq⟩ := Option.map_eq_some_iff.mp same.symm
    exact .inr ⟨endpoint, endpoint', rfl, found', eq.symm, fun mine => ne ((beside.own found).mp mine)⟩

variable {w : Writers ω σ} {name : String} {own : ω → Prop} {alike : σ → σ → Prop} {s s' : σ}

/-- What is let go of after closing an endpoint is its writer. -/
lemma letGo_close (w : Writers ω σ) (name : String) (endpoint : Endpoint ω)
    (routes : Table (Route ω)) (s t : σ) :
    letGo w (close w name endpoint routes s).1.ownership (close w name endpoint routes s).1.writer
      t = letGo w endpoint.ownership endpoint.writer t := by
  rw [close]
  split <;> rfl

/-- The endpoints of the registry without the endpoint. -/
lemma Beside.map_endpoints {r r' : Registry ω} (beside : Beside name own r r') :
    (r.endpoints.erase name).map Endpoint.unpaged = r'.endpoints.map Endpoint.unpaged := by
  refine Table.ext_find? fun other => ?_
  rw [Table.find?_map, Table.find?_map, Table.find?_erase]
  split
  · rename_i eq
    rw [eq, beside.absent]
  · rename_i ne
    exact beside.endpoints other ne

variable [DecidableEq ω]

end Registry
end LogFanout
