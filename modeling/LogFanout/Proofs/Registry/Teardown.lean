import LogFanout.Proofs.Registry.Apart
import LogFanout.Proofs.Registry.Drained

/-!
# Tearing down endpoints in any order

A clear closes each endpoint and lets go of its writer. Where two registries are cleared that are
beside each other, the other writers come to the same state if their endpoints are gone through in
the same order, or if the order makes no difference to them (`Writers.Interchangeable`).
-/

namespace LogFanout

variable {ω σ : Type}

namespace Registry

variable {w : Writers ω σ} {name : String} {own : ω → Prop} {alike : σ → σ → Prop} {s s' : σ}

variable {r r' : Registry ω}

/-- Without the endpoint, the names of one registry are those of the other. -/
lemma Beside.names (beside : Beside name own r r') :
    r.endpoints.names.filter (· ≠ name) = r'.endpoints.names := by
  rw [← Table.names_erase, ← Table.names_map Endpoint.unpaged, beside.map_endpoints,
    Table.names_map]

/-- All endpoints of the other registry are others. -/
lemma Beside.others (beside : Beside name own r r') {entry : String × Endpoint ω}
    (mem : entry ∈ (r'.endpoints.map Endpoint.unpaged).entries) :
    entry.1 ≠ name ∧ ¬own entry.2.writer := by
  have found := Table.mem_entries_iff.mp mem
  have ne : entry.1 ≠ name := by
    intro eq
    rw [eq, Table.find?_map, beside.absent] at found
    cases found
  rw [← beside.map_endpoints, Table.find?_map, Table.find?_erase, if_neg ne] at found
  obtain ⟨endpoint, registered, eq⟩ := Option.map_eq_some_iff.mp found
  exact ⟨ne, eq ▸ fun mine => ne ((beside.own registered).mp mine)⟩

end Registry
end LogFanout
