import LogFanout.Proofs.Registry.Trace
import LogFanout.Proofs.Writer.Holding

/-!
# What the endpoints of a registry hold

The writer of a built-in endpoint holds something open exactly while the endpoint is enabled, namely
what the enable asked for; all other built-in writers are closed. This is `Holds`, and it is kept
when endpoints come, go, are opened and are closed together with their writers.
-/

namespace LogFanout

open World (builtins)

variable {ω : Type}

namespace Registry

/-- An endpoint has the built-in writer with a number. -/
def Lodges (number? : ω → Option Nat) (r : Registry ω) (name : String) (endpoint : Endpoint ω)
    (number : Nat) : Prop :=
  r.endpoints.find? name = some endpoint ∧ number? endpoint.writer = some number

/-- What the built-in writers made since the world was `start` have to do with the endpoints. -/
structure Holds (number? : ω → Option Nat) (start : World) (r : Registry ω) (world : World) :
    Prop where
  sound : r.Sound
  more : start.writers.length ≤ world.writers.length
  owned : ∀ {name endpoint number}, r.Lodges number? name endpoint number →
    endpoint.ownership = .owned ∧ start.writers.length ≤ number ∧ number < world.writers.length
  /-- No two endpoints share a writer. -/
  apart : ∀ {name other endpoint endpoint' number}, r.Lodges number? name endpoint number →
    r.Lodges number? other endpoint' number → name = other
  /-- A writer holds what its endpoint was enabled with. -/
  holding : ∀ {name endpoint number}, r.Lodges number? name endpoint number →
    (world.writer number).holding = endpoint.argument
  fits : ∀ {name endpoint number}, r.Lodges number? name endpoint number →
    (world.writer number).Fits world.surroundings.connections
  /-- No two endpoints share a connection. -/
  alone : ∀ {name other endpoint endpoint' number number' connection},
    r.Lodges number? name endpoint number → r.Lodges number? other endpoint' number' →
    (world.writer number).connection? = some connection →
    (world.writer number').connection? = some connection → name = other
  /-- Writers that are no endpoint's are closed. -/
  idle : ∀ number, start.writers.length ≤ number →
    (∀ name endpoint, ¬r.Lodges number? name endpoint number) →
    (world.writer number).isOpen = false

variable {number? : ω → Option Nat} {start world world' : World} {r : Registry ω}
  {name other : String} {endpoint endpoint' : Endpoint ω} {number : Nat}

/-- An endpoint that has another writer has another name. -/
lemma Lodges.name_ne (lodges : r.Lodges number? other endpoint' number)
    (found : r.endpoints.find? name = some endpoint) (ne : number? endpoint.writer ≠ some number) :
    other ≠ name := by
  rintro rfl
  cases found.symm.trans lodges.1
  exact ne lodges.2

lemma lodges_insert {routes : Table (Route ω)} {ledger : Ledger} :
    Lodges number? ⟨r.endpoints.insert name endpoint', routes, ledger⟩ other endpoint number ↔
      (other = name ∧ endpoint = endpoint' ∧ number? endpoint'.writer = some number) ∨
        (other ≠ name ∧ r.Lodges number? other endpoint number) := by
  rw [Lodges, Lodges, Table.find?_insert]
  split
  · rename_i eq
    constructor
    · rintro ⟨found, own⟩
      cases found
      exact .inl ⟨eq, rfl, own⟩
    · rintro (⟨-, rfl, own⟩ | ⟨ne, -⟩)
      · exact ⟨rfl, own⟩
      · exact absurd eq ne
  · rename_i ne
    simp [ne]

lemma lodges_erase {routes : Table (Route ω)} {ledger : Ledger} :
    Lodges number? ⟨r.endpoints.erase name, routes, ledger⟩ other endpoint number ↔
      other ≠ name ∧ r.Lodges number? other endpoint number := by
  rw [Lodges, Lodges, Table.find?_erase]
  split
  · rename_i eq
    simp [eq]
  · rename_i ne
    simp [ne]

namespace Holds

/-- A registry without endpoints has no use for writers. -/
lemma cleared (more : start.writers.length ≤ world.writers.length)
    (shut : World.Shut start world) (ledger : Ledger) :
    Holds number? start ⟨.empty, .empty, ledger⟩ world where
  sound := .cleared ledger
  more := more
  owned lodges := by cases lodges.1
  apart lodges := by cases lodges.1
  holding lodges := by cases lodges.1
  fits lodges := by cases lodges.1
  alone lodges := by cases lodges.1
  idle number later _ := shut number later

lemma empty (start : World) : (Registry.empty : Registry ω).Holds number? start start :=
  .cleared (Nat.le_refl _) (fun _ later => World.isOpen_unmade later) .empty

/-- A writer is open exactly while its endpoint is enabled. -/
lemma isOpen_eq (holds : r.Holds number? start world)
    (lodges : r.Lodges number? name endpoint number) :
    (world.writer number).isOpen = endpoint.enabled := by
  rw [← Builtin.isSome_holding, holds.holding lodges]
  exact holds.sound.argued lodges.1

lemma owned_of_own (holds : r.Holds number? start world)
    (found : r.endpoints.find? name = some endpoint) (own : number? endpoint.writer ≠ none) :
    endpoint.ownership = .owned := by
  obtain ⟨number, own⟩ := Option.ne_none_iff_exists'.mp own
  exact (holds.owned ⟨found, own⟩).1

/-- Closed writers may come, and connections, as long as the writers that are there stay. -/
lemma kept (holds : r.Holds number? start world)
    (more : world.writers.length ≤ world'.writers.length)
    (same : ∀ number < world.writers.length, world'.writer number = world.writer number)
    (new : ∀ number, world.writers.length ≤ number → (world'.writer number).isOpen = false)
    (connections : world.surroundings.connections <+: world'.surroundings.connections) :
    r.Holds number? start world' where
  sound := holds.sound
  more := Nat.le_trans holds.more more
  owned lodges := by
    obtain ⟨owned, later, made⟩ := holds.owned lodges
    exact ⟨owned, later, Nat.lt_of_lt_of_le made more⟩
  apart := holds.apart
  holding lodges := by
    rw [same _ (holds.owned lodges).2.2]
    exact holds.holding lodges
  fits lodges := by
    rw [same _ (holds.owned lodges).2.2]
    exact (holds.fits lodges).mono connections
  alone lodges lodges' link link' := by
    rw [same _ (holds.owned lodges).2.2] at link
    rw [same _ (holds.owned lodges').2.2] at link'
    exact holds.alone lodges lodges' link link'
  idle number later none := by
    by_cases made : number < world.writers.length
    · rw [same number made]
      exact holds.idle number later none
    · exact new number (Nat.not_lt.mp made)

lemma unchanged (holds : r.Holds number? start world) (writers : world'.writers = world.writers)
    (connections : world.surroundings.connections <+: world'.surroundings.connections) :
    r.Holds number? start world' := by
  have same : ∀ number, world'.writer number = world.writer number := fun number => by
    rw [World.writer, writers, World.writer]
  refine holds.kept (Nat.le_of_eq (congrArg List.length writers.symm)) (fun number _ => same number)
    (fun number beyond => ?_) connections
  rw [same]
  exact World.isOpen_unmade beyond

/-- Counting changes nothing. -/
lemma counted (holds : r.Holds number? start world) {ledger : Ledger}
    (sound : Sound { r with ledger }) : Holds number? start { r with ledger } world where
  sound := sound
  more := holds.more
  owned := holds.owned
  apart := holds.apart
  holding := holds.holding
  fits := holds.fits
  alone := holds.alone
  idle := holds.idle

/-- An endpoint may be added whose writer is closed and no other endpoint's. -/
lemma added (holds : r.Holds number? start world) (named : name ≠ "")
    (free : r.endpoints.find? name = none) (writer : ω) (ownership : Ownership)
    (own : ∀ number, number? writer = some number →
      ownership = .owned ∧ start.writers.length ≤ number ∧ number < world.writers.length ∧
        ∀ other endpoint, ¬r.Lodges number? other endpoint number) :
    Holds number? start { r with
      endpoints := r.endpoints.insert name (.fresh writer ownership r.ledger.next)
      ledger := r.ledger.extend } world := by
  have shut : ∀ {number}, number? writer = some number → (world.writer number).isOpen = false :=
    fun own' => holds.idle _ (own _ own').2.1 (own _ own').2.2.2
  refine ⟨holds.sound.added named writer ownership free, holds.more, fun lodges => ?_,
    fun lodges lodges' => ?_, fun lodges => ?_, fun lodges => ?_,
    fun lodges lodges' link link' => ?_, fun number later none => ?_⟩
  · rcases lodges_insert.mp lodges with ⟨-, rfl, here⟩ | ⟨-, before⟩
    · obtain ⟨owned, later, made, -⟩ := own _ here
      exact ⟨owned, later, made⟩
    · exact holds.owned before
  · rcases lodges_insert.mp lodges with ⟨eq, -, here⟩ | ⟨-, before⟩ <;>
      rcases lodges_insert.mp lodges' with ⟨eq', -, here'⟩ | ⟨-, before'⟩
    · rw [eq, eq']
    · exact absurd before' ((own _ here).2.2.2 _ _)
    · exact absurd before ((own _ here').2.2.2 _ _)
    · exact holds.apart before before'
  · rcases lodges_insert.mp lodges with ⟨-, rfl, here⟩ | ⟨-, before⟩
    · exact Builtin.holding_eq_none (shut here)
    · exact holds.holding before
  · rcases lodges_insert.mp lodges with ⟨-, -, here⟩ | ⟨-, before⟩
    · exact .shut (shut here)
    · exact holds.fits before
  · rcases lodges_insert.mp lodges with ⟨-, -, here⟩ | ⟨-, before⟩
    · cases (Builtin.connection?_eq_none (shut here)).symm.trans link
    · rcases lodges_insert.mp lodges' with ⟨-, -, here'⟩ | ⟨-, before'⟩
      · cases (Builtin.connection?_eq_none (shut here')).symm.trans link'
      · exact holds.alone before before' link link'
  · refine holds.idle number later fun other endpoint lodges => none other endpoint ?_
    refine lodges_insert.mpr (.inr ⟨?_, lodges⟩)
    rintro rfl
    cases free.symm.trans lodges.1

/-- When an endpoint has been replaced by one with its writer, the endpoint of a built-in writer is
this one, or it was there before and has another writer. -/
lemma lodges_replaced (holds : r.Holds number? start world)
    (found : r.endpoints.find? name = some endpoint) (writer : endpoint'.writer = endpoint.writer)
    {routes : Table (Route ω)} {ledger : Ledger} {endpoint₁ : Endpoint ω}
    (lodges : Lodges number? ⟨r.endpoints.insert name endpoint', routes, ledger⟩ other endpoint₁
      number) :
    (other = name ∧ endpoint₁ = endpoint' ∧ r.Lodges number? name endpoint number) ∨
      (r.Lodges number? other endpoint₁ number ∧ number? endpoint.writer ≠ some number) := by
  rcases lodges_insert.mp lodges with ⟨eq, same, own⟩ | ⟨ne, before⟩
  · exact .inl ⟨eq, same, found, writer ▸ own⟩
  · exact .inr ⟨before, fun own => ne (holds.apart before ⟨found, own⟩)⟩

/-- An endpoint may be opened or closed together with its writer, if it gets no old connection. -/
lemma changed (holds : r.Holds number? start world) (found : r.endpoints.find? name = some endpoint)
    {routes : Table (Route ω)}
    (sound : Sound { r with endpoints := r.endpoints.insert name endpoint', routes })
    (writer : endpoint'.writer = endpoint.writer)
    (ownership : endpoint'.ownership = endpoint.ownership)
    (length : world'.writers.length = world.writers.length)
    (others : ∀ other, number? endpoint.writer ≠ some other →
      world'.writer other = world.writer other)
    (own : ∀ number, number? endpoint.writer = some number →
      (world'.writer number).holding = endpoint'.argument ∧
      (world'.writer number).Fits world'.surroundings.connections ∧
      ∀ connection, (world'.writer number).connection? = some connection →
        world.surroundings.connections.length ≤ connection)
    (connections : world.surroundings.connections <+: world'.surroundings.connections) :
    Holds number? start { r with endpoints := r.endpoints.insert name endpoint', routes }
      world' := by
  -- The connections of other endpoints are old ones.
  have distinct : ∀ {other endpoint₁ number number' connection},
      r.Lodges number? name endpoint number →
      r.Lodges number? other endpoint₁ number' → number? endpoint.writer ≠ some number' →
      (world'.writer number).connection? = some connection →
      (world'.writer number').connection? ≠ some connection := by
    intro other endpoint₁ number number' connection here before ne link link'
    rw [others _ ne] at link'
    exact absurd ((holds.fits before).connection_lt link')
      (Nat.not_lt.mpr ((own _ here.2).2.2 _ link))
  exact {
    sound := sound
    more := length ▸ holds.more
    owned := fun lodges => by
      rw [length]
      rcases holds.lodges_replaced found writer lodges with ⟨-, rfl, here⟩ | ⟨before, -⟩
      · rw [ownership]
        exact holds.owned here
      · exact holds.owned before
    apart := fun lodges lodges' => by
      rcases holds.lodges_replaced found writer lodges with ⟨eq, -, here⟩ | ⟨before, ne⟩ <;>
        rcases holds.lodges_replaced found writer lodges' with ⟨eq', -, here'⟩ | ⟨before', ne'⟩
      · rw [eq, eq']
      · exact absurd here.2 ne'
      · exact absurd here'.2 ne
      · exact holds.apart before before'
    holding := fun lodges => by
      rcases holds.lodges_replaced found writer lodges with ⟨-, rfl, here⟩ | ⟨before, ne⟩
      · exact (own _ here.2).1
      · rw [others _ ne]
        exact holds.holding before
    fits := fun lodges => by
      rcases holds.lodges_replaced found writer lodges with ⟨-, -, here⟩ | ⟨before, ne⟩
      · exact (own _ here.2).2.1
      · rw [others _ ne]
        exact (holds.fits before).mono connections
    alone := fun lodges lodges' link link' => by
      rcases holds.lodges_replaced found writer lodges with ⟨eq, -, here⟩ | ⟨before, ne⟩ <;>
        rcases holds.lodges_replaced found writer lodges' with ⟨eq', -, here'⟩ | ⟨before', ne'⟩
      · rw [eq, eq']
      · exact absurd link' (distinct here before' ne' link)
      · exact absurd link (distinct here' before ne link')
      · rw [others _ ne] at link
        rw [others _ ne'] at link'
        exact holds.alone before before' link link'
    idle := fun number later none => by
      have ne : number? endpoint.writer ≠ some number := fun own =>
        none name endpoint' (lodges_insert.mpr (.inl ⟨rfl, rfl, writer ▸ own⟩))
      rw [others number ne]
      refine holds.idle number later fun other endpoint₁ lodges => none other endpoint₁ ?_
      exact lodges_insert.mpr (.inr ⟨lodges.name_ne found ne, lodges⟩) }

lemma closed (holds : r.Holds number? start world)
    (found : r.endpoints.find? name = some endpoint) :
    Holds number? start { r with
        endpoints := r.endpoints.insert name endpoint.closed
        routes := r.routes.erase name }
      (world.shutAt (number? endpoint.writer)) := by
  refine holds.changed found (holds.sound.closed found) rfl rfl (World.length_shutAt ..)
    (fun other ne => World.writer_shutAt_ne ne world) (fun number own => ?_) ?_
  · have shut := World.isOpen_shutAt_self own world
    refine ⟨Builtin.holding_eq_none shut, .shut shut, fun connection link => ?_⟩
    cases (Builtin.connection?_eq_none shut).symm.trans link
  · exact World.surroundings_shutAt world _ ▸ List.prefix_rfl

lemma removed (holds : r.Holds number? start world)
    (found : r.endpoints.find? name = some endpoint) :
    Holds number? start { r with
        endpoints := r.endpoints.erase name
        routes := r.routes.erase name }
      (world.shutAt (number? endpoint.writer)) := by
  have others : ∀ {other endpoint₁ number},
      Lodges number? ⟨r.endpoints.erase name, r.routes.erase name, r.ledger⟩ other endpoint₁ number →
      r.Lodges number? other endpoint₁ number ∧
        (world.shutAt (number? endpoint.writer)).writer number = world.writer number := by
    intro other endpoint₁ number lodges
    obtain ⟨ne, before⟩ := lodges_erase.mp lodges
    refine ⟨before, World.writer_shutAt_ne (fun own => ?_) world⟩
    exact ne (holds.apart before ⟨found, own⟩)
  refine ⟨holds.sound.removed name, ?_, fun lodges => ?_, fun lodges lodges' => ?_,
    fun lodges => ?_, fun lodges => ?_, fun lodges lodges' link link' => ?_,
    fun number later none => ?_⟩
  · rw [World.length_shutAt]
    exact holds.more
  · rw [World.length_shutAt]
    exact holds.owned (others lodges).1
  · exact holds.apart (others lodges).1 (others lodges').1
  · rw [(others lodges).2]
    exact holds.holding (others lodges).1
  · rw [(others lodges).2, World.surroundings_shutAt]
    exact holds.fits (others lodges).1
  · rw [(others lodges).2] at link
    rw [(others lodges').2] at link'
    exact holds.alone (others lodges).1 (others lodges').1 link link'
  · by_cases own : number? endpoint.writer = some number
    · exact World.isOpen_shutAt_self own world
    · rw [World.writer_shutAt_ne own]
      refine holds.idle number later fun other endpoint₁ lodges => none other endpoint₁ ?_
      exact lodges_erase.mpr ⟨lodges.name_ne found own, lodges⟩

end Holds
end Registry
end LogFanout
