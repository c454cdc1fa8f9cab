import LogFanout.Proofs.Table
import LogFanout.Registry.Basic

/-!
# Sound registries

What holds between the two tables and the ledger of a registry: exactly the enabled endpoints have a
route, an endpoint and its route have the writer and the page in common, an argument is in force
exactly while the endpoint is enabled, and every endpoint has a page of its own. Each way in which
an operation changes a registry keeps it sound.
-/

namespace LogFanout

variable {ω : Type}

/-- The route that an endpoint has; only enabled ones have one. -/
def Endpoint.route? (endpoint : Endpoint ω) : Option (Route ω) :=
  if endpoint.enabled then some endpoint.route else none

namespace Registry

/-- The tables and the ledger of a registry agree. -/
structure Sound (r : Registry ω) : Prop where
  named : r.endpoints.find? "" = none
  routed : ∀ name, r.routes.find? name = (r.endpoints.find? name).bind Endpoint.route?
  argued : ∀ {name endpoint}, r.endpoints.find? name = some endpoint →
    endpoint.argument.isSome = endpoint.enabled
  begun : ∀ {name endpoint}, r.endpoints.find? name = some endpoint →
    endpoint.page < r.ledger.next
  paged : ∀ {name other endpoint endpoint'}, r.endpoints.find? name = some endpoint →
    r.endpoints.find? other = some endpoint' → endpoint.page = endpoint'.page → name = other

namespace Sound

variable {r : Registry ω} {name : String} {endpoint : Endpoint ω}

/-- A registry without endpoints is sound, whatever was counted before. -/
lemma cleared (ledger : Ledger) : Sound (⟨.empty, .empty, ledger⟩ : Registry ω) where
  named := rfl
  routed _ := rfl
  argued found := by cases found
  begun found := by cases found
  paged found := by cases found

lemma ne_empty (sound : r.Sound) (found : r.endpoints.find? name = some endpoint) : name ≠ "" := by
  rintro rfl
  rw [sound.named] at found
  cases found

/-- An endpoint that has just been added is disabled and has a new page. -/
lemma added (sound : r.Sound) (named : name ≠ "") (writer : ω) (ownership : Ownership)
    (free : r.endpoints.find? name = none) :
    Sound { r with
      endpoints := r.endpoints.insert name (.fresh writer ownership r.ledger.next)
      ledger := r.ledger.extend } where
  named := by
    rw [Table.find?_insert, if_neg (Ne.symm named)]
    exact sound.named
  routed other := by
    rw [Table.find?_insert, sound.routed]
    split
    · rename_i eq
      rw [eq, free]
      rfl
    · rfl
  argued found := by
    rw [Table.find?_insert] at found
    split at found
    · cases found
      rfl
    · exact sound.argued found
  begun found := by
    rw [Table.find?_insert] at found
    rw [Ledger.next_extend]
    split at found
    · cases found
      exact Nat.lt_succ_self _
    · exact Nat.lt_succ_of_lt (sound.begun found)
  paged found found' eq := by
    rw [Table.find?_insert] at found found'
    split at found <;> split at found'
    · rename_i same same'
      rw [same, same']
    · cases found
      exact absurd eq (Nat.ne_of_gt (sound.begun found'))
    · cases found'
      exact absurd eq (Nat.ne_of_lt (sound.begun found))
    · exact sound.paged found found' eq

/-- A registered endpoint may be opened or closed, if its route comes and goes with it. -/
lemma changed (sound : r.Sound) (found : r.endpoints.find? name = some endpoint)
    {endpoint' : Endpoint ω} {routes : Table (Route ω)} (page : endpoint'.page = endpoint.page)
    (argued : endpoint'.argument.isSome = endpoint'.enabled)
    (routed : ∀ other, routes.find? other =
      if other = name then endpoint'.route? else r.routes.find? other) :
    Sound { r with endpoints := r.endpoints.insert name endpoint', routes } where
  named := by
    rw [Table.find?_insert, if_neg (Ne.symm (sound.ne_empty found))]
    exact sound.named
  routed other := by
    rw [routed, Table.find?_insert, sound.routed]
    split <;> rfl
  argued found := by
    rw [Table.find?_insert] at found
    split at found
    · cases found
      exact argued
    · exact sound.argued found
  begun found' := by
    rw [Table.find?_insert] at found'
    split at found'
    · cases found'
      exact page ▸ sound.begun found
    · exact sound.begun found'
  paged found₁ found₂ eq := by
    rw [Table.find?_insert] at found₁ found₂
    split at found₁ <;> split at found₂
    · rename_i same same'
      rw [same, same']
    · rename_i same _
      cases found₁
      exact same ▸ sound.paged found found₂ (page ▸ eq)
    · rename_i _ same
      cases found₂
      exact same ▸ sound.paged found₁ found (eq.trans page)
    · exact sound.paged found₁ found₂ eq

lemma opened (sound : r.Sound) (found : r.endpoints.find? name = some endpoint)
    (argument : Argument) :
    Sound { r with
      endpoints := r.endpoints.insert name (endpoint.opened argument)
      routes := r.routes.insert name endpoint.route } :=
  sound.changed found rfl rfl fun other => Table.find?_insert r.routes name other endpoint.route

lemma closed (sound : r.Sound) (found : r.endpoints.find? name = some endpoint) :
    Sound { r with
      endpoints := r.endpoints.insert name endpoint.closed
      routes := r.routes.erase name } :=
  sound.changed found rfl rfl fun other => Table.find?_erase r.routes name other

lemma removed (sound : r.Sound) (name : String) :
    Sound { r with endpoints := r.endpoints.erase name, routes := r.routes.erase name } where
  named := by
    rw [Table.find?_erase, sound.named]
    split <;> rfl
  routed other := by
    rw [Table.find?_erase, Table.find?_erase, sound.routed]
    split <;> rfl
  argued found := by
    rw [Table.find?_erase] at found
    split at found
    · cases found
    · exact sound.argued found
  begun found := by
    rw [Table.find?_erase] at found
    split at found
    · cases found
    · exact sound.begun found
  paged found found' eq := by
    rw [Table.find?_erase] at found found'
    split at found <;> split at found'
    · cases found
    · cases found
    · cases found'
    · exact sound.paged found found' eq

/-- Counting on the pages that there are changes nothing else. -/
lemma counted (sound : r.Sound) {ledger : Ledger} (next : ledger.next = r.ledger.next) :
    Sound { r with ledger } where
  named := sound.named
  routed := sound.routed
  argued := sound.argued
  begun found := next ▸ sound.begun found
  paged := sound.paged

/-- A disabled endpoint has no route. -/
lemma erase_routes (sound : r.Sound) (found : r.endpoints.find? name = some endpoint)
    (off : endpoint.enabled = false) : r.routes.erase name = r.routes := by
  refine Table.ext_find? fun other => ?_
  rw [Table.find?_erase]
  split
  · rename_i eq
    rw [eq, sound.routed, found, Option.bind_some, Endpoint.route?, off]
    rfl
  · rfl

/-- A disabled endpoint is as it would be after a disable. -/
lemma closed_eq (sound : r.Sound) (found : r.endpoints.find? name = some endpoint)
    (off : endpoint.enabled = false) : endpoint.closed = endpoint := by
  have none : endpoint.argument = none := by
    have argued := sound.argued found
    rw [off] at argued
    exact Option.isNone_iff_eq_none.mp (Option.isSome_eq_false_iff.mp argued)
  cases endpoint
  cases off
  cases none
  rfl

/-- Names that are registered and enabled have a route. -/
lemma find?_routes_iff (sound : r.Sound) {route : Route ω} :
    r.routes.find? name = some route ↔
      ∃ endpoint, r.endpoints.find? name = some endpoint ∧ endpoint.enabled = true ∧
        endpoint.route = route := by
  rw [sound.routed, Option.bind_eq_some_iff]
  refine exists_congr fun endpoint => and_congr_right fun _ => ?_
  rw [Endpoint.route?]
  split
  · rename_i on
    simp [on]
  · rename_i off
    simp [off]

/-- Lines go out to the names that are registered and enabled. -/
lemma isEnabled_iff (sound : r.Sound) :
    r.isEnabled name = true ↔
      ∃ endpoint, r.endpoints.find? name = some endpoint ∧ endpoint.enabled = true := by
  rw [isEnabled, Table.contains_iff]
  constructor
  · rintro ⟨route, found⟩
    obtain ⟨endpoint, found, on, -⟩ := sound.find?_routes_iff.mp found
    exact ⟨endpoint, found, on⟩
  · rintro ⟨endpoint, found, on⟩
    exact ⟨endpoint.route, sound.find?_routes_iff.mpr ⟨endpoint, found, on, rfl⟩⟩

/-- Lines go out to a registered endpoint exactly if it is enabled. -/
lemma isEnabled_eq (sound : r.Sound) (found : r.endpoints.find? name = some endpoint) :
    r.isEnabled name = endpoint.enabled := by
  refine Bool.eq_iff_iff.mpr (sound.isEnabled_iff.trans ⟨?_, fun on => ⟨endpoint, found, on⟩⟩)
  rintro ⟨_, found', on⟩
  cases found.symm.trans found'
  exact on

/-- The routes are those of the endpoints that are enabled, in the same order. -/
lemma routes_entries (sound : r.Sound) :
    r.routes.entries =
      (r.endpoints.entries.filter fun entry => entry.2.enabled).map fun entry =>
        (entry.1, entry.2.route) := by
  refine Table.eq_of_mem_iff r.routes.ascending ?_ fun (name, route) => ?_
  · exact List.pairwise_map.mpr (r.endpoints.ascending.filter _)
  · rw [Table.mem_entries_iff, sound.find?_routes_iff, List.mem_map]
    constructor
    · rintro ⟨endpoint, found, on, rfl⟩
      exact ⟨_, List.mem_filter.mpr ⟨Table.mem_entries_iff.mpr found, on⟩, rfl⟩
    · rintro ⟨⟨other, endpoint⟩, listed, eq⟩
      obtain ⟨mem, on⟩ := List.mem_filter.mp listed
      cases eq
      exact ⟨endpoint, Table.mem_entries_iff.mp mem, on, rfl⟩

end Sound
end Registry
end LogFanout
