import LogFanout.Proofs.Registry.Fanned
import LogFanout.Proofs.Registry.Sound
import LogFanout.Registry.History

/-!
# Transitions of registries

`Takes` lists all that an operation can do to a registry: with which answer, with which calls on the
writers, and what registry is left behind. `observe_takes` shows that every operation on a sound
registry does one of these; what follows is proved by cases on `Takes`, without the operations.
-/

namespace LogFanout
namespace Registry

variable {ω σ : Type}

/-- The status in an answer, if it is one. -/
def Answer.status? : Answer → Option Status
  | .status outcome => some outcome
  | _ => none

/-- One operation of a history, as it can be seen from outside. -/
structure Step (ω : Type) where
  operation : Operation ω
  answer : Answer
  /-- The calls made on writers meanwhile. -/
  calls : List (Call ω)
  /-- The names that were enabled before. -/
  enabled : List String

/-- The calls by which an endpoint is closed. -/
def closing (name : String) (endpoint : Endpoint ω) : List (Call ω) :=
  if endpoint.enabled then [⟨name, endpoint.writer, .destroy⟩] else []

/-- An endpoint is closed by a single call. -/
lemma eq_of_mem_closing {name : String} {endpoint : Endpoint ω} {call : Call ω}
    (mem : call ∈ closing name endpoint) : call = ⟨name, endpoint.writer, .destroy⟩ := by
  rw [closing] at mem
  split at mem
  · exact List.mem_singleton.mp mem
  · cases mem

/-- The reasons for which a change is refused before any writer is asked. -/
inductive Refuses (r : Registry ω) : Change ω → RegistryError → Prop where
  | namelessAdd {writer ownership} : Refuses r (.add "" writer ownership) .emptyName
  | namelessEnable {argument} : Refuses r (.enable "" argument) .emptyName
  | namelessDisable : Refuses r (.disable "") .emptyName
  | taken {name writer ownership endpoint} :
    r.endpoints.find? name = some endpoint →
    Refuses r (.add name writer ownership) (.duplicateName name)
  | unknownEnable {name argument} :
    name ≠ "" →
    r.endpoints.find? name = none →
    Refuses r (.enable name argument) (.notFound name)
  | unknownDisable {name} :
    name ≠ "" →
    r.endpoints.find? name = none →
    Refuses r (.disable name) (.notFound name)
  | already {name argument endpoint} :
    r.endpoints.find? name = some endpoint →
    endpoint.enabled = true →
    Refuses r (.enable name argument) (.alreadyEnabled name)

/-- What a change can do. -/
inductive Makes (r : Registry ω) :
    Change ω → Status → List (Call ω) → Registry ω → Prop where
  | refused {change error} :
    Refuses r change error →
    Makes r change (.error error) [] r
  | added {name writer ownership} :
    name ≠ "" →
    r.endpoints.find? name = none →
    Makes r (.add name writer ownership) (.ok ()) []
      { r with
        endpoints := r.endpoints.insert name (.fresh writer ownership r.ledger.next)
        ledger := r.ledger.extend }
  | passed {name} :
    r.endpoints.find? name = none →
    Makes r (.remove name) (.ok ()) [] r
  | removed {name endpoint} :
    r.endpoints.find? name = some endpoint →
    Makes r (.remove name) (.ok ()) (closing name endpoint)
      { r with endpoints := r.endpoints.erase name, routes := r.routes.erase name }
  | initFailed {name argument endpoint why} :
    r.endpoints.find? name = some endpoint →
    endpoint.enabled = false →
    Makes r (.enable name argument) (.error (.initFailed name why))
      [⟨name, endpoint.writer, .init argument (.error why)⟩] r
  | opened {name argument endpoint} :
    r.endpoints.find? name = some endpoint →
    endpoint.enabled = false →
    Makes r (.enable name argument) (.ok ()) [⟨name, endpoint.writer, .init argument (.ok ())⟩]
      { r with
        endpoints := r.endpoints.insert name (endpoint.opened argument)
        routes := r.routes.insert name endpoint.route }
  | closed {name endpoint} :
    r.endpoints.find? name = some endpoint →
    Makes r (.disable name) (.ok ()) (closing name endpoint)
      { r with
        endpoints := r.endpoints.insert name endpoint.closed
        routes := r.routes.erase name }
  | enabling {name argument status calls r'} :
    Makes r (.enable name argument) status calls r' →
    Makes r (.setEnabled name argument true) status calls r'
  | disabling {name argument status calls r'} :
    Makes r (.disable name) status calls r' →
    Makes r (.setEnabled name argument false) status calls r'

/-- What an operation can do. -/
inductive Takes (r : Registry ω) : Step ω → Registry ω → Prop where
  | changed {change status calls r'} :
    Makes r change status calls r' →
    Takes r ⟨.change change, .status status, calls, r.enabledNames⟩ r'
  | fannedOut {line count calls ledger} :
    Fanned r.routes.entries line r.routes.entries r.ledger count calls ledger →
    Takes r ⟨.fanOut line, .delivered count, calls, r.enabledNames⟩ { r with ledger }
  /-- The endpoints are gone through in any order. -/
  | cleared {entries : List (String × Endpoint ω)} :
    entries.Perm r.endpoints.entries →
    Takes r ⟨.clear, .done, entries.flatMap fun entry => closing entry.1 entry.2, r.enabledNames⟩
      ⟨.empty, .empty, r.ledger⟩

lemma Makes.sound {r r' : Registry ω} {change : Change ω} {status : Status}
    {calls : List (Call ω)} (sound : r.Sound) (makes : r.Makes change status calls r') :
    r'.Sound := by
  induction makes with
  | refused _ => exact sound
  | added named free => exact sound.added named _ _ free
  | passed _ => exact sound
  | removed _ => exact sound.removed _
  | initFailed _ _ => exact sound
  | opened found _ => exact sound.opened found _
  | closed found => exact sound.closed found
  | enabling _ ih => exact ih
  | disabling _ ih => exact ih

/-- Every transition keeps a registry sound. -/
lemma Takes.sound {r r' : Registry ω} {step : Step ω} (sound : r.Sound)
    (takes : r.Takes step r') : r'.Sound := by
  cases takes with
  | changed makes => exact makes.sound sound
  | fannedOut fanned => exact sound.counted fanned.next
  | cleared _ => exact .cleared _

/-- Closing an endpoint. -/
lemma close_recorded (w : Writers ω σ) (name : String) (endpoint : Endpoint ω)
    (routes : Table (Route ω)) (s : σ × List (Call ω)) :
    ∃ s', close w.recorded name endpoint routes s =
      (if endpoint.enabled then endpoint.closed else endpoint,
        if endpoint.enabled then routes.erase name else routes, s',
        s.2 ++ closing name endpoint) := by
  rw [close, closing]
  split
  · exact ⟨_, rfl⟩
  · exact ⟨s.1, by rw [List.append_nil]⟩

lemma Sound.close_recorded {r : Registry ω} {name : String} {endpoint : Endpoint ω}
    (sound : r.Sound) (found : r.endpoints.find? name = some endpoint) (w : Writers ω σ)
    (s : σ × List (Call ω)) :
    ∃ s', close w.recorded name endpoint r.routes s =
      (endpoint.closed, r.routes.erase name, s', s.2 ++ closing name endpoint) := by
  obtain ⟨s', eq⟩ := Registry.close_recorded w name endpoint r.routes s
  refine ⟨s', eq.trans ?_⟩
  split
  · rfl
  · rename_i off
    have off := Bool.eq_false_iff.mpr off
    rw [sound.closed_eq found off, sound.erase_routes found off]

lemma letGo_recorded (w : Writers ω σ) (ownership : Ownership) (writer : ω)
    (s : σ × List (Call ω)) : ∃ s', letGo w.recorded ownership writer s = (s', s.2) := by
  cases ownership with
  | owned => exact ⟨_, rfl⟩
  | shared => exact ⟨_, rfl⟩

/-- An add is refused or makes a new endpoint. -/
lemma add_makes {r : Registry ω} (w : Writers ω σ) (name : String) (writer : ω)
    (ownership : Ownership) (s : σ × List (Call ω)) :
    ∃ status r' s', r.add w.recorded name writer ownership s = (status, r', s', s.2) ∧
      r.Makes (.add name writer ownership) status [] r' := by
  obtain ⟨s', letGo⟩ := letGo_recorded w ownership writer s
  rw [add]
  split
  · rename_i nameless
    subst nameless
    exact ⟨_, _, s', by rw [letGo], .refused .namelessAdd⟩
  · rename_i named
    split
    · rename_i taken
      obtain ⟨endpoint, found⟩ := Table.contains_iff.mp taken
      exact ⟨_, _, s', by rw [letGo], .refused (.taken found)⟩
    · rename_i free
      exact ⟨_, _, s.1, rfl, .added named (Option.not_isSome_iff_eq_none.mp free)⟩

/-- A remove passes over unknown names and closes the endpoints of others. -/
lemma remove_makes {r : Registry ω} (sound : r.Sound) (w : Writers ω σ) (name : String)
    (s : σ × List (Call ω)) :
    ∃ r' s' calls, r.remove w.recorded name s = (r', s', s.2 ++ calls) ∧
      r.Makes (.remove name) (.ok ()) calls r' := by
  rw [remove]
  split
  · rename_i free
    exact ⟨r, s.1, [], by rw [List.append_nil], .passed free⟩
  · rename_i endpoint found
    obtain ⟨s₁, closed⟩ := sound.close_recorded found w s
    obtain ⟨s₂, letGo⟩ := letGo_recorded w endpoint.ownership endpoint.writer
      (s₁, s.2 ++ closing name endpoint)
    refine ⟨_, s₂, closing name endpoint, ?_, .removed found⟩
    simp only [closed]
    exact congrArg _ letGo

/-- An enable is refused, fails at the writer or opens the endpoint. -/
lemma enable_makes {r : Registry ω} (w : Writers ω σ) (name : String) (argument : Argument)
    (s : σ × List (Call ω)) :
    ∃ status r' s' calls, r.enable w.recorded name argument s = (status, r', s', s.2 ++ calls) ∧
      r.Makes (.enable name argument) status calls r' := by
  rw [enable]
  split
  · rename_i nameless
    subst nameless
    exact ⟨_, r, s.1, [], by rw [List.append_nil], .refused .namelessEnable⟩
  · rename_i named
    split
    · rename_i free
      exact ⟨_, r, s.1, [], by rw [List.append_nil], .refused (.unknownEnable named free)⟩
    · rename_i endpoint found
      split
      · rename_i on
        exact ⟨_, r, s.1, [], by rw [List.append_nil], .refused (.already found on)⟩
      · rename_i off
        have off := Bool.eq_false_iff.mpr off
        rcases eq : w.init name endpoint.writer argument s.1 with ⟨why | ⟨⟨⟩⟩, s₁⟩
        · refine ⟨.error (.initFailed name why), r, s₁,
            [⟨name, endpoint.writer, .init argument (.error why)⟩], ?_, .initFailed found off⟩
          simp only [Writers.recorded, eq]
        · refine ⟨_, _, s₁, _, ?_, .opened found off⟩
          simp only [Writers.recorded, eq]

/-- A disable is refused or closes the endpoint. -/
lemma disable_makes {r : Registry ω} (sound : r.Sound) (w : Writers ω σ) (name : String)
    (s : σ × List (Call ω)) :
    ∃ status r' s' calls, r.disable w.recorded name s = (status, r', s', s.2 ++ calls) ∧
      r.Makes (.disable name) status calls r' := by
  rw [disable]
  split
  · rename_i nameless
    subst nameless
    exact ⟨_, r, s.1, [], by rw [List.append_nil], .refused .namelessDisable⟩
  · rename_i named
    split
    · rename_i free
      exact ⟨_, r, s.1, [], by rw [List.append_nil], .refused (.unknownDisable named free)⟩
    · rename_i endpoint found
      obtain ⟨s', closed⟩ := sound.close_recorded found w s
      refine ⟨_, _, s', closing name endpoint, ?_, .closed found⟩
      simp only [closed]

/-- A change does one of the things listed. -/
lemma change_makes {r : Registry ω} (sound : r.Sound) (w : Writers ω σ) (change : Change ω)
    (s : σ × List (Call ω)) :
    ∃ status r' s' calls, r.change w.recorded change s = (status, r', s', s.2 ++ calls) ∧
      r.Makes change status calls r' := by
  cases change with
  | add name writer ownership =>
    obtain ⟨status, r', s', eq, makes⟩ := add_makes w name writer ownership s
    exact ⟨status, r', s', [], by rw [change, eq, List.append_nil], makes⟩
  | remove name =>
    obtain ⟨r', s', calls, eq, makes⟩ := remove_makes sound w name s
    exact ⟨.ok (), r', s', calls, by rw [change, eq], makes⟩
  | enable name argument => exact enable_makes w name argument s
  | disable name => exact disable_makes sound w name s
  | setEnabled name argument on =>
    cases on with
    | true =>
      obtain ⟨status, r', s', calls, eq, makes⟩ := enable_makes (r := r) w name argument s
      exact ⟨status, r', s', calls, eq, .enabling makes⟩
    | false =>
      obtain ⟨status, r', s', calls, eq, makes⟩ := disable_makes sound w name s
      exact ⟨status, r', s', calls, eq, .disabling makes⟩

/-- Closing endpoints calls the writers of those that are enabled, and leaves none of their
routes. -/
lemma closeAll_recorded (w : Writers ω σ) (entries : List (String × Endpoint ω))
    (routes : Table (Route ω)) (s : σ × List (Call ω)) :
    ∃ routes' s',
      closeAll w.recorded entries routes s =
        (routes', s', s.2 ++ entries.flatMap fun entry => closing entry.1 entry.2) ∧
      ∀ name route, routes'.find? name = some route → routes.find? name = some route ∧
        ∀ endpoint, (name, endpoint) ∈ entries → endpoint.enabled = false := by
  induction entries generalizing routes s with
  | nil => exact ⟨routes, s.1, by simp [closeAll], fun _ _ found => ⟨found, by simp⟩⟩
  | cons entry entries ih =>
    obtain ⟨name, endpoint⟩ := entry
    obtain ⟨s₁, closed⟩ := close_recorded w name endpoint routes s
    obtain ⟨s₂, letGo⟩ := letGo_recorded w
      (if endpoint.enabled then endpoint.closed else endpoint).ownership
      (if endpoint.enabled then endpoint.closed else endpoint).writer
      (s₁, s.2 ++ closing name endpoint)
    obtain ⟨routes', s', eq, kept⟩ := ih
      (if endpoint.enabled then routes.erase name else routes) (s₂, s.2 ++ closing name endpoint)
    refine ⟨routes', s', ?_, fun other route found => ?_⟩
    · simp only [closeAll, closed, letGo, eq, List.flatMap_cons, List.append_assoc]
    · obtain ⟨before, off⟩ := kept other route found
      have here : routes.find? other = some route ∧
          (other = name → endpoint.enabled = false) := by
        split at before
        · rw [Table.find?_erase] at before
          split at before
          · cases before
          · rename_i ne
            exact ⟨before, fun eq => absurd eq ne⟩
        · rename_i disabled
          exact ⟨before, fun _ => Bool.eq_false_iff.mpr disabled⟩
      -- What is left of the routes is neither of this endpoint nor of the later ones.
      refine ⟨here.1, fun other' mem => ?_⟩
      rcases List.mem_cons.mp mem with eq | mem
      · cases eq
        exact here.2 rfl
      · exact off other' mem

/-- Closing all endpoints of a registry, in any order, leaves no routes. -/
lemma Sound.closeAll_recorded {r : Registry ω} (sound : r.Sound)
    {entries : List (String × Endpoint ω)} (perm : entries.Perm r.endpoints.entries)
    (w : Writers ω σ) (s : σ × List (Call ω)) :
    ∃ s', closeAll w.recorded entries r.routes s =
      (.empty, s', s.2 ++ entries.flatMap fun entry => closing entry.1 entry.2) := by
  obtain ⟨routes, s', eq, kept⟩ := Registry.closeAll_recorded w entries r.routes s
  have none : routes = .empty := by
    refine Table.ext_find? fun name => Option.eq_none_iff_forall_ne_some.mpr fun route found => ?_
    obtain ⟨before, off⟩ := kept name route found
    obtain ⟨endpoint, registered, on, -⟩ := sound.find?_routes_iff.mp before
    rw [off endpoint (perm.mem_iff.mpr (Table.mem_entries_iff.mpr registered))] at on
    cases on
  exact ⟨s', none ▸ eq⟩

/-- Clearing a registry closes all endpoints and leaves neither endpoints nor routes. -/
lemma clear_recorded {r : Registry ω} (sound : r.Sound) (w : Writers ω σ)
    (s : σ × List (Call ω)) :
    ∃ s', r.clear w.recorded s = (⟨.empty, .empty, r.ledger⟩, s',
      s.2 ++ r.endpoints.entries.flatMap fun entry => closing entry.1 entry.2) := by
  obtain ⟨s', eq⟩ := sound.closeAll_recorded (.refl _) w s
  exact ⟨s', by rw [clear, eq]⟩

end Registry
end LogFanout
