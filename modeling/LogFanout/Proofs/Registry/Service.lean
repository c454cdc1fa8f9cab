import LogFanout.Proofs.Registry.Transition

/-!
# What a step does for one endpoint

Of all that a step does to a registry, only little concerns the endpoint of one name: it comes, it
goes, it passes from one phase to the next, and its writer is called. `Serves` lists this, and
`Takes.serves` shows that every transition of a sound registry serves every name in one of these
ways.
-/

namespace LogFanout
namespace Registry

variable {ω : Type} {name : String}

/-- The calls of a step on behalf of a name. -/
def Step.callsOf (name : String) (step : Step ω) : List (Call ω) :=
  step.calls.filter fun call => call.endpoint = name

/-- The writer with which a step registered a name, and who lets go of it, if it did. -/
def Step.adds? (name : String) (step : Step ω) : Option (ω × Ownership) :=
  match step.operation, step.answer.status? with
  | .change (.add other writer ownership), some (.ok ()) =>
    if other = name then some (writer, ownership) else none
  | _, _ => none

/-- Whether a step ends the registration of a name, if there is one. -/
def Step.ends (name : String) (step : Step ω) : Bool :=
  match step.operation with
  | .change (.remove other) => other = name
  | .clear => true
  | _ => false

/-- What happens to an endpoint while it is registered, with the calls that are made meanwhile. -/
inductive Phase (name : String) (endpoint : Endpoint ω) : List (Call ω) → Endpoint ω → Prop where
  | idle : Phase name endpoint [] endpoint
  | initFailed {argument why} :
    endpoint.enabled = false →
    Phase name endpoint [⟨name, endpoint.writer, .init argument (.error why)⟩] endpoint
  | opened {argument} :
    endpoint.enabled = false →
    Phase name endpoint [⟨name, endpoint.writer, .init argument (.ok ())⟩]
      (endpoint.opened argument)
  | closed :
    Phase name endpoint (closing name endpoint) endpoint.closed
  | written {calls : List (Call ω)} :
    endpoint.enabled = true →
    (∀ call ∈ calls, ∃ line outcome sent,
      call = ⟨name, endpoint.writer, .write line outcome sent⟩) →
    Phase name endpoint calls endpoint

/-- What a step does for the endpoint of a name, which is `none` while there is no endpoint. -/
inductive Serves (name : String) (step : Step ω) :
    Option (Endpoint ω) → Option (Endpoint ω) → Prop where
  | absent :
    step.adds? name = none →
    step.callsOf name = [] →
    Serves name step none none
  | added {writer ownership page} :
    step.adds? name = some (writer, ownership) →
    step.callsOf name = [] →
    Serves name step none (some (.fresh writer ownership page))
  | ended {endpoint} :
    step.adds? name = none →
    step.ends name = true →
    step.callsOf name = closing name endpoint →
    Serves name step (some endpoint) none
  | kept {endpoint calls endpoint'} :
    step.adds? name = none →
    step.ends name = false →
    step.callsOf name = calls →
    Phase name endpoint calls endpoint' →
    Serves name step (some endpoint) (some endpoint')

/-- A step that does nothing for a name. -/
lemma Serves.idle {step : Step ω} {endpoint : Option (Endpoint ω)}
    (adds : step.adds? name = none) (ends : step.ends name = false ∨ endpoint = none)
    (calls : step.callsOf name = []) : Serves name step endpoint endpoint := by
  cases endpoint with
  | none => exact .absent adds calls
  | some endpoint =>
    rcases ends with ends | none
    · exact .kept adds ends calls .idle
    · cases none

/-- The calls of a change are on behalf of its name. -/
lemma Makes.endpoint {r r' : Registry ω} {change : Change ω} {status : Status}
    {calls : List (Call ω)} (makes : r.Makes change status calls r') {call : Call ω}
    (mem : call ∈ calls) : call.endpoint = change.name := by
  induction makes with
  | refused _ => cases mem
  | added _ _ => cases mem
  | passed _ => cases mem
  | removed _ => rw [eq_of_mem_closing mem, Change.name]
  | initFailed _ _ => rw [List.mem_singleton.mp mem, Change.name]
  | opened _ _ => rw [List.mem_singleton.mp mem, Change.name]
  | closed _ => rw [eq_of_mem_closing mem, Change.name]
  | enabling _ ih => exact ih mem
  | disabling _ ih => exact ih mem

/-- A change leaves the endpoints of other names alone. -/
lemma Makes.find?_endpoints {r r' : Registry ω} {change : Change ω} {status : Status}
    {calls : List (Call ω)} (makes : r.Makes change status calls r') (other : change.name ≠ name) :
    r'.endpoints.find? name = r.endpoints.find? name := by
  induction makes with
  | refused _ => rfl
  | added _ _ => exact (Table.find?_insert ..).trans (if_neg (Ne.symm other))
  | passed _ => rfl
  | removed _ => exact (Table.find?_erase ..).trans (if_neg (Ne.symm other))
  | initFailed _ _ => rfl
  | opened _ _ => exact (Table.find?_insert ..).trans (if_neg (Ne.symm other))
  | closed _ => exact (Table.find?_insert ..).trans (if_neg (Ne.symm other))
  | enabling _ ih => exact ih other
  | disabling _ ih => exact ih other

lemma Makes.serves_other {r r' : Registry ω} {change : Change ω} {status : Status}
    {calls : List (Call ω)} (makes : r.Makes change status calls r') (other : change.name ≠ name) :
    Serves name ⟨.change change, .status status, calls, r.enabledNames⟩
      (r.endpoints.find? name) (r'.endpoints.find? name) := by
  rw [makes.find?_endpoints other]
  refine .idle ?_ (.inl ?_) (List.filter_eq_nil_iff.mpr fun call mem => ?_)
  · cases change with
    | add named _ _ =>
      rcases status with _ | ⟨⟨⟩⟩
      · rfl
      · exact if_neg other
    | _ => rfl
  · cases change with
    | remove named => exact decide_eq_false other
    | _ => rfl
  · simpa [makes.endpoint mem] using other

/-- Steps with the same calls that register and end the same serve a name in the same way. -/
lemma Serves.congr {step step' : Step ω} {before after : Option (Endpoint ω)}
    (serves : Serves name step before after) (adds : step'.adds? name = step.adds? name)
    (ends : step'.ends name = step.ends name) (calls : step'.calls = step.calls) :
    Serves name step' before after := by
  have callsOf : step'.callsOf name = step.callsOf name := by rw [Step.callsOf, calls, Step.callsOf]
  cases serves with
  | absent none nothing => exact .absent (adds.trans none) (callsOf.trans nothing)
  | added some nothing => exact .added (adds.trans some) (callsOf.trans nothing)
  | ended none ending closing =>
    exact .ended (adds.trans none) (ends.trans ending) (callsOf.trans closing)
  | kept none going calls phase =>
    exact .kept (adds.trans none) (ends.trans going) (callsOf.trans calls) phase

/-- A change that is refused is an add, an enable or a disable, and none that succeeded. -/
lemma Refuses.idle {r : Registry ω} {change : Change ω} {error : RegistryError}
    (refuses : r.Refuses change error) {calls : List (Call ω)} {enabled : List String} :
    Step.adds? name ⟨.change change, .status (.error error), calls, enabled⟩ = none ∧
      Step.ends name ⟨.change change, .status (.error error), calls, enabled⟩ = false := by
  cases refuses <;> exact ⟨rfl, rfl⟩

lemma Makes.serves_own {r r' : Registry ω} {change : Change ω} {status : Status}
    {calls : List (Call ω)} (makes : r.Makes change status calls r') :
    Serves change.name ⟨.change change, .status status, calls, r.enabledNames⟩
      (r.endpoints.find? change.name) (r'.endpoints.find? change.name) := by
  have own : Step.callsOf change.name ⟨.change change, .status status, calls, r.enabledNames⟩ =
      calls := List.filter_eq_self.mpr fun call mem => by simpa using makes.endpoint mem
  induction makes with
  | refused refuses => exact .idle refuses.idle.1 (.inl refuses.idle.2) own
  | @added name _ _ _ free =>
    rw [Change.name, free, Table.find?_insert, if_pos rfl]
    exact .added (if_pos rfl) own
  | passed free =>
    rw [Change.name, free]
    exact .absent rfl own
  | removed found =>
    rw [Change.name, found, Table.find?_erase, if_pos rfl]
    exact .ended rfl (decide_eq_true rfl) own
  | initFailed found off =>
    rw [Change.name, found]
    exact .kept rfl rfl own (.initFailed off)
  | opened found off =>
    rw [Change.name, found, Table.find?_insert, if_pos rfl]
    exact .kept rfl rfl own (.opened off)
  | closed found =>
    rw [Change.name, found, Table.find?_insert, if_pos rfl]
    exact .kept rfl rfl own .closed
  | @enabling _ _ status _ _ _ ih =>
    exact (ih own).congr (by cases status <;> rfl) rfl rfl
  | @disabling _ _ status _ _ _ ih =>
    exact (ih own).congr (by cases status <;> rfl) rfl rfl

/-- Closing all endpoints calls the writer of a name as closing its endpoint does. -/
lemma filter_closing (name : String) {entries : List (String × Endpoint ω)}
    (ascending : entries.Pairwise fun a b => a.1 < b.1) :
    (entries.flatMap fun entry => closing entry.1 entry.2).filter (·.endpoint = name) =
      ((entries.lookup name).map (closing name)).getD [] := by
  induction entries with
  | nil => rfl
  | cons head tail ih =>
    obtain ⟨below, rest⟩ := List.pairwise_cons.mp ascending
    rw [List.flatMap_cons, List.filter_append, ih rest, Table.lookup_cons]
    split
    · rename_i eq
      subst eq
      -- The names ascend, so no later endpoint has this one.
      have none : tail.lookup head.1 = none :=
        Option.eq_none_iff_forall_ne_some.mpr fun endpoint found =>
          String.lt_irrefl _ (below (head.1, endpoint) (Table.mem_of_lookup_eq_some found))
      simp only [none, closing, Option.map_some, Option.map_none, Option.getD_some,
        Option.getD_none, List.append_nil]
      split <;> simp
    · rename_i ne
      simp only [closing]
      split <;> simp [Ne.symm ne]

/-- An endpoint is closed by one call at most, so there is only one order of its calls. -/
lemma eq_closing_of_perm {endpoint : Endpoint ω} {calls : List (Call ω)}
    (perm : calls.Perm (closing name endpoint)) : calls = closing name endpoint := by
  by_cases on : endpoint.enabled = true
  · rw [closing, if_pos on] at perm ⊢
    exact List.perm_singleton.mp perm
  · rw [closing, if_neg on] at perm ⊢
    exact List.perm_nil.mp perm

/-- In whatever order the endpoints are closed, an endpoint is closed once. -/
lemma clear_serves {r : Registry ω} {entries : List (String × Endpoint ω)}
    (perm : entries.Perm r.endpoints.entries) :
    Serves name ⟨.clear, .done, entries.flatMap fun entry => closing entry.1 entry.2,
      r.enabledNames⟩ (r.endpoints.find? name) none := by
  have calls := (perm.flatMap_right fun entry => closing entry.1 entry.2).filter
    fun call => decide (call.endpoint = name)
  rw [filter_closing name r.endpoints.ascending] at calls
  rw [Table.find?]
  cases found : r.endpoints.entries.lookup name with
  | none =>
    rw [found] at calls
    exact .absent rfl (List.perm_nil.mp calls)
  | some endpoint =>
    rw [found] at calls
    exact .ended rfl rfl (eq_closing_of_perm calls)

/-- All calls of a fan-out are writes on routes. -/
lemma Fanned.write {routes rest : List (String × Route ω)} {line : Bytes} {ledger ledger' : Ledger}
    {count : Nat} {calls : List (Call ω)}
    (fanned : Fanned routes line rest ledger count calls ledger') (sub : rest ⊆ routes)
    {call : Call ω} (mem : call ∈ calls) :
    ∃ route line outcome sent, (call.endpoint, route) ∈ routes ∧
      call = ⟨call.endpoint, route.writer, .write line outcome sent⟩ := by
  induction fanned with
  | done => cases mem
  | @wrote line name route _ _ outcome _ _ _ _ ih =>
    obtain ⟨here, sub⟩ := List.cons_subset.mp sub
    rcases List.mem_cons.mp mem with rfl | mem
    · exact ⟨route, line, outcome, none, here, rfl⟩
    · exact ih sub mem
  | @relayed line name route _ _ outcome sent _ _ _ _ _ _ _ _ inner outer =>
    obtain ⟨here, sub⟩ := List.cons_subset.mp sub
    rcases List.mem_cons.mp mem with rfl | mem
    · exact ⟨route, line, outcome, some sent, here, rfl⟩
    · rcases List.mem_append.mp mem with mem | mem
      · exact inner (List.Subset.refl _) mem
      · exact outer sub mem

lemma Fanned.serves {r : Registry ω} (sound : r.Sound) {line : Bytes} {ledger : Ledger}
    {count : Nat} {calls : List (Call ω)}
    (fanned : Fanned r.routes.entries line r.routes.entries r.ledger count calls ledger) :
    Serves name ⟨.fanOut line, .delivered count, calls, r.enabledNames⟩
      (r.endpoints.find? name) (r.endpoints.find? name) := by
  have routed : ∀ call ∈ calls, call.endpoint = name → ∃ endpoint line outcome sent,
      r.endpoints.find? name = some endpoint ∧ endpoint.enabled = true ∧
        call = ⟨name, endpoint.writer, .write line outcome sent⟩ := by
    rintro call mem rfl
    obtain ⟨route, line, outcome, sent, listed, eq⟩ := fanned.write (List.Subset.refl _) mem
    obtain ⟨endpoint, found, on, rfl⟩ :=
      sound.find?_routes_iff.mp (Table.mem_entries_iff.mp listed)
    exact ⟨endpoint, line, outcome, sent, found, on, eq⟩
  cases found : r.endpoints.find? name with
  | none =>
    refine .absent rfl (List.filter_eq_nil_iff.mpr fun call mem own => ?_)
    obtain ⟨_, _, _, _, found', -⟩ := routed call mem (by simpa using own)
    cases found.symm.trans found'
  | some endpoint =>
    cases on : endpoint.enabled with
    | true =>
      refine .kept rfl rfl rfl (.written on fun call mem => ?_)
      obtain ⟨mem, own⟩ := List.mem_filter.mp mem
      obtain ⟨_, line, outcome, sent, found', -, eq⟩ := routed call mem (by simpa using own)
      cases found.symm.trans found'
      exact ⟨line, outcome, sent, eq⟩
    | false =>
      refine .kept rfl rfl (List.filter_eq_nil_iff.mpr fun call mem own => ?_) .idle
      obtain ⟨_, _, _, _, found', on', -⟩ := routed call mem (by simpa using own)
      cases found.symm.trans found'
      cases on.symm.trans on'

/-- Every transition of a sound registry serves every name in one of the ways listed. -/
lemma Takes.serves {r r' : Registry ω} {step : Step ω} (sound : r.Sound)
    (takes : r.Takes step r') (name : String) :
    Serves name step (r.endpoints.find? name) (r'.endpoints.find? name) := by
  cases takes with
  | @changed change _ _ _ makes =>
    by_cases own : change.name = name
    · exact own ▸ makes.serves_own
    · exact makes.serves_other own
  | fannedOut fanned => exact fanned.serves sound
  | cleared perm => exact clear_serves perm

end Registry
end LogFanout
