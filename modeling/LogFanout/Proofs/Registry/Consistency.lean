import LogFanout.Proofs.Registry.Trace
import LogFanout.Proofs.Text.ByteOrder

/-!
# Consistent registries

What can be seen of a registry after any history, whatever the writers answered: which names have a
route, which argument is in force, and what is listed in which order (`run_consistent`).
-/

namespace LogFanout

variable {ω σ : Type}

/-- The argument with which a change enables the endpoint of a name. -/
def Change.opens? (name : String) : Change ω → Option Argument
  | .enable other argument => if other = name then some argument else none
  | .setEnabled other argument true => if other = name then some argument else none
  | _ => none

namespace Registry

/-- The argument with which a step enabled the endpoint of a name, if it did. -/
def Step.opens? (name : String) (step : Step ω) : Option Argument :=
  match step.operation, step.answer with
  | .change change, .status (.ok ()) => change.opens? name
  | _, _ => none

/-- The argument of the latest enable of a name that succeeded. -/
def lastOpening (name : String) (steps : List (Step ω)) : Option Argument :=
  steps.foldl (fun last step => (step.opens? name).or last) none

/-- If the endpoint of a name is enabled, then with this argument. -/
def InForce (name : String) (argument : Option Argument) (r : Registry ω) : Prop :=
  ∀ endpoint, r.endpoints.find? name = some endpoint → endpoint.enabled = true →
    endpoint.argument = argument

/-- After a change that succeeded, the argument in force is that of the change, if it is an enable
of the name, or else what it was. -/
lemma Makes.inForce {r r' : Registry ω} {change : Change ω} {status : Status}
    {calls : List (Call ω)} {name : String} {last : Option Argument}
    (inForce : r.InForce name last) (makes : r.Makes change status calls r') :
    r'.InForce name ((Step.opens? name ⟨.change change, .status status, calls, []⟩).or last) := by
  -- Endpoints that a change leaves disabled have no argument in force; only an enable brings one.
  induction makes with
  | refused _ => exact inForce
  | added named free =>
    intro endpoint found on
    rw [Table.find?_insert] at found
    split at found
    · cases found
      cases on
    · exact inForce endpoint found on
  | passed _ => exact inForce
  | removed _ =>
    intro endpoint found on
    rw [Table.find?_erase] at found
    split at found
    · cases found
    · exact inForce endpoint found on
  | initFailed _ _ => exact inForce
  | @opened other argument _ _ _ =>
    intro endpoint found on
    rw [Table.find?_insert] at found
    simp only [Step.opens?, Change.opens?]
    split at found
    · rename_i eq
      cases found
      rw [if_pos eq.symm]
      rfl
    · rename_i ne
      rw [if_neg fun eq => ne eq.symm]
      exact inForce endpoint found on
  | closed _ =>
    intro endpoint found on
    rw [Table.find?_insert] at found
    split at found
    · cases found
      cases on
    · exact inForce endpoint found on
  | @enabling _ _ status _ _ _ ih =>
    cases status <;> exact ih
  | @disabling _ _ status _ _ _ ih =>
    cases status <;> exact ih

/-- After a step, the argument in force is the one with which the step enabled the endpoint, or
else what it was. -/
lemma Takes.inForce {r r' : Registry ω} {step : Step ω} {name : String} {last : Option Argument}
    (inForce : r.InForce name last) (takes : r.Takes step r') :
    r'.InForce name ((step.opens? name).or last) := by
  cases takes with
  | changed makes => exact makes.inForce inForce
  | fannedOut _ => exact inForce
  | cleared _ =>
    intro endpoint found
    cases found

/-- The argument in force is that of the latest enable that succeeded. -/
lemma Reaches.inForce {steps : List (Step ω)} {r : Registry ω} (reaches : Reaches steps r)
    (name : String) : r.InForce name (lastOpening name steps) := by
  induction reaches with
  | start =>
    intro endpoint found
    cases found
  | step _ takes ih =>
    rw [lastOpening, List.foldl_append]
    exact takes.inForce ih

/-- All endpoints are seen, under their names. -/
lemma map_name_views (r : Registry ω) : r.views.map EndpointView.name = r.endpoints.names := by
  rw [views, Table.names, List.map_map]
  rfl

/-- The names that lines go out to are those that are seen to be enabled. -/
lemma Sound.enabledNames_eq {r : Registry ω} (sound : r.Sound) :
    r.enabledNames = (r.views.filter EndpointView.enabled).map EndpointView.name := by
  rw [enabledNames, Table.names, sound.routes_entries, views, List.filter_map, List.map_map,
    List.map_map]
  rfl

/-- After any history of a registry, whatever the writers answered: the routes are those of the
enabled endpoints, with their writers and pages; an argument is in force exactly while an endpoint
is enabled, and it is that of the latest enable that succeeded; names are not empty and distinct;
and what is listed is listed once for every name, ascending by the bytes of the names. -/
theorem run_consistent [DecidableEq ω] (w : Writers ω σ) (history : List (Operation ω)) (s : σ) :
    let r := (run w history .empty s).2.1
    (∀ name, name ∈ r.routes.names ↔
      ∃ endpoint, r.endpoints.find? name = some endpoint ∧ endpoint.enabled = true) ∧
    (∀ name route endpoint, r.routes.find? name = some route →
      r.endpoints.find? name = some endpoint →
      route.writer = endpoint.writer ∧ route.page = endpoint.page) ∧
    (∀ name endpoint, r.endpoints.find? name = some endpoint →
      endpoint.argument.isSome = endpoint.enabled ∧
      (endpoint.enabled = true →
        endpoint.argument = lastOpening name (trace w history .empty s))) ∧
    (∀ name, r.contains name = true → name ≠ "") ∧
    (∀ name, r.contains name = true ↔ name ∈ r.views.map EndpointView.name) ∧
    (r.views.map EndpointView.name).Nodup ∧
    (r.views.map fun view => Text.utf8 view.name).Pairwise (· < ·) ∧
    r.counters.map (·.1) = r.views.map EndpointView.name ∧
    r.enabledNames = (r.views.filter EndpointView.enabled).map EndpointView.name := by
  intro r
  have reaches : Reaches (trace w history .empty s) r := run_reaches w history s
  have sound := reaches.sound
  refine ⟨fun name => ?_, fun name route endpoint routed found => ?_, fun name endpoint found => ?_,
    fun name => ?_, fun name => ?_, ?_, ?_, ?_, sound.enabledNames_eq⟩
  · rw [Table.mem_names_iff, ← sound.isEnabled_iff, isEnabled, Table.contains_iff]
  · obtain ⟨endpoint', found', -, eq⟩ := sound.find?_routes_iff.mp routed
    cases found.symm.trans found'
    exact eq ▸ ⟨rfl, rfl⟩
  · exact ⟨sound.argued found, reaches.inForce name endpoint found⟩
  · intro registered
    obtain ⟨endpoint, found⟩ := Table.contains_iff.mp registered
    exact sound.ne_empty found
  · rw [map_name_views, Table.mem_names_iff]
    exact Table.contains_iff
  · rw [map_name_views]
    exact r.endpoints.names_nodup
  · have ascending := r.endpoints.names_ascending
    rw [← map_name_views] at ascending
    exact List.pairwise_map.mpr ((List.pairwise_map.mp ascending).imp Text.utf8_lt)
  · rw [counters, List.map_map]
    rfl

end Registry
end LogFanout
