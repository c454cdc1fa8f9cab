import LogFanout.Proofs.Blueprint.Accepted

/-!
# Built loggers

A build that succeeds has set up all plans (`Blueprint.enrolled_of_build`). The names registered and
the names enabled can then be read off the plans (`Enrolled.names_perm`,
`Enrolled.enabledNames_perm`).
-/

namespace LogFanout

open World (builtins)

variable {ω σ : Type} {w : Writers ω σ} {start s : σ} {plans : List Plan} {r : Registry ω}
  {calls : List (Call ω)} {blueprint : Blueprint}

/-- A build that succeeds has set up all plans. -/
lemma Blueprint.enrolled_of_build {logger : Logger ω}
    (built : (blueprint.build w start).1 = .ok logger) :
    ∃ r s calls, Plan.Pass w start blueprint.seeds blueprint.plans ∧
      Enrolled w start (blueprint.seeds ++ blueprint.plans) r s calls ∧
      logger = ⟨r, max blueprint.settings.capacity.toNat LineBuffer.minCapacity⟩ := by
  have unrecorded := build_map w.recorded_maps blueprint (start, [])
  obtain ⟨status, r, s, calls, registers, eq⟩ := blueprint.build_recorded w start
  rw [eq] at unrecorded
  rw [unrecorded] at built
  cases registers with
  | done pass enrolled =>
    cases built
    exact ⟨r, s, calls, pass, enrolled, rfl⟩
  | stopped => cases built

lemma Registry.isEnabled_iff_mem {name : String} :
    r.isEnabled name = true ↔ name ∈ r.enabledNames :=
  Table.contains_iff.trans Table.mem_names_iff.symm

namespace Enrolled

lemma nodup (enrolled : Enrolled w start plans r s calls) : (plans.map Plan.name).Nodup := by
  induction enrolled with
  | none => exact .nil
  | @more plans r _ _ plan enrolled _ free ih =>
    rw [List.map_append]
    apply List.Nodup.append ih (List.nodup_singleton _)
    intro name before now
    rw [List.mem_singleton.mp now] at before
    obtain ⟨endpoint, found⟩ := Table.contains_iff.mp (enrolled.contains_iff.mpr before)
    cases free.symm.trans found

/-- Every plan has an endpoint, and there are no others. -/
lemma names_perm (enrolled : Enrolled w start plans r s calls) :
    r.endpoints.names.Perm (plans.map Plan.name) := by
  apply (List.perm_ext_iff_of_nodup r.endpoints.names_nodup enrolled.nodup).mpr
  intro name
  rw [Table.mem_names_iff, ← Table.contains_iff, enrolled.contains_iff]

/-- An endpoint is enabled if its plan was opened. -/
lemma isEnabled_eq (enrolled : Enrolled w start plans r s calls) {before after : List Plan}
    {plan : Plan} (split : plans = before ++ plan :: after) :
    r.isEnabled plan.name = plan.starts w (Plan.openAll w start before) := by
  obtain ⟨page, found⟩ := enrolled.find? split
  rw [enrolled.sound.isEnabled_eq found, Plan.endpoint]
  cases plan.starts w (Plan.openAll w start before) <;> rfl

/-- Where endpoints are enabled as their plans say, these are the names enabled. -/
lemma enabledNames_perm (enrolled : Enrolled w start plans r s calls) (own : String → Bool)
    (follows : ∀ plan ∈ plans, own plan.name = true → r.isEnabled plan.name = plan.enabled) :
    (r.enabledNames.filter own).Perm
      ((plans.filter fun plan => plan.enabled && own plan.name).map Plan.name) := by
  have listed : r.enabledNames.Nodup := r.routes.names_nodup
  have nodup : ((plans.filter fun plan => plan.enabled && own plan.name).map Plan.name).Nodup :=
    enrolled.nodup.sublist (List.filter_sublist.map Plan.name)
  apply (List.perm_ext_iff_of_nodup (listed.filter own) nodup).mpr
  intro name
  rw [List.mem_filter, ← Registry.isEnabled_iff_mem]
  constructor
  · rintro ⟨on, mine⟩
    obtain ⟨endpoint, found, -⟩ := enrolled.sound.isEnabled_iff.mp on
    obtain ⟨plan, mem, rfl⟩ :=
      List.mem_map.mp (enrolled.contains_iff.mp (Table.contains_iff.mpr ⟨endpoint, found⟩))
    have same := follows plan mem mine
    refine List.mem_map_of_mem (List.mem_filter.mpr ⟨mem, ?_⟩)
    rw [← same, on, mine]
    rfl
  · intro planned
    obtain ⟨plan, filtered, rfl⟩ := List.mem_map.mp planned
    obtain ⟨mem, both⟩ := List.mem_filter.mp filtered
    obtain ⟨on, mine⟩ := Bool.and_eq_true_iff.mp both
    exact ⟨(follows plan mem mine).trans on, mine⟩

end Enrolled

/-- A plan that passes is opened if it starts enabled. -/
lemma Plan.Pass.isEnabled_eq {earlier : List Plan} (pass : Plan.Pass w start earlier plans)
    (enrolled : Enrolled w start (earlier ++ plans) r s calls) {plan : Plan} (mem : plan ∈ plans) :
    r.isEnabled plan.name = plan.enabled := by
  obtain ⟨before, after, rfl⟩ := List.append_of_mem mem
  have place : earlier ++ (before ++ plan :: after) = (earlier ++ before) ++ plan :: after :=
    (List.append_assoc _ _ _).symm
  rw [enrolled.isEnabled_eq place, starts]
  cases on : plan.enabled with
  | false => rfl
  | true =>
    cases outcome : (plan.opening w (Plan.openAll w start (earlier ++ before))).1 with
    | ok => rfl
    | error why =>
      have refuses := pass before plan after rfl
      have named : plan.name ≠ "" := fun nameless => refuses _ (.nameless nameless)
      have free : plan.name ∉ (earlier ++ before).map Plan.name :=
        fun taken => refuses _ (.taken named taken)
      exact absurd (.unopened named free on outcome) (refuses _)

/-- The endpoint on standard output is enabled if standard output is open. -/
lemma Enrolled.isEnabled_seed {host : Host} {world world' : World} {r : Registry Nat}
    {calls : List (Call Nat)}
    (enrolled : Enrolled (builtins host) world (blueprint.seeds ++ blueprint.plans) r world' calls)
    (standing : host.duplicate world.surroundings.attempts Logger.standardOutput = .ok ())
    {plan : Plan} (mem : plan ∈ blueprint.seeds) : r.isEnabled plan.name = plan.enabled := by
  rw [Blueprint.seeds] at enrolled mem
  split at mem
  · rename_i seeded
    obtain rfl := List.mem_singleton.mp mem
    rw [if_pos seeded] at enrolled
    have split : [Plan.seed] ++ blueprint.plans = [] ++ .seed :: blueprint.plans := rfl
    refine (enrolled.isEnabled_eq split).trans ((Plan.starts_seed host world).trans ?_)
    rw [standing]
    rfl
  · cases mem

end LogFanout
