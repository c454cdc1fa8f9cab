import LogFanout.Command.Validate
import LogFanout.Proofs.Blueprint.Built
import LogFanout.Proofs.Registry.Fanned

/-!
# What warnings foretell

The warnings about a blueprint are made without a logger, and still say what its logger does as long
as nothing is changed: which endpoints lines do not go out to, and whether they go out at all
(`warnings_foretell`).
-/

namespace LogFanout

open World (builtins)

variable {ω σ : Type}

/-- A fan-out calls a writer if there is a route. -/
lemma Registry.Fanned.calls_eq_nil_iff {routes rest : List (String × Route ω)} {line : Bytes}
    {ledger ledger' : Ledger} {count : Nat} {calls : List (Call ω)}
    (fanned : Fanned routes line rest ledger count calls ledger') : calls = [] ↔ rest = [] := by
  cases fanned with
  | done => exact ⟨fun _ => rfl, fun _ => rfl⟩
  | wrote => exact ⟨nofun, nofun⟩
  | relayed => exact ⟨nofun, nofun⟩

/-- A message with a tag calls no writer exactly if lines go out to no endpoint. -/
lemma Logger.print_calls_iff [DecidableEq ω] (w : Writers ω σ) (logger : Logger ω) (now : Instant)
    {message : Message} (tagged : message.tag ≠ "") (s : σ) :
    (logger.print w.recorded now message (s, [])).2.2 = [] ↔
      logger.registry.enabledNames = [] := by
  obtain ⟨count, calls, ledger, s', eq, fanned⟩ := Registry.fanOut_fanned w
    (message.render logger.capacity 0 now) logger.registry (s, [])
  simp only [print, if_neg tagged, eq, List.nil_append, fanned.calls_eq_nil_iff]
  exact List.map_eq_nil_iff.symm

/-- The names, out of a row of them, of endpoints that are registered but not enabled. -/
def Registry.idleNames (r : Registry ω) (names : List String) : List String :=
  names.filter fun name => r.contains name && !r.isEnabled name

/-- Messages about a blueprint that foretell its logger: there is one about dropped messages exactly
if lines go out to no endpoint, so that printing calls no writer, and one about every endpoint that
is registered but not enabled. -/
structure Logger.Foretold (host : Host) (blueprint : Blueprint) (messages : List String)
    (logger : Logger Nat) : Prop where
  messages : messages =
    (if logger.registry.enabledNames = [] then
      ["No endpoint starts enabled - messages will be dropped"] else []) ++
    (logger.registry.idleNames (blueprint.plans.map Plan.name)).map fun name =>
      "Endpoint '" ++ name ++ "' is registered but starts disabled"
  once : (logger.registry.idleNames (blueprint.plans.map Plan.name)).Nodup
  silent : ∀ now message world, message.tag ≠ "" →
    ((logger.print (builtins host).recorded now message (world, [])).2.2 = [] ↔
      logger.registry.enabledNames = [])

namespace Command

lemma warnings_message (blueprint : Blueprint) :
    (warnings blueprint).map Warning.message =
      (if (enabledPlans blueprint).isEmpty ∧ !blueprint.settings.seeded then
        ["No endpoint starts enabled - messages will be dropped"] else []) ++
      ((blueprint.plans.filter fun plan => !plan.enabled).map Plan.name).map fun name =>
        "Endpoint '" ++ name ++ "' is registered but starts disabled" := by
  rw [warnings, List.map_append, List.map_map, List.map_map]
  split <;> rfl

/-- No plan starts enabled, and none is seeded. -/
lemma filter_enabled_eq_nil_iff (blueprint : Blueprint) :
    (blueprint.seeds ++ blueprint.plans).filter Plan.enabled = [] ↔
      (enabledPlans blueprint).isEmpty ∧ !blueprint.settings.seeded := by
  rw [List.filter_append, List.append_eq_nil_iff, Blueprint.seeds, enabledPlans,
    List.isEmpty_iff, and_comm]
  cases blueprint.settings.seeded <;> simp [Plan.seed]

/-- The warnings about a blueprint foretell its logger, if standard output is open in that a
duplicate of it can be made (`standing`), which is how a writer opens it. -/
theorem warnings_foretell {host : Host} {world : World} {blueprint : Blueprint}
    {logger : Logger Nat}
    (standing : host.duplicate world.surroundings.attempts Logger.standardOutput = .ok ())
    (built : (blueprint.build (builtins host) world).1 = .ok logger) :
    logger.Foretold host blueprint ((warnings blueprint).map Warning.message) := by
  obtain ⟨r, world', calls, pass, enrolled, rfl⟩ := Blueprint.enrolled_of_build built
  have follows : ∀ plan ∈ blueprint.plans, r.isEnabled plan.name = plan.enabled :=
    fun plan mem => pass.isEnabled_eq enrolled mem
  have silent : r.enabledNames = [] ↔
      (enabledPlans blueprint).isEmpty ∧ !blueprint.settings.seeded := by
    have perm := enrolled.enabledNames_perm (fun _ => true) fun plan mem _ => by
      rcases List.mem_append.mp mem with mem | mem
      · exact enrolled.isEnabled_seed standing mem
      · exact follows plan mem
    simp only [List.filter_true, Bool.and_true] at perm
    rw [← filter_enabled_eq_nil_iff, ← List.map_eq_nil_iff (f := Plan.name)]
    exact ⟨fun none => (none ▸ perm).nil_eq.symm, fun none => (none ▸ perm).eq_nil⟩
  have idle : r.idleNames (blueprint.plans.map Plan.name) =
      (blueprint.plans.filter fun plan => !plan.enabled).map Plan.name := by
    rw [Registry.idleNames, List.filter_map]
    refine congrArg (List.map Plan.name) (List.filter_congr fun plan mem => ?_)
    have registered : r.contains plan.name = true := enrolled.contains_iff.mpr
      (List.mem_map_of_mem (List.mem_append_right _ mem))
    rw [Function.comp_apply, registered, follows plan mem, Bool.true_and]
  constructor
  · simp only [warnings_message, silent, idle]
  · have nodup := enrolled.nodup
    rw [List.map_append] at nodup
    exact (List.Nodup.of_append_right nodup).filter _
  · exact fun now message world tagged =>
      Logger.print_calls_iff (builtins host) _ now tagged world

theorem warnings_foretell_idle :
    let host : Host := ⟨fun _ _ => .ok (), fun _ _ => .error .networkUnreachable, fun _ => .ok (),
      fun _ => .error .isDirectory⟩
    let blueprint : Blueprint :=
      ⟨.v1, ⟨4096, false⟩, [⟨"err", .descriptor, false, some 2, none⟩]⟩
    ∃ logger, (blueprint.build (builtins host) .start).1 = .ok logger ∧
      logger.Foretold host blueprint ["No endpoint starts enabled - messages will be dropped",
        "Endpoint 'err' is registered but starts disabled"] :=
  ⟨_, rfl, warnings_foretell rfl rfl⟩

end Command

end LogFanout
