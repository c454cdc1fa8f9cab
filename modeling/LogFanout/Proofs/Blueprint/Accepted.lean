import LogFanout.Blueprint.Check
import LogFanout.Proofs.Blueprint.Teardown

/-!
# Accepted blueprints

A blueprint that passes its check can only fail to be built because the operating system refuses to
open one of its endpoints (`build_accepted`): its names are free, and its endpoints are opened on
arguments that suit their writers.
-/

namespace LogFanout

open World (builtins)

/-- What a plan is opened on, of the kind that its writer wants. -/
inductive Plan.Supplied (plan : Plan) : Argument → Prop where
  | descriptor {number} :
    plan.transport = .descriptor →
    plan.descriptor = some number →
    0 ≤ number.toInt →
    Supplied plan (.descriptor number)
  | socket {target} :
    plan.transport = .socket →
    plan.target = some target →
    Supplied plan (.socket target)

/-- How the operating system refuses to open a plan. -/
inductive Plan.Denied (host : Host) (plan : Plan) (s : Surroundings) : InitFault → Prop where
  | duplicate {number fault} :
    plan.Supplied (.descriptor number) →
    host.duplicate s.attempts number = .error fault →
    Denied host plan s (.notDuplicated number fault)
  | connect {target fault} :
    plan.Supplied (.socket target) →
    (Builtin.connect host target s).1 = .error fault →
    Denied host plan s (.notConnected target fault)

/-- None of the plans that start enabled is denied after the plans `earlier` and the ones before
it. -/
def Plan.Granted (host : Host) (start : World) (earlier plans : List Plan) : Prop :=
  ∀ before plan after, plans = before ++ plan :: after → plan.enabled = true →
    ∀ why, ¬plan.Denied host (Plan.openAll (builtins host) start (earlier ++ before)).surroundings
      why

/-- A logger in which all plans of a blueprint are set up. -/
structure Logger.Realizes (host : Host) (start : World) (blueprint : Blueprint)
    (logger : Logger Nat) : Prop where
  capacity : logger.capacity = blueprint.settings.capacity.toNat
  names : ∀ name, logger.registry.contains name = true ↔
    name ∈ blueprint.plans.map Plan.name ∨
      blueprint.settings.seeded = true ∧ name = Blueprint.seedName
  endpoints : ∀ plan ∈ blueprint.plans, ∃ argument endpoint, plan.Supplied argument ∧
    logger.registry.endpoints.find? plan.name = some endpoint ∧
    endpoint.enabled = plan.enabled ∧
    endpoint.argument = (if plan.enabled then some argument else none) ∧
    logger.registry.isEnabled plan.name = plan.enabled
  /-- Standard output is tried first of all, and it does not matter if that fails. -/
  seed : blueprint.settings.seeded = true →
    ∃ endpoint, logger.registry.endpoints.find? Blueprint.seedName = some endpoint ∧
      endpoint.enabled =
        (host.duplicate start.surroundings.attempts Logger.standardOutput).isOk ∧
      endpoint.argument =
        (if endpoint.enabled then some (.descriptor Logger.standardOutput) else none) ∧
      logger.registry.isEnabled Blueprint.seedName = endpoint.enabled

/-- What may come of building a blueprint that passes its check. -/
inductive Blueprint.Outcome (host : Host) (start : World) (blueprint : Blueprint) :
    Except RegistryError (Logger Nat) → Prop where
  | built {logger} :
    Plan.Granted host start blueprint.seeds blueprint.plans →
    logger.Realizes host start blueprint →
    Outcome host start blueprint (.ok logger)
  | denied {before plan after why} :
    blueprint.plans = before ++ plan :: after →
    Plan.Granted host start blueprint.seeds before →
    plan.enabled = true →
    plan.Denied host
      (Plan.openAll (builtins host) start (blueprint.seeds ++ before)).surroundings why →
    Outcome host start blueprint (.error (.initFailed plan.name why))

/-- A blueprint that passes its check. -/
structure Blueprint.Acceptable (blueprint : Blueprint) : Prop where
  capacity : Check.minCapacity ≤ blueprint.settings.capacity.toNat ∧
    blueprint.settings.capacity.toNat ≤ Check.maxCapacity
  named : ∀ plan ∈ blueprint.plans, plan.name ≠ ""
  distinct : ((blueprint.seeds ++ blueprint.plans).map Plan.name).Nodup
  supplied : ∀ plan ∈ blueprint.plans, ∃ argument, plan.Supplied argument

/-- A sequence of checks passes if each of them does. -/
lemma bind_eq_ok {ε α β : Type} {x : Except ε α} {f : α → Except ε β} {b : β} :
    x >>= f = .ok b ↔ ∃ a, x = .ok a ∧ f a = .ok b := by
  constructor
  · intro ok
    cases x with
    | error e => cases ok
    | ok a => exact ⟨a, rfl, ok⟩
  · rintro ⟨a, rfl, ok⟩
    exact ok

lemma Settings.check_ok {settings : Settings} (ok : settings.check = .ok ()) :
    Check.minCapacity ≤ settings.capacity.toNat ∧ settings.capacity.toNat ≤ Check.maxCapacity := by
  rw [check] at ok
  split at ok
  · assumption
  · cases ok

lemma Plan.checkArgument_ok {plan : Plan} (ok : plan.checkArgument = .ok ()) :
    ∃ argument, plan.Supplied argument := by
  rw [checkArgument] at ok
  cases transport : plan.transport with
  | descriptor =>
    cases descriptor : plan.descriptor with
    | none => simp [transport, descriptor] at ok
    | some number =>
      by_cases nonnegative : 0 ≤ number.toInt
      · exact ⟨_, .descriptor transport descriptor nonnegative⟩
      · simp [transport, descriptor, nonnegative] at ok
  | socket =>
    cases target : plan.target with
    | none => simp [transport, target] at ok
    | some target => exact ⟨_, .socket transport ‹_›⟩

namespace Blueprint

/-- Names that pass are not empty, not taken and not the seed's. -/
lemma checkNames_ok {seeded : Bool} {index : Nat} {seen : List String} {plans : List Plan}
    (ok : checkNames seeded index seen plans = .ok ()) :
    (∀ plan ∈ plans, plan.name ≠ "" ∧ (seeded = true → plan.name ≠ seedName) ∧
      plan.name ∉ seen) ∧ (plans.map Plan.name).Nodup := by
  induction plans generalizing index seen with
  | nil =>
    refine ⟨fun plan mem => ?_, List.nodup_nil⟩
    cases mem
  | cons plan plans ih =>
    rw [checkNames] at ok
    split at ok
    · cases ok
    rename_i named
    split at ok
    · cases ok
    rename_i unreserved
    split at ok
    · cases ok
    rename_i fresh
    -- The name goes to those seen, so that no later plan of this name passes.
    obtain ⟨each, nodup⟩ := ih ok
    refine ⟨fun other mem => ?_, List.nodup_cons.mpr ⟨fun mem => ?_, nodup⟩⟩
    · rcases List.mem_cons.mp mem with rfl | mem
      · exact ⟨named, fun seeded eq => unreserved ⟨seeded, eq⟩, fresh⟩
      · obtain ⟨named, unreserved, unseen⟩ := each other mem
        exact ⟨named, unreserved, fun seen => unseen (List.mem_cons_of_mem _ seen)⟩
    · obtain ⟨other, listed, eq⟩ := List.mem_map.mp mem
      exact (each other listed).2.2 (eq ▸ List.mem_cons_self)

lemma checkArguments_ok {plans : List Plan} (ok : checkArguments plans = .ok ()) :
    ∀ plan ∈ plans, ∃ argument, plan.Supplied argument := by
  induction plans with
  | nil =>
    intro plan mem
    cases mem
  | cons plan plans ih =>
    obtain ⟨⟨⟩, here, rest⟩ := bind_eq_ok.mp ok
    intro other mem
    rcases List.mem_cons.mp mem with rfl | mem
    · exact Plan.checkArgument_ok here
    · exact ih rest other mem

lemma acceptable_of_check {blueprint : Blueprint} (ok : blueprint.check = .ok ()) :
    blueprint.Acceptable := by
  rw [check, bind_eq_ok] at ok
  obtain ⟨⟨⟩, capacity, ok⟩ := ok
  rw [bind_eq_ok] at ok
  obtain ⟨⟨⟩, names, arguments⟩ := ok
  obtain ⟨each, nodup⟩ := checkNames_ok names
  refine ⟨Settings.check_ok capacity, fun plan mem => (each plan mem).1, ?_,
    checkArguments_ok arguments⟩
  rw [seeds]
  split
  · rename_i seeded
    refine List.nodup_cons.mpr ⟨fun mem => ?_, nodup⟩
    obtain ⟨plan, listed, eq⟩ := List.mem_map.mp mem
    exact (each plan listed).2.1 seeded eq
  · exact nodup

end Blueprint

/-- The endpoints of enrolled plans. -/
lemma Enrolled.find? {ω σ : Type} {w : Writers ω σ} {start : σ} {plans : List Plan}
    {r : Registry ω} {s : σ} {calls : List (Call ω)} (enrolled : Enrolled w start plans r s calls)
    {before after : List Plan} {plan : Plan} (split : plans = before ++ plan :: after) :
    ∃ page, r.endpoints.find? plan.name =
      some (plan.endpoint w page (Plan.openAll w start before)) := by
  induction enrolled generalizing after with
  | none => simp at split
  | @more plans r s calls last enrolled _ free ih =>
    -- The plan is the last one, or else the last one has another name and is out of its way.
    rcases List.eq_nil_or_concat after with rfl | ⟨after, final, rfl⟩
    · obtain ⟨rfl, eq⟩ := List.append_inj' split rfl
      obtain ⟨rfl, -⟩ := List.cons.inj eq
      rw [← enrolled.state]
      exact ⟨_, (Table.find?_insert _ _ _ _).trans (if_pos rfl)⟩
    · rw [List.concat_eq_append, ← List.cons_append, ← List.append_assoc] at split
      obtain ⟨eq, -⟩ := List.append_inj' split rfl
      obtain ⟨page, found⟩ := ih eq
      have ne : plan.name ≠ last.name := by
        intro eq
        rw [eq, free] at found
        cases found
      exact ⟨page, (Table.find?_insert _ _ _ _).trans ((if_neg ne).trans found)⟩

lemma Plan.Supplied.argument_eq {plan : Plan} {argument : Argument}
    (supplied : plan.Supplied argument) : plan.argument = argument := by
  cases supplied with
  | descriptor transport descriptor => simp [Plan.argument, transport, descriptor]
  | socket transport target => simp [Plan.argument, transport, target]

/-- Opening a plan opens a new writer of its kind. -/
lemma Plan.opening_fst {host : Host} {plan : Plan} (on : plan.enabled = true) (world : World) :
    (plan.opening (builtins host) world).1 =
      (Builtin.init host plan.argument (.ofTransport plan.transport) world.surroundings).1 := by
  have own := World.writer_create_self host plan.transport world
  simp only [opening, if_pos on, ← own]
  rfl

/-- The endpoint on standard output is opened if standard output can be duplicated. -/
lemma Plan.starts_seed (host : Host) (world : World) :
    Plan.seed.starts (builtins host) world =
      (host.duplicate world.surroundings.attempts Logger.standardOutput).isOk := by
  have nonnegative : 0 ≤ Logger.standardOutput.toInt := by decide
  have init := Builtin.init_descriptor host nonnegative none world.surroundings
  rw [starts, opening_fst rfl]
  refine (congrArg Except.isOk init).trans ?_
  cases host.duplicate world.surroundings.attempts Logger.standardOutput <;> rfl

/-- A plan with a fitting argument cannot be opened exactly if it is denied. -/
lemma Plan.opening_error_iff {host : Host} {plan : Plan} {argument : Argument}
    (supplied : plan.Supplied argument) (on : plan.enabled = true) {world : World}
    {why : InitFault} :
    (plan.opening (builtins host) world).1 = .error why ↔
      plan.Denied host world.surroundings why := by
  rw [opening_fst on, supplied.argument_eq]
  cases supplied with
  | @descriptor number transport descriptor nonnegative =>
    have init := Builtin.init_descriptor host nonnegative none world.surroundings
    rw [transport, Builtin.ofTransport, init]
    constructor
    · intro failed
      cases granted : host.duplicate world.surroundings.attempts number with
      | ok => cases granted ▸ failed
      | error fault =>
        cases granted ▸ failed
        exact .duplicate (.descriptor transport descriptor nonnegative) granted
    · intro denied
      cases denied with
      | duplicate supplied refused =>
        cases supplied with
        | descriptor _ descriptor' =>
          cases descriptor.symm.trans descriptor'
          rw [refused]
          rfl
      | connect supplied =>
        cases supplied with
        | socket transport' => cases transport.symm.trans transport'
  | @socket target transport supplied =>
    have init := Builtin.init_socket host target none world.surroundings
    rw [transport, Builtin.ofTransport, init]
    constructor
    · intro failed
      cases connected : (Builtin.connect host target world.surroundings).1 with
      | ok => cases connected ▸ failed
      | error fault =>
        cases connected ▸ failed
        exact .connect (.socket transport supplied) connected
    · intro denied
      cases denied with
      | duplicate supplied =>
        cases supplied with
        | descriptor transport' => cases transport.symm.trans transport'
      | connect supplied' refused =>
        cases supplied' with
        | socket _ target' =>
          cases supplied.symm.trans target'
          rw [refused]
          rfl

namespace Blueprint.Acceptable

variable {host : Host} {world : World} {blueprint : Blueprint} {before after : List Plan}
  {plan : Plan}

/-- The only way to refuse a plan of an acceptable blueprint is that its writer cannot be opened. -/
lemma unopened_iff {ω σ : Type} {w : Writers ω σ} {start : σ} (acceptable : blueprint.Acceptable)
    (split : blueprint.plans = before ++ plan :: after) {e : RegistryError} :
    plan.Refused w start (blueprint.seeds ++ before) e ↔
      ∃ why, e = .initFailed plan.name why ∧ plan.enabled = true ∧
        (plan.opening w (Plan.openAll w start (blueprint.seeds ++ before))).1 = .error why := by
  have named := acceptable.named plan (by simp [split])
  have free : plan.name ∉ (blueprint.seeds ++ before).map Plan.name := by
    have distinct := acceptable.distinct
    rw [split, ← List.append_assoc, List.map_append, List.nodup_append] at distinct
    intro taken
    exact distinct.2.2 _ taken plan.name List.mem_cons_self rfl
  constructor
  · intro refused
    cases refused with
    | nameless nameless => exact absurd nameless named
    | taken _ taken => exact absurd taken free
    | unopened _ _ on failed => exact ⟨_, rfl, on, failed⟩
  · rintro ⟨why, rfl, on, failed⟩
    exact .unopened named free on failed

/-- The only way to refuse a plan of an acceptable blueprint is to deny it. -/
lemma refused_iff (acceptable : blueprint.Acceptable)
    (split : blueprint.plans = before ++ plan :: after) {e : RegistryError} :
    plan.Refused (builtins host) world (blueprint.seeds ++ before) e ↔
      ∃ why, e = .initFailed plan.name why ∧ plan.enabled = true ∧
        plan.Denied host
          (Plan.openAll (builtins host) world (blueprint.seeds ++ before)).surroundings why := by
  obtain ⟨argument, supplied⟩ := acceptable.supplied plan (by simp [split])
  refine (acceptable.unopened_iff split).trans (exists_congr fun why => ?_)
  exact and_congr_right fun _ => and_congr_right fun on => Plan.opening_error_iff supplied on

lemma granted (acceptable : blueprint.Acceptable) (split : blueprint.plans = before ++ after)
    (pass : Plan.Pass (builtins host) world blueprint.seeds before) :
    Plan.Granted host world blueprint.seeds before := by
  intro before' plan after' eq on why denied
  rw [eq, List.append_assoc, List.cons_append] at split
  exact pass before' plan after' eq _ ((acceptable.refused_iff split).mpr ⟨why, rfl, on, denied⟩)

/-- The endpoints of an acceptable blueprint whose plans were all granted. -/
lemma realizes {r : Registry Nat} {world' : World} {calls : List (Call Nat)}
    (acceptable : blueprint.Acceptable)
    (enrolled : Enrolled (builtins host) world (blueprint.seeds ++ blueprint.plans) r world' calls)
    (granted : Plan.Granted host world blueprint.seeds blueprint.plans) :
    Logger.Realizes host world blueprint
      ⟨r, max blueprint.settings.capacity.toNat LineBuffer.minCapacity⟩ where
  capacity := by
    apply Nat.max_eq_left
    exact Nat.le_trans (by decide) acceptable.capacity.1
  names name := by
    refine enrolled.contains_iff.trans ?_
    rw [List.map_append, List.mem_append, seeds, or_comm]
    split
    · rename_i seeded
      simp [seeded, Plan.seed]
    · rename_i unseeded
      simp [unseeded]
  endpoints plan mem := by
    obtain ⟨argument, supplied⟩ := acceptable.supplied plan mem
    obtain ⟨before, after, split⟩ := List.append_of_mem mem
    have place : blueprint.seeds ++ blueprint.plans =
        (blueprint.seeds ++ before) ++ plan :: after := by
      rw [split, List.append_assoc]
    obtain ⟨page, found⟩ := enrolled.find? place
    have started : plan.starts (builtins host)
        (Plan.openAll (builtins host) world (blueprint.seeds ++ before)) = plan.enabled := by
      rw [Plan.starts]
      cases on : plan.enabled with
      | false => rfl
      | true =>
        cases outcome : (plan.opening (builtins host)
            (Plan.openAll (builtins host) world (blueprint.seeds ++ before))).1 with
        | ok => rfl
        | error why =>
          exact absurd ((Plan.opening_error_iff supplied on).mp outcome)
            (granted before plan after split on why)
    have isEnabled := enrolled.sound.isEnabled_eq found
    rw [Plan.endpoint, started] at found isEnabled
    refine ⟨argument, _, supplied, found, ?_, ?_, isEnabled.trans ?_⟩
    · cases plan.enabled <;> rfl
    · rw [supplied.argument_eq]
      cases plan.enabled <;> rfl
    · cases plan.enabled <;> rfl
  seed seeded := by
    have place : blueprint.seeds ++ blueprint.plans = [] ++ .seed :: blueprint.plans := by
      rw [seeds, if_pos seeded]
      rfl
    obtain ⟨page, found⟩ := enrolled.find? place
    refine ⟨_, found, ?_, ?_, enrolled.sound.isEnabled_eq found⟩
    · have started : Plan.seed.starts (builtins host) (Plan.openAll (builtins host) world []) = _ :=
        Plan.starts_seed host world
      rw [Plan.endpoint, started]
      cases (host.duplicate world.surroundings.attempts Logger.standardOutput).isOk <;> rfl
    · rw [Plan.endpoint]
      cases Plan.seed.starts (builtins host) (Plan.openAll (builtins host) world []) <;> rfl

end Blueprint.Acceptable

/-- A blueprint that passes its check is built, or else the operating system denies one of its
endpoints. -/
theorem Blueprint.build_accepted {blueprint : Blueprint} (accepted : blueprint.check = .ok ())
    (host : Host) (world : World) :
    blueprint.Outcome host world (blueprint.build (builtins host) world).1 := by
  have acceptable := acceptable_of_check accepted
  have unrecorded := build_map (builtins host).recorded_maps blueprint (world, [])
  obtain ⟨status, r, world', calls, registers, eq⟩ :=
    blueprint.build_recorded (builtins host) world
  rw [eq] at unrecorded
  rw [unrecorded]
  cases registers with
  | done pass enrolled =>
    have granted := acceptable.granted (List.append_nil _).symm pass
    exact .built granted (acceptable.realizes enrolled granted)
  | @stopped before plan after e _ _ _ split pass stops =>
    obtain ⟨why, rfl, on, denied⟩ := (acceptable.refused_iff split).mp stops.refused
    exact .denied split (acceptable.granted split pass) on denied

theorem Blueprint.build_accepted_denied :
    let host : Host := ⟨fun _ number => if number = 1 then .error .badDescriptor else .ok (),
      fun _ _ => .error .networkUnreachable, fun _ => .ok (), fun _ => .error .isDirectory⟩
    let blueprint : Blueprint := ⟨.v1, .standard, [⟨"err", .descriptor, true, some 2, none⟩,
      ⟨"spare", .descriptor, false, some 3, none⟩,
      ⟨"peer", .socket, true, none, some ⟨.unix, "/log", by decide⟩⟩]⟩
    blueprint.check = .ok () ∧
      blueprint.Outcome host .start (blueprint.build (builtins host) .start).1 :=
  ⟨by decide, build_accepted (by decide) _ _⟩

end LogFanout
