import LogFanout.Proofs.Blueprint.Calls
import LogFanout.Proofs.Writer.Builtin

/-!
# All or nothing

A build that fails leaves nothing behind: the writers that were opened on the way are closed again,
each once, and nothing was sent (`build_all_or_nothing`). Between the start and the end every writer
that holds something open belongs to an endpoint of the registry (`Stocked`).
-/

namespace LogFanout

open World (builtins)

/-- The writers that were made since the world was `start` are closed or belong to endpoints of the
registry; those made before are what they were, and nothing was sent. -/
structure Registry.Stocked (start : World) (r : Registry Nat) (world : World) : Prop where
  more : start.writers.length ≤ world.writers.length
  kept : ∀ number < start.writers.length, world.writer number = start.writer number
  held : ∀ number, start.writers.length ≤ number → (world.writer number).isOpen = true →
    ∃ name endpoint, r.endpoints.find? name = some endpoint ∧ endpoint.writer = number
  owned : ∀ {name endpoint}, r.endpoints.find? name = some endpoint →
    endpoint.ownership = .owned ∧ endpoint.writer < world.writers.length
  later : ∀ {name endpoint}, r.endpoints.find? name = some endpoint →
    start.writers.length ≤ endpoint.writer
  silent : start.surroundings.Silent world.surroundings

variable {host : Host} {start world : World} {r : Registry Nat} {plans : List Plan} {plan : Plan}
  {calls : List (Call Nat)}

/-- Opening a plan makes one writer, which is open only if the plan starts; it leaves the other
writers alone and sends nothing. -/
lemma Plan.opening_builtins (host : Host) (plan : Plan) (world : World) :
    let world' := (plan.opening (builtins host) world).2
    world'.writers.length = world.writers.length + 1 ∧
    (∀ number ≠ world.writers.length, world'.writer number = world.writer number) ∧
    (plan.starts (builtins host) world = false →
      (world'.writer world.writers.length).isOpen = false) ∧
    world.surroundings.Silent world'.surroundings := by
  intro world'
  have length := World.length_create host plan.transport world
  have others : ∀ number ≠ world.writers.length,
      ((builtins host).create plan.transport world).2.writer number = world.writer number :=
    fun number ne => World.writer_create host plan.transport world ne
  have own := World.writer_create_self host plan.transport world
  cases on : plan.enabled with
  | false =>
    simp only [world', opening, starts, on, Bool.false_eq_true, if_false]
    refine ⟨length, others, fun _ => ?_, .refl _⟩
    rw [own, Builtin.isOpen_ofTransport]
  | true =>
    obtain ⟨length', others', failed, silent⟩ := World.init_builtins host plan.name
      world.writers.length plan.argument ((builtins host).create plan.transport world).2
    simp only [world', opening, starts, on, if_true, Bool.true_and]
    refine ⟨length'.trans length, fun number ne => (others' number ne).trans (others number ne),
      fun unopened => ?_, silent⟩
    cases outcome : ((builtins host).init plan.name world.writers.length plan.argument
        ((builtins host).create plan.transport world).2).1 with
    | error why =>
      have same := failed why outcome
      rw [own] at same
      exact (congrArg Builtin.isOpen same).trans (Builtin.isOpen_ofTransport _)
    | ok =>
      have started := (congrArg Except.isOk outcome).symm.trans unopened
      cases started

namespace Registry.Stocked

lemma empty (start : World) : Stocked start .empty start where
  more := Nat.le_refl _
  kept _ _ := rfl
  held number made on := by
    rw [World.isOpen_unmade made] at on
    cases on
  owned found := by cases found
  later found := by cases found
  silent := .refl _

/-- One more plan. -/
lemma enrol (stocked : r.Stocked start world) (plan : Plan)
    (free : r.endpoints.find? plan.name = none) :
    (r.enrol (builtins host) plan world).Stocked start
      (plan.opening (builtins host) world).2 := by
  obtain ⟨length, others, unopened, silent⟩ := plan.opening_builtins host world
  have writer : (plan.endpoint (builtins host) r.ledger.next world).writer =
      world.writers.length := by
    rw [Plan.endpoint]
    split <;> rfl
  have ownership : (plan.endpoint (builtins host) r.ledger.next world).ownership = .owned := by
    rw [Plan.endpoint]
    split <;> rfl
  have found : ∀ name, (r.enrol (builtins host) plan world).endpoints.find? name =
      if name = plan.name then some (plan.endpoint (builtins host) r.ledger.next world)
      else r.endpoints.find? name :=
    fun name => Table.find?_insert r.endpoints plan.name name _
  refine ⟨?_, fun number before => ?_, fun number made on => ?_, fun {name endpoint} mem => ?_,
    fun {name endpoint} mem => ?_, stocked.silent.trans silent⟩
  · rw [length]
    exact Nat.le_succ_of_le stocked.more
  · rw [others number (Nat.ne_of_lt (Nat.lt_of_lt_of_le before stocked.more))]
    exact stocked.kept number before
  · by_cases own : number = world.writers.length
    · refine ⟨plan.name, _, (found plan.name).trans (if_pos rfl), writer.trans own.symm⟩
    · rw [others number own] at on
      obtain ⟨name, endpoint, old, eq⟩ := stocked.held number made on
      have ne : name ≠ plan.name := by
        rintro rfl
        cases free.symm.trans old
      exact ⟨name, endpoint, (found name).trans ((if_neg ne).trans old), eq⟩
  · rw [found] at mem
    split at mem
    · cases mem
      refine ⟨ownership, ?_⟩
      rw [writer, length]
      exact Nat.lt_succ_self _
    · obtain ⟨owned, made⟩ := stocked.owned mem
      exact ⟨owned, length ▸ Nat.lt_succ_of_lt made⟩
  · rw [found] at mem
    split at mem
    · cases mem
      exact writer ▸ stocked.more
    · exact stocked.later mem

/-- A writer that is made and let go of. -/
lemma refused (stocked : r.Stocked start world) (transport : Transport) :
    r.Stocked start ((builtins host).release ((builtins host).create transport world).1
      ((builtins host).create transport world).2) := by
  have others : ∀ number ≠ world.writers.length,
      ((builtins host).release world.writers.length
        ((builtins host).create transport world).2).writer number = world.writer number :=
    fun number ne =>
      (World.writer_setWriter_ne ne _ _).trans (World.writer_create host transport world ne)
  have shut := World.isOpen_setWriter ((builtins host).create transport world).2
    world.writers.length (Builtin.isOpen_destroy
      (((builtins host).create transport world).2.writer world.writers.length))
  have length : ((builtins host).release world.writers.length
      ((builtins host).create transport world).2).writers.length = world.writers.length + 1 :=
    (World.length_setWriter _ _ _).trans (World.length_create host transport world)
  refine ⟨?_, fun number before => ?_, fun number made on => ?_, fun found => ?_,
    fun found => stocked.later found, stocked.silent⟩
  · exact length ▸ Nat.le_succ_of_le stocked.more
  · rw [← stocked.kept number before]
    exact others number (Nat.ne_of_lt (Nat.lt_of_lt_of_le before stocked.more))
  · by_cases own : number = world.writers.length
    · subst own
      cases shut.symm.trans on
    · exact stocked.held number made (others number own ▸ on)
  · obtain ⟨owned, made⟩ := stocked.owned found
    exact ⟨owned, length ▸ Nat.lt_succ_of_lt made⟩

/-- Clearing the registry closes all that was opened since the start. -/
lemma clear (host : Host) (stocked : r.Stocked start world) :
    let world' := (r.clear (builtins host) world).2
    world'.writers.length = world.writers.length ∧
    (∀ number < start.writers.length, world'.writer number = start.writer number) ∧
    (∀ number, start.writers.length ≤ number → (world'.writer number).isOpen = false) ∧
    start.surroundings.Silent world'.surroundings := by
  intro world'
  have found : ∀ entry ∈ r.endpoints.entries, r.endpoints.find? entry.1 = some entry.2 :=
    fun entry mem => Table.mem_entries_iff.mp mem
  obtain ⟨surroundings, length, others, stay, closed⟩ := World.closeAll_builtins host
    (fun entry mem => (stocked.owned (found entry mem)).1) r.routes world
  refine ⟨length, fun number before => ?_, fun number made => ?_, ?_⟩
  · refine (others number fun entry mem eq => ?_).trans (stocked.kept number before)
    have later := stocked.later (found entry mem)
    rw [eq] at later
    exact Nat.not_lt.mpr later before
  · by_cases on : (world.writer number).isOpen = true
    · obtain ⟨name, endpoint, found, rfl⟩ := stocked.held number made on
      exact closed (name, endpoint) (Table.mem_entries_iff.mpr found)
    · exact stay number (Bool.eq_false_iff.mpr on)
  · have silent := stocked.silent
    rw [← surroundings] at silent
    exact silent

end Registry.Stocked

/-- Enrolled plans have a writer each, and all that is open is theirs. -/
lemma Enrolled.stocked (enrolled : Enrolled (builtins host) start plans r world calls) :
    r.Stocked start world ∧ world.writers.length = start.writers.length + plans.length := by
  induction enrolled with
  | none => exact ⟨.empty start, rfl⟩
  | @more plans r world calls plan _ _ free ih =>
    obtain ⟨stocked, made⟩ := ih
    refine ⟨stocked.enrol plan free, ?_⟩
    rw [(plan.opening_builtins host world).1, made, List.length_append, List.length_singleton]
    rfl

/-- Whether an error comes from a writer. -/
def RegistryError.ofWriter : RegistryError → Bool
  | .initFailed .. => true
  | _ => false

/-- What a build has done that set up the plans `earlier` and failed at `plan`. -/
structure Blueprint.Undone (start : World) (earlier : List Plan) (plan : Plan) (e : RegistryError)
    (calls : List (Call Nat)) (world : World) : Prop where
  /-- A writer was made for each of the plans, and for no later one. -/
  made : world.writers.length = start.writers.length + earlier.length + 1
  /-- The plans that start enabled were tried in order, the last one only if its name was good. -/
  tried : calls.filterMap Call.tried? =
    ((if e.ofWriter then earlier ++ [plan] else earlier).filter Plan.enabled).map fun plan =>
      (plan.name, plan.argument)
  /-- What was opened was closed afterwards, each writer once. -/
  closed : ∃ opening closing, calls = opening ++ closing ∧
    (∀ call ∈ opening, call.tried?.isSome) ∧
    (opening.filterMap Call.opened?).Nodup ∧
    closing.Perm ((opening.filterMap Call.opened?).map Call.undoing)
  /-- The last plan's own writer was not closed. -/
  spared : ∀ call ∈ calls, call.writer = start.writers.length + earlier.length →
    ∃ why, call.action = .init plan.argument (.error why)
  /-- Nothing that was made is open. -/
  shut : ∀ number, start.writers.length ≤ number → (world.writer number).isOpen = false
  /-- What was there before is as it was. -/
  kept : ∀ number < start.writers.length, world.writer number = start.writer number

/-- Opening calls are made on writers that were made by then. -/
lemma Enrolled.writer_lt (enrolled : Enrolled (builtins host) start plans r world calls) :
    ∀ call ∈ calls, call.writer < world.writers.length := by
  induction enrolled with
  | none =>
    intro call mem
    cases mem
  | @more plans r world calls plan _ _ _ ih =>
    intro call mem
    rw [(plan.opening_builtins host world).1]
    rcases List.mem_append.mp mem with mem | mem
    · exact Nat.lt_succ_of_lt (ih call mem)
    · rw [Plan.eq_of_mem_openingCalls mem]
      exact Nat.lt_succ_self _

lemma filterMap_tried_undoing {opened : List (String × Nat)} {closing : List (Call Nat)}
    (perm : closing.Perm (opened.map Call.undoing)) : closing.filterMap Call.tried? = [] := by
  rw [List.filterMap_eq_nil_iff]
  intro call mem
  obtain ⟨_, -, rfl⟩ := List.mem_map.mp (perm.mem_iff.mp mem)
  rfl

/-- Clearing the registry of enrolled plans undoes a build that failed at a plan. -/
lemma Enrolled.undone {earlier : List Plan} {e : RegistryError} {world₀ : World}
    (enrolled : Enrolled (builtins host) start
      (if e.ofWriter then earlier ++ [plan] else earlier) r world₀ calls)
    (stocked : r.Stocked start world)
    (made : world.writers.length = start.writers.length + earlier.length + 1)
    (spared : ∀ call ∈ calls, call.writer = start.writers.length + earlier.length →
      ∃ why, call.action = .init plan.argument (.error why)) :
    let cleared := r.clear (builtins host).recorded (world, calls)
    Blueprint.Undone start earlier plan e cleared.2.2 cleared.2.1 ∧
      start.surroundings.Silent cleared.2.1.surroundings := by
  have unrecorded := Registry.clear_map (builtins host).recorded_maps r (world, calls)
  obtain ⟨world', eq⟩ := Registry.clear_recorded enrolled.sound (builtins host) (world, calls)
  obtain ⟨length, kept, shut, silent⟩ := stocked.clear host
  have perm := Registry.closing_perm_undoing enrolled
  rw [unrecorded, eq] at length kept shut silent
  rw [eq]
  refine ⟨⟨length.trans made, ?_,
    ⟨calls, _, rfl, enrolled.isSome_tried, enrolled.nodup_opened, perm⟩,
    fun call mem own => ?_, shut, kept⟩, silent⟩
  · rw [List.filterMap_append, filterMap_tried_undoing perm, List.append_nil, enrolled.tried]
  · rcases List.mem_append.mp mem with mem | mem
    · exact spared call mem own
    · obtain ⟨opened, opens, rfl⟩ := List.mem_map.mp (perm.mem_iff.mp mem)
      obtain ⟨call, mem, opens⟩ := List.mem_filterMap.mp opens
      have same : call.writer = opened.2 := by
        rw [Call.opened?] at opens
        split at opens <;> cases opens
        rfl
      obtain ⟨why, action⟩ := spared call mem (same.trans own)
      rw [Call.opened?, action] at opens
      cases opens

/-- A refused plan leaves a registry whose clearing undoes the build. -/
lemma Plan.Stops.undone {earlier : List Plan} {e : RegistryError}
    (stops : plan.Stops (builtins host) start earlier e r world calls) :
    let cleared := r.clear (builtins host).recorded (world, calls)
    Blueprint.Undone start earlier plan e cleared.2.2 cleared.2.1 ∧
      start.surroundings.Silent cleared.2.1.surroundings := by
  cases stops with
  | @named e r world calls refused other enrolled =>
    obtain ⟨stocked, made⟩ := enrolled.stocked
    have names : e.ofWriter = false := by
      cases refused with
      | nameless => rfl
      | taken => rfl
      | unopened => exact absurd rfl (other _)
    apply Enrolled.undone
    · rw [names]
      exact enrolled
    · exact stocked.refused plan.transport
    · rw [← made]
      exact (World.length_setWriter _ _ _).trans (World.length_create host plan.transport world)
    · intro call mem own
      have before := enrolled.writer_lt call mem
      omega
  | @unopened why r world calls refused enrolled =>
    obtain ⟨stocked, made⟩ := enrolled.stocked
    cases refused with
    | unopened named absent on failed =>
      have free : r.endpoints.find? plan.name = none :=
        Option.not_isSome_iff_eq_none.mp fun taken => absent (enrolled.contains_iff.mp taken)
      apply Enrolled.undone
      · exact enrolled.more named free
      · exact stocked.enrol plan free
      · rw [(plan.opening_builtins host world).1, made]
      · intro call mem own
        rcases List.mem_append.mp mem with mem | mem
        · have before := enrolled.writer_lt call mem
          omega
        · rw [Plan.eq_of_mem_openingCalls mem, enrolled.state, failed]
          exact ⟨why, rfl⟩

/-- A build fails exactly if one of the plans is refused. It fails with the error of the first such
plan, and then all that was done before is undone; sent is nothing in any case. -/
theorem Blueprint.build_all_or_nothing (host : Host) (blueprint : Blueprint) (world : World) :
    let built := blueprint.build (builtins host).recorded (world, [])
    blueprint.build (builtins host) world = (built.1, built.2.1) ∧
    ((∃ e, built.1 = .error e) ↔
      ∃ before plan after e, blueprint.plans = before ++ plan :: after ∧
        plan.Refused (builtins host) world (blueprint.seeds ++ before) e) ∧
    (∀ e, built.1 = .error e →
      ∃ before plan after, blueprint.plans = before ++ plan :: after ∧
        Plan.Pass (builtins host) world blueprint.seeds before ∧
        plan.Refused (builtins host) world (blueprint.seeds ++ before) e ∧
        Undone world (blueprint.seeds ++ before) plan e built.2.2 built.2.1) ∧
    world.surroundings.Silent built.2.1.surroundings := by
  intro built
  refine ⟨build_map (builtins host).recorded_maps blueprint (world, []), ?_⟩
  obtain ⟨status, r, world', calls, registers, eq⟩ :=
    blueprint.build_recorded (builtins host) world
  simp only [built, eq]
  cases registers with
  | done pass enrolled =>
    refine ⟨⟨?_, ?_⟩, ?_, enrolled.stocked.1.silent⟩
    · rintro ⟨e, failed⟩
      cases failed
    · rintro ⟨before, plan, after, e, split, refused⟩
      exact absurd refused (pass before plan after split e)
    · intro e failed
      cases failed
  | @stopped before plan after e _ _ _ split pass stops =>
    obtain ⟨undone, silent⟩ := stops.undone
    refine ⟨⟨fun _ => ⟨before, plan, after, e, split, stops.refused⟩, fun _ => ⟨e, rfl⟩⟩, ?_,
      silent⟩
    intro e' failed
    cases failed
    exact ⟨before, plan, after, split, pass, stops.refused, undone⟩

end LogFanout
