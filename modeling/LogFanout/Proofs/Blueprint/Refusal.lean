import LogFanout.Proofs.Blueprint.Enrolment

/-!
# Refusals

Building the logger of a blueprint goes through its plans until one is refused: because of its name,
or because its writer cannot be opened. `Plan.Refused` says when, without a registry, and
`Registers` what registering plans comes to; `build_recorded` shows that a build does nothing else,
and clears the registry after a refusal.
-/

namespace LogFanout

variable {ω σ : Type}

/-- Why the endpoint of a plan cannot be set up after those of the plans `earlier`. -/
inductive Plan.Refused (w : Writers ω σ) (start : σ) (earlier : List Plan) (plan : Plan) :
    RegistryError → Prop where
  | nameless :
    plan.name = "" →
    Refused w start earlier plan .emptyName
  | taken :
    plan.name ≠ "" →
    plan.name ∈ earlier.map Plan.name →
    Refused w start earlier plan (.duplicateName plan.name)
  | unopened {why} :
    plan.name ≠ "" →
    plan.name ∉ earlier.map Plan.name →
    plan.enabled = true →
    (plan.opening w (Plan.openAll w start earlier)).1 = .error why →
    Refused w start earlier plan (.initFailed plan.name why)

/-- None of the plans is refused after the plans `earlier` and the ones before it. -/
def Plan.Pass (w : Writers ω σ) (start : σ) (earlier plans : List Plan) : Prop :=
  ∀ before plan after, plans = before ++ plan :: after →
    ∀ e, ¬plan.Refused w start (earlier ++ before) e

/-- What a refused plan leaves behind. If its name was refused, then its writer was let go of; if
its writer could not be opened, then it is enrolled all the same. -/
inductive Plan.Stops (w : Writers ω σ) (start : σ) (earlier : List Plan) (plan : Plan) :
    RegistryError → Registry ω → σ → List (Call ω) → Prop where
  | named {e r s calls} :
    plan.Refused w start earlier e →
    (∀ why, e ≠ .initFailed plan.name why) →
    Enrolled w start earlier r s calls →
    Stops w start earlier plan e r
      (w.release (w.create plan.transport s).1 (w.create plan.transport s).2) calls
  | unopened {why r s calls} :
    plan.Refused w start earlier (.initFailed plan.name why) →
    Enrolled w start earlier r s calls →
    Stops w start earlier plan (.initFailed plan.name why) (r.enrol w plan s)
      (plan.opening w s).2 (calls ++ plan.openingCalls w s)

/-- What registering plans comes to after the plans `earlier`. -/
inductive Registers (w : Writers ω σ) (start : σ) (earlier plans : List Plan) :
    Status → Registry ω → σ → List (Call ω) → Prop where
  | done {r s calls} :
    Plan.Pass w start earlier plans →
    Enrolled w start (earlier ++ plans) r s calls →
    Registers w start earlier plans (.ok ()) r s calls
  | stopped {before plan after e r s calls} :
    plans = before ++ plan :: after →
    Plan.Pass w start earlier before →
    plan.Stops w start (earlier ++ before) e r s calls →
    Registers w start earlier plans (.error e) r s calls

variable {w : Writers ω σ} {start : σ} {earlier plans : List Plan} {plan : Plan}

lemma Plan.Stops.refused {e : RegistryError} {r : Registry ω} {s : σ} {calls : List (Call ω)}
    (stops : plan.Stops w start earlier e r s calls) : plan.Refused w start earlier e := by
  cases stops with
  | named refused => exact refused
  | unopened refused => exact refused

lemma Plan.Pass.nil : Plan.Pass w start earlier [] := by
  intro before plan after split
  simp at split

/-- A plan that is not refused passes in front of those that pass after it. -/
lemma Plan.Pass.cons (passed : ∀ e, ¬plan.Refused w start earlier e)
    (pass : Plan.Pass w start (earlier ++ [plan]) plans) :
    Plan.Pass w start earlier (plan :: plans) := by
  intro before other after split e refused
  cases before with
  | nil =>
    obtain ⟨rfl, -⟩ := List.cons.inj split
    rw [List.append_nil] at refused
    exact passed e refused
  | cons first before =>
    obtain ⟨rfl, rest⟩ := List.cons.inj split
    apply pass before other after rest e
    rw [List.append_assoc]
    exact refused

/-- A plan is set up, or refused and left. -/
lemma Plan.register_recorded {r : Registry ω} {s : σ} {calls : List (Call ω)}
    (enrolled : Enrolled w start earlier r s calls) (plan : Plan) :
    ((∀ e, ¬plan.Refused w start earlier e) ∧
      ∃ r' s' calls', plan.register w.recorded r (s, calls) = (.ok (), r', s', calls') ∧
        Enrolled w start (earlier ++ [plan]) r' s' calls') ∨
    ∃ e r' s' calls', plan.register w.recorded r (s, calls) = (.error e, r', s', calls') ∧
      plan.Stops w start earlier e r' s' calls' := by
  -- The cases come in the order in which a registry looks for them.
  by_cases nameless : plan.name = ""
  · refine .inr ⟨_, _, _, _, plan.register_nameless w.recorded nameless r (s, calls), ?_⟩
    exact .named (.nameless nameless) (fun _ eq => by cases eq) enrolled
  by_cases taken : r.endpoints.contains plan.name = true
  · refine .inr ⟨_, _, _, _, Plan.register_taken nameless taken (s, calls), ?_⟩
    exact .named (.taken nameless (enrolled.contains_iff.mp taken)) (fun _ eq => by cases eq)
      enrolled
  have absent : plan.name ∉ earlier.map Plan.name := by
    intro mem
    exact taken (enrolled.contains_iff.mpr mem)
  have free : r.endpoints.find? plan.name = none := Option.not_isSome_iff_eq_none.mp taken
  have registered := Plan.register_free (w := w.recorded) nameless free (s, calls)
  rw [Plan.opening_recorded, Registry.enrol_recorded] at registered
  cases outcome : (plan.opening w s).1 with
  | ok =>
    rw [outcome] at registered
    refine .inl ⟨fun e refused => ?_, _, _, _, registered, enrolled.more nameless free⟩
    cases refused with
    | nameless nameless' => exact nameless nameless'
    | taken _ mem => exact absent mem
    | unopened _ _ _ failed =>
      rw [← enrolled.state, outcome] at failed
      cases failed
  | error why =>
    rw [outcome] at registered
    have on : plan.enabled = true := by
      by_contra off
      simp [opening, off] at outcome
    rw [enrolled.state] at outcome
    exact .inr ⟨_, _, _, _, registered, .unopened (.unopened nameless absent on outcome) enrolled⟩

/-- Plans are registered one after the other until one is refused. -/
lemma Blueprint.registerAll_recorded {r : Registry ω} {s : σ} {calls : List (Call ω)}
    (enrolled : Enrolled w start earlier r s calls) (plans : List Plan) :
    ∃ status r' s' calls',
      Blueprint.registerAll w.recorded plans r (s, calls) = (status, r', s', calls') ∧
        Registers w start earlier plans status r' s' calls' := by
  induction plans generalizing earlier r s calls with
  | nil => exact ⟨_, r, s, calls, rfl, .done .nil ((List.append_nil earlier).symm ▸ enrolled)⟩
  | cons plan plans ih =>
    rcases plan.register_recorded enrolled with
      ⟨passed, r₁, s₁, calls₁, eq, enrolled⟩ | ⟨e, r₁, s₁, calls₁, eq, stops⟩
    · obtain ⟨status, r', s', calls', eq', registers⟩ := ih enrolled
      refine ⟨status, r', s', calls', ?_, ?_⟩
      · rw [registerAll, eq]
        exact eq'
      · cases registers with
        | done pass enrolled =>
          rw [List.append_assoc] at enrolled
          exact .done (.cons passed pass) enrolled
        | @stopped before refused after _ _ _ _ split pass stops =>
          rw [List.append_assoc] at stops
          exact .stopped (congrArg (plan :: ·) split) (.cons passed pass) stops
    · refine ⟨.error e, r₁, s₁, calls₁, ?_, ?_⟩
      · rw [registerAll, eq]
      · rw [← List.append_nil earlier] at stops
        have split : plan :: plans = [] ++ plan :: plans := rfl
        exact .stopped split .nil stops

/-- A new logger has an endpoint on standard output if it is to be seeded, opened or not. -/
lemma Logger.build_recorded (w : Writers ω σ) (blueprint : Blueprint) (s : σ) :
    ∃ r s' calls,
      Logger.build w.recorded blueprint.settings.capacity.toNat blueprint.settings.seeded (s, []) =
        (⟨r, max blueprint.settings.capacity.toNat LineBuffer.minCapacity⟩, s', calls) ∧
      Enrolled w s blueprint.seeds r s' calls := by
  rw [Blueprint.seeds]
  cases blueprint.settings.seeded with
  | false => exact ⟨.empty, s, [], rfl, .none⟩
  | true =>
    have named : Plan.seed.name ≠ "" := by decide
    have on : Plan.seed.enabled = true := rfl
    have enabled := Registry.enable_added (w := w.recorded) (r := .empty) named on (s, [])
    rw [Plan.opening_recorded, Registry.enrol_recorded] at enabled
    refine ⟨_, _, _, ?_, .more .none named rfl⟩
    simp only [Logger.build, if_true, Logger.seed, Logger.bare]
    exact congrArg (fun enabled : Status × Registry ω × σ × List (Call ω) =>
      ((⟨enabled.2.1, max blueprint.settings.capacity.toNat LineBuffer.minCapacity⟩ : Logger ω),
        enabled.2.2)) enabled

/-- A build registers the plans of a blueprint after the endpoint on standard output; if one of them
is refused, the registry is cleared. -/
lemma Blueprint.build_recorded (w : Writers ω σ) (blueprint : Blueprint) (s : σ) :
    ∃ status r s' calls,
      Registers w s blueprint.seeds blueprint.plans status r s' calls ∧
      blueprint.build w.recorded (s, []) =
        match status with
        | .ok () =>
          (.ok ⟨r, max blueprint.settings.capacity.toNat LineBuffer.minCapacity⟩, s', calls)
        | .error e => (.error e, (r.clear w.recorded (s', calls)).2) := by
  obtain ⟨r, s₁, calls, eq, enrolled⟩ := Logger.build_recorded w blueprint s
  obtain ⟨status, r', s', calls', registered, registers⟩ :=
    registerAll_recorded enrolled blueprint.plans
  refine ⟨status, r', s', calls', registers, ?_⟩
  rw [build, eq]
  simp only [registered]
  rcases status with e | ⟨⟨⟩⟩ <;> rfl

section Mapped

variable {σ' : Type} {f : σ' → σ} {w' : Writers ω σ'}

/-- Registers the same endpoints. -/
lemma Plan.register_map (maps : w'.Maps f w) (plan : Plan) (r : Registry ω) (s : σ') :
    plan.register w r (f s) = Prod.map id (Prod.map id f) (plan.register w' r s) := by
  rw [register, register, Registry.addBuiltin_map maps]
  rcases r.addBuiltin w' plan.name plan.transport s with ⟨e | ⟨⟨⟩⟩, r', s'⟩
  · rfl
  · simp only [Prod.map, id]
    split
    · rw [Registry.enable_map maps]
      rfl
    · rfl

lemma Blueprint.registerAll_map (maps : w'.Maps f w) (plans : List Plan) (r : Registry ω)
    (s : σ') :
    Blueprint.registerAll w plans r (f s) =
      Prod.map id (Prod.map id f) (Blueprint.registerAll w' plans r s) := by
  induction plans generalizing r s with
  | nil => rfl
  | cons plan plans ih =>
    rw [registerAll, registerAll, Plan.register_map maps]
    rcases plan.register w' r s with ⟨e | ⟨⟨⟩⟩, r', s'⟩
    · rfl
    · exact ih r' s'

lemma Logger.build_map (maps : w'.Maps f w) (capacity : Nat) (seeded : Bool) (s : σ') :
    Logger.build w capacity seeded (f s) = Prod.map id f (Logger.build w' capacity seeded s) := by
  rw [build, build]
  split
  · rw [seed, seed, Registry.addBuiltin_map maps]
    rcases (bare capacity).registry.addBuiltin w' Blueprint.seedName .descriptor s with
      ⟨e | ⟨⟨⟩⟩, r', s'⟩
    · rfl
    · simp only [Prod.map, id, Registry.enable_map maps]
  · rfl

/-- Builds the same logger. -/
lemma Blueprint.build_map (maps : w'.Maps f w) (blueprint : Blueprint) (s : σ') :
    blueprint.build w (f s) = Prod.map id f (blueprint.build w' s) := by
  rw [build, build, Logger.build_map maps]
  rcases Logger.build w' blueprint.settings.capacity.toNat blueprint.settings.seeded s with
    ⟨logger, s₁⟩
  simp only [Prod.map, id, registerAll_map maps]
  rcases registerAll w' blueprint.plans logger.registry s₁ with ⟨e | ⟨⟨⟩⟩, r', s'⟩
  · simp only [Logger.shutdown, Registry.clear_map maps, Prod.map, id]
  · rfl

end Mapped

end LogFanout
