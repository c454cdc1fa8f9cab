import LogFanout.Proofs.Blueprint.Accepted

/-!
# What a check reports

A blueprint passes its check exactly if it is valid, and otherwise the check reports the size of the
lines, or else the first plan with a fault in its name, or else the first plan that lacks what it is
opened on (`check_reports`). Both passes over the plans stop at a first fault; `First` says so of any
kind of fault.
-/

namespace LogFanout

/-- An error, the place that it names and what it says is wrong there. -/
structure Finding where
  error : CheckError
  place : String
  reason : String

/-- What can be wrong with the name of a plan that comes after the plans `earlier`. -/
inductive Plan.Misnamed (seeded : Bool) (earlier : List Plan) (plan : Plan) : Finding → Prop where
  | empty :
    plan.name = "" →
    Misnamed seeded earlier plan ⟨.emptyName earlier.length,
      "endpoints[" ++ Text.decimal earlier.length ++ "].name", "endpoint name cannot be empty"⟩
  | reserved :
    plan.name ≠ "" →
    seeded = true →
    plan.name = "std" →
    Misnamed seeded earlier plan ⟨.reservedName plan.name, "endpoints[name=" ++ plan.name ++ "]",
      "name is reserved while logger.seed_std is set"⟩
  | repeated :
    plan.name ≠ "" →
    ¬(seeded = true ∧ plan.name = "std") →
    plan.name ∈ earlier.map Plan.name →
    Misnamed seeded earlier plan ⟨.duplicateName plan.name, "endpoints[name=" ++ plan.name ++ "]",
      "duplicate endpoint name"⟩

/-- What a plan can lack to be opened on. -/
inductive Plan.Unsupplied (plan : Plan) : Finding → Prop where
  | negative {number} :
    plan.transport = .descriptor →
    plan.descriptor = some number →
    number.toInt < 0 →
    Unsupplied plan ⟨.negativeDescriptor plan.name number, "endpoints[" ++ plan.name ++ "].fd",
      "fd must be >= 0, got " ++ Text.decimalInt number.toInt⟩
  | noDescriptor :
    plan.transport = .descriptor →
    plan.descriptor = none →
    Unsupplied plan ⟨.missingDescriptor plan.name, "endpoints[" ++ plan.name ++ "].fd",
      "fd endpoints require a descriptor"⟩
  | noTarget :
    plan.transport = .socket →
    plan.target = none →
    Unsupplied plan ⟨.missingTarget plan.name, "endpoints[" ++ plan.name ++ "].target",
      "socket endpoints require a target"⟩

/-- A kind of fault that a plan can have, which may depend on the plans before it. -/
abbrev Plan.Fault := List Plan → Plan → Finding → Prop

namespace Plan.Fault

variable {fault : Plan.Fault} {plan : Plan} {plans : List Plan} {finding : Finding}

/-- No plan has a fault. -/
def Absent (fault : Plan.Fault) (plans : List Plan) : Prop :=
  ∀ before plan after, plans = before ++ plan :: after → ∀ finding, ¬fault before plan finding

/-- The first plan with a fault has this one. -/
inductive First (fault : Plan.Fault) : List Plan → Finding → Prop where
  | found {before plan after finding} :
    fault.Absent before →
    fault before plan finding →
    First fault (before ++ plan :: after) finding

/-- The fault as it is for plans that come after another one. -/
def behind (fault : Plan.Fault) (plan : Plan) : Plan.Fault :=
  fun earlier => fault (plan :: earlier)

lemma Absent.nil : fault.Absent [] := by
  intro before plan after eq
  cases (List.append_eq_nil_iff.mp eq.symm).2

lemma Absent.cons (sound : ∀ finding, ¬fault [] plan finding)
    (rest : (fault.behind plan).Absent plans) : fault.Absent (plan :: plans) := by
  intro before other after eq
  cases before with
  | nil =>
    cases eq
    exact sound
  | cons first before =>
    obtain ⟨rfl, split⟩ := List.cons.inj eq
    exact rest before other after split

lemma First.here (faulty : fault [] plan finding) : fault.First (plan :: plans) finding :=
  .found .nil faulty

lemma First.later (sound : ∀ finding, ¬fault [] plan finding)
    (rest : (fault.behind plan).First plans finding) : fault.First (plan :: plans) finding := by
  cases rest with
  | found absent faulty => exact .found (.cons sound absent) faulty

lemma First.exists (first : fault.First plans finding) :
    ∃ before plan, fault before plan finding := by
  cases first with
  | found _ faulty => exact ⟨_, _, faulty⟩

lemma First.not_absent (first : fault.First plans finding) : ¬fault.Absent plans := by
  cases first with
  | found _ faulty => exact fun absent => absent _ _ _ rfl _ faulty

/-- There is one first plan with a fault, so there is one thing to report if a plan has one fault. -/
lemma First.unique {finding' : Finding}
    (first : fault.First plans finding) (first' : fault.First plans finding')
    (one : ∀ {before plan finding finding'}, fault before plan finding →
      fault before plan finding' → finding = finding') : finding = finding' := by
  cases first with
  | @found before plan after _ absent faulty =>
    generalize eq : before ++ plan :: after = plans at first'
    cases first' with
    | @found before' plan' after' _ absent' faulty' =>
      -- Either list of sound plans begins with the other, and the faulty plan is in neither.
      rcases List.append_eq_append_iff.mp eq with ⟨between, front, rest⟩ | ⟨between, front, rest⟩
      · cases between with
        | nil =>
          rw [List.append_nil] at front
          obtain ⟨rfl, -⟩ := List.cons.inj rest
          subst front
          exact one faulty faulty'
        | cons other between =>
          obtain ⟨rfl, -⟩ := List.cons.inj rest
          exact absurd faulty (absent' _ _ _ front _)
      · cases between with
        | nil =>
          rw [List.append_nil] at front
          obtain ⟨rfl, -⟩ := List.cons.inj rest
          subst front
          exact one faulty faulty'
        | cons other between =>
          obtain ⟨rfl, -⟩ := List.cons.inj rest
          exact absurd faulty' (absent _ _ _ front _)

end Plan.Fault

/-- What a check of a blueprint reports: the size of its lines, or else the first name that is at
fault, or else the first plan that is not supplied. -/
inductive Blueprint.Faulty (blueprint : Blueprint) : Finding → Prop where
  | capacity :
    ¬(64 ≤ blueprint.settings.capacity.toNat ∧ blueprint.settings.capacity.toNat ≤ 1048576) →
    Faulty blueprint ⟨.capacity blueprint.settings.capacity, "logger.buffer_capacity",
      "buffer_capacity must be within 64..=1048576, got " ++
        Text.decimal blueprint.settings.capacity.toNat⟩
  | name {finding} :
    64 ≤ blueprint.settings.capacity.toNat ∧ blueprint.settings.capacity.toNat ≤ 1048576 →
    Plan.Fault.First (Plan.Misnamed blueprint.settings.seeded) blueprint.plans finding →
    Faulty blueprint finding
  | argument {finding} :
    64 ≤ blueprint.settings.capacity.toNat ∧ blueprint.settings.capacity.toNat ≤ 1048576 →
    Plan.Fault.Absent (Plan.Misnamed blueprint.settings.seeded) blueprint.plans →
    Plan.Fault.First (fun _ => Plan.Unsupplied) blueprint.plans finding →
    Faulty blueprint finding

/-- A blueprint without faults. -/
structure Blueprint.Valid (blueprint : Blueprint) : Prop where
  capacity :
    64 ≤ blueprint.settings.capacity.toNat ∧ blueprint.settings.capacity.toNat ≤ 1048576
  named : ∀ plan ∈ blueprint.plans, plan.name ≠ ""
  distinct : blueprint.plans.Pairwise fun plan other => plan.name ≠ other.name
  unreserved : blueprint.settings.seeded = true → ∀ plan ∈ blueprint.plans, plan.name ≠ "std"
  descriptors : ∀ plan ∈ blueprint.plans, plan.transport = .descriptor →
    ∃ number, plan.descriptor = some number ∧ 0 ≤ number.toInt
  targets : ∀ plan ∈ blueprint.plans, plan.transport = .socket → ∃ target, plan.target = some target

namespace Plan

variable {seeded : Bool} {earlier : List Plan} {plan : Plan} {finding finding' : Finding}

lemma Misnamed.unique (fault : plan.Misnamed seeded earlier finding)
    (fault' : plan.Misnamed seeded earlier finding') : finding = finding' := by
  cases fault with
  | empty empty =>
    cases fault' with
    | empty => rfl
    | reserved named => exact absurd empty named
    | repeated named => exact absurd empty named
  | reserved named seeded reserved =>
    cases fault' with
    | empty empty => exact absurd empty named
    | reserved => rfl
    | repeated _ free => exact absurd ⟨seeded, reserved⟩ free
  | repeated named free taken =>
    cases fault' with
    | empty empty => exact absurd empty named
    | reserved _ seeded reserved => exact absurd ⟨seeded, reserved⟩ free
    | repeated => rfl

lemma Unsupplied.unique (fault : plan.Unsupplied finding) (fault' : plan.Unsupplied finding') :
    finding = finding' := by
  cases fault with
  | negative transport given negative =>
    cases fault' with
    | negative _ given' =>
      cases given.symm.trans given'
      rfl
    | noDescriptor _ none => cases given.symm.trans none
    | noTarget socket => cases transport.symm.trans socket
  | noDescriptor transport none =>
    cases fault' with
    | negative _ given => cases none.symm.trans given
    | noDescriptor => rfl
    | noTarget socket => cases transport.symm.trans socket
  | noTarget transport none =>
    cases fault' with
    | negative descriptor => cases transport.symm.trans descriptor
    | noDescriptor descriptor => cases transport.symm.trans descriptor
    | noTarget => rfl

/-- A plan is supplied, or it is reported what it lacks. -/
lemma checkArgument_reports (plan : Plan) :
    (plan.checkArgument = .ok () ∧ ∀ finding, ¬plan.Unsupplied finding) ∨
      ∃ finding, plan.checkArgument = .error finding.error ∧ plan.Unsupplied finding := by
  rw [checkArgument]
  cases transport : plan.transport with
  | descriptor =>
    cases given : plan.descriptor with
    | none => exact .inr ⟨_, rfl, .noDescriptor transport given⟩
    | some number =>
      by_cases nonnegative : 0 ≤ number.toInt
      · refine .inl ⟨if_pos nonnegative, fun finding fault => ?_⟩
        cases fault with
        | negative _ given' negative =>
          cases given.symm.trans given'
          exact absurd nonnegative (Int.not_le.mpr negative)
        | noDescriptor _ none => cases given.symm.trans none
        | noTarget socket => cases transport.symm.trans socket
      · exact .inr ⟨_, if_neg nonnegative, .negative transport given (Int.not_le.mp nonnegative)⟩
  | socket =>
    cases given : plan.target with
    | none => exact .inr ⟨_, rfl, .noTarget transport given⟩
    | some target =>
      refine .inl ⟨rfl, fun finding fault => ?_⟩
      cases fault with
      | negative descriptor => cases transport.symm.trans descriptor
      | noDescriptor descriptor => cases transport.symm.trans descriptor
      | noTarget _ none => cases given.symm.trans none

end Plan

namespace Blueprint

/-- The names are checked up to the first one at fault. -/
lemma checkNames_reports (seeded : Bool) (plans before : List Plan) {seen : List String}
    (same : ∀ name, name ∈ seen ↔ name ∈ before.map Plan.name) :
    let fault : Plan.Fault := fun earlier plan => plan.Misnamed seeded (before ++ earlier)
    (checkNames seeded before.length seen plans = .ok () ∧ fault.Absent plans) ∨
      ∃ finding, checkNames seeded before.length seen plans = .error finding.error ∧
        fault.First plans finding := by
  intro fault
  induction plans generalizing before seen with
  | nil => exact .inl ⟨rfl, .nil⟩
  | cons plan plans ih =>
    have front : ∀ {finding}, plan.Misnamed seeded before finding → fault [] plan finding := by
      intro finding faulty
      show plan.Misnamed seeded (before ++ []) finding
      rwa [List.append_nil]
    rw [checkNames]
    split
    · rename_i empty
      exact .inr ⟨_, rfl, .here (front (.empty empty))⟩
    rename_i named
    split
    · rename_i reserved
      exact .inr ⟨_, rfl, .here (front (.reserved named reserved.1 reserved.2))⟩
    rename_i free
    split
    · rename_i taken
      exact .inr ⟨_, rfl, .here (front (.repeated named free ((same _).mp taken)))⟩
    rename_i fresh
    -- From here on the name of the plan is one of those seen, and the plan one of those before.
    have sound : ∀ finding, ¬fault [] plan finding := by
      intro finding faulty
      have faulty : plan.Misnamed seeded (before ++ []) finding := faulty
      rw [List.append_nil] at faulty
      cases faulty with
      | empty empty => exact named empty
      | reserved _ seeded reserved => exact free ⟨seeded, reserved⟩
      | repeated _ _ taken => exact fresh ((same _).mpr taken)
    have next := @ih (before ++ [plan]) (plan.name :: seen) fun name => by
      rw [List.mem_cons, same, List.map_append, List.mem_append, or_comm, List.map_singleton,
        List.mem_singleton]
    simp only [List.append_assoc, List.length_append, List.length_singleton,
      List.singleton_append] at next
    rcases next with ⟨ok, absent⟩ | ⟨finding, failed, first⟩
    · exact .inl ⟨ok, .cons sound absent⟩
    · exact .inr ⟨finding, failed, .later sound first⟩

/-- The plans are checked up to the first one that is not supplied. -/
lemma checkArguments_reports (plans : List Plan) :
    let fault : Plan.Fault := fun _ => Plan.Unsupplied
    (checkArguments plans = .ok () ∧ fault.Absent plans) ∨
      ∃ finding, checkArguments plans = .error finding.error ∧ fault.First plans finding := by
  intro fault
  induction plans with
  | nil => exact .inl ⟨rfl, .nil⟩
  | cons plan plans ih =>
    have step : checkArguments (plan :: plans) =
        (plan.checkArgument >>= fun _ => checkArguments plans) := rfl
    rw [step]
    rcases plan.checkArgument_reports with ⟨ok, sound⟩ | ⟨finding, failed, faulty⟩
    · rw [ok]
      rcases ih with ⟨rest, absent⟩ | ⟨finding, failed, first⟩
      · exact .inl ⟨rest, .cons sound absent⟩
      · exact .inr ⟨finding, failed, .later sound first⟩
    · rw [failed]
      exact .inr ⟨finding, rfl, .here faulty⟩

variable {blueprint : Blueprint}

/-- A check passes, or it reports a fault. -/
lemma check_cases (blueprint : Blueprint) :
    (blueprint.check = .ok () ∧ ∀ finding, ¬blueprint.Faulty finding) ∨
      ∃ finding, blueprint.check = .error finding.error ∧ blueprint.Faulty finding := by
  have size : blueprint.settings.check =
      if 64 ≤ blueprint.settings.capacity.toNat ∧ blueprint.settings.capacity.toNat ≤ 1048576 then
        .ok () else .error (.capacity blueprint.settings.capacity) := rfl
  have names := checkNames_reports blueprint.settings.seeded blueprint.plans [] fun _ => Iff.rfl
  have arguments := checkArguments_reports blueprint.plans
  rw [check, size]
  split
  · rename_i within
    rcases names with ⟨named, absent⟩ | ⟨finding, failed, first⟩
    · rcases arguments with ⟨supplied, none⟩ | ⟨finding, failed, first⟩
      · refine .inl ⟨bind_eq_ok.mpr ⟨(), rfl, bind_eq_ok.mpr ⟨(), named, supplied⟩⟩, ?_⟩
        intro finding faulty
        cases faulty with
        | capacity beyond => exact beyond within
        | name _ first => exact first.not_absent absent
        | argument _ _ first => exact first.not_absent none
      · refine .inr ⟨finding, ?_, .argument within absent first⟩
        rw [List.length_nil] at named
        exact (congrArg (· >>= fun _ => checkArguments blueprint.plans) named).trans failed
    · refine .inr ⟨finding, ?_, .name within first⟩
      exact congrArg (· >>= fun _ => checkArguments blueprint.plans) failed
  · rename_i beyond
    exact .inr ⟨_, rfl, .capacity beyond⟩

namespace Faulty

variable {finding finding' : Finding}

lemma unique (faulty : blueprint.Faulty finding) (faulty' : blueprint.Faulty finding') :
    finding = finding' := by
  cases faulty with
  | capacity beyond =>
    cases faulty' with
    | capacity => rfl
    | name within => exact absurd within beyond
    | argument within => exact absurd within beyond
  | name within first =>
    cases faulty' with
    | capacity beyond => exact absurd within beyond
    | name _ first' => exact first.unique first' Plan.Misnamed.unique
    | argument _ absent => exact absurd absent first.not_absent
  | argument within absent first =>
    cases faulty' with
    | capacity beyond => exact absurd within beyond
    | name _ first' => exact absurd absent first'.not_absent
    | argument _ _ first' => exact first.unique first' Plan.Unsupplied.unique

/-- What is said of a fault names its place. -/
lemma message (faulty : blueprint.Faulty finding) :
    finding.error.message =
      "config validation error at '" ++ finding.place ++ "': " ++ finding.reason := by
  cases faulty with
  | capacity => rfl
  | name _ first =>
    obtain ⟨before, plan, fault⟩ := first.exists
    cases fault <;> rfl
  | argument _ _ first =>
    obtain ⟨before, plan, fault⟩ := first.exists
    cases fault <;> rfl

end Faulty

lemma Acceptable.valid (acceptable : blueprint.Acceptable) : blueprint.Valid where
  capacity := acceptable.capacity
  named := acceptable.named
  distinct := by
    have distinct := acceptable.distinct
    rw [List.map_append] at distinct
    exact List.pairwise_map.mp (List.nodup_append.mp distinct).2.1
  unreserved seeded plan mem reserved := by
    have distinct := acceptable.distinct
    rw [seeds, if_pos seeded] at distinct
    have listed : plan.name ∈ blueprint.plans.map Plan.name := List.mem_map_of_mem mem
    rw [reserved] at listed
    exact (List.nodup_cons.mp distinct).1 listed
  descriptors plan mem transport := by
    obtain ⟨argument, supplied⟩ := acceptable.supplied plan mem
    cases supplied with
    | descriptor _ given nonnegative => exact ⟨_, given, nonnegative⟩
    | socket socket => cases transport.symm.trans socket
  targets plan mem transport := by
    obtain ⟨argument, supplied⟩ := acceptable.supplied plan mem
    cases supplied with
    | descriptor descriptor => cases transport.symm.trans descriptor
    | socket _ given => exact ⟨_, given⟩

namespace Valid

lemma not_misnamed (valid : blueprint.Valid) :
    Plan.Fault.Absent (Plan.Misnamed blueprint.settings.seeded) blueprint.plans := by
  intro before plan after eq finding fault
  have mem : plan ∈ blueprint.plans := eq ▸ List.mem_append_right before List.mem_cons_self
  cases fault with
  | empty empty => exact valid.named plan mem empty
  | reserved _ seeded reserved => exact valid.unreserved seeded plan mem reserved
  | repeated _ _ taken =>
    obtain ⟨other, earlier, same⟩ := List.mem_map.mp taken
    have distinct := valid.distinct
    rw [eq, List.pairwise_append] at distinct
    exact distinct.2.2 other earlier plan List.mem_cons_self same

lemma not_unsupplied (valid : blueprint.Valid) :
    Plan.Fault.Absent (fun _ => Plan.Unsupplied) blueprint.plans := by
  intro before plan after eq finding fault
  have mem : plan ∈ blueprint.plans := eq ▸ List.mem_append_right before List.mem_cons_self
  cases fault with
  | negative transport given negative =>
    obtain ⟨number, given', nonnegative⟩ := valid.descriptors plan mem transport
    cases given.symm.trans given'
    exact Int.not_le.mpr negative nonnegative
  | noDescriptor transport none =>
    obtain ⟨number, given, -⟩ := valid.descriptors plan mem transport
    cases none.symm.trans given
  | noTarget transport none =>
    obtain ⟨target, given⟩ := valid.targets plan mem transport
    cases none.symm.trans given

lemma not_faulty (valid : blueprint.Valid) (finding : Finding) : ¬blueprint.Faulty finding := by
  intro faulty
  cases faulty with
  | capacity beyond => exact beyond valid.capacity
  | name _ first => exact first.not_absent valid.not_misnamed
  | argument _ _ first => exact first.not_absent valid.not_unsupplied

/-- It does not matter in which order the plans stand. -/
lemma perm {plans : List Plan} (valid : blueprint.Valid) (perm : plans.Perm blueprint.plans) :
    ({ blueprint with plans } : Blueprint).Valid where
  capacity := valid.capacity
  named plan mem := valid.named plan (perm.mem_iff.mp mem)
  distinct := (perm.pairwise_iff Ne.symm).mpr valid.distinct
  unreserved seeded plan mem := valid.unreserved seeded plan (perm.mem_iff.mp mem)
  descriptors plan mem := valid.descriptors plan (perm.mem_iff.mp mem)
  targets plan mem := valid.targets plan (perm.mem_iff.mp mem)

end Valid

lemma check_ok_iff : blueprint.check = .ok () ↔ blueprint.Valid := by
  constructor
  · exact fun ok => (acceptable_of_check ok).valid
  · intro valid
    rcases blueprint.check_cases with ⟨ok, -⟩ | ⟨finding, -, faulty⟩
    · exact ok
    · exact absurd faulty (valid.not_faulty finding)

lemma check_error_iff {error : CheckError} :
    blueprint.check = .error error ↔ ∃ finding, blueprint.Faulty finding ∧ finding.error = error := by
  rcases blueprint.check_cases with ⟨ok, sound⟩ | ⟨finding, failed, faulty⟩
  · constructor
    · intro failed
      cases ok.symm.trans failed
    · rintro ⟨finding, faulty, -⟩
      exact absurd faulty (sound finding)
  · constructor
    · intro failed'
      cases failed.symm.trans failed'
      exact ⟨finding, faulty, rfl⟩
    · rintro ⟨finding', faulty', rfl⟩
      rw [failed, faulty.unique faulty']

end Blueprint

/-- Plans that differ at most in whether they are enabled, and in what their writers do not want. -/
structure Plan.Agrees (plan other : Plan) : Prop where
  name : plan.name = other.name
  transport : plan.transport = other.transport
  argument : plan.argument = other.argument

/-- An option can be told from its value, if nothing stands for a value that it cannot have. -/
lemma getD_map_inj {α β : Type} {f : α → β} {default : β} (inj : ∀ {a b}, f a = f b → a = b)
    (ne : ∀ a, f a ≠ default) {x y : Option α}
    (eq : (x.map f).getD default = (y.map f).getD default) : x = y := by
  cases x with
  | none =>
    cases y with
    | none => rfl
    | some b => exact absurd eq.symm (ne b)
  | some a =>
    cases y with
    | none => exact absurd eq (ne a)
    | some b => exact congrArg some (inj eq)

lemma Plan.Agrees.checkArgument {plan other : Plan} (agrees : plan.Agrees other) :
    plan.checkArgument = other.checkArgument := by
  obtain ⟨name, transport, argument⟩ := agrees
  rw [Plan.argument, Plan.argument, ← transport] at argument
  rw [Plan.checkArgument, Plan.checkArgument, ← name, ← transport]
  cases kind : plan.transport with
  | descriptor =>
    rw [kind] at argument
    rw [getD_map_inj Argument.descriptor.inj (fun _ eq => by cases eq) argument]
  | socket =>
    rw [kind] at argument
    rw [getD_map_inj Argument.socket.inj (fun _ eq => by cases eq) argument]

namespace Blueprint

variable {blueprint : Blueprint} {plans others : List Plan}

lemma checkNames_agrees (seeded : Bool) (index : Nat) (seen : List String)
    (agree : List.Forall₂ Plan.Agrees plans others) :
    checkNames seeded index seen plans = checkNames seeded index seen others := by
  induction agree generalizing index seen with
  | nil => rfl
  | cons agrees _ ih => rw [checkNames, checkNames, agrees.name, ih]

lemma checkArguments_agrees (agree : List.Forall₂ Plan.Agrees plans others) :
    checkArguments plans = checkArguments others := by
  induction agree with
  | nil => rfl
  | @cons plan other plans others agrees _ ih =>
    show (plan.checkArgument >>= fun _ => checkArguments plans) =
      (other.checkArgument >>= fun _ => checkArguments others)
    rw [agrees.checkArgument, ih]

/-- A blueprint passes its check exactly if it is valid, and otherwise its first fault is reported,
with its place and its reason. Whether it passes does not depend on the order of its plans, and what
is reported does not depend on what their writers do not want, or on which of them are enabled. -/
theorem check_reports (blueprint : Blueprint) :
    (blueprint.check = .ok () ↔ blueprint.Valid) ∧
    (∀ error, blueprint.check = .error error ↔ ∃ finding, blueprint.Faulty finding ∧
      finding.error = error ∧
      error.message = "config validation error at '" ++ finding.place ++ "': " ++ finding.reason) ∧
    (∀ plans, plans.Perm blueprint.plans →
      (({ blueprint with plans } : Blueprint).check = .ok () ↔ blueprint.check = .ok ())) ∧
    (∀ plans, List.Forall₂ Plan.Agrees plans blueprint.plans →
      ({ blueprint with plans } : Blueprint).check = blueprint.check) := by
  refine ⟨check_ok_iff, fun error => ⟨fun failed => ?_, ?_⟩, fun plans perm => ?_,
    fun plans agree => ?_⟩
  · obtain ⟨finding, faulty, rfl⟩ := check_error_iff.mp failed
    exact ⟨finding, faulty, rfl, faulty.message⟩
  · rintro ⟨finding, faulty, eq, -⟩
    exact check_error_iff.mpr ⟨finding, faulty, eq⟩
  · rw [check_ok_iff, check_ok_iff]
    exact ⟨fun valid => valid.perm perm.symm, fun valid => valid.perm perm⟩
  · rw [check, check, checkNames_agrees _ _ _ agree, checkArguments_agrees agree]

-- A name at fault is reported before an argument that is missing further in front.
example :
    check ⟨.v1, ⟨64, true⟩, [⟨"log", .socket, true, none, none⟩,
      ⟨"std", .descriptor, false, some 1, none⟩]⟩ = .error (.reservedName "std") :=
  rfl

end Blueprint

end LogFanout
