import LogFanout.Proofs.Registry.Delivery
import LogFanout.Proofs.Registry.Lifecycle

/-!
# Accounts of registries

Every fan-out delivers its line, and at the end of every history the counters of an endpoint are the
tally of the calls that were made on behalf of its name since it was added (`run_accounts`). They
are kept when the endpoint is closed and opened again, and begin at zero when it is added again.
-/

namespace LogFanout
namespace Registry

variable {ω σ : Type} {name : String}

/-- The lines that went out to a name while it was registered and enabled, those that writers sent
out included. -/
def Registration.lines (name : String) (registration : Registration ω) : List Bytes :=
  registration.steps.flatMap fun step => if name ∈ step.enabled then step.lines else []

/-- The lines of a registration that goes on for one more step. -/
@[simp] lemma Registration.lines_append (writer : ω) (steps : List (Step ω)) (step : Step ω) :
    Registration.lines name ⟨writer, steps ++ [step]⟩ =
      Registration.lines name ⟨writer, steps⟩ ++ if name ∈ step.enabled then step.lines else [] := by
  simp [lines]

@[simp] lemma Registration.lines_singleton (writer : ω) (step : Step ω) :
    Registration.lines name ⟨writer, [step]⟩ = if name ∈ step.enabled then step.lines else [] := by
  simp [lines]

lemma closing_writeless (name : String) (endpoint : Endpoint ω) :
    Writeless (closing name endpoint) := by
  intro call mem line outcome sent eq
  rw [eq_of_mem_closing mem] at eq
  cases eq

lemma Makes.writeless {r r' : Registry ω} {change : Change ω} {status : Status}
    {calls : List (Call ω)} (makes : r.Makes change status calls r') : Writeless calls := by
  induction makes with
  | refused _ => exact List.forall_mem_nil _
  | added _ _ => exact List.forall_mem_nil _
  | passed _ => exact List.forall_mem_nil _
  | removed _ => exact closing_writeless _ _
  | initFailed _ _ => exact List.forall_mem_singleton.mpr fun _ _ _ eq => by cases eq
  | opened _ _ => exact List.forall_mem_singleton.mpr fun _ _ _ eq => by cases eq
  | closed _ => exact closing_writeless _ _
  | enabling _ ih => exact ih
  | disabling _ ih => exact ih

/-- A change counts nothing. -/
lemma Makes.page {r r' : Registry ω} {change : Change ω} {status : Status}
    {calls : List (Call ω)} (makes : r.Makes change status calls r') (number : Nat) :
    r'.ledger.page number = r.ledger.page number := by
  induction makes with
  | added _ _ => exact Ledger.page_extend ..
  | enabling _ ih => exact ih
  | disabling _ ih => exact ih
  | _ => rfl

/-- A new endpoint begins at zero. -/
lemma Makes.page_added {r r' : Registry ω} {change : Change ω} {status : Status}
    {calls : List (Call ω)} (makes : r.Makes change status calls r') {endpoint : Endpoint ω}
    (free : r.endpoints.find? name = none) (found : r'.endpoints.find? name = some endpoint) :
    r'.ledger.page endpoint.page = .zero := by
  have kept : ∀ {other : String} {endpoint' endpoint'' : Endpoint ω},
      r.endpoints.find? other = some endpoint' →
      (r.endpoints.insert other endpoint'').find? name = some endpoint → False := by
    intro other endpoint' endpoint'' registered found
    rw [Table.find?_insert, free] at found
    split at found
    · rename_i eq
      cases free.symm.trans (eq ▸ registered)
    · cases found
  induction makes with
  | refused _ => cases free.symm.trans found
  | added _ _ =>
    rw [Table.find?_insert, free] at found
    split at found
    · cases found
      exact (Ledger.page_extend ..).trans (Ledger.page_next _)
    · cases found
  | passed _ => cases free.symm.trans found
  | removed _ =>
    rw [Table.find?_erase, free] at found
    split at found <;> cases found
  | initFailed _ _ => cases free.symm.trans found
  | opened registered _ => exact (kept registered found).elim
  | closed registered => exact (kept registered found).elim
  | enabling _ ih => exact ih found
  | disabling _ ih => exact ih found

/-- A step counts nothing, or it is a fan-out. -/
lemma Takes.counts {r r' : Registry ω} {step : Step ω} (takes : r.Takes step r') :
    Writeless step.calls ∧ step.lines = [] ∧
        (∀ number, r'.ledger.page number = r.ledger.page number) ∨
      ∃ line count, step.enabled = r.enabledNames ∧
        step.lines = line :: step.calls.filterMap Call.sent ∧
        Fanned r.routes.entries line r.routes.entries r.ledger count step.calls r'.ledger := by
  cases takes with
  | changed makes => exact .inl ⟨makes.writeless, rfl, makes.page⟩
  | fannedOut fanned => exact .inr ⟨_, _, rfl, rfl, fanned⟩
  | cleared _ =>
    refine .inl ⟨fun call mem => ?_, rfl, fun _ => rfl⟩
    obtain ⟨entry, -, mem⟩ := List.mem_flatMap.mp mem
    exact closing_writeless entry.1 entry.2 call mem

/-- The calls on behalf of a name make no write if no call does. -/
lemma Step.callsOf_writeless {step : Step ω} (writeless : Writeless step.calls) (name : String) :
    Writeless (step.callsOf name) :=
  fun call mem => writeless call (List.mem_of_mem_filter mem)

/-- On the page of an endpoint the calls of a step on behalf of its name are counted. -/
lemma Takes.page {r r' : Registry ω} {step : Step ω} (sound : r.Sound) (takes : r.Takes step r')
    {endpoint : Endpoint ω} (found : r.endpoints.find? name = some endpoint) :
    r'.ledger.page endpoint.page =
      (r.ledger.page endpoint.page).add (tally (step.callsOf name)) := by
  rcases takes.counts with ⟨writeless, -, pages⟩ | ⟨line, count, -, -, fanned⟩
  · rw [pages, (Step.callsOf_writeless writeless name).count.2.2, Counters.add_zero]
  · refine fanned.page (List.Subset.refl _) (fun entry mem => ?_) (fun entry mem => ?_)
    · obtain ⟨_, registered, -, eq⟩ :=
        sound.find?_routes_iff.mp (Table.mem_entries_iff.mp mem)
      exact eq ▸ sound.begun registered
    · obtain ⟨_, registered, -, eq⟩ :=
        sound.find?_routes_iff.mp (Table.mem_entries_iff.mp mem)
      rw [← eq]
      constructor
      · exact sound.paged registered found
      · rintro rfl
        cases registered.symm.trans found
        rfl

/-- The writes on behalf of a name in a step are as many as the lines that go out to it. -/
lemma Takes.lines {r r' : Registry ω} {step : Step ω} (takes : r.Takes step r') (name : String) :
    (step.callsOf name).countP Call.succeeded + (step.callsOf name).countP Call.failed =
      (if name ∈ step.enabled then step.lines else []).length := by
  rcases takes.counts with ⟨writeless, lines, -⟩ | ⟨line, count, enabled, lines, fanned⟩
  · obtain ⟨succeeded, failed, -⟩ := (Step.callsOf_writeless writeless name).count
    rw [succeeded, failed, lines, ite_self]
    rfl
  · have listed : name ∈ r.enabledNames ↔ r.isEnabled name = true :=
      Table.mem_names_iff.trans Table.contains_iff.symm
    rw [Step.callsOf, fanned.countP_outcomes (List.Subset.refl _), fanned.once, enabled, lines]
    simp only [listed]
    split
    · rw [List.length_cons, List.length_filterMap_eq_countP]
      rfl
    · rfl

/-- The accounts of a name: the counters on the page of its endpoint are the tally of the calls
since it was added, and there are as many writes as lines. -/
def Accounts (name : String) (registrations : Registrations ω) (r : Registry ω) : Prop :=
  ∀ registration endpoint, registrations.current = some registration →
    r.endpoints.find? name = some endpoint →
    r.ledger.page endpoint.page = tally (registration.calls name) ∧
      (registration.calls name).countP Call.succeeded +
        (registration.calls name).countP Call.failed = (registration.lines name).length

lemma Phase.page {endpoint endpoint' : Endpoint ω} {calls : List (Call ω)}
    (phase : Phase name endpoint calls endpoint') : endpoint'.page = endpoint.page := by
  cases phase <;> rfl

lemma Takes.page_added {r r' : Registry ω} {step : Step ω} (takes : r.Takes step r')
    {endpoint : Endpoint ω} (free : r.endpoints.find? name = none)
    (found : r'.endpoints.find? name = some endpoint) :
    r'.ledger.page endpoint.page = .zero := by
  cases takes with
  | changed makes => exact makes.page_added free found
  | fannedOut _ => cases free.symm.trans found
  | cleared _ => cases found

lemma Takes.accounts {r r' : Registry ω} {step : Step ω} {registrations : Registrations ω}
    (sound : r.Sound) (takes : r.Takes step r') (accounts : Accounts name registrations r) :
    Accounts name (registrations.record name step) r' := by
  intro registration endpoint current found
  have serves := takes.serves sound name
  have lines := takes.lines name
  -- Either the step begins the registration, or it goes on with one that has its accounts.
  cases before : r.endpoints.find? name with
  | none =>
    rw [before, found] at serves
    cases serves with
    | added adds calls =>
      rw [Registrations.current_record_added adds] at current
      cases current
      rw [Registration.calls_singleton, Registration.lines_singleton, ← lines, calls]
      exact ⟨takes.page_added before found, rfl⟩
  | some endpoint' =>
    rw [before, found] at serves
    cases serves with
    | kept adds ends calls phase =>
      rw [Registrations.current_record adds ends] at current
      obtain ⟨⟨writer, steps⟩, earlier, rfl⟩ := Option.map_eq_some_iff.mp current
      obtain ⟨page, written⟩ := accounts _ endpoint' earlier before
      rw [Registration.calls_append, Registration.lines_append]
      constructor
      · rw [phase.page, takes.page sound before, page, tally_append]
      · rw [List.countP_append, List.countP_append, Nat.add_add_add_comm, List.length_append]
        exact congrArg₂ (· + ·) written lines

/-- In all registries that transitions lead to, the accounts of every name are right. -/
lemma Reaches.accounts {steps : List (Step ω)} {r : Registry ω} (reaches : Reaches steps r)
    (name : String) : Accounts name (registrations name steps) r := by
  induction reaches with
  | start =>
    intro registration endpoint current
    cases current
  | step before takes ih =>
    rw [registrations_append]
    exact takes.accounts before.sound ih

/-- The counters that are listed are those on the pages of the endpoints. -/
lemma lookup_counters (r : Registry ω) (name : String) :
    r.counters.lookup name =
      (r.endpoints.find? name).map fun endpoint => r.ledger.page endpoint.page := by
  have listed : r.counters =
      (r.endpoints.map fun endpoint => r.ledger.page endpoint.page).entries := by
    rw [counters, views, List.map_map]
    rfl
  rw [listed]
  exact Table.find?_map _ r.endpoints name

/-- The calls of a step on behalf of a name are counted on the counters that were there before, or
on zero if there were none. -/
lemma Takes.counters {r r' : Registry ω} {step : Step ω} (sound : r.Sound)
    (takes : r.Takes step r') {after : Counters} (found : r'.counters.lookup name = some after) :
    after = ((r.counters.lookup name).getD .zero).add (tally (step.callsOf name)) := by
  rw [lookup_counters] at found
  obtain ⟨endpoint, listed, rfl⟩ := Option.map_eq_some_iff.mp found
  have serves := takes.serves sound name
  rw [lookup_counters]
  cases before : r.endpoints.find? name with
  | none =>
    rw [before, listed] at serves
    cases serves with
    | added adds calls =>
      rw [takes.page_added before listed, calls]
      rfl
  | some endpoint' =>
    rw [before, listed] at serves
    cases serves with
    | kept adds ends calls phase =>
      rw [phase.page, takes.page sound before, Option.map_some, Option.getD_some]

end Registry
end LogFanout
