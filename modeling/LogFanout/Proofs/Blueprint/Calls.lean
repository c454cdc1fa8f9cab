import LogFanout.Proofs.Blueprint.Refusal

/-!
# The calls of a build

The calls that are made on writers while plans are enrolled tell which endpoints are tried
(`Enrolled.tried`) and which are opened (`Enrolled.mem_opened_iff`). Clearing the registry closes the
latter again, each of them once (`Registry.closing_perm_undoing`).
-/

namespace LogFanout

variable {ω σ : Type}

/-- The endpoint that a call tries to open, and the argument. -/
def Call.tried? (call : Call ω) : Option (String × Argument) :=
  match call.action with
  | .init argument _ => some (call.endpoint, argument)
  | _ => none

/-- The endpoint that a call opens, and its writer. -/
def Call.opened? (call : Call ω) : Option (String × ω) :=
  match call.action with
  | .init _ (.ok ()) => some (call.endpoint, call.writer)
  | _ => none

/-- The call that closes what was opened. -/
def Call.undoing (opened : String × ω) : Call ω :=
  ⟨opened.1, opened.2, .destroy⟩

namespace Enrolled

variable {w : Writers ω σ} {start : σ} {plans : List Plan} {r : Registry ω} {s : σ}
  {calls : List (Call ω)}

/-- Enrolling tries to open the writers of the plans that start enabled, and of no other ones. -/
lemma tried (enrolled : Enrolled w start plans r s calls) :
    calls.filterMap Call.tried? =
      (plans.filter Plan.enabled).map fun plan => (plan.name, plan.argument) := by
  induction enrolled with
  | none => rfl
  | @more plans r s calls plan _ _ _ ih =>
    rw [List.filterMap_append, ih, List.filter_append, List.map_append, Plan.openingCalls]
    cases on : plan.enabled with
    | true => simp [on, Call.tried?]
    | false => simp [on]

/-- Enrolling makes no other calls. -/
lemma isSome_tried (enrolled : Enrolled w start plans r s calls) :
    ∀ call ∈ calls, call.tried?.isSome := by
  induction enrolled with
  | none =>
    intro call mem
    cases mem
  | more _ _ _ ih =>
    intro call mem
    rcases List.mem_append.mp mem with mem | mem
    · exact ih call mem
    · rw [Plan.eq_of_mem_openingCalls mem]
      rfl

end Enrolled

/-- The calls of one plan open its endpoint exactly if it starts. -/
lemma Plan.opened_openingCalls (w : Writers ω σ) (plan : Plan) (s : σ) :
    (plan.openingCalls w s).filterMap Call.opened? =
      if plan.starts w s then [(plan.name, (w.create plan.transport s).1)] else [] := by
  rw [openingCalls, starts]
  cases plan.enabled with
  | false => rfl
  | true => rcases (plan.opening w s).1 with why | ⟨⟨⟩⟩ <;> rfl

namespace Enrolled

variable {w : Writers ω σ} {start : σ} {plans : List Plan} {r : Registry ω} {s : σ}
  {calls : List (Call ω)}

/-- The endpoints that were opened are those that are enabled. -/
lemma mem_opened_iff (enrolled : Enrolled w start plans r s calls) {name : String} {writer : ω} :
    (name, writer) ∈ calls.filterMap Call.opened? ↔
      ∃ endpoint, r.endpoints.find? name = some endpoint ∧ endpoint.enabled = true ∧
        endpoint.writer = writer := by
  induction enrolled with
  | none =>
    constructor
    · intro mem
      cases mem
    · rintro ⟨endpoint, found, -⟩
      cases found
  | @more plans r s calls plan _ _ free ih =>
    rw [List.filterMap_append, List.mem_append, ih, Plan.opened_openingCalls, Registry.enrol,
      Table.find?_insert]
    by_cases own : name = plan.name
    · subst own
      rw [free, if_pos rfl, Plan.endpoint]
      cases plan.starts w s with
      | true =>
        simp only [if_true, List.mem_singleton, Prod.mk.injEq, true_and, Endpoint.opened,
          Endpoint.fresh, Option.some.injEq, exists_eq_left', reduceCtorEq, false_and,
          exists_false, false_or]
        exact eq_comm
      | false => simp [Endpoint.fresh]
    · rw [if_neg own]
      cases plan.starts w s <;> simp [own]

/-- No endpoint is opened twice. -/
lemma nodup_opened (enrolled : Enrolled w start plans r s calls) :
    (calls.filterMap Call.opened?).Nodup := by
  induction enrolled with
  | none => exact .nil
  | @more plans r s calls plan enrolled _ free ih =>
    rw [List.filterMap_append, Plan.opened_openingCalls]
    apply List.Nodup.append ih
    · split <;> simp
    · rintro ⟨name, writer⟩ before now
      obtain ⟨endpoint, found, -⟩ := enrolled.mem_opened_iff.mp before
      split at now
      · cases List.mem_singleton.mp now
        cases free.symm.trans found
      · cases now

end Enrolled

namespace Registry

/-- Clearing a registry closes the endpoints that are enabled. -/
lemma flatMap_closing (entries : List (String × Endpoint ω)) :
    (entries.flatMap fun entry => closing entry.1 entry.2) =
      ((entries.filter fun entry => entry.2.enabled).map fun entry =>
        (entry.1, entry.2.writer)).map Call.undoing := by
  induction entries with
  | nil => rfl
  | cons entry entries ih =>
    rw [List.flatMap_cons, ih, closing]
    cases on : entry.2.enabled <;> simp [on, Call.undoing]

/-- Clearing a registry closes what was opened to set up its endpoints, each once. -/
lemma closing_perm_undoing {w : Writers ω σ} {start : σ} {plans : List Plan} {r : Registry ω}
    {s : σ} {calls : List (Call ω)} (enrolled : Enrolled w start plans r s calls) :
    (r.endpoints.entries.flatMap fun entry => closing entry.1 entry.2).Perm
      ((calls.filterMap Call.opened?).map Call.undoing) := by
  rw [flatMap_closing]
  apply List.Perm.map
  have names : ((r.endpoints.entries.filter fun entry => entry.2.enabled).map
      fun entry => (entry.1, entry.2.writer)).Nodup := by
    apply List.Nodup.of_map Prod.fst
    rw [List.map_map]
    exact r.endpoints.names_nodup.sublist (List.filter_sublist.map Prod.fst)
  -- Neither list has anything twice, so it is enough that they have the same members.
  refine (List.perm_ext_iff_of_nodup names enrolled.nodup_opened).mpr fun (name, writer) => ?_
  rw [enrolled.mem_opened_iff, List.mem_map]
  constructor
  · rintro ⟨⟨other, endpoint⟩, mem, eq⟩
    cases eq
    obtain ⟨listed, on⟩ := List.mem_filter.mp mem
    exact ⟨endpoint, Table.mem_entries_iff.mp listed, on, rfl⟩
  · rintro ⟨endpoint, found, on, rfl⟩
    exact ⟨_, List.mem_filter.mpr ⟨Table.mem_entries_iff.mpr found, on⟩, rfl⟩

end Registry

end LogFanout
