import LogFanout.Proofs.Registry.Apart
import LogFanout.Proofs.Registry.Service

/-!
# The effect of steps

What becomes of an endpoint is told by the operation of a step, its status and the calls on behalf of
the name (`Takes.effect`). Steps that have these in common have the same effect, in whatever registry
they are taken.
-/

namespace LogFanout

variable {ω : Type}

/-- An endpoint after calls that were made on behalf of it. -/
def Endpoint.after (endpoint : Endpoint ω) : List (Call ω) → Endpoint ω
  | [⟨_, _, .init argument (.ok _)⟩] => endpoint.opened argument
  | [⟨_, _, .destroy⟩] => endpoint.closed
  | _ => endpoint

/-- The page of an endpoint does not matter for what calls make of it. -/
lemma Endpoint.unpaged_after (endpoint : Endpoint ω) (calls : List (Call ω)) :
    (endpoint.after calls).unpaged = endpoint.unpaged.after calls := by
  rcases calls with _ | ⟨⟨_, _, ⟨_, _ | _⟩ | _ | _⟩, _ | _⟩ <;> rfl

namespace Registry

variable {name : String}

/-- What a step makes of the endpoint of a name, apart from its page. -/
def Step.effect (name : String) (step : Step ω) : Option (Endpoint ω) → Option (Endpoint ω)
  | none => (step.adds? name).map fun (writer, ownership) => .fresh writer ownership 0
  | some endpoint =>
    if step.ends name then none else some (endpoint.after (step.callsOf name))

/-- The calls of a phase tell what becomes of the endpoint. -/
lemma Phase.after {endpoint endpoint' : Endpoint ω} {calls : List (Call ω)}
    (phase : Phase name endpoint calls endpoint')
    (idle : endpoint.enabled = false → endpoint.closed = endpoint) :
    endpoint' = endpoint.after calls := by
  cases phase with
  | idle => rfl
  | initFailed _ => rfl
  | opened _ => rfl
  | closed =>
    rw [closing]
    split
    · rfl
    · rename_i off
      exact idle (Bool.eq_false_iff.mpr off)
  | written _ writes =>
    rcases calls with _ | ⟨call, later⟩
    · rfl
    · obtain ⟨line, outcome, sent, rfl⟩ := writes call List.mem_cons_self
      cases later <;> rfl

/-- A step that serves a name has its effect on the endpoint. -/
lemma Serves.effect {step : Step ω} {before after : Option (Endpoint ω)}
    (serves : Serves name step before after)
    (idle : ∀ endpoint, before = some endpoint → endpoint.enabled = false →
      endpoint.closed = endpoint) :
    after.map Endpoint.unpaged = step.effect name (before.map Endpoint.unpaged) := by
  cases serves with
  | absent adds _ => rw [Option.map_none, Step.effect, adds, Option.map_none]
  | added adds _ =>
    rw [Option.map_none, Step.effect, adds]
    rfl
  | ended _ ends _ => rw [Option.map_some, Step.effect, if_pos ends, Option.map_none]
  | kept _ ends calls phase =>
    rw [Option.map_some, Option.map_some, Step.effect, ends, if_neg Bool.false_ne_true, calls,
      phase.after (idle _ rfl), Endpoint.unpaged_after]

/-- Every transition has its effect on every endpoint. -/
lemma Takes.effect {r r' : Registry ω} {step : Step ω} (sound : r.Sound) (takes : r.Takes step r')
    (name : String) :
    (r'.endpoints.find? name).map Endpoint.unpaged =
      step.effect name ((r.endpoints.find? name).map Endpoint.unpaged) :=
  (takes.serves sound name).effect fun _ found off => sound.closed_eq found off

end Registry
end LogFanout
