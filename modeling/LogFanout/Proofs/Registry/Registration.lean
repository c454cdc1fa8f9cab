import LogFanout.Proofs.Registry.Service

/-!
# Registrations

The steps of a history are told apart for one name: a registration begins with the step that adds
the name and ends with the one that removes it or clears the registry; all other steps are outside.
At the end of a history a name is registered exactly if there is a current registration, which has
the writer of the endpoint (`Registrations.Fits`).
-/

namespace LogFanout
namespace Registry

variable {ω : Type} {name : String}

/-- The time for which a name is registered, from the step that adds it on. -/
structure Registration (ω : Type) where
  /-- The writer that was added. -/
  writer : ω
  steps : List (Step ω)

/-- The calls on behalf of a name while it is registered. -/
def Registration.calls (name : String) (registration : Registration ω) : List (Call ω) :=
  registration.steps.flatMap (Step.callsOf name)

/-- The steps of a history, told apart by the registrations of a name. -/
structure Registrations (ω : Type) where
  ended : List (Registration ω)
  current : Option (Registration ω)
  /-- The steps while the name was not registered. -/
  outside : List (Step ω)

/-- Puts the next step where it belongs. -/
def Registrations.record (name : String) (registrations : Registrations ω) (step : Step ω) :
    Registrations ω :=
  match step.adds? name, registrations.current with
  | some (writer, _), current =>
    { registrations with
      ended := registrations.ended ++ current.toList
      current := some ⟨writer, [step]⟩ }
  | none, none => { registrations with outside := registrations.outside ++ [step] }
  | none, some ⟨writer, steps⟩ =>
    if step.ends name then
      { registrations with
        ended := registrations.ended ++ [⟨writer, steps ++ [step]⟩]
        current := none }
    else { registrations with current := some ⟨writer, steps ++ [step]⟩ }

/-- The registrations of a name in a history. -/
def registrations (name : String) (steps : List (Step ω)) : Registrations ω :=
  steps.foldl (Registrations.record name) ⟨[], none, []⟩

/-- The last step is put where it belongs after all others were. -/
lemma registrations_append (name : String) (steps : List (Step ω)) (step : Step ω) :
    registrations name (steps ++ [step]) = (registrations name steps).record name step :=
  List.foldl_append

/-- The calls of a registration that goes on for one more step. -/
@[simp] lemma Registration.calls_append (writer : ω) (steps : List (Step ω)) (step : Step ω) :
    Registration.calls name ⟨writer, steps ++ [step]⟩ =
      Registration.calls name ⟨writer, steps⟩ ++ step.callsOf name := by
  simp [calls]

@[simp] lemma Registration.calls_singleton (writer : ω) (step : Step ω) :
    Registration.calls name ⟨writer, [step]⟩ = step.callsOf name := by
  simp [calls]

/-- A step that neither registers a name nor ends its registration belongs to the current one. -/
lemma Registrations.current_record {registrations : Registrations ω} {step : Step ω}
    (adds : step.adds? name = none) (ends : step.ends name = false) :
    (registrations.record name step).current =
      registrations.current.map fun registration =>
        ⟨registration.writer, registration.steps ++ [step]⟩ := by
  obtain ⟨ended, _ | ⟨writer, steps⟩, outside⟩ := registrations
  · simp only [record, adds, Option.map_none]
  · simp [record, adds, ends]

/-- A step that registers a name begins its current registration. -/
lemma Registrations.current_record_added {registrations : Registrations ω} {step : Step ω}
    {writer : ω} {ownership : Ownership} (adds : step.adds? name = some (writer, ownership)) :
    (registrations.record name step).current = some ⟨writer, [step]⟩ := by
  simp only [record, adds]

end Registry
end LogFanout
