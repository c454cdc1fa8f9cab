import LogFanout.Proofs.Registry.Registration
import LogFanout.Proofs.Registry.Trace
import LogFanout.Proofs.Writer.Lifecycle

/-!
# The lifecycle of writers

Whatever is done with a registry and whatever the writers answer, the calls on behalf of one
registration are those of a writer that is opened, written to and closed in turn: the words of
`Lifecycle.closed` while the endpoint is disabled and those of `Lifecycle.opened` while it is
enabled. No call is made outside the registrations of a name.
-/

namespace LogFanout
namespace Registry

variable {ω σ : Type} {name : String}

/-- What happens to the writer of a registration. -/
def Registration.strokes (name : String) (registration : Registration ω) : List Stroke :=
  (registration.calls name).map fun call => call.action.stroke

/-- All calls of a registration are made on its writer. -/
def Registration.Own (name : String) (registration : Registration ω) : Prop :=
  ∀ call ∈ registration.calls name, call.writer = registration.writer

/-- The current registration of a name and its endpoint agree. -/
inductive Fits (name : String) : Option (Registration ω) → Option (Endpoint ω) → Prop where
  | absent : Fits name none none
  | present {registration endpoint} :
    registration.writer = endpoint.writer →
    registration.Own name →
    registration.strokes name ∈
      (if endpoint.enabled then Lifecycle.opened else Lifecycle.closed) →
    Fits name (some registration) (some endpoint)

/-- Only endpoints that are registered have a current registration. -/
lemma Fits.isSome_eq {registration : Option (Registration ω)} {endpoint : Option (Endpoint ω)}
    (fits : Fits name registration endpoint) : registration.isSome = endpoint.isSome := by
  cases fits <;> rfl

/-- What the current registration says of the endpoint. -/
lemma Fits.inv {registration : Registration ω} {endpoint : Option (Endpoint ω)}
    (fits : Fits name (some registration) endpoint) :
    ∃ endpoint', endpoint = some endpoint' ∧ registration.writer = endpoint'.writer ∧
      registration.Own name ∧ registration.strokes name ∈
        (if endpoint'.enabled then Lifecycle.opened else Lifecycle.closed) := by
  cases fits with
  | present same own word => exact ⟨_, rfl, same, own, word⟩

/-- The calls on behalf of a name keep to the lifecycle of writers up to an endpoint. -/
structure Follows (name : String) (registrations : Registrations ω)
    (endpoint : Option (Endpoint ω)) : Prop where
  outside : ∀ step ∈ registrations.outside, step.callsOf name = []
  ended : ∀ registration ∈ registrations.ended,
    registration.Own name ∧ registration.strokes name ∈ Lifecycle.closed
  current : Fits name registrations.current endpoint

/-- Closing an endpoint ends what its writer was opened for. -/
lemma append_closing {endpoint : Endpoint ω} {word : List Stroke}
    (mem : word ∈ (if endpoint.enabled then Lifecycle.opened else Lifecycle.closed)) :
    word ++ (closing name endpoint).map (fun call => call.action.stroke) ∈ Lifecycle.closed := by
  rw [closing]
  split
  · rename_i on
    rw [if_pos on] at mem
    exact Lifecycle.append_destroy mem
  · rename_i off
    rw [if_neg off] at mem
    exact (List.append_nil word).symm ▸ mem

/-- A phase of an endpoint goes on with the lifecycle of its writer. -/
lemma Phase.strokes {endpoint endpoint' : Endpoint ω} {calls : List (Call ω)} {word : List Stroke}
    (phase : Phase name endpoint calls endpoint')
    (mem : word ∈ (if endpoint.enabled then Lifecycle.opened else Lifecycle.closed)) :
    word ++ calls.map (fun call => call.action.stroke) ∈
      (if endpoint'.enabled then Lifecycle.opened else Lifecycle.closed) := by
  cases phase with
  | idle => exact (List.append_nil word).symm ▸ mem
  | initFailed off =>
    rw [off] at mem ⊢
    exact Lifecycle.append_initFailed mem
  | opened off =>
    rw [off] at mem
    exact Lifecycle.append_initOk mem
  | closed => exact append_closing mem
  | written on writes =>
    have letters : calls.map (fun call => call.action.stroke) =
        List.replicate calls.length .write := by
      refine List.eq_replicate_iff.mpr ⟨List.length_map _, fun letter mem => ?_⟩
      obtain ⟨call, listed, rfl⟩ := List.mem_map.mp mem
      obtain ⟨line, outcome, sent, rfl⟩ := writes call listed
      rfl
    rw [on] at mem ⊢
    exact letters ▸ Lifecycle.append_writes mem _

/-- A phase of an endpoint keeps its writer, and calls no other. -/
lemma Phase.own {endpoint endpoint' : Endpoint ω} {calls : List (Call ω)}
    (phase : Phase name endpoint calls endpoint') :
    endpoint'.writer = endpoint.writer ∧ ∀ call ∈ calls, call.writer = endpoint.writer := by
  cases phase with
  | idle => exact ⟨rfl, fun call mem => by cases mem⟩
  | initFailed _ => exact ⟨rfl, fun call mem => by rw [List.mem_singleton.mp mem]⟩
  | opened _ => exact ⟨rfl, fun call mem => by rw [List.mem_singleton.mp mem]⟩
  | closed => exact ⟨rfl, fun call mem => by rw [eq_of_mem_closing mem]⟩
  | written _ writes =>
    refine ⟨rfl, fun call mem => ?_⟩
    obtain ⟨line, outcome, sent, rfl⟩ := writes call mem
    rfl

/-- A registration goes on for one more step in which its endpoint passes to the next phase. -/
lemma Fits.phase {writer : ω} {steps : List (Step ω)} {step : Step ω}
    {endpoint endpoint' : Endpoint ω} (fits : Fits name (some ⟨writer, steps⟩) (some endpoint))
    (phase : Phase name endpoint (step.callsOf name) endpoint') :
    Fits name (some ⟨writer, steps ++ [step]⟩) (some endpoint') := by
  cases fits with
  | present same own word =>
    obtain ⟨writer', calls⟩ := phase.own
    refine .present (same.trans writer'.symm) (fun call mem => ?_) ?_
    · rw [Registration.calls_append] at mem
      rcases List.mem_append.mp mem with mem | mem
      · exact own call mem
      · exact (calls call mem).trans same.symm
    · rw [Registration.strokes, Registration.calls_append, List.map_append]
      exact phase.strokes word

/-- Each step that serves a name keeps to the lifecycle of its writers. -/
lemma Serves.follows {registrations : Registrations ω} {step : Step ω}
    {before after : Option (Endpoint ω)} (serves : Serves name step before after)
    (follows : Follows name registrations before) :
    Follows name (registrations.record name step) after := by
  obtain ⟨ended, current, outside⟩ := registrations
  obtain ⟨outsideCalls, endedWords, fits⟩ := follows
  cases serves with
  | absent adds calls =>
    cases fits
    simp only [Registrations.record, adds]
    refine ⟨fun other mem => ?_, endedWords, .absent⟩
    rcases List.mem_append.mp mem with mem | mem
    · exact outsideCalls other mem
    · exact List.mem_singleton.mp mem ▸ calls
  | added adds calls =>
    cases fits
    simp only [Registrations.record, adds, Option.toList_none, List.append_nil]
    refine ⟨outsideCalls, endedWords, .present rfl (fun call mem => ?_) ?_⟩
    · rw [Registration.calls_singleton, calls] at mem
      cases mem
    · rw [Registration.strokes, Registration.calls_singleton, calls]
      exact Lifecycle.nil_mem_closed
  | ended adds ends calls =>
    obtain _ | ⟨writer, steps⟩ := current
    · cases fits
    -- An endpoint is closed before it goes, so its registration ends as after a disable.
    have closed : Fits name (some ⟨writer, steps ++ [step]⟩) (some _) :=
      fits.phase (calls.symm ▸ Phase.closed)
    simp only [Registrations.record, adds, ends, if_true]
    refine ⟨outsideCalls, fun registration mem => ?_, .absent⟩
    rcases List.mem_append.mp mem with mem | mem
    · exact endedWords registration mem
    · cases closed with
      | present _ own word => exact List.mem_singleton.mp mem ▸ ⟨own, word⟩
  | kept adds ends calls phase =>
    obtain _ | ⟨writer, steps⟩ := current
    · cases fits
    simp only [Registrations.record, adds, ends]
    exact ⟨outsideCalls, endedWords, fits.phase (calls ▸ phase)⟩

/-- What can be said of the calls on behalf of a name in the steps that lead to a registry. -/
structure Bracketed (name : String) (steps : List (Step ω)) (r : Registry ω) : Prop where
  /-- While the name is not registered, no call is made on its behalf. -/
  outside : ∀ step ∈ (registrations name steps).outside, step.callsOf name = []
  /-- While it is registered, only the writer is called that was added. -/
  own : ∀ registration, registration ∈ (registrations name steps).ended ∨
    (registrations name steps).current = some registration →
    ∀ call ∈ registration.calls name, call.writer = registration.writer
  /-- When the registration ends, the writer is closed, as often as it was opened. -/
  ended : ∀ registration ∈ (registrations name steps).ended,
    registration.strokes name ∈ Lifecycle.closed ∧
      (registration.strokes name).count .initOk = (registration.strokes name).count .destroy
  /-- There is a current registration exactly if the registry contains the name. -/
  current : (registrations name steps).current.isSome = r.contains name
  /-- Its writer is open exactly if lines go out to the name. -/
  opened : ∀ registration, (registrations name steps).current = some registration →
    (registration.strokes name ∈ Lifecycle.opened ↔ r.isEnabled name = true)
  /-- Its writer is closed exactly if they do not. -/
  closed : ∀ registration, (registrations name steps).current = some registration →
    (registration.strokes name ∈ Lifecycle.closed ↔ r.isEnabled name = false)

/-- Calls that keep to the lifecycle up to the endpoint of a sound registry are bracketed. -/
lemma Follows.bracketed {steps : List (Step ω)} {r : Registry ω} (sound : r.Sound)
    (follows : Follows name (registrations name steps) (r.endpoints.find? name)) :
    Bracketed name steps r where
  outside := follows.outside
  own registration listed := by
    rcases listed with listed | current
    · exact (follows.ended registration listed).1
    · obtain ⟨-, -, -, own, -⟩ := (current ▸ follows.current).inv
      exact own
  ended registration listed := by
    have word := (follows.ended registration listed).2
    exact ⟨word, Lifecycle.count_closed word⟩
  current := follows.current.isSome_eq
  opened registration current := by
    obtain ⟨endpoint, found, -, -, word⟩ := (current ▸ follows.current).inv
    rw [sound.isEnabled_eq found]
    cases on : endpoint.enabled with
    | true => exact ⟨fun _ => rfl, fun _ => by simpa [on] using word⟩
    | false =>
      rw [on] at word
      exact ⟨fun open' => absurd word (Lifecycle.not_mem_closed open'), fun off => by cases off⟩
  closed registration current := by
    obtain ⟨endpoint, found, -, -, word⟩ := (current ▸ follows.current).inv
    rw [sound.isEnabled_eq found]
    cases on : endpoint.enabled with
    | true =>
      rw [on] at word
      exact ⟨fun closed => absurd closed (Lifecycle.not_mem_closed word), fun off => by cases off⟩
    | false => exact ⟨fun _ => rfl, fun _ => by simpa [on] using word⟩

/-- In all registries that transitions lead to, the calls of every name are bracketed. -/
lemma Reaches.bracketed {steps : List (Step ω)} {r : Registry ω} (reaches : Reaches steps r)
    (name : String) : Bracketed name steps r := by
  suffices follows : Follows name (registrations name steps) (r.endpoints.find? name) from
    follows.bracketed reaches.sound
  induction reaches with
  | start => exact ⟨List.forall_mem_nil _, List.forall_mem_nil _, .absent⟩
  | step before takes ih =>
    rw [registrations_append]
    exact (takes.serves before.sound name).follows ih

/-- If the registry does not contain a name, then all its registrations have ended. -/
lemma Bracketed.current_eq_none {steps : List (Step ω)} {r : Registry ω}
    (bracketed : Bracketed name steps r) (absent : r.contains name = false) :
    (registrations name steps).current = none :=
  Option.isNone_iff_eq_none.mp (Option.isSome_eq_false_iff.mp (bracketed.current.trans absent))

end Registry
end LogFanout
