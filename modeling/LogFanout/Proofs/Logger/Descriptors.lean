import LogFanout.Proofs.Logger.Printed
import LogFanout.Proofs.Registry.Consistency

/-!
# Lines on descriptors

What a descriptor has received in the end is known from the history: the lines that were printed, in
order, each once for every endpoint that was enabled with the descriptor at that moment
(`descriptors_receive`).
-/

namespace LogFanout

open World (builtins)

variable {ω ω' : Type}

@[simp] lemma Change.name_map (f : ω' → ω) (change : Change ω') :
    (change.map f).name = change.name := by
  cases change <;> rfl

@[simp] lemma Change.opens?_map (f : ω' → ω) (change : Change ω') (name : String) :
    (change.map f).opens? name = change.opens? name := by
  cases change with
  | setEnabled other argument on => cases on <;> rfl
  | _ => rfl

namespace Registry

/-- An endpoint that was opened on a descriptor, has a descriptor that could be duplicated. -/
lemma Moves.duplicated {host : Host} {r r' : Registry Nat} {world world' : World}
    {change : Change Nat} {name : String} {number : Int32}
    (moves : r.Moves host some world change (.ok ()) r' world')
    (opens : change.opens? name = some (.descriptor number)) :
    0 ≤ number.toInt ∧ host.duplicate world.surroundings.attempts number = .ok () := by
  generalize done : (.ok () : Status) = status at moves
  induction moves with
  | refused => cases done
  | tried _ _ => cases done
  | opened _ _ _ opened _ =>
    rw [Change.opens?] at opens
    split at opens
    · cases opens
      cases opened with
      | duplicated nonnegative duplicated _ => exact ⟨nonnegative, duplicated⟩
    · cases opens
  | openedOther _ other => cases other
  | enabling _ ih => exact ih opens done
  | _ => cases opens

end Registry

namespace Logger

/-- An enable with a descriptor that cannot be duplicated fails and changes no endpoint. -/
lemma change_unduplicated {host : Host} {start world : World} {logger : Logger Nat}
    (holds : logger.registry.Holds some start world) {change : Change Empty} {name : String}
    {number : Int32} (opens : change.opens? name = some (.descriptor number))
    (bad : number.toInt < 0 ∨
      (host.duplicate world.surroundings.attempts number).isOk = false) :
    let next := logger.perform (builtins host) (Operation.unaided (.change change)) world
    (∃ e, next.1 = .error e) ∧ next.2.1 = logger := by
  intro next
  have moves : logger.registry.Moves host some world (change.map Empty.elim) next.1
      next.2.1.registry next.2.2 := change_moves_builtins host holds change
  have opens : (change.map Empty.elim : Change Nat).opens? name = some (.descriptor number) :=
    (change.opens?_map Empty.elim name).trans opens
  cases status : next.1 with
  | ok done =>
    rw [status] at moves
    obtain ⟨nonnegative, duplicated⟩ := moves.duplicated opens
    rcases bad with negative | failed
    · exact absurd negative (Int.not_lt.mpr nonnegative)
    · rw [duplicated] at failed
      cases failed
  | error e =>
    rw [status] at moves
    exact ⟨⟨e, rfl⟩, congrArg (fun registry => { logger with registry }) moves.failed.1⟩

/-- Whatever is done with a logger that makes all of its writers itself: a descriptor that takes
bytes has in the end received the lines that were printed, in order, each once for every endpoint
that was enabled with the descriptor at that moment, and one that refuses bytes has received none.
From then on, as at any time, a line counts one failure for each endpoint on a descriptor that
refuses it; an enable with a descriptor that cannot be duplicated fails and leaves the endpoint as it
was; and what is done with one endpoint leaves all others and their writers as they are. -/
theorem descriptors_receive (host : Host) (capacity : Nat) (seeded : Bool) (start : World)
    (history : List (Operation Empty)) :
    let w := builtins host
    let built := build w capacity seeded start
    let prints := printed w (history.map .unaided) built.1 built.2
    let used := (run w (history.map .unaided) built.1 built.2).2
    let next := fun operation : Operation Empty => used.1.perform w operation.unaided used.2
    (∀ number, (host.append number).isOk = true →
      used.2.surroundings.content number = start.surroundings.content number ++
        prints.flatMap fun (line, r) =>
          (List.replicate (r.enabledWith (.descriptor number)) line).flatten) ∧
    (∀ number, (host.append number).isOk = false →
      used.2.surroundings.content number = start.surroundings.content number) ∧
    (∀ now message number, message.tag ≠ "" → (host.append number).isOk = false →
      ∀ view ∈ used.1.registry.views, view.argument = some (.descriptor number) →
        { view with counters := view.counters.refused } ∈
          (next (.print now message)).2.1.registry.views) ∧
    (∀ change name number, change.opens? name = some (.descriptor number) →
      (number.toInt < 0 ∨
        (host.duplicate used.2.surroundings.attempts number).isOk = false) →
      (∃ e, (next (.change change)).1 = .error e) ∧ (next (.change change)).2.1 = used.1) ∧
    (∀ change name endpoint, name ≠ change.name →
      used.1.registry.endpoints.find? name = some endpoint →
      (next (.change change)).2.1.registry.endpoints.find? name = some endpoint ∧
        (next (.change change)).2.2.writer endpoint.writer = used.2.writer endpoint.writer) := by
  intro w built prints used next
  have built_holds := build_holds_builtins host capacity seeded start
  have holds : used.1.registry.Holds some start used.2 :=
    run_holds_builtins host built_holds history
  refine ⟨fun number takes => ?_, fun number refuses => ?_,
    fun now message number tagged refuses view mem enabled => ?_,
    fun change name number opens bad => ?_, fun change name endpoint ne found => ?_⟩
  · have content := built_observed (Builtin.content_tracks host number) capacity seeded start history
    simp only [takes, if_true] at content
    exact content
  · exact built_unobserved (Builtin.content_tracks host number)
      (fun line => if_neg (Bool.eq_false_iff.mp refuses)) capacity seeded start history
  · have refused : host.takes (message.render used.1.capacity 0 now) (.descriptor number) = false :=
      refuses
    exact print_refused holds now tagged refused mem enabled
  · exact change_unduplicated holds opens bad
  · have moves := change_moves_builtins host holds change
    obtain ⟨same, writers⟩ := moves.elsewhere holds (change.name_map Empty.elim ▸ ne)
    exact ⟨same.trans found, writers endpoint endpoint.writer ⟨found, rfl⟩⟩

end Logger
end LogFanout
