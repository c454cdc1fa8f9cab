import LogFanout.Proofs.Logger.Holding
import LogFanout.Proofs.Registry.Sending

/-!
# What a logger with built-in writers prints

A history prints the rendered lines of those of its messages that have a tag (`printed`). If all
writers are built-in ones, then these lines are all that is sent, each once for every endpoint that
is enabled at that moment (`run_observed`).
-/

namespace LogFanout

open World (builtins)

/-- A line has its newline at least. -/
lemma Message.render_ne_nil (message : Message) (capacity : Nat) (offset : Int) (now : Instant) :
    message.render capacity offset now ≠ [] :=
  List.append_ne_nil_of_right_ne_nil _ (List.cons_ne_nil _ _)

namespace Logger

variable {ω σ : Type}

/-- An operation that brings along no writers at all. -/
def Operation.unaided (operation : Operation Empty) : Operation Nat :=
  operation.map Empty.elim

/-- The line that an operation prints, if it does. -/
def Operation.line? (capacity : Nat) : Operation ω → Option Bytes
  | .print now message =>
    if message.tag = "" then none else some (message.render capacity 0 now)
  | _ => none

/-- The lines that a history prints, each with the registry at that moment. -/
def printed [DecidableEq ω] (w : Writers ω σ) :
    List (Operation ω) → Logger ω → σ → List (Bytes × Registry ω)
  | [], _, _ => []
  | operation :: history, logger, s =>
    let (_, logger', s') := logger.perform w operation s
    ((operation.line? logger.capacity).toList.map fun line => (line, logger.registry)) ++
      printed w history logger' s'

variable {host : Host} {start world : World} {logger : Logger Nat}

lemma perform_holds_builtins (host : Host) (holds : logger.registry.Holds some start world)
    (operation : Operation Empty) :
    (logger.perform (builtins host) operation.unaided world).2.1.registry.Holds some start
      (logger.perform (builtins host) operation.unaided world).2.2 :=
  perform_holds (World.builtins_extends host) holds (operation.foreign_map nofun)

lemma run_holds_builtins (host : Host) (holds : logger.registry.Holds some start world)
    (history : List (Operation Empty)) :
    (run (builtins host) (history.map .unaided) logger world).2.1.registry.Holds some start
      (run (builtins host) (history.map .unaided) logger world).2.2 :=
  run_holds (World.builtins_extends host) holds (foreign_history nofun history)

lemma build_holds_builtins (host : Host) (capacity : Nat) (seeded : Bool) (start : World) :
    (build (builtins host) capacity seeded start).1.registry.Holds some start
      (build (builtins host) capacity seeded start).2 :=
  build_holds (World.builtins_extends host) capacity seeded start

/-- An operation that brings along no writers is one of the moves of the registry. -/
lemma change_moves_builtins (host : Host) (holds : logger.registry.Holds some start world)
    (change : Change Empty) :
    let next := logger.perform (builtins host) (Operation.unaided (.change change)) world
    logger.registry.Moves host some world (change.map Empty.elim) next.1 next.2.1.registry
      next.2.2 :=
  Registry.change_moves (World.builtins_extends host) holds
    ((change.foreign_map nofun).offers start _ _)

/-- A message without a tag is dropped. -/
lemma perform_untagged [DecidableEq ω] (w : Writers ω σ) {now : Instant} {message : Message}
    {logger : Logger ω} (quiet : (Operation.print now message : Operation ω).line? logger.capacity =
      none) (s : σ) : logger.perform w (.print now message) s = (.ok (), logger, s) := by
  have untagged : message.tag = "" := by
    by_contra tagged
    rw [Operation.line?, if_neg tagged] at quiet
    cases quiet
  simp only [perform, print, if_pos untagged]

/-- An operation that prints no line sends nothing. -/
lemma perform_silent (host : Host) (holds : logger.registry.Holds some start world)
    {operation : Operation Empty} (quiet : operation.unaided.line? logger.capacity = none) :
    world.surroundings.Silent
      (logger.perform (builtins host) operation.unaided world).2.2.surroundings := by
  have among := World.builtins_extends host
  cases operation with
  | change made => exact (change_moves_builtins host holds made).silent
  | addBuiltin name transport =>
    have created := holds.create among transport
    exact (Registry.change_moves among created (holds.offers_create among name transport)).silent
  | print now message =>
    have same := congrArg (·.2.2.surroundings) (perform_untagged (builtins host) quiet world)
    exact same ▸ .refl _
  | shutdown =>
    have surroundings := congrArg World.surroundings (holds.clear_world among)
    rw [World.surroundings_shutAll] at surroundings
    change world.surroundings.Silent (logger.registry.clear (builtins host) world).2.surroundings
    exact surroundings ▸ .refl _

/-- An operation that prints a line fans it out. -/
lemma perform_line [DecidableEq ω] (w : Writers ω σ) {operation : Operation ω} {logger : Logger ω}
    {line : Bytes} (prints : operation.line? logger.capacity = some line) (s : σ) :
    (logger.perform w operation s).2 =
        ({ logger with registry := (logger.registry.fanOut w line s).2.1 },
          (logger.registry.fanOut w line s).2.2) ∧
      line ≠ [] := by
  cases operation with
  | print now message =>
    rw [Operation.line?] at prints
    split at prints
    · cases prints
    · rename_i tagged
      cases prints
      simp only [perform, print, if_neg tagged]
      exact ⟨trivial, message.render_ne_nil _ _ _⟩
  | _ => cases prints

/-- What is observed through the arguments of endpoints changes by the line that an operation
prints, and by nothing else. -/
lemma perform_observed {α : Type} {observe : Surroundings → List α} {argument : Argument}
    {gain : Bytes → List α}
    (tracks : Tracks host observe (fun writer => writer.holding = some argument) gain)
    (holds : logger.registry.Holds some start world) (operation : Operation Empty) :
    observe (logger.perform (builtins host) operation.unaided world).2.2.surroundings =
      observe world.surroundings ++
        (operation.unaided.line? logger.capacity).toList.flatMap fun line =>
          (List.replicate (logger.registry.enabledWith argument) (gain line)).flatten := by
  cases prints : operation.unaided.line? logger.capacity with
  | none =>
    rw [tracks.silent (perform_silent host holds prints)]
    exact (List.append_nil _).symm
  | some line =>
    obtain ⟨next, nonempty⟩ := perform_line (builtins host) prints world
    rw [next, holds.fanOut_observed tracks nonempty, Option.toList_some, List.flatMap_singleton]

/-- A write that fails is counted for each endpoint that is enabled with what refuses it, and
nothing else about the endpoint changes. -/
lemma print_refused (holds : logger.registry.Holds some start world) (now : Instant)
    {message : Message} (tagged : message.tag ≠ "") {argument : Argument}
    (refused : host.takes (message.render logger.capacity 0 now) argument = false)
    {view : EndpointView} (mem : view ∈ logger.registry.views)
    (enabled : view.argument = some argument) :
    { view with counters := view.counters.refused } ∈
      (logger.perform (builtins host) (.print now message) world).2.1.registry.views := by
  have prints : (Operation.print now message : Operation Nat).line? logger.capacity =
      some (message.render logger.capacity 0 now) := if_neg tagged
  obtain ⟨next, nonempty⟩ := perform_line (builtins host) prints world
  rw [next, holds.views_fanOut host nonempty, List.mem_map]
  exact ⟨view, mem, by simp only [EndpointView.after, enabled, refused, Counters.after,
    Bool.false_eq_true, if_false]⟩

/-- What is observed in the end is what was printed, each line once for every endpoint that was
enabled with the argument at that moment. -/
lemma run_observed {α : Type} {observe : Surroundings → List α} {argument : Argument}
    {gain : Bytes → List α}
    (tracks : Tracks host observe (fun writer => writer.holding = some argument) gain)
    (holds : logger.registry.Holds some start world) (history : List (Operation Empty)) :
    observe (run (builtins host) (history.map .unaided) logger world).2.2.surroundings =
      observe world.surroundings ++
        (printed (builtins host) (history.map .unaided) logger world).flatMap fun (line, r) =>
          (List.replicate (r.enabledWith argument) (gain line)).flatten := by
  induction history generalizing logger world with
  | nil => exact (List.append_nil _).symm
  | cons operation history ih =>
    have next := ih (perform_holds_builtins host holds operation)
    rw [perform_observed tracks holds operation] at next
    simp only [List.map_cons, run, printed, List.flatMap_append, List.flatMap_map]
    rw [next, List.append_assoc]

/-- A history that prints nothing sends nothing. -/
lemma run_silent (host : Host) (holds : logger.registry.Holds some start world)
    {history : List (Operation Empty)}
    (quiet : ∀ operation ∈ history, ∀ capacity, operation.unaided.line? capacity = none) :
    world.surroundings.Silent
      (run (builtins host) (history.map .unaided) logger world).2.2.surroundings := by
  induction history generalizing logger world with
  | nil => exact .refl _
  | cons operation history ih =>
    obtain ⟨first, rest⟩ := List.forall_mem_cons.mp quiet
    exact (perform_silent host holds (first _)).trans
      (ih (perform_holds_builtins host holds operation) rest)

lemma seeding_unaided (seeded : Bool) : (seeding seeded).map .unaided = seeding seeded := by
  cases seeded <;> rfl

lemma build_eq_run_unaided (host : Host) (capacity : Nat) (seeded : Bool) (start : World) :
    build (builtins host) capacity seeded start =
      (run (builtins host) ((seeding seeded).map .unaided) (bare capacity) start).2 := by
  rw [seeding_unaided, build_eq_run]

/-- Building a logger sends nothing. -/
lemma build_silent (host : Host) (capacity : Nat) (seeded : Bool) (start : World) :
    start.surroundings.Silent (build (builtins host) capacity seeded start).2.surroundings := by
  have empty : (bare capacity : Logger Nat).registry.Holds some start start := .empty start
  rw [build_eq_run_unaided]
  refine run_silent host empty ?_
  cases seeded with
  | false => exact List.forall_mem_nil _
  | true => exact List.forall_mem_cons.mpr ⟨fun _ => rfl, List.forall_mem_singleton.mpr fun _ => rfl⟩

/-- All that is observed from before a logger was made is what it printed. -/
lemma built_observed {α : Type} {observe : Surroundings → List α} {argument : Argument}
    {gain : Bytes → List α}
    (tracks : Tracks host observe (fun writer => writer.holding = some argument) gain)
    (capacity : Nat) (seeded : Bool) (start : World) (history : List (Operation Empty)) :
    let built := build (builtins host) capacity seeded start
    observe (run (builtins host) (history.map .unaided) built.1 built.2).2.2.surroundings =
      observe start.surroundings ++
        (printed (builtins host) (history.map .unaided) built.1 built.2).flatMap fun (line, r) =>
          (List.replicate (r.enabledWith argument) (gain line)).flatten := by
  intro built
  rw [run_observed tracks (build_holds_builtins host capacity seeded start) history,
    tracks.silent (build_silent host capacity seeded start)]

/-- What no line changes stays as it was before the logger was made. -/
lemma built_unobserved {α : Type} {observe : Surroundings → List α} {argument : Argument}
    {gain : Bytes → List α}
    (tracks : Tracks host observe (fun writer => writer.holding = some argument) gain)
    (nothing : ∀ line, gain line = []) (capacity : Nat) (seeded : Bool) (start : World)
    (history : List (Operation Empty)) :
    let built := build (builtins host) capacity seeded start
    observe (run (builtins host) (history.map .unaided) built.1 built.2).2.2.surroundings =
      observe start.surroundings := by
  refine (built_observed tracks capacity seeded start history).trans
    (List.append_right_eq_self.mpr (List.flatMap_eq_nil_iff.mpr fun (line, r) _ => ?_))
  simp only [nothing]
  exact List.flatten_replicate_nil

end Logger
end LogFanout
