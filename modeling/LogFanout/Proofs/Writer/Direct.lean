import LogFanout.Proofs.Writer.Use
import Mathlib.Data.List.Induction

/-!
# Writers used directly

Without a registry around it, a built-in writer may be opened twice, written to when it is closed
and closed again and again. It then leads to what its latest successful init has opened, unless it
was closed since (`Latest`), and each further call does what this says, whatever came before
(`builtins_used`).
-/

namespace LogFanout

namespace World

/-- The writer with a number can be opened on an argument after a history. -/
def Accepts (host : Host) (start : World) (number : Nat) (history : List Event)
    (argument : Argument) : Prop :=
  ((start.run host history).use host number (.init argument)).1 = some (.opened (.ok ()))

/-- Where the latest successful init of the writer with a number leads, if the writer was not closed
since. -/
inductive Latest (host : Host) (start : World) (number : Nat) : List Event → Sink → Prop where
  | opened {before argument after sink} :
    Accepts host start number before argument →
    sink.Leads (start.run host before).surroundings.connections.length argument →
    .use number .destroy ∉ after →
    (∀ front argument' back, after = front ++ .use number (.init argument') :: back →
      ¬Accepts host start number (before ++ .use number (.init argument) :: front) argument') →
    Latest host start number (before ++ .use number (.init argument) :: after) sink

variable {host : Host} {world next : World} {number : Nat} {start : World} {history : List Event}
  {event : Event} {argument : Argument} {sink : Sink}

lemma run_concat (host : Host) (history : List Event) (event : Event) (start : World) :
    start.run host (history ++ [event]) = (start.run host history).after host event := by
  rw [run, List.foldl_append]
  rfl

lemma Accepts.opens (accepts : Accepts host start number history argument) :
    ∃ sink, sink.Leads (start.run host history).surroundings.connections.length argument ∧
      ((start.run host (history ++ [.use number (.init argument)])).writer number).sink? =
        some sink := by
  have used := use_used host (start.run host history) number (.init argument)
  rw [Accepts] at accepts
  rw [accepts] at used
  rw [run_concat]
  exact used.opens

namespace Latest

lemma here (accepts : Accepts host start number history argument)
    (leads : sink.Leads (start.run host history).surroundings.connections.length argument) :
    Latest host start number (history ++ [.use number (.init argument)]) sink :=
  .opened accepts leads List.not_mem_nil fun front argument' back eq => by
    cases (List.append_eq_nil_iff.mp eq.symm).2

lemma concat (latest : Latest host start number history sink)
    (open' : event ≠ .use number .destroy)
    (old : ∀ argument, event = .use number (.init argument) →
      ¬Accepts host start number history argument) :
    Latest host start number (history ++ [event]) sink := by
  cases latest with
  | @opened before argument after _ accepts leads open'' last =>
    rw [List.append_assoc, List.cons_append]
    refine .opened accepts leads ?_ ?_
    · intro mem
      rcases List.mem_append.mp mem with mem | mem
      · exact open'' mem
      · exact open' (List.mem_singleton.mp mem).symm
    · intro front argument' back eq
      rcases List.eq_nil_or_concat back with rfl | ⟨back, final, rfl⟩
      · obtain ⟨rfl, same⟩ := List.append_inj' eq rfl
        exact old argument' (List.cons.inj same).1
      · rw [List.concat_eq_append, ← List.cons_append, ← List.append_assoc] at eq
        exact last front argument' back (List.append_inj' eq rfl).1

/-- The latest init is the last event, or it is the latest one before that. -/
lemma cases_concat (latest : Latest host start number (history ++ [event]) sink) :
    (∃ argument, event = .use number (.init argument) ∧
      Accepts host start number history argument ∧
      sink.Leads (start.run host history).surroundings.connections.length argument) ∨
    event ≠ .use number .destroy ∧ (∀ argument, event = .use number (.init argument) →
      ¬Accepts host start number history argument) ∧ Latest host start number history sink := by
  generalize whole : history ++ [event] = events at latest
  cases latest with
  | @opened before argument after _ accepts leads open' last =>
    rcases List.eq_nil_or_concat after with rfl | ⟨after, final, rfl⟩
    · obtain ⟨rfl, same⟩ := List.append_inj' whole rfl
      exact .inl ⟨argument, (List.cons.inj same).1, accepts, leads⟩
    · rw [List.concat_eq_append] at open' last whole
      rw [← List.cons_append, ← List.append_assoc] at whole
      obtain ⟨rfl, same⟩ := List.append_inj' whole rfl
      obtain ⟨rfl, -⟩ := List.cons.inj same
      refine .inr ⟨fun eq => open' (eq ▸ List.mem_append_right _ List.mem_cons_self), ?_,
        .opened accepts leads (mt (List.mem_append_left _) open') ?_⟩
      · rintro argument' rfl
        exact last after argument' [] rfl
      · intro front argument' back eq
        refine last front argument' (back ++ [event]) ?_
        rw [eq, List.append_assoc, List.cons_append]

end Latest

/-- What can be told of a writer after an event that neither closes it nor opens it. -/
lemma sink?_after_of_stays (open' : event ≠ .use number .destroy)
    (old : ∀ argument, event = .use number (.init argument) →
      (world.use host number (.init argument)).1 ≠ some (.opened (.ok ()))) :
    ((world.after host event).writer number).sink? = (world.writer number).sink? := by
  cases event with
  | make transport =>
    by_cases new : number = world.writers.length
    · -- A writer that was just made is as closed as one that is not there.
      subst new
      have shut : ((world.after host (.make transport)).writer world.writers.length).isOpen = false :=
        (congrArg _ (writer_create_self host transport world)).trans (by simp)
      rw [Builtin.sink?_eq_none shut, Builtin.sink?_eq_none (isOpen_unmade (Nat.le_refl _))]
    · exact congrArg _ (writer_create host transport world new)
  | use other use =>
    by_cases same : number = other
    · subst same
      have stays := (use_used host world number use).stays (fun eq => open' (eq ▸ rfl))
        (fun argument eq => by subst eq; exact old argument rfl)
      exact congrArg _ stays
    · exact congrArg _ ((use_used host world other use).elsewhere same)
  | hangUp target => rfl

/-- A writer leads where its latest successful init says. -/
lemma sink?_iff_latest (empty : start.writers = []) :
    ((start.run host history).writer number).sink? = some sink ↔
      Latest host start number history sink := by
  induction history using List.reverseRecOn generalizing sink with
  | nil =>
    have unmade : ((start.run host []).writer number).sink? = none :=
      Builtin.sink?_eq_none (isOpen_unmade (empty ▸ Nat.zero_le _))
    constructor
    · intro leads
      cases unmade.symm.trans leads
    · intro latest
      generalize none : ([] : List Event) = events at latest
      cases latest with
      | opened => cases (List.append_eq_nil_iff.mp none.symm).2
  | append_singleton history event ih =>
    by_cases opened : ∃ argument, event = .use number (.init argument) ∧
        Accepts host start number history argument
    · obtain ⟨argument, rfl, accepts⟩ := opened
      obtain ⟨sink', leads', eq⟩ := accepts.opens
      rw [eq]
      constructor
      · rintro ⟨⟩
        exact .here accepts leads'
      · intro latest
        rcases latest.cases_concat with ⟨argument', same, -, leads⟩ | ⟨-, old, -⟩
        · cases same
          rw [leads'.unique leads]
        · exact absurd accepts (old argument rfl)
    · have old : ∀ argument, event = .use number (.init argument) →
          ¬Accepts host start number history argument := fun argument eq accepts =>
        opened ⟨argument, eq, accepts⟩
      rw [run_concat]
      by_cases closed : event = .use number .destroy
      · subst closed
        have shut := (use_used host (start.run host history) number .destroy).shut
        constructor
        · intro leads
          cases (Builtin.sink?_eq_none shut).symm.trans leads
        · intro latest
          rcases latest.cases_concat with ⟨argument, eq, -⟩ | ⟨open', -⟩
          · cases eq
          · exact absurd rfl open'
      · rw [sink?_after_of_stays closed old, ih]
        constructor
        · exact fun latest => latest.concat closed old
        · intro latest
          rcases latest.cases_concat with ⟨argument, eq, accepts, -⟩ | ⟨-, -, latest⟩
          · exact absurd accepts (old argument eq)
          · exact latest

/-- An open writer stays open until it is closed. -/
lemma isOpen_after (opened : (world.writer number).isOpen = true)
    (open' : event ≠ .use number .destroy) :
    ((world.after host event).writer number).isOpen = true := by
  rw [← Builtin.isSome_sink?] at opened ⊢
  by_cases again : ∃ argument, event = .use number (.init argument) ∧
      (world.use host number (.init argument)).1 = some (.opened (.ok ()))
  · obtain ⟨argument, rfl, accepted⟩ := again
    have used := use_used host world number (.init argument)
    rw [accepted] at used
    obtain ⟨sink, -, eq⟩ := used.opens
    exact Option.isSome_of_eq_some eq
  · rwa [sink?_after_of_stays open' fun argument eq accepted => again ⟨argument, eq, accepted⟩]

/-- A writer is open if some init succeeded after it was closed last, and only then. -/
lemma isOpen_iff (empty : start.writers = []) :
    ((start.run host history).writer number).isOpen = true ↔
      ∃ before argument after, history = before ++ .use number (.init argument) :: after ∧
        Accepts host start number before argument ∧ .use number .destroy ∉ after := by
  constructor
  · intro opened
    rw [← Builtin.isSome_sink?] at opened
    obtain ⟨sink, leads⟩ := Option.isSome_iff_exists.mp opened
    cases (sink?_iff_latest empty).mp leads with
    | opened accepts _ open' => exact ⟨_, _, _, rfl, accepts, open'⟩
  · rintro ⟨before, argument, after, rfl, accepts, open'⟩
    induction after using List.reverseRecOn with
    | nil =>
      obtain ⟨sink, -, eq⟩ := accepts.opens
      rw [← Builtin.isSome_sink?]
      exact Option.isSome_of_eq_some eq
    | append_singleton after event ih =>
      rw [← List.cons_append, ← List.append_assoc, run_concat]
      apply isOpen_after
      · exact ih (mt (List.mem_append_left _) open')
      · rintro rfl
        exact open' (List.mem_append_right _ List.mem_cons_self)

/-- What connections are open if only one writer was changed. -/
lemma Orderly.linked_iff (orderly : world.Orderly)
    (elsewhere : ∀ other ≠ number, next.writer other = world.writer other) (connection : Nat) :
    next.Linked connection ↔ (next.writer number).connection? = some connection ∨
      world.Linked connection ∧ (world.writer number).connection? ≠ some connection := by
  constructor
  · rintro ⟨other, linked⟩
    by_cases same : other = number
    · exact .inl (same ▸ linked)
    · rw [elsewhere other same] at linked
      exact .inr ⟨⟨other, linked⟩, fun own => same (orderly.apart linked own)⟩
  · rintro (linked | ⟨⟨other, linked⟩, ne⟩)
    · exact ⟨number, linked⟩
    · refine ⟨other, ?_⟩
      rwa [elsewhere other fun same => ne (same ▸ linked)]

/-- What an init of a writer does after a history. If it succeeds, then the writer leads elsewhere,
and of the connections the one that it had before is closed. If it fails, then the attempt is
counted and all else is what it was. -/
inductive Inited (host : Host) (start : World) (number : Nat) (history : List Event)
    (argument : Argument) (world : World) : Option Builtin.Answer × World → Prop where
  | opened {sink : Sink} {next : World} :
    Builtin.Admits host world.surroundings (world.writer number).transport argument →
    sink.Leads world.surroundings.connections.length argument →
    Latest host start number (history ++ [.use number (.init argument)]) sink →
    world.surroundings.Silent next.surroundings →
    (∀ other ≠ number, next.writer other = world.writer other) →
    (∀ connection, next.Linked connection ↔ sink = .connection connection ∨
      world.Linked connection ∧ ¬Latest host start number history (.connection connection)) →
    Inited host start number history argument world (some (.opened (.ok ())), next)
  | refused {why attempts} :
    ¬Builtin.Admits host world.surroundings (world.writer number).transport argument →
    (∀ sink, Latest host start number (history ++ [.use number (.init argument)]) sink ↔
      Latest host start number history sink) →
    Inited host start number history argument world (some (.opened (.error why)),
      { world with surroundings := { world.surroundings with attempts } })

/-- What a write does after a history: the line is delivered where the latest init leads, or nothing
is done, because the writer is closed or the line is blocked there. -/
inductive Wrote (host : Host) (start : World) (number : Nat) (history : List Event)
    (line : Bytes) (world : World) : Option Builtin.Answer × World → Prop where
  | delivered {sink : Sink} {s} :
    Latest host start number history sink →
    ¬sink.Blocks host world.surroundings line →
    sink.Delivered line world.surroundings s →
    Wrote host start number history line world
      (some (.wrote (.ok ())), { world with surroundings := s })
  | refused {why} :
    (∀ sink, Latest host start number history sink →
      sink.Blocks host world.surroundings line) →
    Wrote host start number history line world (some (.wrote (.error why)), world)

/-- What closing a writer does after a history. -/
structure Destroyed (host : Host) (start : World) (number : Nat) (history : List Event)
    (world next : World) : Prop where
  shut : (next.writer number).isOpen = false
  /-- Closing a closed writer changes nothing. -/
  idle : (world.writer number).isOpen = false → next = world
  again : next.use host number .destroy = (some .destroyed, next)
  /-- Nothing is sent, and no descriptor is touched. -/
  surroundings : next.surroundings = world.surroundings
  elsewhere : ∀ other ≠ number, next.writer other = world.writer other
  linked : ∀ connection, next.Linked connection ↔
    world.Linked connection ∧ ¬Latest host start number history (.connection connection)

lemma connection?_iff_latest (empty : start.writers = []) (connection : Nat) :
    ((start.run host history).writer number).connection? = some connection ↔
      Latest host start number history (.connection connection) := by
  rw [Builtin.connection?_eq_some_iff, sink?_iff_latest empty]

lemma inited (empty : start.writers = []) (orderly : start.Orderly)
    (made : number < (start.run host history).writers.length) (argument : Argument) :
    Inited host start number history argument (start.run host history)
      ((start.run host history).use host number (.init argument)) := by
  have used := use_used host (start.run host history) number (.init argument)
  rcases result : (start.run host history).use host number (.init argument) with ⟨answer, next⟩
  rw [result] at used
  have elsewhere : ∀ other ≠ number, next.writer other = (start.run host history).writer other :=
    fun other ne => used.elsewhere ne
  have linked := (orderly.run host history).linked_iff elsewhere
  have tried := used
  cases used with
  | absent absent => exact absurd made (Nat.not_lt.mpr absent)
  | opened _ admits _ silent =>
    have accepts : Accepts host start number history argument := congrArg Prod.fst result
    obtain ⟨sink, leads, eq⟩ := tried.opens
    refine .opened admits leads (.here accepts leads) silent elsewhere fun connection => ?_
    have other := not_congr (@connection?_iff_latest host number start history empty connection)
    refine (linked connection).trans (or_congr ?_ (and_congr_right' other))
    exact Builtin.connection?_eq_some_iff.trans (eq ▸ Option.some_inj)
  | refused _ admits =>
    have fails : ¬Accepts host start number history argument := fun accepts => by
      rw [Accepts, result] at accepts
      cases accepts
    refine .refused admits fun sink => ⟨fun latest => ?_, fun latest => ?_⟩
    · rcases latest.cases_concat with ⟨argument', eq, accepts, -⟩ | ⟨-, -, latest⟩
      · cases eq
        exact absurd accepts fails
      · exact latest
    · refine latest.concat (fun eq => by cases eq) fun argument' eq => ?_
      cases eq
      exact fails

lemma wrote (empty : start.writers = [])
    (made : number < (start.run host history).writers.length) (line : Bytes) :
    Wrote host start number history line (start.run host history)
      ((start.run host history).use host number (.write line)) := by
  have used := use_used host (start.run host history) number (.write line)
  rcases result : (start.run host history).use host number (.write line) with ⟨answer, next⟩
  rw [result] at used
  cases used with
  | absent absent => exact absurd made (Nat.not_lt.mpr absent)
  | delivered _ leads free delivered =>
    exact .delivered ((sink?_iff_latest empty).mp leads) free delivered
  | blocked _ blocks =>
    exact .refused fun sink latest => blocks sink ((sink?_iff_latest empty).mpr latest)

lemma destroyed (empty : start.writers = []) (orderly : start.Orderly)
    (made : number < (start.run host history).writers.length) :
    ∃ next, (start.run host history).use host number .destroy = (some .destroyed, next) ∧
      Destroyed host start number history (start.run host history) next := by
  have elsewhere : ∀ other ≠ number, ((start.run host history).shut number).writer other =
      (start.run host history).writer other := fun other ne => writer_shut_ne ne _
  have shut := isOpen_shut (start.run host history) number
  refine ⟨_, use_destroy made, shut, shut_of_shut, ?_, rfl, elsewhere, fun connection => ?_⟩
  · have made' : number < ((start.run host history).shut number).writers.length := by
      rw [World.shut, length_setWriter]
      exact made
    rw [use_destroy made', shut_shut]
  · have none : (((start.run host history).shut number).writer number).connection? ≠
        some connection := by
      rw [Builtin.connection?_eq_none shut]
      exact (Option.some_ne_none connection).symm
    have own := not_congr (@connection?_iff_latest host number start history empty connection)
    refine ((orderly.run host history).linked_iff elsewhere connection).trans ?_
    rw [or_iff_right none]
    exact and_congr_right' own

/-- Built-in writers in surroundings of any kind, each of them called in any order, while others are
made and called and connections are hung up. A writer is open if some init of it succeeded since it
was closed last. What it writes goes, whole, to what its latest successful init has opened, and
nowhere else; a write that fails does nothing. An init that fails changes nothing but the count of
attempts; one that succeeds switches over, and the connection from before is closed. A writer can be
closed at any time and as often as one likes; that changes no other writer and nothing outside. -/
theorem builtins_used (host : Host) (s : Surroundings) (history : List Event) (number : Nat) :
    let start : World := ⟨s, []⟩
    let world := start.run host history
    number < world.writers.length →
    ((world.writer number).isOpen = true ↔
      ∃ before argument after, history = before ++ .use number (.init argument) :: after ∧
        Accepts host start number before argument ∧ .use number .destroy ∉ after) ∧
    (∀ argument, Inited host start number history argument world
      (world.use host number (.init argument))) ∧
    (∀ line, Wrote host start number history line world (world.use host number (.write line))) ∧
    ∃ next, world.use host number .destroy = (some .destroyed, next) ∧
      Destroyed host start number history world next := by
  intro start world made
  have orderly : start.Orderly := orderly_empty s
  exact ⟨isOpen_iff rfl, inited rfl orderly made, wrote rfl made, destroyed rfl orderly made⟩

theorem builtins_used_reopened :
    let host : Host := ⟨fun _ _ => .ok (), fun _ _ => .ok (), fun _ => .ok (),
      fun _ => .error .notFound⟩
    let target : Target := ⟨.tcp, "127.0.0.1:9", by decide⟩
    let history : List Event := [.make .socket, .use 0 .destroy, .use 0 (.init (.socket target)),
      .use 0 (.init (.descriptor 1)), .use 0 (.init (.socket target))]
    let world := World.start.run host history
    0 < world.writers.length ∧ (world.writer 0).isOpen = true ∧
      Wrote host .start 0 history [104, 10] world (world.use host 0 (.write [104, 10])) := by
  intro host target history world
  have made : 0 < world.writers.length := by decide
  have used := builtins_used host .start history 0 made
  refine ⟨made, used.1.mpr ?_, used.2.2.1 [104, 10]⟩
  exact ⟨[.make .socket, .use 0 .destroy], .socket target,
    [.use 0 (.init (.descriptor 1)), .use 0 (.init (.socket target))], rfl, rfl, by decide⟩

-- The line goes over the second connection: an init that fails does no harm to it.
example :
    let host : Host := ⟨fun _ _ => .ok (), fun _ _ => .ok (), fun _ => .ok (),
      fun _ => .error .notFound⟩
    let target : Target := ⟨.tcp, "127.0.0.1:9", by decide⟩
    let world := World.start.run host [.make .socket, .use 0 (.init (.socket target)),
      .use 0 (.init (.socket target)), .use 0 (.init (.descriptor 1)), .use 0 (.write [104, 10])]
    world.surroundings.streamed = [(1, [104, 10])] := by
  decide

end World

end LogFanout
