import LogFanout.Proofs.Logger.Printed
import LogFanout.Proofs.Registry.Links

/-!
# Lines over sockets

A session begins with an enable that connects to a stream, and lasts until the endpoint is disabled
or removed or the logger is shut down. `sessions` reads the sessions of a history and their lines off
the operations and their statuses, and `sockets_receive` shows that they are the connections that
were made and what was received over them.
-/

namespace LogFanout

open World (builtins)

namespace Logger

variable {ω : Type}

/-- A connection and the lines printed while it lasts. -/
structure Session where
  target : Target
  lines : List Bytes
  deriving DecidableEq

namespace Operation

/-- The endpoint and the target to which an operation connects it, if it does. -/
def connects? : Operation ω → Status → Option (String × Target)
  | .change made, status => made.connects? status
  | _, _ => none

/-- Whether an operation ends for a name what its endpoint was enabled for. -/
def closes (name : String) : Operation ω → Status → Bool
  | .change made, status => made.closes name status
  | .shutdown, _ => true
  | _, _ => false

lemma line?_of_closes {operation : Operation ω} {status : Status} {name : String}
    (closes : operation.closes name status = true) (capacity : Nat) :
    operation.line? capacity = none := by
  cases operation with
  | print _ _ => cases closes
  | _ => rfl

end Operation

/-- The lines that are printed until the endpoint of a name is closed. -/
def linesUntil (capacity : Nat) (name : String) : List (Operation ω × Status) → List Bytes
  | [] => []
  | (operation, status) :: steps =>
    if operation.closes name status then []
    else (operation.line? capacity).toList ++ linesUntil capacity name steps

/-- The sessions of a history, in the order in which they begin. -/
def sessions (capacity : Nat) : List (Operation ω × Status) → List Session
  | [] => []
  | (operation, status) :: steps =>
    ((operation.connects? status).toList.map fun (name, target) =>
      ⟨target, linesUntil capacity name steps⟩) ++ sessions capacity steps

/-- What came over the connections between two worlds, in steps that begin with endpoints linked as
in the first one. -/
structure Receives (capacity : Nat) (steps : List (Operation Nat × Status)) (r : Registry Nat)
    (before after : World) : Prop where
  connections : after.surroundings.connections =
    before.surroundings.connections ++
      (sessions capacity steps).map fun session => ⟨session.target, false⟩
  linked : ∀ {name connection}, r.link before name = some connection →
    after.surroundings.received connection =
      before.surroundings.received connection ++ (linesUntil capacity name steps).flatten
  unlinked : ∀ {connection}, connection < before.surroundings.connections.length →
    (∀ name, r.link before name ≠ some connection) →
    after.surroundings.received connection = before.surroundings.received connection
  opened : ∀ number,
    after.surroundings.received (before.surroundings.connections.length + number) =
      before.surroundings.received (before.surroundings.connections.length + number) ++
        ((sessions capacity steps)[number]?.map fun session => session.lines.flatten).getD []

variable {host : Host} {start world : World} {logger : Logger Nat}

/-- Adding an endpoint leaves the links and the connections as they are. -/
lemma addBuiltin_relinks (host : Host) (holds : logger.registry.Holds some start world)
    (name : String) (transport : Transport) :
    let next := logger.perform (builtins host) (.addBuiltin name transport) world
    Registry.Relinks none (fun _ => false) logger.registry world next.2.1.registry next.2.2 := by
  have among := World.builtins_extends host
  have created := holds.create among transport
  have offers := holds.offers_create among name transport
  have relinks := (Registry.change_moves among created offers).relinks created offers
  have link_created : ∀ other, logger.registry.link
      ((builtins host).create transport world).2 other = logger.registry.link world other := by
    refine fun other => Registry.link_congr rfl fun endpoint number lodges => ?_
    exact World.writer_create host transport world (Nat.ne_of_lt (holds.owned lodges).2.2)
  have connects : ∀ (number : Nat) status,
      (Change.add name number .owned).connects? status = none := by
    intro number status
    cases status <;> rfl
  have closes : ∀ (number : Nat) status other,
      (Change.add name number .owned).closes other status = false := by
    intro number status other
    cases status <;> rfl
  refine .idle ?_ fun other => ?_
  · have connections := relinks.connections
    rw [connects] at connections
    exact connections.trans (List.append_nil _)
  · have link := relinks.link other
    rw [connects, closes] at link
    exact link.trans (link_created other)

/-- Every operation relinks the endpoints as it says. -/
lemma perform_relinks (host : Host) (holds : logger.registry.Holds some start world)
    (operation : Operation Empty) :
    let next := logger.perform (builtins host) operation.unaided world
    Registry.Relinks (operation.unaided.connects? next.1) (operation.unaided.closes · next.1)
      logger.registry world next.2.1.registry next.2.2 := by
  have among := World.builtins_extends host
  intro next
  cases operation with
  | change made =>
    exact (change_moves_builtins host holds made).relinks holds
      ((made.foreign_map nofun).offers start _ _)
  | addBuiltin name transport => exact addBuiltin_relinks host holds name transport
  | print now message =>
    cases prints : (Operation.print now message : Operation Nat).line? logger.capacity with
    | none =>
      have same : next = _ := perform_untagged (builtins host) prints world
      rw [same]
      exact .idle rfl fun _ => rfl
    | some line =>
      obtain ⟨link, connections⟩ := Registry.Holds.fanOut_link host line logger.registry world
      have fanned : next.2 = _ := (perform_line (builtins host) prints world).1
      rw [fanned]
      exact .idle connections link
  | shutdown =>
    refine ⟨?_, nofun, fun name => ?_⟩
    · exact (congrArg (·.surroundings.connections) (holds.clear_world among)).trans
        ((congrArg Surroundings.connections (World.surroundings_shutAll world _)).trans
          (List.append_nil _).symm)
    · exact congrArg (fun r : Registry Nat => r.link next.2.2 name)
        (holds.sound.clear_eq (builtins host) world)

/-- The line that an operation prints arrives over each connection that an endpoint is linked to, and
over no other one. -/
lemma perform_received (host : Host) (holds : logger.registry.Holds some start world)
    (operation : Operation Empty) :
    let next := logger.perform (builtins host) operation.unaided world
    (∀ name connection, logger.registry.link world name = some connection →
      next.2.2.surroundings.received connection = world.surroundings.received connection ++
        (operation.unaided.line? logger.capacity).toList.flatten) ∧
    (∀ connection, (∀ name, logger.registry.link world name ≠ some connection) →
      next.2.2.surroundings.received connection = world.surroundings.received connection) := by
  intro next
  cases prints : operation.unaided.line? logger.capacity with
  | none =>
    have silent := perform_silent host holds prints
    have same := fun connection => (Builtin.received_tracks host connection).silent silent
    refine ⟨fun _ connection _ => ?_, fun connection _ => same connection⟩
    exact (same connection).trans (List.append_nil _).symm
  | some line =>
    obtain ⟨eq, nonempty⟩ := perform_line (builtins host) prints world
    have fanned : next.2 = _ := eq
    rw [fanned]
    refine ⟨fun _ _ linked => ?_, fun _ unlinked => holds.received_fanOut_unlinked unlinked nonempty⟩
    rw [Option.toList_some, List.flatten_singleton]
    exact holds.received_fanOut linked nonempty

/-- What comes over the connections from an operation on. -/
lemma Receives.cons {capacity : Nat} {operation : Operation Nat} {status : Status}
    {steps : List (Operation Nat × Status)} {r r' : Registry Nat} {world' after : World}
    (holds : r.Holds some start world)
    (relinks : Registry.Relinks (operation.connects? status) (operation.closes · status) r world r'
      world')
    (carried : ∀ name connection, r.link world name = some connection →
      world'.surroundings.received connection = world.surroundings.received connection ++
        (operation.line? capacity).toList.flatten)
    (spared : ∀ connection, (∀ name, r.link world name ≠ some connection) →
      world'.surroundings.received connection = world.surroundings.received connection)
    (later : Receives capacity steps r' world' after) :
    Receives capacity ((operation, status) :: steps) r world after := by
  have fresh : ∀ number, world'.surroundings.received
        (world.surroundings.connections.length + number) =
      world.surroundings.received (world.surroundings.connections.length + number) :=
    fun number => spared _ fun _ => holds.link_ne_fresh number
  exact {
    connections := by
      rw [later.connections, relinks.connections, sessions, List.map_append, List.map_map,
        List.append_assoc]
      rfl
    linked := fun {name connection} linked => by
      have old := holds.link_lt linked
      rw [linesUntil]
      split
      · rename_i closes
        rw [later.unlinked (Nat.lt_of_lt_of_le old relinks.more) (relinks.gone holds linked closes),
          carried name connection linked, operation.line?_of_closes closes]
        rfl
      · rename_i goesOn
        have still := relinks.link_kept linked (Bool.eq_false_iff.mpr goesOn)
        rw [later.linked still, carried name connection linked, List.flatten_append,
          List.append_assoc]
    unlinked := fun {connection} old none => by
      have unlinked : ∀ name, r'.link world' name ≠ some connection :=
        fun name linked' => none name (relinks.link_old old linked').1
      exact (later.unlinked (Nat.lt_of_lt_of_le old relinks.more) unlinked).trans
        (spared connection none)
    opened := fun number => by
      rw [sessions]
      cases connects : operation.connects? status with
      | none =>
        -- The sessions of the rest are those of the history.
        have opened := later.opened number
        rw [connects] at relinks
        rw [relinks.length_none, fresh] at opened
        exact opened
      | some opened =>
        obtain ⟨name, target⟩ := opened
        rw [connects] at relinks
        cases number with
        | zero => exact (later.linked relinks.link_some).trans (congrArg (· ++ _) (fresh 0))
        | succ number =>
          have opened := later.opened number
          rw [relinks.length_some, Nat.add_right_comm, Nat.add_assoc, fresh (number + 1)] at opened
          exact opened }

lemma perform_capacity [DecidableEq ω] (w : Writers ω σ) (operation : Operation ω)
    (logger : Logger ω) (s : σ) :
    (logger.perform w operation s).2.1.capacity = logger.capacity := by
  cases operation with
  | print now message =>
    simp only [perform, print]
    split <;> rfl
  | _ => rfl

/-- What comes over the connections in a history. -/
lemma run_receives (host : Host) (holds : logger.registry.Holds some start world)
    (history : List (Operation Empty)) :
    let result := run (builtins host) (history.map .unaided) logger world
    Receives logger.capacity ((history.map .unaided).zip result.1) logger.registry world
      result.2.2 := by
  induction history generalizing logger world with
  | nil =>
    exact {
      connections := (List.append_nil _).symm
      linked := fun _ => (List.append_nil _).symm
      unlinked := fun _ _ => rfl
      opened := fun _ => (List.append_nil _).symm }
  | cons operation history ih =>
    obtain ⟨carried, spared⟩ := perform_received host holds operation
    have later := ih (perform_holds_builtins host holds operation)
    rw [perform_capacity] at later
    exact .cons holds (perform_relinks host holds operation) carried spared later

/-- A history that connects nothing, of a logger without links. -/
lemma run_unlinked (host : Host) (holds : logger.registry.Holds some start world)
    (unlinked : ∀ name, logger.registry.link world name = none) {history : List (Operation Empty)}
    (never : ∀ operation ∈ history, ∀ status, operation.unaided.connects? status = none) :
    let result := run (builtins host) (history.map .unaided) logger world
    (∀ name, result.2.1.registry.link result.2.2 name = none) ∧
      result.2.2.surroundings.connections = world.surroundings.connections := by
  induction history generalizing logger world with
  | nil => exact ⟨unlinked, rfl⟩
  | cons operation history ih =>
    obtain ⟨first, rest⟩ := List.forall_mem_cons.mp never
    let next := logger.perform (builtins host) operation.unaided world
    have relinks : Registry.Relinks (operation.unaided.connects? next.1)
        (operation.unaided.closes · next.1) logger.registry world next.2.1.registry next.2.2 :=
      perform_relinks host holds operation
    rw [first] at relinks
    have still : ∀ name, next.2.1.registry.link next.2.2 name = none := fun name => by
      have link := relinks.link name
      rw [unlinked, ite_self] at link
      exact link
    obtain ⟨links, connections⟩ := ih (perform_holds_builtins host holds operation) still rest
    exact ⟨links, connections.trans (relinks.connections.trans (List.append_nil _))⟩

/-- A new logger is linked to nothing. -/
lemma build_unlinked (host : Host) (capacity : Nat) (seeded : Bool) (start : World) :
    let built := build (builtins host) capacity seeded start
    (∀ name, built.1.registry.link built.2 name = none) ∧
      built.2.surroundings.connections = start.surroundings.connections := by
  have empty : (bare capacity : Logger Nat).registry.Holds some start start := .empty start
  rw [build_eq_run_unaided]
  refine run_unlinked host empty (fun _ => rfl) ?_
  cases seeded with
  | false => exact List.forall_mem_nil _
  | true =>
    refine List.forall_mem_cons.mpr ⟨fun _ => rfl, List.forall_mem_singleton.mpr fun status => ?_⟩
    cases status <;> rfl

/-- A change that fails makes no connection and sends nothing. -/
lemma change_failed (host : Host) (holds : logger.registry.Holds some start world)
    (change : Change Empty) :
    let next := logger.perform (builtins host) (Operation.unaided (.change change)) world
    ∀ e, next.1 = .error e →
      next.2.2.surroundings.connections = world.surroundings.connections ∧
        world.surroundings.Silent next.2.2.surroundings := by
  intro next e failed
  have moves : logger.registry.Moves host some world (change.map Empty.elim) next.1
      next.2.1.registry next.2.2 := change_moves_builtins host holds change
  rw [failed] at moves
  exact ⟨moves.failed.2, moves.silent⟩

/-- Whatever is done with a logger that makes all of its writers itself: the connections that are
made are those of the sessions, in order; over each of them come the lines of its session, in order
and whole, and nothing comes over older ones. A target of datagrams receives one whole line for each
endpoint that is enabled with it at the moment of a print, unless the line is too long for a
datagram; such a line counts one failure for each of them, and nothing else about them changes. What
fails makes no connection and sends nothing. -/
theorem sockets_receive (host : Host) (capacity : Nat) (seeded : Bool) (start : World)
    (history : List (Operation Empty)) :
    let w := builtins host
    let operations := history.map Operation.unaided
    let built := build w capacity seeded start
    let result := run w operations built.1 built.2
    let begun := sessions built.1.capacity (operations.zip result.1)
    let prints := printed w operations built.1 built.2
    let used := result.2
    let next := fun operation : Operation Empty => used.1.perform w operation.unaided used.2
    let older := start.surroundings.connections.length
    used.2.surroundings.connections =
      start.surroundings.connections ++ begun.map (fun session => ⟨session.target, false⟩) ∧
    (∀ number session, begun[number]? = some session →
      used.2.surroundings.received (older + number) =
        start.surroundings.received (older + number) ++ session.lines.flatten) ∧
    (∀ number < older,
      used.2.surroundings.received number = start.surroundings.received number) ∧
    (∀ target, target.scheme = .udp →
      used.2.surroundings.datagramsTo target = start.surroundings.datagramsTo target ++
        prints.flatMap fun (line, r) =>
          if line.length ≤ maxDatagram then List.replicate (r.enabledWith (.socket target)) line
          else []) ∧
    (∀ target, target.scheme ≠ .udp →
      used.2.surroundings.datagramsTo target = start.surroundings.datagramsTo target) ∧
    (∀ now message target, message.tag ≠ "" → target.scheme = .udp →
      maxDatagram < (message.render used.1.capacity 0 now).length →
      ∀ view ∈ used.1.registry.views, view.argument = some (.socket target) →
        { view with counters := view.counters.refused } ∈
          (next (.print now message)).2.1.registry.views) ∧
    (∀ change e, (next (.change change)).1 = .error e →
      (next (.change change)).2.2.surroundings.connections = used.2.surroundings.connections ∧
        used.2.surroundings.Silent (next (.change change)).2.2.surroundings) := by
  intro w operations built result begun prints used next older
  have built_holds := build_holds_builtins host capacity seeded start
  have holds : used.1.registry.Holds some start used.2 :=
    run_holds_builtins host built_holds history
  have receives := run_receives host built_holds history
  obtain ⟨unlinked, connections⟩ := build_unlinked host capacity seeded start
  have silent := build_silent host capacity seeded start
  have received := fun number => (Builtin.received_tracks host number).silent silent
  refine ⟨?_, fun number session at_number => ?_, fun number old => ?_, fun target udp => ?_,
    fun target stream => ?_, fun now message target tagged udp long view mem enabled => ?_,
    fun change e failed => ?_⟩
  · exact connections ▸ receives.connections
  · have at_number' : (sessions (build (builtins host) capacity seeded start).1.capacity
        (operations.zip result.1))[number]? = some session := at_number
    have opened := receives.opened number
    rw [connections, received, at_number'] at opened
    exact opened
  · have old : number < built.2.surroundings.connections.length := connections ▸ old
    refine (receives.unlinked old fun name linked => ?_).trans (received number)
    cases (unlinked name).symm.trans linked
  · have datagrams := built_observed (Builtin.datagrams_tracks host target) capacity seeded start
      history
    refine datagrams.trans (congrArg _ (congrArg (prints.flatMap ·) (funext fun (line, r) => ?_)))
    simp only [udp, true_and]
    split
    · exact List.flatten_replicate_singleton
    · exact List.flatten_replicate_nil
  · exact built_unobserved (Builtin.datagrams_tracks host target)
      (fun line => if_neg fun sent => stream sent.1) capacity seeded start history
  · have refused : host.takes (message.render used.1.capacity 0 now) (.socket target) = false :=
      decide_eq_false (not_or_intro (not_not_intro udp) (Nat.not_le.mpr long))
    exact print_refused holds now tagged refused mem enabled
  · exact change_failed host holds change e failed

-- An endpoint that is enabled twice is connected twice. A line printed in between goes nowhere.
example :
    let host : Host := ⟨fun _ _ => .ok (), fun _ _ => .ok (), fun _ => .ok (),
      fun _ => .error .notFound⟩
    let target : Target := ⟨.tcp, "127.0.0.1:9", by decide⟩
    let message : Message := ⟨3, "tag", "text"⟩
    let enable : Operation Nat := .change (.enable "log" (.socket target))
    let print : Operation Nat := .print ⟨0, 0⟩ message
    let built := build (builtins host) 64 false .start
    let result := run (builtins host)
      [.addBuiltin "log" .socket, enable, print, .change (.disable "log"), print, enable]
      built.1 built.2
    result.2.2.surroundings.connections = [⟨target, false⟩, ⟨target, false⟩] ∧
      result.2.2.surroundings.streamed = [(0, message.render 64 0 ⟨0, 0⟩)] := by
  decide +kernel

end Logger
end LogFanout
