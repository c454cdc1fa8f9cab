import LogFanout.Proofs.Registry.Consistency
import LogFanout.Proofs.Registry.Delivery
import LogFanout.Proofs.Registry.Moves
import LogFanout.Proofs.Registry.Sending

/-!
# Links of endpoints

An endpoint that is enabled with a stream is linked to a connection, which no other endpoint is. A
link comes with the connection when the endpoint is enabled and goes when it is disabled or removed
(`Moves.link`); meanwhile the lines that go out arrive there, and nowhere else
(`Holds.received_fanOut`).
-/

namespace LogFanout

open World (builtins)

variable {ω : Type}

/-- The endpoint and the target to which a change connects it, if it does. -/
def Change.connects? (change : Change ω) : Status → Option (String × Target)
  | .ok () =>
    match change.opens? change.name with
    | some (.socket target) => if target.scheme = .udp then none else some (change.name, target)
    | _ => none
  | .error _ => none

/-- Whether a change ends for a name what its endpoint was enabled for. -/
def Change.closes (name : String) : Change ω → Status → Bool
  | .remove other, .ok () => other = name
  | .disable other, .ok () => other = name
  | .setEnabled other _ false, .ok () => other = name
  | _, _ => false

namespace Registry

/-- The connection to which the endpoint of a name is linked, if it is. -/
def link (r : Registry Nat) (world : World) (name : String) : Option Nat :=
  (r.endpoints.find? name).bind fun endpoint => (world.writer endpoint.writer).connection?

variable {host : Host} {start world world' : World} {r r' : Registry Nat} {name other : String}

lemma link_eq {endpoint : Endpoint Nat} (found : r.endpoints.find? name = some endpoint) :
    r.link world name = (world.writer endpoint.writer).connection? := by
  rw [link, found, Option.bind_some]

lemma link_eq_none (free : r.endpoints.find? name = none) : r.link world name = none := by
  rw [link, free, Option.bind_none]

lemma exists_of_link {connection : Nat} (linked : r.link world name = some connection) :
    ∃ endpoint, r.endpoints.find? name = some endpoint ∧
      (world.writer endpoint.writer).connection? = some connection :=
  Option.bind_eq_some_iff.mp linked

namespace Holds

lemma link_lt (holds : r.Holds some start world) {connection : Nat}
    (linked : r.link world name = some connection) :
    connection < world.surroundings.connections.length := by
  obtain ⟨endpoint, found, linked⟩ := exists_of_link linked
  have lodges : r.Lodges some name endpoint endpoint.writer := ⟨found, rfl⟩
  exact (holds.fits lodges).connection_lt linked

/-- Connections that are not there yet are no endpoint's. -/
lemma link_ne_fresh (holds : r.Holds some start world) (number : Nat) :
    r.link world name ≠ some (world.surroundings.connections.length + number) :=
  fun linked => absurd (holds.link_lt linked) (Nat.not_lt.mpr (Nat.le_add_right _ _))

/-- No two endpoints are linked to one connection. -/
lemma link_inj (holds : r.Holds some start world) {connection : Nat}
    (linked : r.link world name = some connection)
    (linked' : r.link world other = some connection) : name = other := by
  obtain ⟨endpoint, found, linked⟩ := exists_of_link linked
  obtain ⟨endpoint', found', linked'⟩ := exists_of_link linked'
  have lodges : r.Lodges some name endpoint endpoint.writer := ⟨found, rfl⟩
  have lodges' : r.Lodges some other endpoint' endpoint'.writer := ⟨found', rfl⟩
  exact holds.alone lodges lodges' linked linked'

/-- A disabled endpoint is linked to nothing. -/
lemma link_of_off (holds : r.Holds some start world) {endpoint : Endpoint Nat}
    (found : r.endpoints.find? name = some endpoint) (off : endpoint.enabled = false) :
    r.link world name = none := by
  have lodges : r.Lodges some name endpoint endpoint.writer := ⟨found, rfl⟩
  rw [link_eq found]
  exact Builtin.connection?_eq_none ((holds.isOpen_eq lodges).trans off)

end Holds

/-- Endpoints that are the same, with writers that are the same, are linked to the same. -/
lemma link_congr (same : r'.endpoints.find? name = r.endpoints.find? name)
    (writers : ∀ endpoint number, r.Lodges some name endpoint number →
      world'.writer number = world.writer number) : r'.link world' name = r.link world name := by
  cases found : r.endpoints.find? name with
  | none => rw [link_eq_none (same.trans found), link_eq_none found]
  | some endpoint =>
    rw [link_eq (same.trans found), link_eq found, writers endpoint endpoint.writer ⟨found, rfl⟩]

/-- If one endpoint is unlinked before and after, and the others keep their links, then all do. -/
lemma link_same (before : r.link world name = none) (after : r'.link world' name = none)
    (others : ∀ other ≠ name, r'.link world' other = r.link world other) (other : String) :
    r'.link world' other = r.link world other := by
  by_cases eq : other = name
  · rw [eq, before, after]
  · exact others other eq

/-- What becomes of the links and the connections when something is connected and something is
closed. -/
structure Relinks (connects : Option (String × Target)) (closes : String → Bool)
    (r : Registry Nat) (world : World) (r' : Registry Nat) (world' : World) : Prop where
  connections : world'.surroundings.connections =
    world.surroundings.connections ++ connects.toList.map fun opened => ⟨opened.2, false⟩
  /-- The endpoint that is connected was not linked before. -/
  unlinked : ∀ {name target}, connects = some (name, target) → r.link world name = none
  link : ∀ name, r'.link world' name =
    if connects.any (·.1 = name) then some world.surroundings.connections.length
    else if closes name then none
    else r.link world name

namespace Relinks

/-- Nothing is connected, nothing is closed. -/
lemma idle (connections : world'.surroundings.connections = world.surroundings.connections)
    (link : ∀ name, r'.link world' name = r.link world name) :
    Relinks none (fun _ => false) r world r' world' where
  connections := connections.trans (List.append_nil _).symm
  unlinked connected := by cases connected
  link := link

/-- What one endpoint was enabled for ends. -/
lemma closing (connections : world'.surroundings.connections = world.surroundings.connections)
    (none : r'.link world' name = none)
    (others : ∀ other ≠ name, r'.link world' other = r.link world other) :
    Relinks .none (fun other => name = other) r world r' world' where
  connections := connections.trans (List.append_nil _).symm
  unlinked connected := by cases connected
  link other := by
    rw [Option.any_none, if_neg Bool.false_ne_true]
    by_cases eq : other = name
    · rw [eq, none]
      simp
    · rw [others other eq]
      simp [Ne.symm eq]

/-- One endpoint is connected. -/
lemma connected {target : Target}
    (connections : world'.surroundings.connections =
      world.surroundings.connections ++ [⟨target, false⟩])
    (unlinked : r.link world name = none)
    (link : r'.link world' name = some world.surroundings.connections.length)
    (others : ∀ other ≠ name, r'.link world' other = r.link world other) :
    Relinks (some (name, target)) (fun _ => false) r world r' world' where
  connections := connections
  unlinked same := by
    cases same
    exact unlinked
  link other := by
    rw [Option.any_some]
    by_cases eq : other = name
    · rw [eq, link]
      simp
    · rw [others other eq, if_neg (by simpa using Ne.symm eq)]
      rfl

lemma more {connects : Option (String × Target)} {closes : String → Bool}
    (relinks : Relinks connects closes r world r' world') :
    world.surroundings.connections.length ≤ world'.surroundings.connections.length := by
  rw [relinks.connections, List.length_append]
  exact Nat.le_add_right _ _

lemma length_none {closes : String → Bool} (relinks : Relinks none closes r world r' world') :
    world'.surroundings.connections.length = world.surroundings.connections.length := by
  rw [relinks.connections, Option.toList_none, List.map_nil, List.append_nil]

lemma length_some {target : Target} {closes : String → Bool}
    (relinks : Relinks (some (name, target)) closes r world r' world') :
    world'.surroundings.connections.length = world.surroundings.connections.length + 1 := by
  rw [relinks.connections, Option.toList_some, List.map_singleton, List.length_append,
    List.length_singleton]

/-- The endpoint that is connected is linked to the new connection. -/
lemma link_some {target : Target} {closes : String → Bool}
    (relinks : Relinks (some (name, target)) closes r world r' world') :
    r'.link world' name = some world.surroundings.connections.length := by
  rw [relinks.link, Option.any_some, if_pos (decide_eq_true rfl)]

/-- An old connection that is linked was linked before, and its endpoint has not been closed. -/
lemma link_old {connects : Option (String × Target)} {closes : String → Bool}
    (relinks : Relinks connects closes r world r' world') {connection : Nat}
    (old : connection < world.surroundings.connections.length)
    (linked : r'.link world' name = some connection) :
    r.link world name = some connection ∧ closes name = false := by
  rw [relinks.link] at linked
  split at linked
  · cases linked
    exact absurd old (Nat.lt_irrefl _)
  · split at linked
    · cases linked
    · rename_i still
      exact ⟨linked, Bool.eq_false_iff.mpr still⟩

/-- An endpoint that is not closed keeps its connection. -/
lemma link_kept {connects : Option (String × Target)} {closes : String → Bool}
    (relinks : Relinks connects closes r world r' world') {connection : Nat}
    (linked : r.link world name = some connection) (still : closes name = false) :
    r'.link world' name = some connection := by
  have other : connects.any (·.1 = name) = false := by
    cases eq : connects with
    | none => rfl
    | some opened =>
      refine decide_eq_false fun same => ?_
      subst same
      cases (relinks.unlinked eq).symm.trans linked
  rw [relinks.link, other, still, linked]
  rfl

/-- When an endpoint is closed, its connection is no endpoint's any more. -/
lemma gone {connects : Option (String × Target)} {closes : String → Bool}
    (relinks : Relinks connects closes r world r' world') (holds : r.Holds some start world)
    {connection : Nat} (linked : r.link world name = some connection)
    (closed : closes name = true) (other : String) : r'.link world' other ≠ some connection := by
  intro linked'
  obtain ⟨before, still⟩ := relinks.link_old (holds.link_lt linked) linked'
  rw [holds.link_inj before linked, closed] at still
  cases still

end Relinks

lemma connects?_enable {target : Target} (stream : target.scheme ≠ .udp) :
    (Change.enable name (.socket target) : Change ω).connects? (.ok ()) = some (name, target) := by
  rw [Change.connects?, Change.opens?, Change.name, if_pos rfl]
  exact if_neg stream

/-- Enables with anything but a stream connect nothing. -/
lemma connects?_enable_eq_none {argument : Argument}
    (other : ∀ target, argument = .socket target → target.scheme = .udp) :
    (Change.enable name argument : Change ω).connects? (.ok ()) = none := by
  rw [Change.connects?, Change.opens?, Change.name, if_pos rfl]
  cases argument with
  | socket target => exact if_pos (other target rfl)
  | _ => rfl

lemma closes_error (change : Change ω) (e : RegistryError) :
    (change.closes · (.error e)) = fun _ => false := by
  cases change with
  | setEnabled _ _ on => cases on <;> rfl
  | _ => rfl

/-- Every change relinks the endpoints in this way. -/
lemma Moves.relinks {change : Change Nat} {status : Status}
    (moves : r.Moves host some world change status r' world') (holds : r.Holds some start world)
    (offers : r.Offers some start world change) :
    Relinks (change.connects? status) (change.closes · status) r world r' world' := by
  have elsewhere : ∀ other ≠ change.name, r'.link world' other = r.link world other :=
    fun other ne => link_congr (moves.elsewhere holds ne).1 (moves.elsewhere holds ne).2
  induction moves with
  | @refused change e =>
    rw [closes_error]
    exact .idle rfl fun _ => rfl
  | @added name writer ownership _ free =>
    refine .idle rfl (link_same (link_eq_none free) ?_ elsewhere)
    obtain ⟨-, later, -, none⟩ := offers writer rfl
    rw [link_eq ((Table.find?_insert ..).trans (if_pos rfl))]
    exact Builtin.connection?_eq_none (holds.idle writer later none)
  | passed free => exact .closing rfl (link_eq_none free) fun _ _ => rfl
  | removed found =>
    refine .closing (congrArg _ (World.surroundings_shutAt world _)) ?_ elsewhere
    exact link_eq_none ((Table.find?_erase ..).trans (if_pos rfl))
  | tried kept _ => exact .idle kept fun _ => rfl
  | @opened name argument endpoint number writer s found off own opens _ =>
    cases own
    have lodges : r.Lodges some name endpoint endpoint.writer := ⟨found, rfl⟩
    have made := (holds.owned lodges).2.2
    have unlinked := holds.link_of_off found off
    have now : link { r with
          endpoints := r.endpoints.insert name (endpoint.opened argument)
          routes := r.routes.insert name endpoint.route }
        ({ world with surroundings := s }.setWriter endpoint.writer writer) name =
        writer.connection? := by
      rw [link_eq ((Table.find?_insert ..).trans (if_pos rfl))]
      exact congrArg Builtin.connection? (World.writer_setWriter made writer)
    cases opens with
    | duplicated _ _ kept =>
      rw [connects?_enable_eq_none fun _ eq => by cases eq]
      exact .idle kept (link_same unlinked now elsewhere)
    | connected _ stream more =>
      rw [connects?_enable stream]
      exact .connected more unlinked now elsewhere
    | bound _ udp kept =>
      rw [connects?_enable_eq_none fun target eq => by cases eq; exact udp]
      exact .idle kept (link_same unlinked now elsewhere)
  | openedOther _ other => cases other
  | @closed name endpoint found =>
    refine .closing (congrArg _ (World.surroundings_shutAt world _)) ?_ elsewhere
    rw [link_eq ((Table.find?_insert ..).trans (if_pos rfl))]
    exact Builtin.connection?_eq_none (World.isOpen_shut world endpoint.writer)
  | @enabling name argument status r' world' _ ih =>
    have relinks := ih offers elsewhere
    cases status <;> exact relinks
  | @disabling name argument status r' world' _ ih =>
    have relinks := ih offers elsewhere
    cases status <;> exact relinks

namespace Holds

lemma link_of_route (holds : r.Holds some start world) {entry : String × Route Nat}
    (mem : entry ∈ r.routes.entries) :
    r.link world entry.1 = (world.writer entry.2.writer).connection? := by
  obtain ⟨endpoint, found, -, eq⟩ := holds.find?_of_route mem
  rw [link_eq found, ← eq, Endpoint.route]

/-- A fan-out leaves the links and the connections as they are. -/
lemma fanOut_link (host : Host) (line : Bytes) (r : Registry Nat) (world : World) :
    (∀ name, (r.fanOut (builtins host) line world).2.1.link
        (r.fanOut (builtins host) line world).2.2 name = r.link world name) ∧
      (r.fanOut (builtins host) line world).2.2.surroundings.connections =
        world.surroundings.connections := by
  rw [fanOut_builtins]
  exact ⟨fun name => rfl, sendAll_connections host world.writer line r.routes.entries _ _⟩

/-- A line goes out once over each connection that an endpoint is linked to. -/
lemma received_fanOut (holds : r.Holds some start world) {connection : Nat}
    (linked : r.link world name = some connection) {line : Bytes} (nonempty : line ≠ []) :
    (r.fanOut (builtins host) line world).2.2.surroundings.received connection =
      world.surroundings.received connection ++ line := by
  obtain ⟨endpoint, found, link⟩ := exists_of_link linked
  have lodges : r.Lodges some name endpoint endpoint.writer := ⟨found, rfl⟩
  have on : endpoint.enabled = true := by
    rw [← holds.isOpen_eq lodges]
    by_contra off
    cases (Builtin.connection?_eq_none (Bool.eq_false_iff.mpr off)).symm.trans link
  have own : ∀ entry ∈ r.routes.entries,
      (world.writer entry.2.writer).connection? = some connection ↔ entry.1 = name := by
    intro entry mem
    rw [← holds.link_of_route mem]
    constructor
    · exact fun here => holds.link_inj here linked
    · rintro rfl
      exact linked
  have once : (r.routes.entries.countP fun entry =>
      (world.writer entry.2.writer).connection? = some connection) = 1 := by
    have routed : r.routes.contains name = true :=
      (holds.sound.isEnabled_eq found).trans on
    have same : (r.routes.entries.countP fun entry =>
          (world.writer entry.2.writer).connection? = some connection) =
        r.routes.entries.countP fun entry => entry.1 = name :=
      List.countP_congr fun entry mem => by simpa using own entry mem
    rw [same, countP_entries r.routes name, if_pos routed]
  rw [fanOut_builtins]
  refine (sendAll_observed (Builtin.received_tracks host connection) nonempty holds.routes_fit
    r.ledger).trans ?_
  rw [once]
  simp

/-- No line goes out over a connection that no endpoint is linked to. -/
lemma received_fanOut_unlinked (holds : r.Holds some start world) {connection : Nat}
    (unlinked : ∀ name, r.link world name ≠ some connection) {line : Bytes} (nonempty : line ≠ []) :
    (r.fanOut (builtins host) line world).2.2.surroundings.received connection =
      world.surroundings.received connection := by
  have never : (r.routes.entries.countP fun entry =>
      (world.writer entry.2.writer).connection? = some connection) = 0 := by
    refine List.countP_eq_zero.mpr fun entry mem => ?_
    rw [← holds.link_of_route mem]
    simpa using unlinked entry.1
  rw [fanOut_builtins]
  refine (sendAll_observed (Builtin.received_tracks host connection) nonempty holds.routes_fit
    r.ledger).trans ?_
  rw [never]
  simp

end Holds

end Registry
end LogFanout
