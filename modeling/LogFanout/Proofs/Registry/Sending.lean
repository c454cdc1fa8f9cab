import LogFanout.Proofs.Registry.Holding

/-!
# What a fan-out sends

Built-in writers send out no lines of their own, so a fan-out over them is a single pass over the
routes (`fanOut_builtins`). What it sends to a descriptor, to a target or over a connection is the
line, once for each writer that sends there (`Tracks`), and what it counts for an endpoint is told
by the argument that the endpoint is enabled with (`views_fanOut`).
-/

namespace LogFanout

open World (builtins)

/-- Whether what an argument names takes a line. -/
def Host.takes (host : Host) (line : Bytes) : Argument → Bool
  | .descriptor number => (host.append number).isOk
  | .socket target => target.scheme ≠ .udp ∨ line.length ≤ maxDatagram
  | _ => false

namespace Counters

/-- Counts a write of `length` bytes that succeeded or not. -/
def after (counters : Counters) (length : Nat) (ok : Bool) : Counters :=
  if ok then counters.delivered length else counters.refused

lemma count_eq_after (counters : Counters) (length : Nat) (outcome : Except WriteFault Unit) :
    counters.count length outcome = counters.after length outcome.isOk := by
  cases outcome <;> rfl

end Counters

/-- The datagrams sent to a target. -/
def Surroundings.datagramsTo (s : Surroundings) (target : Target) : List Bytes :=
  (s.datagrams.filter (·.1 = target)).map (·.2)

namespace Builtin

/-- What writing a line that is not empty can do: with which outcome, and what was sent then. -/
inductive Writes (host : Host) (line : Bytes) (s : Surroundings) :
    Builtin → Except WriteFault Unit → Surroundings → Prop where
  | shut {writer why} :
    writer.isOpen = false →
    Writes host line s writer (.error why) s
  | appended {number} :
    host.append number = .ok () →
    Writes host line s (.descriptor (some number)) (.ok ()) (s.write number line)
  | refused {number fault why} :
    host.append number = .error fault →
    Writes host line s (.descriptor (some number)) (.error why) s
  | streamed {target number} :
    target.scheme ≠ .udp →
    Writes host line s (.socket (some (.stream target number))) (.ok ()) (s.stream number line)
  | sent {target} :
    target.scheme = .udp →
    line.length ≤ maxDatagram →
    Writes host line s (.socket (some (.datagram target))) (.ok ()) (s.send target line)
  | tooLong {target why} :
    target.scheme = .udp →
    maxDatagram < line.length →
    Writes host line s (.socket (some (.datagram target))) (.error why) s

variable {host : Host} {line : Bytes} {writer : Builtin} {s s' : Surroundings}
  {outcome : Except WriteFault Unit}

/-- Writing a line does one of the things listed. -/
lemma write_writes (host : Host) (nonempty : line ≠ []) (fits : writer.Fits s.connections) :
    Writes host line s writer (write host line writer s).1 (write host line writer s).2 := by
  cases fits with
  | shut closed =>
    rcases writer with ⟨_ | _⟩ | ⟨_ | _⟩
    · exact .shut rfl
    · cases closed
    · exact .shut rfl
    · cases closed
  | @descriptor number =>
    simp only [write, if_neg nonempty]
    cases eq : host.append number with
    | ok done => exact .appended eq
    | error fault => exact .refused eq
  | stream stream there =>
    simp only [write, if_neg nonempty, there, Option.any_some, Bool.false_eq_true, if_false]
    exact .streamed stream
  | datagram udp =>
    simp only [write]
    split
    · rename_i long
      exact .tooLong udp long
    · rename_i short
      exact .sent udp (Nat.not_lt.mp short)

lemma Writes.connections (writes : Writes host line s writer outcome s') :
    s'.connections = s.connections := by
  cases writes <;> rfl

/-- A write succeeds exactly if the line is taken by what the writer holds. -/
lemma Writes.isOk_eq (writes : Writes host line s writer outcome s') :
    outcome.isOk = writer.holding.any (host.takes line) := by
  cases writes with
  | shut closed =>
    rw [holding_eq_none closed]
    rfl
  | appended taken =>
    simp only [holding, Option.map_some, Option.any_some, Host.takes, taken]
    rfl
  | refused refused =>
    simp only [holding, Option.map_some, Option.any_some, Host.takes, refused]
    rfl
  | streamed stream => exact (decide_eq_true (.inl stream)).symm
  | sent _ short => exact (decide_eq_true (.inr short)).symm
  | tooLong udp long =>
    exact (decide_eq_false (not_or_intro (not_not_intro udp) (Nat.not_le.mpr long))).symm

end Builtin

/-- What is observed grows by the gain of a line whenever a writer that counts writes the line, and
it changes by nothing else. -/
structure Tracks {α : Type} (host : Host) (observe : Surroundings → List α)
    (counts : Builtin → Bool) (gain : Bytes → List α) : Prop where
  write : ∀ {line writer outcome s s'}, Builtin.Writes host line s writer outcome s' →
    observe s' = observe s ++ if counts writer then gain line else []
  silent : ∀ {s s' : Surroundings}, s.Silent s' → observe s' = observe s

namespace Builtin

variable (host : Host)

lemma content_tracks (number : Int32) :
    Tracks host (Surroundings.content · number)
      (fun writer => writer.holding = some (.descriptor number))
      (fun line => if (host.append number).isOk then line else []) where
  write writes := by
    cases writes with
    | shut closed => simp [holding_eq_none closed]
    | @appended other taken =>
      by_cases eq : other = number
      · simp [Surroundings.content, Surroundings.write, holding, eq, eq ▸ taken, Except.isOk,
          Except.toBool]
      · simp [Surroundings.content, Surroundings.write, holding, eq]
    | @refused other _ _ refused =>
      by_cases eq : other = number
      · simp [holding, eq, eq ▸ refused, Except.isOk, Except.toBool]
      · simp [holding, eq]
    | streamed _ => simp [Surroundings.content, Surroundings.stream, holding]
    | sent _ _ => simp [Surroundings.content, Surroundings.send, holding]
    | tooLong _ _ => simp [holding]
  silent silent := by
    simp only [Surroundings.content, silent.written]

lemma received_tracks (connection : Nat) :
    Tracks host (Surroundings.received · connection)
      (fun writer => writer.connection? = some connection) id where
  write writes := by
    cases writes with
    | shut closed => simp [connection?_eq_none closed]
    | appended _ => simp [Surroundings.received, Surroundings.write, connection?]
    | refused _ => simp [connection?]
    | @streamed _ other _ =>
      by_cases eq : other = connection
      · simp [Surroundings.received, Surroundings.stream, connection?, eq]
      · simp [Surroundings.received, Surroundings.stream, connection?, eq]
    | sent _ _ => simp [Surroundings.received, Surroundings.send, connection?]
    | tooLong _ _ => simp [connection?]
  silent silent := by
    simp only [Surroundings.received, silent.streamed]

lemma datagrams_tracks (target : Target) :
    Tracks host (Surroundings.datagramsTo · target)
      (fun writer => writer.holding = some (.socket target))
      (fun line => if target.scheme = .udp ∧ line.length ≤ maxDatagram then [line] else []) where
  write writes := by
    cases writes with
    | shut closed => simp [holding_eq_none closed]
    | appended _ => simp [Surroundings.datagramsTo, Surroundings.write, holding]
    | refused _ => simp [holding]
    | @streamed other _ stream =>
      by_cases eq : other = target
      · simp [Surroundings.datagramsTo, Surroundings.stream, eq ▸ stream]
      · simp [Surroundings.datagramsTo, Surroundings.stream, holding, Link.target, eq]
    | @sent other udp short =>
      by_cases eq : other = target
      · simp [Surroundings.datagramsTo, Surroundings.send, holding, Link.target, eq, eq ▸ udp, short]
      · simp [Surroundings.datagramsTo, Surroundings.send, holding, Link.target, eq]
    | @tooLong _ _ _ long => simp [holding, Nat.not_le.mpr long]
  silent silent := by
    simp only [Surroundings.datagramsTo, silent.datagrams]

end Builtin

namespace Registry

/-- Writes a line on routes, one after the other, with writers that are looked up by their number
and send out no lines of their own. -/
def sendAll (host : Host) (writer : Nat → Builtin) (line : Bytes) :
    List (String × Route Nat) → Ledger → Surroundings → Ledger × Surroundings
  | [], ledger, s => (ledger, s)
  | (_, route) :: routes, ledger, s =>
    let (outcome, s) := (writer route.writer).write host line s
    sendAll host writer line routes
      (ledger.modify route.page fun counters => counters.count line.length outcome) s

/-- Whatever would be done with lines that writers send out, built-in writers send out none. -/
lemma deliver_builtins (host : Host) (names : List String)
    (relay : List Nat → Bytes → Ledger → World → Nat × Ledger × World) (busy : List Nat)
    (line : Bytes) (routes : List (String × Route Nat)) (ledger : Ledger) (world : World) :
    (deliver (builtins host) names relay busy line routes ledger world).2 =
      ((sendAll host world.writer line routes ledger world.surroundings).1,
        { world with
          surroundings := (sendAll host world.writer line routes ledger world.surroundings).2 }) := by
  induction routes generalizing ledger world with
  | nil => rfl
  | cons entry routes ih =>
    have one : writeRoute (builtins host) names relay busy line entry.1 entry.2 ledger world =
        (((world.writer entry.2.writer).write host line world.surroundings).1,
          ledger.modify entry.2.page fun counters => counters.count line.length
            ((world.writer entry.2.writer).write host line world.surroundings).1,
          { world with surroundings :=
            ((world.writer entry.2.writer).write host line world.surroundings).2 }) := by
      simp only [writeRoute, builtins, Written.sent, ite_self]
    simp only [deliver, one, ih]
    rfl

/-- A fan-out over built-in writers is a single pass over the routes. -/
lemma fanOut_builtins (host : Host) (line : Bytes) (r : Registry Nat) (world : World) :
    (r.fanOut (builtins host) line world).2 =
      ({ r with
          ledger := (sendAll host world.writer line r.routes.entries r.ledger
            world.surroundings).1 },
        { world with
          surroundings := (sendAll host world.writer line r.routes.entries r.ledger
            world.surroundings).2 }) := by
  have within : ∀ depth,
      (fanOutWithin (builtins host) r.routes.entries depth [] line r.ledger world).2 =
        ((sendAll host world.writer line r.routes.entries r.ledger world.surroundings).1,
          { world with
            surroundings := (sendAll host world.writer line r.routes.entries r.ledger
              world.surroundings).2 }) := by
    intro depth
    cases depth with
    | zero => exact deliver_builtins host _ _ [] line r.routes.entries r.ledger world
    | succ depth => exact deliver_builtins host _ _ [] line r.routes.entries r.ledger world
  simp only [fanOut, within]

variable {host : Host} {line : Bytes} {writer : Nat → Builtin}
  {routes : List (String × Route Nat)} {s : Surroundings}

lemma sendAll_connections (host : Host) (writer : Nat → Builtin) (line : Bytes)
    (routes : List (String × Route Nat)) (ledger : Ledger) (s : Surroundings) :
    (sendAll host writer line routes ledger s).2.connections = s.connections := by
  induction routes generalizing ledger s with
  | nil => rfl
  | cons entry routes ih => exact (ih _ _).trans (Builtin.write_connections host line _ s)

/-- What is observed grows by the gain of the line for each route whose writer counts. -/
lemma sendAll_observed {α : Type} {observe : Surroundings → List α} {counts : Builtin → Bool}
    {gain : Bytes → List α} (tracks : Tracks host observe counts gain) (nonempty : line ≠ [])
    (fits : ∀ entry ∈ routes, (writer entry.2.writer).Fits s.connections) (ledger : Ledger) :
    observe (sendAll host writer line routes ledger s).2 =
      observe s ++ (List.replicate (routes.countP fun entry => counts (writer entry.2.writer))
        (gain line)).flatten := by
  induction routes generalizing ledger s with
  | nil => simp [sendAll]
  | cons entry routes ih =>
    obtain ⟨first, rest⟩ := List.forall_mem_cons.mp fits
    have writes := Builtin.write_writes host nonempty first
    rw [sendAll, ih (fun entry mem => writes.connections ▸ rest entry mem), tracks.write writes,
      List.append_assoc, List.countP_cons]
    cases counts (writer entry.2.writer) with
    | true => simp [List.replicate_succ]
    | false => simp

/-- What is counted on the pages of the routes, if each has its own. -/
lemma sendAll_page (host : Host) (nonempty : line ≠ [])
    (fits : ∀ entry ∈ routes, (writer entry.2.writer).Fits s.connections) {ledger : Ledger}
    (begun : ∀ entry ∈ routes, entry.2.page < ledger.next)
    (apart : routes.Pairwise fun entry other => entry.2.page ≠ other.2.page) :
    (∀ entry ∈ routes, (sendAll host writer line routes ledger s).1.page entry.2.page =
      (ledger.page entry.2.page).after line.length
        ((writer entry.2.writer).holding.any (host.takes line))) ∧
    (∀ number, (∀ entry ∈ routes, entry.2.page ≠ number) →
      (sendAll host writer line routes ledger s).1.page number = ledger.page number) := by
  induction routes generalizing ledger s with
  | nil => exact ⟨List.forall_mem_nil _, fun _ _ => rfl⟩
  | cons first routes ih =>
    obtain ⟨fitsFirst, fits⟩ := List.forall_mem_cons.mp fits
    obtain ⟨begunFirst, begun⟩ := List.forall_mem_cons.mp begun
    obtain ⟨apartFirst, apart⟩ := List.pairwise_cons.mp apart
    have writes := Builtin.write_writes host nonempty fitsFirst
    let counted := ledger.modify first.2.page fun counters =>
      counters.count line.length ((writer first.2.writer).write host line s).1
    have other : ∀ {number}, number ≠ first.2.page → counted.page number = ledger.page number :=
      fun ne => (Ledger.page_modify begunFirst ..).trans (if_neg ne)
    have own : counted.page first.2.page = (ledger.page first.2.page).after line.length
        ((writer first.2.writer).holding.any (host.takes line)) := by
      rw [← writes.isOk_eq, ← Counters.count_eq_after]
      exact (Ledger.page_modify begunFirst ..).trans (if_pos rfl)
    obtain ⟨listed, unlisted⟩ := ih (fun entry mem => writes.connections ▸ fits entry mem)
      (fun entry mem => (Ledger.next_modify ledger _ _).symm ▸ begun entry mem) apart
    refine ⟨fun entry mem => ?_, fun number none => ?_⟩
    · rcases List.mem_cons.mp mem with rfl | mem
      · exact (unlisted _ fun entry mem => (apartFirst entry mem).symm).trans own
      · rw [← other (apartFirst entry mem).symm]
        exact listed entry mem
    · obtain ⟨here, none⟩ := List.forall_mem_cons.mp none
      exact (unlisted number none).trans (other here.symm)

/-- The number of endpoints that are enabled with an argument. -/
def enabledWith {ω : Type} (argument : Argument) (r : Registry ω) : Nat :=
  r.views.countP fun view => view.enabled ∧ view.argument = some argument

namespace Holds

variable {start world : World} {r : Registry Nat}

lemma find?_of_route (holds : r.Holds some start world) {entry : String × Route Nat}
    (mem : entry ∈ r.routes.entries) :
    ∃ endpoint, r.endpoints.find? entry.1 = some endpoint ∧ endpoint.enabled = true ∧
      endpoint.route = entry.2 :=
  holds.sound.find?_routes_iff.mp (Table.mem_entries_iff.mp mem)

lemma routes_fit (holds : r.Holds some start world) :
    ∀ entry ∈ r.routes.entries, (world.writer entry.2.writer).Fits world.surroundings.connections := by
  intro entry mem
  obtain ⟨endpoint, found, -, eq⟩ := holds.find?_of_route mem
  exact eq ▸ holds.fits ⟨found, rfl⟩

/-- As many routes have a writer that holds something as there are endpoints enabled with it. -/
lemma countP_holding (holds : r.Holds some start world) (argument : Argument) :
    (r.routes.entries.countP fun entry => (world.writer entry.2.writer).holding = some argument) =
      r.enabledWith argument := by
  rw [holds.sound.routes_entries, List.countP_map, List.countP_filter, enabledWith, views,
    List.countP_map]
  refine List.countP_congr fun entry mem => ?_
  have lodges : r.Lodges some entry.1 entry.2 entry.2.writer :=
    ⟨Table.mem_entries_iff.mp mem, rfl⟩
  have holding := holds.holding lodges
  simp [Endpoint.route, Endpoint.view, holding, and_comm]

/-- Of what is observed through the arguments of endpoints, a fan-out adds the gain of the line for
each endpoint that is enabled with the argument. -/
lemma fanOut_observed (holds : r.Holds some start world) {host : Host} {α : Type}
    {observe : Surroundings → List α} {argument : Argument} {gain : Bytes → List α}
    (tracks : Tracks host observe (fun writer => writer.holding = some argument) gain)
    {line : Bytes} (nonempty : line ≠ []) :
    observe (r.fanOut (builtins host) line world).2.2.surroundings =
      observe world.surroundings ++
        (List.replicate (r.enabledWith argument) (gain line)).flatten := by
  rw [fanOut_builtins, ← holds.countP_holding argument]
  exact sendAll_observed tracks nonempty holds.routes_fit r.ledger

end Holds

end Registry

/-- What can be seen of an endpoint after a line went out. -/
def EndpointView.after (host : Host) (line : Bytes) (view : EndpointView) : EndpointView :=
  match view.argument with
  | some argument =>
    { view with counters := view.counters.after line.length (host.takes line argument) }
  | none => view

namespace Registry

/-- A fan-out counts one write for every endpoint that is enabled, and changes nothing else that can
be seen. -/
lemma Holds.views_fanOut {start world : World} {r : Registry Nat} (holds : r.Holds some start world)
    (host : Host) {line : Bytes} (nonempty : line ≠ []) :
    (r.fanOut (builtins host) line world).2.1.views = r.views.map (EndpointView.after host line) := by
  have begun : ∀ entry ∈ r.routes.entries, entry.2.page < r.ledger.next := fun entry mem => by
    obtain ⟨endpoint, found, -, eq⟩ := holds.find?_of_route mem
    exact eq ▸ holds.sound.begun found
  have apart : r.routes.entries.Pairwise fun entry other => entry.2.page ≠ other.2.page := by
    refine r.routes.ascending.imp_of_mem fun {entry other} mem mem' lt eq => ?_
    obtain ⟨endpoint, found, -, same⟩ := holds.find?_of_route mem
    obtain ⟨endpoint', found', -, same'⟩ := holds.find?_of_route mem'
    rw [← same, ← same'] at eq
    exact String.lt_irrefl other.1 (holds.sound.paged found found' eq ▸ lt)
  obtain ⟨listed, unlisted⟩ := sendAll_page host nonempty holds.routes_fit begun apart
  rw [fanOut_builtins, views, views, List.map_map]
  refine List.map_congr_left fun (name, endpoint) mem => ?_
  have found := Table.mem_entries_iff.mp mem
  have argued := holds.sound.argued found
  cases argument : endpoint.argument with
  | none =>
    have other : ∀ entry ∈ r.routes.entries, entry.2.page ≠ endpoint.page := fun entry mem eq => by
      obtain ⟨endpoint', found', on, same⟩ := holds.find?_of_route mem
      have page : endpoint'.page = endpoint.page := (congrArg Route.page same).trans eq
      rw [holds.sound.paged found' found page] at found'
      cases found.symm.trans found'
      rw [argument, on] at argued
      cases argued
    simp only [Function.comp_apply, Endpoint.view, argument, EndpointView.after,
      unlisted endpoint.page other]
  | some argument' =>
    have on : endpoint.enabled = true := by rw [← argued, argument, Option.isSome_some]
    have routed : (name, endpoint.route) ∈ r.routes.entries :=
      Table.mem_entries_iff.mpr (holds.sound.find?_routes_iff.mpr ⟨endpoint, found, on, rfl⟩)
    have lodges : r.Lodges some name endpoint endpoint.writer := ⟨found, rfl⟩
    have holding := holds.holding lodges
    have counted := listed _ routed
    simp only [Endpoint.route, holding, argument, Option.any_some] at counted
    simp only [Function.comp_apply, Endpoint.view, argument, EndpointView.after, counted]

end Registry
end LogFanout
