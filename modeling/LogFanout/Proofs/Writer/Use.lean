import LogFanout.Proofs.Writer.Holding
import LogFanout.Writer.History

/-!
# Calls on a built-in writer

Each call on a writer does one of a few things (`World.use_used`): what an init and a write can do
depends on where the writer leads (`Builtin.sink?`) and on what is in the way there. A connection is
open as long as some writer has it (`World.Linked`), and no two writers ever have the same one
(`World.Orderly`).
-/

namespace LogFanout

/-- Where a writer puts its lines. -/
inductive Sink where
  | descriptor (number : Int32)
  | connection (number : Nat)
  | datagrams (target : Target)
  deriving DecidableEq

namespace Sink

/-- Where a writer leads that is opened on an argument after so many connections were made. -/
inductive Leads (made : Nat) : Argument → Sink → Prop where
  | descriptor {number} :
    Leads made (.descriptor number) (.descriptor number)
  | connection {target} :
    target.scheme ≠ .udp →
    Leads made (.socket target) (.connection made)
  | datagrams {target} :
    target.scheme = .udp →
    Leads made (.socket target) (.datagrams target)

/-- What is in the way of a line: a descriptor that refuses bytes, another side that has hung up, or
the limit of datagrams. -/
inductive Blocks (host : Host) (s : Surroundings) (line : Bytes) : Sink → Prop where
  | descriptor {number fault} :
    line ≠ [] →
    host.append number = .error fault →
    Blocks host s line (.descriptor number)
  | connection {number connection} :
    line ≠ [] →
    s.connections[number]? = some connection →
    connection.hungUp = true →
    Blocks host s line (.connection number)
  | datagrams {target} :
    maxDatagram < line.length →
    Blocks host s line (.datagrams target)

/-- The whole line went to the sink, and nothing went anywhere else. -/
structure Delivered (sink : Sink) (line : Bytes) (before after : Surroundings) : Prop where
  content : ∀ number, after.content number =
    before.content number ++ if sink = .descriptor number then line else []
  received : ∀ number, after.received number =
    before.received number ++ if sink = .connection number then line else []
  datagrams : after.datagrams = before.datagrams ++
    match sink with
    | .datagrams target => [(target, line)]
    | _ => []
  connections : after.connections = before.connections

lemma Leads.unique {made : Nat} {argument : Argument} {sink sink' : Sink}
    (leads : Leads made argument sink) (leads' : Leads made argument sink') : sink = sink' := by
  cases leads with
  | descriptor => cases leads'; rfl
  | connection stream =>
    cases leads' with
    | connection => rfl
    | datagrams udp => exact absurd udp stream
  | datagrams udp =>
    cases leads' with
    | connection stream => exact absurd udp stream
    | datagrams => rfl

end Sink

namespace Builtin

/-- Where a writer leads. -/
def sink? : Builtin → Option Sink
  | .descriptor none | .socket none => none
  | .descriptor (some number) => some (.descriptor number)
  | .socket (some (.stream _ number)) => some (.connection number)
  | .socket (some (.datagram target)) => some (.datagrams target)

lemma isSome_sink? (writer : Builtin) : writer.sink?.isSome = writer.isOpen := by
  rcases writer with ⟨_ | _⟩ | ⟨_ | _ | _⟩ <;> rfl

lemma sink?_eq_none {writer : Builtin} (shut : writer.isOpen = false) : writer.sink? = none := by
  rw [← isSome_sink?] at shut
  exact Option.isNone_iff_eq_none.mp (Option.isSome_eq_false_iff.mp shut)

lemma connection?_eq_some_iff {writer : Builtin} {number : Nat} :
    writer.connection? = some number ↔ writer.sink? = some (.connection number) := by
  rcases writer with ⟨_ | _⟩ | ⟨_ | _ | _⟩ <;> simp [connection?, sink?]

/-- An argument on which a writer of a kind can be opened. -/
inductive Admits (host : Host) (s : Surroundings) : Transport → Argument → Prop where
  | descriptor {number} :
    0 ≤ number.toInt →
    host.duplicate s.attempts number = .ok () →
    Admits host s .descriptor (.descriptor number)
  | socket {target link} :
    (connect host target s).1 = .ok link →
    Admits host s .socket (.socket target)

variable {host : Host} {argument : Argument} {writer writer' : Builtin} {s s' : Surroundings}
  {line : Bytes} {sink : Sink}

/-- A writer is opened exactly if it admits the argument. -/
lemma init_ok_iff :
    (init host argument writer s).1 = .ok () ↔ Admits host s writer.transport argument := by
  constructor
  · intro ok
    unfold init at ok
    split at ok
    · rename_i number
      rcases duplicate_cases host number s with ⟨why, s', eq, -⟩ | ⟨s', eq, nonnegative, done, -⟩
      · rw [eq] at ok
        cases ok
      · exact .descriptor nonnegative done
    · rename_i target
      rcases eq : connect host target s with ⟨why | link, s'⟩
      · rw [eq] at ok
        cases ok
      · exact .socket (congrArg Prod.fst eq)
    · cases ok
  · intro admits
    cases writer with
    | descriptor opened =>
      cases admits with
      | descriptor nonnegative done =>
        rw [init_descriptor host nonnegative, done]
        rfl
    | socket opened =>
      cases admits with
      | socket done =>
        rw [init_socket, done]
        rfl

lemma Opens.leads (opens : Opens host writer s argument (.ok ()) writer' s') :
    ∃ sink, sink.Leads s.connections.length argument ∧ writer'.sink? = some sink := by
  cases opens with
  | duplicated => exact ⟨_, .descriptor, rfl⟩
  | connected _ stream => exact ⟨_, .connection stream, rfl⟩
  | bound _ udp => exact ⟨_, .datagrams udp, rfl⟩

/-- An attempt that fails is counted and leaves nothing else behind. -/
lemma Opens.attempted {why : InitFault}
    (opens : Opens host writer s argument (.error why) writer' s') (silent : s.Silent s') :
    writer' = writer ∧ s' = { s with attempts := s'.attempts } := by
  cases opens with
  | failed kept =>
    obtain ⟨written, streamed, datagrams⟩ := silent
    refine ⟨rfl, ?_⟩
    rw [← written, ← streamed, ← datagrams, ← kept]

lemma delivered_descriptor (number : Int32) (s : Surroundings) (line : Bytes) :
    (Sink.descriptor number).Delivered line s (s.write number line) where
  content other := by
    by_cases same : number = other <;> simp [Surroundings.content, Surroundings.write, same]
  received other := by simp [Surroundings.received, Surroundings.write]
  datagrams := (List.append_nil _).symm
  connections := rfl

lemma delivered_connection (number : Nat) (s : Surroundings) (line : Bytes) :
    (Sink.connection number).Delivered line s (s.stream number line) where
  content other := by simp [Surroundings.content, Surroundings.stream]
  received other := by
    by_cases same : number = other <;> simp [Surroundings.received, Surroundings.stream, same]
  datagrams := (List.append_nil _).symm
  connections := rfl

lemma delivered_datagrams (target : Target) (s : Surroundings) (line : Bytes) :
    (Sink.datagrams target).Delivered line s (s.send target line) where
  content other := by simp [Surroundings.content, Surroundings.send]
  received other := by simp [Surroundings.received, Surroundings.send]
  datagrams := rfl
  connections := rfl

/-- Nothing of an empty line is seen at a descriptor or a connection. -/
lemma delivered_nothing (stream : ∀ target, sink ≠ .datagrams target) (s : Surroundings) :
    sink.Delivered [] s s where
  content other := by simp
  received other := by simp
  datagrams := by
    cases sink with
    | descriptor => simp
    | connection => simp
    | datagrams target => exact absurd rfl (stream target)
  connections := rfl

/-- A line is delivered where the writer leads, or the line is blocked there and nothing is done. -/
lemma write_cases (host : Host) (line : Bytes) (writer : Builtin) (s : Surroundings) :
    (∃ sink s', write host line writer s = (.ok (), s') ∧ writer.sink? = some sink ∧
      ¬sink.Blocks host s line ∧ sink.Delivered line s s') ∨
    ∃ why, write host line writer s = (.error why, s) ∧
      ∀ sink, writer.sink? = some sink → sink.Blocks host s line := by
  unfold write
  split
  · exact .inr ⟨_, rfl, nofun⟩
  · rename_i number
    split
    · rename_i empty
      subst empty
      refine .inl ⟨_, _, rfl, rfl, fun blocks => ?_, delivered_nothing (fun _ eq => by cases eq) s⟩
      cases blocks with
      | descriptor nonempty => exact nonempty rfl
    · rename_i nonempty
      cases takes : host.append number with
      | ok done =>
        refine .inl ⟨_, _, rfl, rfl, fun blocks => ?_, delivered_descriptor number s line⟩
        cases blocks with
        | descriptor _ refuses => cases takes.symm.trans refuses
      | error why =>
        refine .inr ⟨_, rfl, fun sink leads => ?_⟩
        cases leads
        exact .descriptor nonempty takes
  · exact .inr ⟨_, rfl, nofun⟩
  · rename_i target number
    split
    · rename_i empty
      subst empty
      refine .inl ⟨_, _, rfl, rfl, fun blocks => ?_, delivered_nothing (fun _ eq => by cases eq) s⟩
      cases blocks with
      | connection nonempty => exact nonempty rfl
    · rename_i nonempty
      split
      · rename_i gone
        obtain ⟨connection, there, hungUp⟩ := (Option.any_eq_true _ _).mp gone
        refine .inr ⟨_, rfl, fun sink leads => ?_⟩
        cases leads
        exact .connection nonempty there hungUp
      · rename_i there
        refine .inl ⟨_, _, rfl, rfl, fun blocks => ?_, delivered_connection number s line⟩
        cases blocks with
        | connection _ listed hungUp => exact there ((Option.any_eq_true _ _).mpr ⟨_, listed, hungUp⟩)
  · rename_i target
    split
    · rename_i long
      refine .inr ⟨_, rfl, fun sink leads => ?_⟩
      cases leads
      exact .datagrams long
    · rename_i short
      refine .inl ⟨_, _, rfl, rfl, fun blocks => ?_, delivered_datagrams target s line⟩
      cases blocks with
      | datagrams long => exact short long

end Builtin

namespace World

/-- A connection is open: some writer has it. -/
def Linked (world : World) (connection : Nat) : Prop :=
  ∃ number, (world.writer number).connection? = some connection

/-- What a call on a writer can do: with which answer, and what the world is then. -/
inductive Used (host : Host) (world : World) (number : Nat) :
    Builtin.Use → Option Builtin.Answer → World → Prop where
  | absent {use} :
    world.writers.length ≤ number →
    Used host world number use none world
  | opened {argument writer s} :
    number < world.writers.length →
    Builtin.Admits host world.surroundings (world.writer number).transport argument →
    Builtin.Opens host (world.writer number) world.surroundings argument (.ok ()) writer s →
    world.surroundings.Silent s →
    Used host world number (.init argument) (some (.opened (.ok ())))
      ({ world with surroundings := s }.setWriter number writer)
  | refused {argument why attempts} :
    number < world.writers.length →
    ¬Builtin.Admits host world.surroundings (world.writer number).transport argument →
    Used host world number (.init argument) (some (.opened (.error why)))
      { world with surroundings := { world.surroundings with attempts } }
  | delivered {line sink s} :
    number < world.writers.length →
    (world.writer number).sink? = some sink →
    ¬sink.Blocks host world.surroundings line →
    sink.Delivered line world.surroundings s →
    Used host world number (.write line) (some (.wrote (.ok ()))) { world with surroundings := s }
  | blocked {line why} :
    number < world.writers.length →
    (∀ sink, (world.writer number).sink? = some sink →
      sink.Blocks host world.surroundings line) →
    Used host world number (.write line) (some (.wrote (.error why))) world
  | destroyed :
    number < world.writers.length →
    Used host world number .destroy (some .destroyed) (world.shut number)

variable {host : Host} {world next : World} {number other : Nat} {use : Builtin.Use}
  {answer : Option Builtin.Answer}

lemma use_absent (absent : world.writers.length ≤ number) (use : Builtin.Use) :
    world.use host number use = (none, world) := by
  rw [World.use, List.getElem?_eq_none absent]

lemma use_made (made : number < world.writers.length) (use : Builtin.Use) :
    world.use host number use =
      let (answer, writer, surroundings) :=
        (world.writer number).use host use world.surroundings
      (some answer, { world with surroundings }.setWriter number writer) := by
  rw [World.use, World.writer, List.getD_eq_getElem?_getD, List.getElem?_eq_getElem made]
  rfl

lemma use_destroy (made : number < world.writers.length) :
    world.use host number .destroy = (some .destroyed, world.shut number) :=
  use_made made .destroy

/-- Putting a writer back in its own place changes nothing. -/
lemma setWriter_unchanged (world : World) (number : Nat) (s : Surroundings) :
    ({ world with surroundings := s } : World).setWriter number (world.writer number) =
      { world with surroundings := s } :=
  setWriter_self { world with surroundings := s } number

/-- A call does one of the things listed. -/
lemma use_used (host : Host) (world : World) (number : Nat) (use : Builtin.Use) :
    Used host world number use (world.use host number use).1 (world.use host number use).2 := by
  rcases Nat.lt_or_ge number world.writers.length with made | absent
  · rw [use_made made]
    cases use with
    | init argument =>
      have opens := Builtin.init_opens host argument (world.writer number) world.surroundings
      have silent := Builtin.init_silent host argument (world.writer number) world.surroundings
      have admits := @Builtin.init_ok_iff host argument (world.writer number) world.surroundings
      simp only [Builtin.use]
      generalize (world.writer number).init host argument world.surroundings = tried at *
      obtain ⟨why | ⟨⟨⟩⟩, writer, s⟩ := tried
      · obtain ⟨same, attempted⟩ := opens.attempted silent
        simp only at same attempted
        rw [same, attempted, setWriter_unchanged]
        exact .refused made fun admitted => by cases admits.mpr admitted
      · exact .opened made (admits.mp rfl) opens silent
    | write line =>
      simp only [Builtin.use]
      rcases Builtin.write_cases host line (world.writer number) world.surroundings with
        ⟨sink, s, eq, leads, free, delivered⟩ | ⟨why, eq, blocks⟩
      · rw [eq, setWriter_unchanged]
        exact .delivered made leads free delivered
      · rw [eq, setWriter_unchanged]
        exact .blocked made blocks
    | destroy => exact .destroyed made
  · rw [use_absent absent]
    exact .absent absent

/-- A writer that is not called stays what it is. -/
lemma Used.elsewhere (used : Used host world number use answer next) (ne : other ≠ number) :
    next.writer other = world.writer other := by
  cases used with
  | opened => exact writer_setWriter_ne ne _ _
  | destroyed => exact writer_shut_ne ne world
  | _ => rfl

lemma Used.opens {argument : Argument}
    (used : Used host world number (.init argument) (some (.opened (.ok ()))) next) :
    ∃ sink, sink.Leads world.surroundings.connections.length argument ∧
      (next.writer number).sink? = some sink := by
  cases used with
  | opened made _ opens =>
    obtain ⟨sink, leads, eq⟩ := opens.leads
    exact ⟨sink, leads, (congrArg _ (writer_setWriter made _)).trans eq⟩

lemma Used.shut (used : Used host world number .destroy answer next) :
    (next.writer number).isOpen = false := by
  cases used with
  | absent absent => exact isOpen_unmade absent
  | destroyed => exact isOpen_shut world number

/-- A writer that is neither closed nor opened with success stays what it is. -/
lemma Used.stays (used : Used host world number use answer next) (open' : use ≠ .destroy)
    (old : ∀ argument, use = .init argument → answer ≠ some (.opened (.ok ()))) :
    next.writer number = world.writer number := by
  cases used with
  | opened => exact absurd rfl (old _ rfl)
  | destroyed => exact absurd rfl open'
  | _ => rfl

lemma Used.length (used : Used host world number use answer next) :
    next.writers.length = world.writers.length := by
  cases used with
  | opened => exact length_setWriter _ number _
  | destroyed => exact length_setWriter world number _
  | _ => rfl

/-- Connections are made one after the other, and each of them belongs to one writer only. -/
structure Orderly (world : World) : Prop where
  made : ∀ {number connection}, (world.writer number).connection? = some connection →
    connection < world.surroundings.connections.length
  apart : ∀ {number other connection}, (world.writer number).connection? = some connection →
    (world.writer other).connection? = some connection → number = other

lemma orderly_empty (s : Surroundings) : Orderly ⟨s, []⟩ where
  made linked := by cases linked
  apart linked := by cases linked

namespace Orderly

/-- Worlds with the same connections and writers. -/
lemma congr (orderly : world.Orderly)
    (connections : next.surroundings.connections.length = world.surroundings.connections.length)
    (same : ∀ number connection, (next.writer number).connection? = some connection →
      (world.writer number).connection? = some connection) : next.Orderly where
  made linked := connections ▸ orderly.made (same _ _ linked)
  apart linked linked' := orderly.apart (same _ _ linked) (same _ _ linked')

lemma used (orderly : world.Orderly) (used : Used host world number use answer next) :
    next.Orderly := by
  have elsewhere : ∀ {other}, other ≠ number → next.writer other = world.writer other :=
    fun ne => used.elsewhere ne
  cases used with
  | absent => exact orderly
  | @opened argument writer s made _ opens =>
    have own : (({ world with surroundings := s } : World).setWriter number writer).writer number =
        writer := writer_setWriter made writer
    -- A connection of the writer that was opened is new, one of any other writer is old.
    have either : ∀ {other connection},
        ((({ world with surroundings := s } : World).setWriter number writer).writer
          other).connection? = some connection →
        other = number ∧ writer.connection? = some connection ∨
          other ≠ number ∧ (world.writer other).connection? = some connection := by
      intro other connection linked
      by_cases same : other = number
      · subst same
        rw [own] at linked
        exact .inl ⟨rfl, linked⟩
      · rw [elsewhere same] at linked
        exact .inr ⟨same, linked⟩
    have ne : ∀ {other connection}, writer.connection? = some connection →
        (world.writer other).connection? ≠ some connection := fun linked old =>
      Nat.not_lt.mpr (opens.le_connection linked) (orderly.made old)
    refine ⟨fun linked => ?_, fun linked linked' => ?_⟩
    · rcases either linked with ⟨-, new⟩ | ⟨-, old⟩
      · exact opens.fits.connection_lt new
      · exact Nat.lt_of_lt_of_le (orderly.made old) opens.connections.length_le
    · rcases either linked with ⟨rfl, new⟩ | ⟨-, old⟩
      · rcases either linked' with ⟨rfl, -⟩ | ⟨-, old⟩
        · rfl
        · exact absurd old (ne new)
      · rcases either linked' with ⟨rfl, new⟩ | ⟨-, old'⟩
        · exact absurd old (ne new)
        · exact orderly.apart old old'
  | refused => exact orderly.congr rfl fun _ _ linked => linked
  | delivered _ _ _ delivered =>
    exact orderly.congr (congrArg List.length delivered.connections) fun _ _ linked => linked
  | blocked => exact orderly
  | destroyed =>
    refine orderly.congr rfl fun other connection linked => ?_
    by_cases same : other = number
    · subst same
      cases (Builtin.connection?_eq_none (isOpen_shut world other)).symm.trans linked
    · rwa [writer_shut_ne same] at linked

/-- Whatever happens, connections stay in order. -/
lemma after (orderly : world.Orderly) (host : Host) (event : Event) :
    (world.after host event).Orderly := by
  cases event with
  | make transport =>
    refine orderly.congr rfl fun number connection linked => ?_
    by_cases new : number = world.writers.length
    · subst new
      have shut : ((world.after host (.make transport)).writer world.writers.length).isOpen = false :=
        (congrArg _ (writer_create_self host transport world)).trans (by simp)
      cases (Builtin.connection?_eq_none shut).symm.trans linked
    · exact (congrArg _ (writer_create host transport world new)).symm.trans linked
  | use number use => exact orderly.used (use_used host world number use)
  | hangUp target => exact orderly.congr (List.length_map _) fun _ _ linked => linked

lemma run (orderly : world.Orderly) (host : Host) (history : List Event) :
    (world.run host history).Orderly := by
  induction history generalizing world with
  | nil => exact orderly
  | cons event history ih => exact ih (orderly.after host event)

end Orderly

end World

end LogFanout
