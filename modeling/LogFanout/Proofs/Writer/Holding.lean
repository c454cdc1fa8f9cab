import LogFanout.Proofs.Writer.Builtin

/-!
# What built-in writers hold

A built-in writer holds what it was opened with, until it is closed. `Builtin.Opens` lists all that
opening one can do. Writers of other kinds may stand beside the built-in ones: if they `Extend`
them, then the handles of built-in writers act on the world as these do, and all others leave it
alone.
-/

namespace LogFanout

open World (builtins)

namespace Builtin

/-- The argument that a writer was opened with, if it is open. -/
def holding : Builtin → Option Argument
  | .descriptor opened => opened.map .descriptor
  | .socket opened => opened.map fun link => .socket link.target

@[simp] lemma isSome_holding (writer : Builtin) : writer.holding.isSome = writer.isOpen := by
  rcases writer with ⟨_ | _⟩ | ⟨_ | _⟩ <;> rfl

lemma holding_eq_none {writer : Builtin} (shut : writer.isOpen = false) : writer.holding = none := by
  rw [← isSome_holding] at shut
  exact Option.isNone_iff_eq_none.mp (Option.isSome_eq_false_iff.mp shut)

/-- Closing a closed writer changes nothing. -/
lemma destroy_of_shut {writer : Builtin} (shut : writer.isOpen = false) :
    writer.destroy = writer := by
  rcases writer with ⟨_ | _⟩ | ⟨_ | _⟩
  · rfl
  · cases shut
  · rfl
  · cases shut

/-- The number of the connection that a writer has, if it has one. -/
def connection? : Builtin → Option Nat
  | .socket (some (.stream _ number)) => some number
  | _ => none

lemma connection?_eq_none {writer : Builtin} (shut : writer.isOpen = false) :
    writer.connection? = none := by
  rcases writer with ⟨_ | _⟩ | ⟨_ | _⟩
  · rfl
  · rfl
  · rfl
  · cases shut

/-- What a writer holds is of the right kind and still there. -/
inductive Fits (connections : List Connection) : Builtin → Prop where
  | shut {writer} :
    writer.isOpen = false →
    Fits connections writer
  | descriptor {number} :
    Fits connections (.descriptor (some number))
  | stream {target number} :
    target.scheme ≠ .udp →
    connections[number]? = some ⟨target, false⟩ →
    Fits connections (.socket (some (.stream target number)))
  | datagram {target} :
    target.scheme = .udp →
    Fits connections (.socket (some (.datagram target)))

/-- New connections do no harm to the old ones. -/
lemma Fits.mono {connections connections' : List Connection} {writer : Builtin}
    (fits : writer.Fits connections) (more : connections <+: connections') :
    writer.Fits connections' := by
  cases fits with
  | shut closed => exact .shut closed
  | descriptor => exact .descriptor
  | stream stream there =>
    obtain ⟨lt, eq⟩ := List.getElem?_eq_some_iff.mp there
    exact .stream stream (eq ▸ List.prefix_iff_getElem?.mp more _ lt)
  | datagram udp => exact .datagram udp

lemma Fits.connection_lt {connections : List Connection} {writer : Builtin} {number : Nat}
    (fits : writer.Fits connections) (linked : writer.connection? = some number) :
    number < connections.length := by
  cases fits with
  | shut closed => cases (connection?_eq_none closed).symm.trans linked
  | descriptor => cases linked
  | stream _ there =>
    cases linked
    exact (List.getElem?_eq_some_iff.mp there).1
  | datagram _ => cases linked

/-- What opening a writer on an argument can do: with which outcome, what the writer is then, and
what there is around it. -/
inductive Opens (host : Host) (writer : Builtin) (s : Surroundings) :
    Argument → Except InitFault Unit → Builtin → Surroundings → Prop where
  | failed {argument why s'} :
    s'.connections = s.connections →
    Opens host writer s argument (.error why) writer s'
  | duplicated {number s'} :
    0 ≤ number.toInt →
    host.duplicate s.attempts number = .ok () →
    s'.connections = s.connections →
    Opens host writer s (.descriptor number) (.ok ()) (.descriptor (some number)) s'
  | connected {target s'} :
    host.connect s.attempts target = .ok () →
    target.scheme ≠ .udp →
    s'.connections = s.connections ++ [⟨target, false⟩] →
    Opens host writer s (.socket target) (.ok ())
      (.socket (some (.stream target s.connections.length))) s'
  | bound {target s'} :
    host.connect s.attempts target = .ok () →
    target.scheme = .udp →
    s'.connections = s.connections →
    Opens host writer s (.socket target) (.ok ()) (.socket (some (.datagram target))) s'

variable {host : Host} {argument : Argument} {writer writer' : Builtin} {s s' : Surroundings}
  {outcome : Except InitFault Unit}

/-- A descriptor is duplicated, or nothing is done. -/
lemma duplicate_cases (host : Host) (number : Int32) (s : Surroundings) :
    (∃ why s', duplicate host number s = (.error why, s') ∧ s'.connections = s.connections) ∨
    (∃ s', duplicate host number s = (.ok (), s') ∧ 0 ≤ number.toInt ∧
      host.duplicate s.attempts number = .ok () ∧ s'.connections = s.connections) := by
  rw [duplicate]
  split
  · exact .inl ⟨_, _, rfl, rfl⟩
  · rename_i nonnegative
    cases eq : host.duplicate s.attempts number with
    | error why => exact .inl ⟨_, _, rfl, rfl⟩
    | ok done => exact .inr ⟨_, rfl, Int.not_lt.mp nonnegative, rfl, rfl⟩

/-- Connecting makes a connection, unless it fails or datagrams are sent. -/
lemma connect_cases (host : Host) (target : Target) (s : Surroundings) :
    (∃ why s', connect host target s = (.error why, s') ∧ s'.connections = s.connections) ∨
    (host.connect s.attempts target = .ok () ∧
      ((∃ s', connect host target s = (.ok (.stream target s.connections.length), s') ∧
        target.scheme ≠ .udp ∧ s'.connections = s.connections ++ [⟨target, false⟩]) ∨
      (∃ s', connect host target s = (.ok (.datagram target), s') ∧
        target.scheme = .udp ∧ s'.connections = s.connections))) := by
  simp only [connect]
  split
  · exact .inl ⟨_, _, rfl, rfl⟩
  · split
    · exact .inl ⟨_, _, rfl, rfl⟩
    · cases eq : host.connect s.attempts target with
      | error why => exact .inl ⟨_, _, rfl, rfl⟩
      | ok done =>
        by_cases udp : target.scheme = .udp
        · exact .inr ⟨rfl, .inr ⟨_, if_pos udp, udp, rfl⟩⟩
        · exact .inr ⟨rfl, .inl ⟨_, if_neg udp, udp, rfl⟩⟩

/-- Opening a writer does one of the things listed. -/
lemma init_opens (host : Host) (argument : Argument) (writer : Builtin) (s : Surroundings) :
    Opens host writer s argument (init host argument writer s).1 (init host argument writer s).2.1
      (init host argument writer s).2.2 := by
  unfold init
  split
  · rename_i number
    rcases duplicate_cases host number s with ⟨why, s', eq, kept⟩ |
      ⟨s', eq, nonnegative, duplicated, kept⟩ <;> rw [eq]
    · exact .failed kept
    · exact .duplicated nonnegative duplicated kept
  · rename_i target
    rcases connect_cases host target s with ⟨why, s', eq, kept⟩ |
      ⟨connected, ⟨s', eq, stream, more⟩ | ⟨s', eq, udp, kept⟩⟩ <;> rw [eq]
    · exact .failed kept
    · exact .connected connected stream more
    · exact .bound connected udp kept
  · exact .failed rfl

/-- A writer that was opened holds the argument. -/
lemma Opens.holding (opens : Opens host writer s argument (.ok ()) writer' s') :
    writer'.holding = some argument := by
  cases opens <;> rfl

/-- No connection goes when a writer is opened. -/
lemma Opens.connections (opens : Opens host writer s argument outcome writer' s') :
    s.connections <+: s'.connections := by
  cases opens with
  | failed kept => exact kept ▸ List.prefix_rfl
  | duplicated _ _ kept => exact kept ▸ List.prefix_rfl
  | connected _ _ more => exact ⟨_, more.symm⟩
  | bound _ _ kept => exact kept ▸ List.prefix_rfl

lemma Opens.fits (opens : Opens host writer s argument (.ok ()) writer' s') :
    writer'.Fits s'.connections := by
  cases opens with
  | duplicated _ _ _ => exact .descriptor
  | connected _ stream more => exact .stream stream (more ▸ List.getElem?_concat_length)
  | bound _ udp _ => exact .datagram udp

/-- The connection of a writer that was opened is a new one. -/
lemma Opens.le_connection {number : Nat}
    (opens : Opens host writer s argument (.ok ()) writer' s')
    (linked : writer'.connection? = some number) : s.connections.length ≤ number := by
  cases opens with
  | duplicated _ _ _ => cases linked
  | connected _ _ _ =>
    cases linked
    exact Nat.le_refl _
  | bound _ _ _ => cases linked

lemma write_connections (host : Host) (line : Bytes) (writer : Builtin) (s : Surroundings) :
    (write host line writer s).2.connections = s.connections := by
  unfold write
  split
  · rfl
  · split
    · rfl
    · split <;> rfl
  · rfl
  · split
    · rfl
    · split <;> rfl
  · split <;> rfl

end Builtin

namespace World

/-- A world in which a writer was closed. -/
def shut (world : World) (number : Nat) : World :=
  world.setWriter number (world.writer number).destroy

/-- A world in which a writer was closed, if the number is one of a writer. -/
def shutAt (world : World) : Option Nat → World
  | some number => world.shut number
  | none => world

/-- A world in which several writers were closed, one after the other. -/
def shutAll (world : World) (numbers : List Nat) : World :=
  numbers.foldl shut world

/-- No writer made since the world was `start` is open. -/
def Shut (start world : World) : Prop :=
  ∀ number, start.writers.length ≤ number → (world.writer number).isOpen = false

variable {world : World} {number : Nat}

lemma setWriter_self (world : World) (number : Nat) :
    world.setWriter number (world.writer number) = world := by
  rw [setWriter, writer, List.getD_eq_getElem?_getD]
  by_cases made : number < world.writers.length
  · rw [List.getElem?_eq_getElem made, Option.getD_some, List.set_getElem_self]
  · rw [List.set_eq_of_length_le (Nat.not_lt.mp made)]

/-- Opening a writer of a world changes that writer and what is around it, and sends nothing. -/
lemma init_opens (host : Host) (name : String) (number : Nat) (argument : Argument)
    (world : World) :
    ∃ writer s, Builtin.Opens host (world.writer number) world.surroundings argument
        ((builtins host).init name number argument world).1 writer s ∧
      world.surroundings.Silent s ∧
      ((builtins host).init name number argument world).2 =
        { world with surroundings := s }.setWriter number writer :=
  ⟨_, _, Builtin.init_opens host argument _ _, Builtin.init_silent host argument _ _, rfl⟩

/-- Closing a closed writer changes nothing. -/
lemma shut_of_shut (closed : (world.writer number).isOpen = false) :
    world.shut number = world := by
  rw [shut, Builtin.destroy_of_shut closed, setWriter_self]

lemma isOpen_shut (world : World) (number : Nat) :
    ((world.shut number).writer number).isOpen = false :=
  isOpen_setWriter world number (Builtin.isOpen_destroy _)

@[simp] lemma shut_shut (world : World) (number : Nat) :
    (world.shut number).shut number = world.shut number :=
  shut_of_shut (isOpen_shut world number)

lemma writer_shut_ne {other : Nat} (ne : other ≠ number) (world : World) :
    (world.shut number).writer other = world.writer other :=
  writer_setWriter_ne ne world _

@[simp] lemma shutAt_shutAt (world : World) (number? : Option Nat) :
    (world.shutAt number?).shutAt number? = world.shutAt number? := by
  cases number? with
  | none => rfl
  | some number => exact shut_shut world number

lemma shutAt_of_shut {number? : Option Nat}
    (closed : ∀ number, number? = some number → (world.writer number).isOpen = false) :
    world.shutAt number? = world := by
  cases number? with
  | none => rfl
  | some number => exact shut_of_shut (closed number rfl)

lemma writer_shutAt_ne {number? : Option Nat} {other : Nat} (ne : number? ≠ some other)
    (world : World) : (world.shutAt number?).writer other = world.writer other := by
  cases number? with
  | none => rfl
  | some number => exact writer_shut_ne (fun eq => ne (congrArg some eq.symm)) world

lemma isOpen_shutAt_self {number? : Option Nat} (own : number? = some number) (world : World) :
    ((world.shutAt number?).writer number).isOpen = false := by
  rw [own]
  exact isOpen_shut world number

@[simp] lemma length_shutAt (world : World) (number? : Option Nat) :
    (world.shutAt number?).writers.length = world.writers.length := by
  cases number? with
  | none => rfl
  | some number => exact length_setWriter world number _

@[simp] lemma surroundings_shutAt (world : World) (number? : Option Nat) :
    (world.shutAt number?).surroundings = world.surroundings := by
  cases number? <;> rfl

@[simp] lemma length_shutAll (world : World) (numbers : List Nat) :
    (world.shutAll numbers).writers.length = world.writers.length := by
  induction numbers generalizing world with
  | nil => rfl
  | cons number numbers ih => exact (ih _).trans (length_setWriter world number _)

@[simp] lemma surroundings_shutAll (world : World) (numbers : List Nat) :
    (world.shutAll numbers).surroundings = world.surroundings := by
  induction numbers generalizing world with
  | nil => rfl
  | cons number numbers ih => exact ih _

/-- Writers that are closed, or were among those that were closed, are closed. -/
lemma isOpen_shutAll {numbers : List Nat}
    (closed : number ∉ numbers → (world.writer number).isOpen = false) :
    ((world.shutAll numbers).writer number).isOpen = false := by
  induction numbers generalizing world with
  | nil => exact closed (List.not_mem_nil)
  | cons other numbers ih =>
    refine ih fun later => ?_
    by_cases eq : number = other
    · rw [eq]
      exact isOpen_shut world other
    · rw [writer_shut_ne eq]
      exact closed (List.not_mem_cons_of_ne_of_not_mem eq later)

end World

/-- Writers among which are the built-in ones. The handle of a built-in writer has a number, by
which it acts on a world that is part of the state; the other handles leave that world alone. -/
structure Writers.Extends {ω σ : Type} (w : Writers ω σ) (host : Host) (number? : ω → Option Nat)
    (world : σ → World) : Prop where
  create : ∀ transport s,
    number? (w.create transport s).1 = some (world s).writers.length ∧
      world (w.create transport s).2 = ((builtins host).create transport (world s)).2
  init : ∀ {writer number}, number? writer = some number → ∀ name argument s,
    (w.init name writer argument s).1 =
        ((builtins host).init name number argument (world s)).1 ∧
      world (w.init name writer argument s).2 =
        ((builtins host).init name number argument (world s)).2
  initOther : ∀ {writer}, number? writer = none → ∀ name argument s,
    world (w.init name writer argument s).2 = world s
  write : ∀ {writer number}, number? writer = some number → ∀ situation line s,
    world (w.write situation writer line s).2 =
      ((builtins host).write situation number line (world s)).2
  writeOther : ∀ {writer}, number? writer = none → ∀ situation line s,
    world (w.write situation writer line s).2 = world s
  destroy : ∀ name writer s, world (w.destroy name writer s) = (world s).shutAt (number? writer)
  release : ∀ writer s, world (w.release writer s) = (world s).shutAt (number? writer)

/-- The built-in writers by themselves. -/
lemma World.builtins_extends (host : Host) : (builtins host).Extends host some id where
  create _ _ := ⟨rfl, rfl⟩
  init own _ _ _ := by
    cases own
    exact ⟨rfl, rfl⟩
  initOther none := by cases none
  write own _ _ _ := by
    cases own
    rfl
  writeOther none := by cases none
  destroy _ _ _ := rfl
  release _ _ := rfl

/-- The built-in writers beside those of another family. -/
lemma Writers.both_extends {ω σ : Type} (host : Host) (others : Writers ω σ) :
    (Writers.both (builtins host) others).Extends host Sum.getLeft? Prod.fst where
  create _ _ := ⟨rfl, rfl⟩
  init {writer _} own _ _ _ := by
    rcases writer with number | writer
    · cases own
      exact ⟨rfl, rfl⟩
    · cases own
  initOther {writer} none _ _ _ := by
    rcases writer with number | writer
    · cases none
    · rfl
  write {writer _} own _ _ _ := by
    rcases writer with number | writer
    · cases own
      rfl
    · cases own
  writeOther {writer} none _ _ _ := by
    rcases writer with number | writer
    · cases none
    · rfl
  destroy _ writer _ := by
    rcases writer with number | writer <;> rfl
  release writer _ := by
    rcases writer with number | writer <;> rfl

end LogFanout
