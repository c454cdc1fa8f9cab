import LogFanout.Registry.Basic
import LogFanout.Writer.Builtin
import Mathlib.Tactic.Lemma

/-!
# Built-in writers and their world

What opening, closing and letting go of one built-in writer leaves alone: all other writers, and all
that was ever sent. Closing endpoints closes their writers and no other ones
(`World.closeAll_builtins`).
-/

namespace LogFanout

/-- Nothing was sent in between. -/
structure Surroundings.Silent (before after : Surroundings) : Prop where
  written : after.written = before.written
  streamed : after.streamed = before.streamed
  datagrams : after.datagrams = before.datagrams

lemma Surroundings.Silent.refl (s : Surroundings) : s.Silent s :=
  ⟨rfl, rfl, rfl⟩

lemma Surroundings.Silent.trans {s₁ s₂ s₃ : Surroundings} (first : s₁.Silent s₂)
    (second : s₂.Silent s₃) : s₁.Silent s₃ where
  written := second.written.trans first.written
  streamed := second.streamed.trans first.streamed
  datagrams := second.datagrams.trans first.datagrams

namespace Builtin

lemma duplicate_silent (host : Host) (number : Int32) (s : Surroundings) :
    s.Silent (duplicate host number s).2 := by
  rw [duplicate]
  split
  · exact .refl s
  · exact ⟨rfl, rfl, rfl⟩

/-- Connecting sends nothing. -/
lemma connect_silent (host : Host) (target : Target) (s : Surroundings) :
    s.Silent (connect host target s).2 := by
  simp only [connect]
  split
  · exact .refl s
  · split
    · exact .refl s
    · split
      · exact ⟨rfl, rfl, rfl⟩
      · split <;> exact ⟨rfl, rfl, rfl⟩

/-- Opening a writer sends nothing. -/
lemma init_silent (host : Host) (argument : Argument) (writer : Builtin) (s : Surroundings) :
    s.Silent (init host argument writer s).2.2 := by
  have duplicated := duplicate_silent host
  have connected := connect_silent host
  unfold init
  split
  · rename_i number
    have silent := duplicated number s
    split <;> rename_i eq <;> rw [eq] at silent <;> exact silent
  · rename_i target
    have silent := connected target s
    split <;> rename_i eq <;> rw [eq] at silent <;> exact silent
  · exact .refl s

/-- A writer that could not be opened is what it was. -/
lemma init_error {host : Host} {argument : Argument} {writer : Builtin} {s : Surroundings}
    {why : InitFault} (failed : (init host argument writer s).1 = .error why) :
    (init host argument writer s).2.1 = writer := by
  unfold init at failed ⊢
  split
  · split
    · rename_i eq
      simp only [eq] at failed
      cases failed
    · rfl
  · split
    · rename_i eq
      simp only [eq] at failed
      cases failed
    · rfl
  · rfl

lemma init_descriptor (host : Host) {number : Int32} (nonnegative : 0 ≤ number.toInt)
    (opened : Option Int32) (s : Surroundings) :
    (init host (.descriptor number) (.descriptor opened) s).1 =
      (host.duplicate s.attempts number).mapError (.notDuplicated number) := by
  simp only [init, duplicate, if_neg (Int.not_lt.mpr nonnegative)]
  cases host.duplicate s.attempts number <;> rfl

lemma init_socket (host : Host) (target : Target) (opened : Option Link) (s : Surroundings) :
    (init host (.socket target) (.socket opened) s).1 =
      ((connect host target s).1.map fun _ => ()).mapError (.notConnected target) := by
  rw [init]
  rcases connect host target s with ⟨fault | link, s'⟩ <;> rfl

@[simp] lemma isOpen_destroy (writer : Builtin) : writer.destroy.isOpen = false := by
  cases writer <;> rfl

@[simp] lemma isOpen_ofTransport (transport : Transport) :
    (ofTransport transport).isOpen = false := by
  cases transport <;> rfl

end Builtin

namespace World

variable (host : Host)

@[simp] lemma length_setWriter (world : World) (number : Nat) (writer : Builtin) :
    (world.setWriter number writer).writers.length = world.writers.length := by
  simp [setWriter]

lemma writer_setWriter_ne {number other : Nat} (ne : other ≠ number) (world : World)
    (writer : Builtin) : (world.setWriter number writer).writer other = world.writer other := by
  simp [setWriter, World.writer, List.getElem?_set_ne (Ne.symm ne)]

lemma writer_setWriter {number : Nat} {world : World} (made : number < world.writers.length)
    (writer : Builtin) : (world.setWriter number writer).writer number = writer := by
  simp [setWriter, World.writer, made]

/-- A writer that was never made is closed. -/
lemma isOpen_unmade {world : World} {number : Nat} (unmade : world.writers.length ≤ number) :
    (world.writer number).isOpen = false := by
  simp [World.writer, List.getElem?_eq_none unmade, Builtin.isOpen]

/-- A writer is closed once it was closed, whether or not it was ever made. -/
lemma isOpen_setWriter (world : World) (number : Nat) {writer : Builtin}
    (closed : writer.isOpen = false) :
    ((world.setWriter number writer).writer number).isOpen = false := by
  by_cases made : number < world.writers.length
  · rw [writer_setWriter made, closed]
  · apply isOpen_unmade
    rw [length_setWriter]
    exact Nat.not_lt.mp made

/-- The writers that are there stay what they are when a new one is made. -/
lemma writer_create (transport : Transport) (world : World) {number : Nat}
    (ne : number ≠ world.writers.length) :
    ((builtins host).create transport world).2.writer number = world.writer number := by
  simp only [builtins, World.writer, List.getD_eq_getElem?_getD, List.getElem?_append]
  split
  · rfl
  · rename_i beyond
    have last : number - world.writers.length ≠ 0 := by omega
    rw [List.getElem?_eq_none (Nat.not_lt.mp beyond), List.getElem?_singleton, if_neg last]

/-- A new writer is closed. -/
lemma writer_create_self (transport : Transport) (world : World) :
    ((builtins host).create transport world).2.writer world.writers.length =
      .ofTransport transport := by
  simp [builtins, World.writer]

lemma length_create (transport : Transport) (world : World) :
    ((builtins host).create transport world).2.writers.length = world.writers.length + 1 := by
  simp [builtins]

/-- Opening a writer leaves the other ones alone and sends nothing; if it fails, then the writer is
what it was. -/
lemma init_builtins (name : String) (number : Nat) (argument : Argument) (world : World) :
    let opened := (builtins host).init name number argument world
    opened.2.writers.length = world.writers.length ∧
    (∀ other ≠ number, opened.2.writer other = world.writer other) ∧
    (∀ why, opened.1 = .error why → opened.2.writer number = world.writer number) ∧
    world.surroundings.Silent opened.2.surroundings := by
  refine ⟨length_setWriter _ _ _, fun other ne => writer_setWriter_ne ne _ _, fun why failed => ?_,
    Builtin.init_silent host argument _ _⟩
  simp only [builtins] at failed ⊢
  rw [Builtin.init_error failed]
  by_cases made : number < world.writers.length
  · exact writer_setWriter made _
  · simp [setWriter, World.writer, made]

/-- Closing an endpoint and letting go of its writer closes the writer and nothing else. -/
lemma close_letGo_builtins (name : String) {endpoint : Endpoint Nat}
    (owned : endpoint.ownership = .owned) (routes : Table (Route Nat)) (world : World) :
    let closed := Registry.close (builtins host) name endpoint routes world
    let after := Registry.letGo (builtins host) closed.1.ownership closed.1.writer closed.2.2
    after.surroundings = world.surroundings ∧
    after.writers.length = world.writers.length ∧
    (∀ number, number ≠ endpoint.writer → after.writer number = world.writer number) ∧
    (after.writer endpoint.writer).isOpen = false := by
  rw [Registry.close]
  split
  · simp only [Endpoint.closed, owned, Registry.letGo, builtins]
    refine ⟨rfl, by simp, fun number ne => ?_, isOpen_setWriter _ _ (Builtin.isOpen_destroy _)⟩
    rw [writer_setWriter_ne ne, writer_setWriter_ne ne]
  · simp only [owned, Registry.letGo, builtins]
    refine ⟨rfl, by simp, fun number ne => ?_, isOpen_setWriter _ _ (Builtin.isOpen_destroy _)⟩
    rw [writer_setWriter_ne ne]

/-- Closing endpoints that are owned closes their writers, and leaves all else as it is. -/
lemma closeAll_builtins {entries : List (String × Endpoint Nat)}
    (owned : ∀ entry ∈ entries, entry.2.ownership = .owned) (routes : Table (Route Nat))
    (world : World) :
    let closed := (Registry.closeAll (builtins host) entries routes world).2
    closed.surroundings = world.surroundings ∧
    closed.writers.length = world.writers.length ∧
    (∀ number, (∀ entry ∈ entries, entry.2.writer ≠ number) →
      closed.writer number = world.writer number) ∧
    (∀ number, (world.writer number).isOpen = false → (closed.writer number).isOpen = false) ∧
    ∀ entry ∈ entries, (closed.writer entry.2.writer).isOpen = false := by
  -- Endpoints may share a writer: that closed ones stay closed carries the last part through.
  induction entries generalizing routes world with
  | nil =>
    exact ⟨rfl, rfl, fun _ _ => rfl, fun _ closed => closed, fun entry mem => by cases mem⟩
  | cons entry entries ih =>
    obtain ⟨name, endpoint⟩ := entry
    obtain ⟨here, rest⟩ := List.forall_mem_cons.mp owned
    obtain ⟨surroundings, length, others, own⟩ :=
      close_letGo_builtins host name here routes world
    obtain ⟨surroundings', length', others', stay, closed⟩ := ih rest
      (Registry.close (builtins host) name endpoint routes world).2.1
      (Registry.letGo (builtins host)
        (Registry.close (builtins host) name endpoint routes world).1.ownership
        (Registry.close (builtins host) name endpoint routes world).1.writer
        (Registry.close (builtins host) name endpoint routes world).2.2)
    refine ⟨surroundings'.trans surroundings, length'.trans length, fun number none => ?_,
      fun number off => ?_, fun entry mem => ?_⟩
    · obtain ⟨ne, none⟩ := List.forall_mem_cons.mp none
      exact (others' number none).trans (others number (Ne.symm ne))
    · apply stay
      by_cases eq : number = endpoint.writer
      · rw [eq]
        exact own
      · rw [others number eq]
        exact off
    · rcases List.mem_cons.mp mem with rfl | mem
      · exact stay _ own
      · exact closed entry mem

end World

end LogFanout
