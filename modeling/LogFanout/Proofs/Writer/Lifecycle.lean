import LogFanout.Proofs.Writer.Recorded
import Mathlib.Computability.Language

/-!
# The lifecycle of a writer

The words that describe what happens to a writer, letter by letter: those of `Lifecycle.closed` leave
it closed and those of `Lifecycle.opened` leave it open. No word does both
(`Lifecycle.not_mem_closed`), and in the former it is closed as often as it is opened.
-/

namespace LogFanout

/-- The letters of the words that describe what happens to a writer. -/
inductive Stroke where
  | initFailed
  | initOk
  | write
  | destroy
  deriving DecidableEq, Repr

/-- The letter of an action. -/
def Action.stroke : Action → Stroke
  | .init _ (.ok _) => .initOk
  | .init _ (.error _) => .initFailed
  | .write .. => .write
  | .destroy => .destroy

namespace Lifecycle

open scoped Computability

/-- A writer that is open: it was opened with success and is written to. -/
def segment : Language Stroke :=
  {[.initOk]} * {[.write]}∗

/-- A writer that is closed: each time before, it was not opened, or it was closed again. -/
def closed : Language Stroke :=
  ({[.initFailed]} + segment * {[.destroy]})∗

/-- A writer that is open, and was closed before. -/
def opened : Language Stroke :=
  closed * segment

variable {word : List Stroke}

lemma nil_mem_closed : [] ∈ closed :=
  Language.nil_mem_kstar _

/-- One more round of a closed writer. -/
lemma closed_append {round : List Stroke} (mem : word ∈ closed)
    (last : round ∈ {[.initFailed]} + segment * {[.destroy]}) : word ++ round ∈ closed := by
  obtain ⟨rounds, rfl, each⟩ := Language.mem_kstar.mp mem
  refine Language.mem_kstar.mpr ⟨rounds ++ [round], by simp, fun other mem => ?_⟩
  rcases List.mem_append.mp mem with mem | mem
  · exact each other mem
  · exact List.mem_singleton.mp mem ▸ last

lemma append_initFailed (mem : word ∈ closed) : word ++ [.initFailed] ∈ closed :=
  closed_append mem (.inl rfl)

lemma append_initOk (mem : word ∈ closed) : word ++ [.initOk] ∈ opened :=
  Language.append_mem_mul mem
    (Language.append_mem_mul (a := [Stroke.initOk]) rfl (Language.nil_mem_kstar _))

/-- An open writer that is written to stays open. -/
lemma append_writes (mem : word ∈ opened) (count : Nat) :
    word ++ List.replicate count .write ∈ opened := by
  obtain ⟨before, closed, _, ⟨start, init, writes, written, rfl⟩, rfl⟩ := mem
  have more : writes ++ List.replicate count .write ∈ ({[.write]}∗ : Language Stroke) := by
    obtain ⟨letters, rfl, each⟩ := Language.mem_kstar.mp written
    refine Language.mem_kstar.mpr
      ⟨letters ++ List.replicate count [.write], by simp, fun other mem => ?_⟩
    rcases List.mem_append.mp mem with mem | mem
    · exact each other mem
    · exact List.eq_of_mem_replicate mem
  refine ⟨before, closed, _, ⟨start, init, _, more, rfl⟩, ?_⟩
  simp only [List.append_assoc]

lemma append_destroy (mem : word ∈ opened) : word ++ [.destroy] ∈ closed := by
  obtain ⟨before, closed, round, open', rfl⟩ := mem
  show before ++ round ++ [.destroy] ∈ Lifecycle.closed
  rw [List.append_assoc]
  exact closed_append closed (.inr (Language.append_mem_mul open' rfl))

/-- A segment opens a writer once and does not close it. -/
lemma count_segment (mem : word ∈ segment) : word.count .initOk = 1 ∧ word.count .destroy = 0 := by
  obtain ⟨_, rfl, writes, written, rfl⟩ := mem
  obtain ⟨letters, rfl, each⟩ := Language.mem_kstar.mp written
  have none : ∀ letter ≠ Stroke.write, letters.flatten.count letter = 0 := by
    intro letter ne
    refine List.count_eq_zero.mpr fun mem => ?_
    obtain ⟨part, listed, mem⟩ := List.mem_flatten.mp mem
    have eq : part = [.write] := each part listed
    exact ne (List.mem_singleton.mp (eq ▸ mem))
  simp [none]

/-- A closed writer was closed as often as it was opened. -/
lemma count_closed (mem : word ∈ closed) : word.count .initOk = word.count .destroy := by
  obtain ⟨rounds, rfl, each⟩ := Language.mem_kstar.mp mem
  clear mem
  induction rounds with
  | nil => rfl
  | cons round rounds ih =>
    have rest := ih fun other mem => each other (List.mem_cons_of_mem _ mem)
    have first : round.count .initOk = round.count .destroy := by
      rcases each round List.mem_cons_self with failed | ⟨before, open', _, rfl, rfl⟩
      · cases Set.mem_singleton_iff.mp failed
        rfl
      · simp [count_segment open']
    rw [List.flatten_cons, List.count_append, List.count_append, first, rest]

/-- An open writer was opened once more than it was closed. -/
lemma count_opened (mem : word ∈ opened) : word.count .initOk = word.count .destroy + 1 := by
  obtain ⟨before, closed, part, open', rfl⟩ := mem
  show (before ++ part).count .initOk = (before ++ part).count .destroy + 1
  rw [List.count_append, List.count_append, count_closed closed, (count_segment open').1,
    (count_segment open').2]

/-- No word is both open and closed. -/
lemma not_mem_closed (mem : word ∈ opened) : word ∉ closed := by
  intro closed
  have twice := count_opened mem
  have once := count_closed closed
  omega

end Lifecycle
end LogFanout
