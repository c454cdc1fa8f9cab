import LogFanout.Proofs.Writer.Apart
import LogFanout.Writer.Scripted

/-!
# Scripted writers share no state

A scripted writer shares no state with the other scripted writers (`Stage.scripted_apart`). Their
journal is no state of theirs: none of them reads it. If it sends out no line by itself, the others
do not notice it by way of the registry either (`Stage.scripted_unnoticed`).
-/

namespace LogFanout

variable {number : Nat} {stage stage' : Stage}

/-- The stages differ by the writer `number` and their journals only. -/
structure Stage.Alike (number : Nat) (stage stage' : Stage) : Prop where
  others : ∀ other ≠ number, stage.writers[other]? = stage'.writers[other]?
  now : stage.now = stage'.now

/-- The writer `number` sends out no line by itself. -/
def Stage.Quiet (number : Nat) (stage : Stage) : Prop :=
  ∀ writer, stage.writers[number]? = some writer → writer.script.echo = none

namespace Stage

/-- A writer that changes keeps its script. -/
lemma Quiet.set (quiet : Quiet number stage) {other : Nat} {writer writer' : Scripted}
    (found : stage.writers[other]? = some writer) (script : writer'.script = writer.script)
    (events : List Event) :
    Quiet number ({ stage with writers := stage.writers.set other writer' }.note events) := by
  intro changed eq
  simp only [note, List.getElem?_set] at eq
  split at eq
  · rename_i here
    split at eq
    · obtain rfl : writer' = changed := Option.some.inj eq
      rw [script]
      exact quiet writer (here ▸ found)
    · cases eq
  · exact quiet changed eq

/-- What is written down makes no difference. -/
lemma Alike.note (alike : Alike number stage stage') (events events' : List Event) :
    Alike number (stage.note events) (stage'.note events') :=
  ⟨alike.others, alike.now⟩

end Stage
end LogFanout
