import LogFanout.Writer.Basic
import Mathlib.Tactic.Lemma

/-!
# Recorded writers

`Writers.recorded` writes down every call that a registry makes on its writers, with the endpoint on
whose behalf it is made and what the writer answered. Recording is seen by nobody
(`Writers.recorded_maps`): without the record the writers are what they were.
-/

namespace LogFanout

/-- What a registry asks of a writer, and what the writer answers. -/
inductive Action where
  | init (argument : Argument) (outcome : Except InitFault Unit)
  /-- `sent` is the line that goes out from inside the write. -/
  | write (line : Bytes) (outcome : Except WriteFault Unit) (sent : Option Bytes)
  | destroy

/-- A call on a writer, made on behalf of an endpoint. -/
structure Call (ω : Type) where
  endpoint : String
  writer : ω
  action : Action

variable {ω σ σ' : Type}

/-- Writers that write down the calls made on them, the latest one last. -/
def Writers.recorded (w : Writers ω σ) : Writers ω (σ × List (Call ω)) where
  create transport s :=
    let (writer, s₁) := w.create transport s.1
    (writer, (s₁, s.2))
  init name writer argument s :=
    let (outcome, s₁) := w.init name writer argument s.1
    (outcome, (s₁, s.2 ++ [⟨name, writer, .init argument outcome⟩]))
  write situation writer line s :=
    let (written, s₁) := w.write situation writer line s.1
    let action := Action.write line written.outcome (written.sent situation)
    (written, (s₁, s.2 ++ [⟨situation.endpoint, writer, action⟩]))
  destroy name writer s := (w.destroy name writer s.1, s.2 ++ [⟨name, writer, .destroy⟩])
  release writer s := (w.release writer s.1, s.2)

/-- Writers that act on a part of their state as other writers do, and answer what those answer. -/
structure Writers.Maps (f : σ' → σ) (w' : Writers ω σ') (w : Writers ω σ) : Prop where
  create : ∀ transport s, w.create transport (f s) = Prod.map id f (w'.create transport s)
  init : ∀ name writer argument s,
    w.init name writer argument (f s) = Prod.map id f (w'.init name writer argument s)
  write : ∀ situation writer line s,
    w.write situation writer line (f s) = Prod.map id f (w'.write situation writer line s)
  destroy : ∀ name writer s, w.destroy name writer (f s) = f (w'.destroy name writer s)
  release : ∀ writer s, w.release writer (f s) = f (w'.release writer s)

/-- Recorded writers do what the writers do. -/
lemma Writers.recorded_maps (w : Writers ω σ) : w.recorded.Maps Prod.fst w where
  create _ _ := rfl
  init _ _ _ _ := rfl
  write _ _ _ _ := rfl
  destroy _ _ _ := rfl
  release _ _ := rfl

end LogFanout
