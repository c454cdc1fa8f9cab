import LogFanout.Writer.Fault
import LogFanout.Text.Utf8

/-!
# Writers

A registry opens writers, writes lines to them and closes them. It knows a writer by its handle
only; what the writers do, and what they share, is given by functions on a common state.
-/

namespace LogFanout

/-- What a writer can see of the registry while it writes. -/
structure Situation where
  /-- The endpoint on whose behalf it writes. -/
  endpoint : String
  /-- The names of all enabled endpoints. -/
  enabled : List String
  /-- Whether the writer is in the middle of another write. -/
  nested : Bool
  deriving DecidableEq, Repr

/-- What came of a write. -/
structure Written where
  outcome : Except WriteFault Unit
  /-- A line that the writer sends out from inside the write. -/
  relay : Option Bytes

/-- The line that goes out from inside a write; none does while the writer is in another one. -/
def Written.sent (written : Written) (situation : Situation) : Option Bytes :=
  if situation.nested then none else written.relay

/-- Writers with handles in `ω` and a common state in `σ`. -/
structure Writers (ω σ : Type) where
  /-- Makes a writer of a built-in kind. -/
  create : Transport → σ → ω × σ
  /-- Opens a writer on behalf of an endpoint. -/
  init : String → ω → Argument → σ → Except InitFault Unit × σ
  /-- Writes a line. -/
  write : Situation → ω → Bytes → σ → Written × σ
  /-- Closes a writer on behalf of an endpoint. -/
  destroy : String → ω → σ → σ
  /-- Lets go of a writer that nobody else holds. -/
  release : ω → σ → σ

/-- Writers of two families side by side; built-in kinds are those of the first one. -/
def Writers.both {ω ω' σ σ' : Type} (a : Writers ω σ) (b : Writers ω' σ') :
    Writers (ω ⊕ ω') (σ × σ') where
  create transport s :=
    let (writer, s₁) := a.create transport s.1
    (.inl writer, (s₁, s.2))
  init name writer argument s :=
    match writer with
    | .inl writer =>
      let (outcome, s₁) := a.init name writer argument s.1
      (outcome, (s₁, s.2))
    | .inr writer =>
      let (outcome, s₂) := b.init name writer argument s.2
      (outcome, (s.1, s₂))
  write situation writer line s :=
    match writer with
    | .inl writer =>
      let (written, s₁) := a.write situation writer line s.1
      (written, (s₁, s.2))
    | .inr writer =>
      let (written, s₂) := b.write situation writer line s.2
      (written, (s.1, s₂))
  destroy name writer s :=
    match writer with
    | .inl writer => (a.destroy name writer s.1, s.2)
    | .inr writer => (s.1, b.destroy name writer s.2)
  release writer s :=
    match writer with
    | .inl writer => (a.release writer s.1, s.2)
    | .inr writer => (s.1, b.release writer s.2)

end LogFanout
