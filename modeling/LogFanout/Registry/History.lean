import LogFanout.Registry.Change
import LogFanout.Registry.FanOut

/-!
# Histories of a registry

A history is a row of operations carried out one after the other, each on the registry that the one
before it has left behind.
-/

namespace LogFanout.Registry

/-- Something done with a registry. -/
inductive Operation (ω : Type) where
  | change (change : Change ω)
  | fanOut (line : Bytes)
  | clear
  deriving DecidableEq, Repr

/-- The answer to an operation. -/
inductive Answer where
  | status (status : Status)
  /-- The number of writes that succeeded. -/
  | delivered (count : Nat)
  | done

variable {ω σ : Type} [DecidableEq ω]

/-- Carries out an operation. -/
def perform (w : Writers ω σ) (operation : Operation ω) (r : Registry ω) (s : σ) :
    Answer × Registry ω × σ :=
  match operation with
  | .change change =>
    let (status, r, s) := r.change w change s
    (.status status, r, s)
  | .fanOut line =>
    let (count, r, s) := r.fanOut w line s
    (.delivered count, r, s)
  | .clear =>
    let (r, s) := r.clear w s
    (.done, r, s)

/-- Carries out a history; gives the answers in order. -/
def run (w : Writers ω σ) : List (Operation ω) → Registry ω → σ → List Answer × Registry ω × σ
  | [], r, s => ([], r, s)
  | operation :: history, r, s =>
    let (answer, r, s) := r.perform w operation s
    let (answers, r, s) := run w history r s
    (answer :: answers, r, s)

end LogFanout.Registry
