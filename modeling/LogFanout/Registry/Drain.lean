import LogFanout.Registry.History

/-!
# Clearing in any order

A registry keeps its endpoints in a table that is hashed, so that a clear goes through them in an
order that nobody can tell: it may be another one at each clear and in each run. `run` takes them
by ascending names, which is one of these orders; `runIn` takes them as it is told for each clear.
-/

namespace LogFanout

/-- An order in which the endpoints of a registry are gone through, by their names. -/
structure Drain where
  order : List String → List String
  perm : ∀ names, (order names).Perm names

namespace Drain

/-- The order in which the names are given. -/
def ascending : Drain :=
  ⟨id, fun _ => .refl _⟩

/-- The names other than one are gone through in the same order, with it and without it. -/
def Agrees (name : String) (drain drain' : Drain) : Prop :=
  ∀ names, (drain.order names).filter (· ≠ name) = drain'.order (names.filter (· ≠ name))

end Drain

namespace Registry

variable {ω σ : Type}

/-- The endpoints in the order in which a drain goes through them. -/
def drained (r : Registry ω) (drain : Drain) : List (String × Endpoint ω) :=
  r.endpoints.inOrder (drain.order r.endpoints.names)

/-- Removes all endpoints in the order of a drain. -/
def clearIn (w : Writers ω σ) (drain : Drain) (r : Registry ω) (s : σ) : Registry ω × σ :=
  let (routes, s) := closeAll w (r.drained drain) r.routes s
  ({ r with endpoints := .empty, routes }, s)

/-- The drains of the clears that come after an operation. -/
def Operation.later (operation : Operation ω) (drains : Nat → Drain) : Nat → Drain :=
  match operation with
  | .clear => fun number => drains (number + 1)
  | _ => drains

variable [DecidableEq ω]

/-- Carries out an operation; a clear goes through the endpoints in the order of a drain. -/
def performIn (w : Writers ω σ) (drain : Drain) (operation : Operation ω) (r : Registry ω) (s : σ) :
    Answer × Registry ω × σ :=
  match operation with
  | .clear =>
    let (r, s) := r.clearIn w drain s
    (.done, r, s)
  | operation => r.perform w operation s

/-- Carries out a history whose clears go through the endpoints in the order of one drain after the
other; gives the answers in order. -/
def runIn (w : Writers ω σ) :
    List (Operation ω) → (Nat → Drain) → Registry ω → σ → List Answer × Registry ω × σ
  | [], _, r, s => ([], r, s)
  | operation :: history, drains, r, s =>
    let (answer, r, s) := r.performIn w (drains 0) operation s
    let (answers, r, s) := runIn w history (operation.later drains) r s
    (answer :: answers, r, s)

end Registry

end LogFanout
