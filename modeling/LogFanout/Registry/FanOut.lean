import LogFanout.Registry.Basic

/-!
# Fanning out

A line is written once on every route, in ascending order of the names. A write that fails is
counted and the line goes on. A writer may send out a line of its own from inside a write, except
while it is already doing so; that line reaches every route before the outer one goes on.
-/

namespace LogFanout

/-- Counts a write of `length` bytes. -/
def Counters.count (counters : Counters) (length : Nat) (outcome : Except WriteFault Unit) :
    Counters :=
  match outcome with
  | .ok () => counters.delivered length
  | .error _ => counters.refused

namespace Registry

variable {ω σ : Type} [DecidableEq ω]

/-- Writes a line on the route of a name, inside writes of the writers `busy`, and counts the write.
A line that the writer sends out goes to `relay`. -/
def writeRoute (w : Writers ω σ) (names : List String)
    (relay : List ω → Bytes → Ledger → σ → Nat × Ledger × σ) (busy : List ω) (line : Bytes)
    (name : String) (route : Route ω) (ledger : Ledger) (s : σ) :
    Except WriteFault Unit × Ledger × σ :=
  let situation : Situation := ⟨name, names, decide (route.writer ∈ busy)⟩
  let (written, s) := w.write situation route.writer line s
  let (ledger, s) :=
    match written.sent situation with
    | some sent => (relay (route.writer :: busy) sent ledger s).2
    | none => (ledger, s)
  (written.outcome,
    ledger.modify route.page fun counters => counters.count line.length written.outcome, s)

/-- Writes a line on routes, one after the other; gives the number of writes that succeeded. -/
def deliver (w : Writers ω σ) (names : List String)
    (relay : List ω → Bytes → Ledger → σ → Nat × Ledger × σ) (busy : List ω) (line : Bytes) :
    List (String × Route ω) → Ledger → σ → Nat × Ledger × σ
  | [], ledger, s => (0, ledger, s)
  | (name, route) :: routes, ledger, s =>
    let (outcome, ledger, s) := writeRoute w names relay busy line name route ledger s
    let (count, ledger, s) := deliver w names relay busy line routes ledger s
    (if outcome.isOk then count + 1 else count, ledger, s)

/-- Writes a line on all routes, with lines sent out by writers up to `depth` inside each other. -/
def fanOutWithin (w : Writers ω σ) (routes : List (String × Route ω)) :
    (depth : Nat) → (busy : List ω) → Bytes → Ledger → σ → Nat × Ledger × σ
  | 0, busy, line, ledger, s =>
    deliver w (routes.map (·.1)) (fun _ _ ledger s => (0, ledger, s)) busy line routes ledger s
  | depth + 1, busy, line, ledger, s =>
    deliver w (routes.map (·.1)) (fanOutWithin w routes depth) busy line routes ledger s

/-- Writes a line to every enabled endpoint; gives the number of writes that succeeded. Each line
inside another one keeps one more writer busy, so they are never deeper than there are routes. -/
def fanOut (w : Writers ω σ) (line : Bytes) (r : Registry ω) (s : σ) : Nat × Registry ω × σ :=
  let (count, ledger, s) := fanOutWithin w r.routes.entries r.routes.size [] line r.ledger s
  (count, { r with ledger }, s)

end Registry

end LogFanout
