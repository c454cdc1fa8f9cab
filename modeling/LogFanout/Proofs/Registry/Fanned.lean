import LogFanout.Proofs.Registry.Depth
import LogFanout.Proofs.Writer.Recorded

/-!
# What a fan-out does

`Fanned` describes a fan-out by its calls and its effect on the ledger, without the writers and
without a bound on the depth. `fanOut_fanned` shows that every fan-out is of this kind: each line
inside another one keeps one more writer busy, so the bound of `Registry.fanOut` is never reached.
-/

namespace LogFanout
namespace Registry

variable {ω σ : Type}

/-- `Fanned routes line rest ledger count calls ledger'`: a line that goes out on `routes` and has
`rest` still before it is written once on each of these in order, `count` times with success. A line
that a writer sends out meanwhile goes out on all routes before the next write. -/
inductive Fanned (routes : List (String × Route ω)) :
    Bytes → List (String × Route ω) → Ledger → Nat → List (Call ω) → Ledger → Prop where
  | done {line ledger} :
    Fanned routes line [] ledger 0 [] ledger
  | wrote {line name route rest ledger outcome count calls ledger'} :
    Fanned routes line rest
      (ledger.modify route.page fun counters => counters.count line.length outcome)
      count calls ledger' →
    Fanned routes line ((name, route) :: rest) ledger
      (if outcome.isOk then count + 1 else count)
      (⟨name, route.writer, .write line outcome none⟩ :: calls) ledger'
  | relayed {line name route rest ledger outcome sent relays inner between count calls ledger'} :
    Fanned routes sent routes ledger relays inner between →
    Fanned routes line rest
      (between.modify route.page fun counters => counters.count line.length outcome)
      count calls ledger' →
    Fanned routes line ((name, route) :: rest) ledger
      (if outcome.isOk then count + 1 else count)
      (⟨name, route.writer, .write line outcome (some sent)⟩ :: (inner ++ calls)) ledger'

lemma Fanned.next {routes rest : List (String × Route ω)} {line : Bytes} {ledger ledger' : Ledger}
    {count : Nat} {calls : List (Call ω)}
    (fanned : Fanned routes line rest ledger count calls ledger') :
    ledger'.next = ledger.next := by
  induction fanned with
  | done => rfl
  | wrote _ ih => rw [ih, Ledger.next_modify]
  | relayed _ _ inner outer => rw [outer, Ledger.next_modify, inner]

section

variable [DecidableEq ω]

/-- What is done with a line that a recorded writer sends out. -/
abbrev Relay (ω σ : Type) : Type :=
  List ω → Bytes → Ledger → σ × List (Call ω) → Nat × Ledger × σ × List (Call ω)

/-- What `relay` does with the lines of idle writers is a fan-out on all routes. -/
def Relays (routes : List (String × Route ω)) (busy : List ω) (relay : Relay ω σ) : Prop :=
  ∀ entry ∈ routes, entry.2.writer ∉ busy → ∀ line ledger s, ∃ count inner ledger' s',
    relay (entry.2.writer :: busy) line ledger s = (count, ledger', s', s.2 ++ inner) ∧
    Fanned routes line routes ledger count inner ledger'

/-- One write, and the fan-out of the line that is sent out from inside it, if there is one. -/
lemma writeRoute_recorded (w : Writers ω σ) {routes : List (String × Route ω)}
    (names : List String) {busy : List ω} {relay : Relay ω σ} (relays : Relays routes busy relay)
    (line : Bytes) {name : String} {route : Route ω} (mem : (name, route) ∈ routes)
    (ledger : Ledger) (s : σ × List (Call ω)) :
    ∃ outcome sent inner between s',
      writeRoute w.recorded names relay busy line name route ledger s =
        (outcome, between.modify route.page fun counters => counters.count line.length outcome, s',
          s.2 ++ ⟨name, route.writer, .write line outcome sent⟩ :: inner) ∧
      (sent = none ∧ inner = [] ∧ between = ledger ∨
        ∃ sentLine count, sent = some sentLine ∧
          Fanned routes sentLine routes ledger count inner between) := by
  rcases eq₁ : w.write ⟨name, names, decide (route.writer ∈ busy)⟩ route.writer line s.1 with
    ⟨written, s₁⟩
  cases sent : written.sent ⟨name, names, decide (route.writer ∈ busy)⟩ with
  | none =>
    refine ⟨written.outcome, none, [], ledger, s₁, ?_, .inl ⟨rfl, rfl, rfl⟩⟩
    simp only [writeRoute, Writers.recorded, eq₁, sent]
  | some sentLine =>
    have free : route.writer ∉ busy := fun inside => by
      simp [Written.sent, inside] at sent
    obtain ⟨count, inner, between, s', eq, fanned⟩ := relays _ mem free sentLine ledger
      (s₁, s.2 ++ [⟨name, route.writer, .write line written.outcome (some sentLine)⟩])
    refine ⟨written.outcome, some sentLine, inner, between, s', ?_, .inr ⟨_, count, rfl, fanned⟩⟩
    simp only [writeRoute, Writers.recorded, eq₁, sent, eq, List.append_assoc,
      List.singleton_append]

/-- Deliveries are a fan-out if the lines inside them are. -/
lemma deliver_fanned (w : Writers ω σ) {routes rest : List (String × Route ω)}
    (names : List String) {busy : List ω} {relay : Relay ω σ} (relays : Relays routes busy relay)
    (line : Bytes) (sub : rest ⊆ routes) (ledger : Ledger) (s : σ × List (Call ω)) :
    ∃ count calls ledger' s',
      deliver w.recorded names relay busy line rest ledger s =
        (count, ledger', s', s.2 ++ calls) ∧
      Fanned routes line rest ledger count calls ledger' := by
  induction rest generalizing ledger s with
  | nil => exact ⟨0, [], ledger, s.1, by simp [deliver], .done⟩
  | cons entry rest ih =>
    obtain ⟨name, route⟩ := entry
    obtain ⟨mem, sub⟩ := List.cons_subset.mp sub
    obtain ⟨outcome, sent, inner, between, s₁, eq₁, within⟩ :=
      writeRoute_recorded w names relays line mem ledger s
    obtain ⟨count, calls, ledger', s', eq, fanned⟩ := ih sub
      (between.modify route.page fun counters => counters.count line.length outcome)
      (s₁, s.2 ++ ⟨name, route.writer, .write line outcome sent⟩ :: inner)
    refine ⟨if outcome.isOk then count + 1 else count,
      ⟨name, route.writer, .write line outcome sent⟩ :: (inner ++ calls), ledger', s', ?_, ?_⟩
    · simp only [deliver, eq₁, eq, List.append_assoc, List.cons_append]
    · rcases within with ⟨rfl, rfl, rfl⟩ | ⟨sentLine, relays, rfl, inside⟩
      · exact .wrote fanned
      · exact .relayed inside fanned

/-- A fan-out inside writes is of the kind described, if the depth is at least the number of routes
whose writers are idle. -/
lemma fanOutWithin_fanned (w : Writers ω σ) {routes : List (String × Route ω)} {depth : Nat}
    {busy : List ω} (enough : idle busy routes ≤ depth) (line : Bytes) (ledger : Ledger)
    (s : σ × List (Call ω)) :
    ∃ count calls ledger' s',
      fanOutWithin w.recorded routes depth busy line ledger s =
        (count, ledger', s', s.2 ++ calls) ∧
      Fanned routes line routes ledger count calls ledger' := by
  -- One writer fewer is idle inside each of its writes, so the bound goes down with the depth.
  induction depth generalizing busy line ledger s with
  | zero =>
    refine deliver_fanned w _ ?_ line (List.Subset.refl _) ledger s
    intro entry mem free
    exact absurd enough (Nat.not_le.mpr (idle_pos mem free))
  | succ depth ih =>
    refine deliver_fanned w _ ?_ line (List.Subset.refl _) ledger s
    intro entry mem free line ledger s
    exact ih (Nat.le_of_lt_succ (Nat.lt_of_lt_of_le (idle_cons_lt mem free) enough)) line ledger s

/-- A fan-out is of the kind described, and changes nothing but the ledger. -/
lemma fanOut_fanned (w : Writers ω σ) (line : Bytes) (r : Registry ω) (s : σ × List (Call ω)) :
    ∃ count calls ledger s',
      r.fanOut w.recorded line s = (count, { r with ledger }, s', s.2 ++ calls) ∧
      Fanned r.routes.entries line r.routes.entries r.ledger count calls ledger := by
  have enough : idle [] r.routes.entries ≤ r.routes.size := List.countP_le_length
  obtain ⟨count, calls, ledger, s', eq, fanned⟩ := fanOutWithin_fanned w enough line r.ledger s
  refine ⟨count, calls, ledger, s', ?_, fanned⟩
  simp only [fanOut, eq]

end

end Registry
end LogFanout
