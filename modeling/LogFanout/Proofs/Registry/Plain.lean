import LogFanout.Proofs.Registry.Fanned
import LogFanout.Writer.Builtin
import Mathlib.Data.List.Forall2

/-!
# Plain writers

Writers are plain if they send out no lines of their own, as those of the built-in kinds are
(`World.builtins_plain`). Over plain writers a fan-out is one write on each route
(`fanOut_plain`).
-/

namespace LogFanout

variable {ω σ : Type}

/-- Writers that send out no lines from inside a write. -/
def Writers.Plain (w : Writers ω σ) : Prop :=
  ∀ situation writer line s, (w.write situation writer line s).1.sent situation = none

/-- A write of a line to the writer of an endpoint, from inside which no line goes out. -/
def Call.Writes (line : Bytes) (name : String) (writer : ω) (call : Call ω) : Prop :=
  ∃ outcome, call = ⟨name, writer, .write line outcome none⟩

lemma World.builtins_plain (host : Host) : (World.builtins host).Plain :=
  fun _ _ _ _ => ite_self none

namespace Registry

variable [DecidableEq ω] {w : Writers ω σ}

/-- Whatever would be done with lines that writers send out, plain ones are written to in turn. -/
lemma deliver_plain (plain : w.Plain) (names : List String) (relay : Relay ω σ) (busy : List ω)
    (line : Bytes) (routes : List (String × Route ω)) (ledger : Ledger) (s : σ × List (Call ω)) :
    ∃ calls, (deliver w.recorded names relay busy line routes ledger s).2.2.2 = s.2 ++ calls ∧
      List.Forall₂ (fun entry call => call.Writes line entry.1 entry.2.writer) routes calls := by
  induction routes generalizing ledger s with
  | nil => exact ⟨[], (List.append_nil s.2).symm, .nil⟩
  | cons entry routes ih =>
    obtain ⟨name, route⟩ := entry
    let situation : Situation := ⟨name, names, decide (route.writer ∈ busy)⟩
    let written := w.write situation route.writer line s.1
    have one : writeRoute w.recorded names relay busy line name route ledger s =
        (written.1.outcome,
          ledger.modify route.page fun counters => counters.count line.length written.1.outcome,
          written.2, s.2 ++ [⟨name, route.writer, .write line written.1.outcome none⟩]) := by
      simp only [writeRoute, Writers.recorded, plain situation route.writer line s.1, situation,
        written]
    obtain ⟨calls, eq, rest⟩ := ih
      (ledger.modify route.page fun counters => counters.count line.length written.1.outcome)
      (written.2, s.2 ++ [⟨name, route.writer, .write line written.1.outcome none⟩])
    refine ⟨⟨name, route.writer, .write line written.1.outcome none⟩ :: calls, ?_,
      .cons ⟨_, rfl⟩ rest⟩
    simp only [deliver, one, eq, List.append_assoc, List.singleton_append]

/-- A fan-out over plain writers. -/
lemma fanOut_plain (plain : w.Plain) (line : Bytes) (r : Registry ω) (s : σ × List (Call ω)) :
    ∃ count calls ledger s',
      r.fanOut w.recorded line s = (count, { r with ledger }, s', s.2 ++ calls) ∧
      Fanned r.routes.entries line r.routes.entries r.ledger count calls ledger ∧
      List.Forall₂ (fun entry call => call.Writes line entry.1 entry.2.writer)
        r.routes.entries calls := by
  obtain ⟨count, calls, ledger, s', eq, fanned⟩ := fanOut_fanned w line r s
  obtain ⟨calls', made, written⟩ : ∃ calls', (r.fanOut w.recorded line s).2.2.2 = s.2 ++ calls' ∧
      List.Forall₂ (fun entry call => call.Writes line entry.1 entry.2.writer)
        r.routes.entries calls' := by
    rw [fanOut]
    cases r.routes.size with
    | zero => exact deliver_plain plain _ _ [] line r.routes.entries r.ledger s
    | succ depth => exact deliver_plain plain _ _ [] line r.routes.entries r.ledger s
  rw [eq] at made
  obtain rfl := List.append_cancel_left made
  exact ⟨count, calls, ledger, s', eq, fanned, written⟩

end Registry
end LogFanout
