import LogFanout.Proofs.Registry.Tally
import LogFanout.Proofs.Text.ByteOrder

/-!
# What a fan-out delivers

The calls of a fan-out are those made for its own line and those made for lines that writers send
out meanwhile; `outermost` tells them apart. The former are one write on every enabled endpoint,
ascending by the names, and their successes are the answer (`Fanned.delivers`).
-/

namespace LogFanout
namespace Registry

variable {ω : Type}

/-- The calls that are not made for a line sent out from inside another one, if every line is
written `width` times; `pending` writes of lines inside are still to come. -/
def outermost (width : Nat) : (pending : Nat) → List (Call ω) → List (Call ω)
  | _, [] => []
  | 0, call :: calls => call :: outermost width (if call.sends then width else 0) calls
  | pending + 1, call :: calls =>
    outermost width (pending + if call.sends then width else 0) calls

/-- A call that is made for a line inside. -/
lemma outermost_succ (width pending : Nat) (call : Call ω) (calls : List (Call ω)) :
    outermost width (pending + 1) (call :: calls) =
      outermost width (pending + if call.sends then width else 0) calls := by
  rw [outermost]

/-- The calls that are still to come for a line inside are passed over. -/
lemma Fanned.outermost_append {routes rest : List (String × Route ω)} {line : Bytes}
    {ledger ledger' : Ledger} {count : Nat} {calls : List (Call ω)}
    (fanned : Fanned routes line rest ledger count calls ledger') (pending : Nat)
    (later : List (Call ω)) :
    outermost routes.length (pending + rest.length) (calls ++ later) =
      outermost routes.length pending later := by
  -- Each call takes one of the writes to come away; one that sends a line out adds `width` more,
  -- which the calls of the inner fan-out take away again.
  induction fanned generalizing pending later with
  | done => rfl
  | wrote _ ih =>
    rw [List.length_cons, ← Nat.add_assoc, List.cons_append, outermost_succ]
    exact ih pending later
  | relayed _ _ ihInner ihOuter =>
    rw [List.length_cons, ← Nat.add_assoc, List.cons_append, outermost_succ, List.append_assoc]
    exact (ihInner _ _).trans (ihOuter pending later)

/-- For its own line a fan-out makes one write on each route that is left, in their order; those
that succeed are its answer. -/
lemma Fanned.outermost {routes rest : List (String × Route ω)} {line : Bytes}
    {ledger ledger' : Ledger} {count : Nat} {calls : List (Call ω)}
    (fanned : Fanned routes line rest ledger count calls ledger') :
    List.Forall₂
      (fun entry call => ∃ outcome sent,
        call = ⟨entry.1, entry.2.writer, .write line outcome sent⟩)
      rest (Registry.outermost routes.length 0 calls) ∧
    count = (Registry.outermost routes.length 0 calls).countP Call.succeeded := by
  induction fanned with
  | done => exact ⟨.nil, rfl⟩
  | @wrote line name route rest ledger outcome count calls ledger' _ ih =>
    obtain ⟨written, counted⟩ := ih
    refine ⟨.cons ⟨outcome, none, rfl⟩ written, ?_⟩
    rw [Registry.outermost, List.countP_cons, counted]
    rcases outcome with _ | _ <;> rfl
  | @relayed line name route rest ledger outcome sent relays inner between count calls ledger'
      within _ _ ih =>
    obtain ⟨written, counted⟩ := ih
    -- All that was written for the line inside is passed over; what comes after it is the rest.
    have passed := within.outermost_append 0 calls
    rw [Nat.zero_add] at passed
    have eq : Registry.outermost routes.length 0
        (⟨name, route.writer, .write line outcome (some sent)⟩ :: (inner ++ calls)) =
        ⟨name, route.writer, .write line outcome (some sent)⟩ ::
          Registry.outermost routes.length 0 calls := congrArg _ passed
    rw [eq, List.countP_cons, counted]
    refine ⟨.cons ⟨outcome, some sent, rfl⟩ written, ?_⟩
    rcases outcome with _ | _ <;> rfl

/-- The lines that go out in a step, those that writers send out included. -/
def Step.lines (step : Step ω) : List Bytes :=
  match step.operation with
  | .fanOut line => line :: step.calls.filterMap Call.sent
  | _ => []

/-- A table has one entry for each name that it contains. -/
lemma countP_entries (table : Table (Route ω)) (name : String) :
    (table.entries.countP fun entry => entry.1 = name) = if table.contains name then 1 else 0 := by
  have names : (table.entries.countP fun entry => entry.1 = name) = table.names.count name := by
    rw [Table.names, List.count, List.countP_map]
    exact List.countP_congr fun entry _ => by simp
  have listed : name ∈ table.names ↔ table.contains name = true :=
    Table.mem_names_iff.trans Table.contains_iff.symm
  simp only [names, table.names_nodup.count, listed]

/-- How often a fan-out writes on behalf of a name. -/
lemma Fanned.once {r : Registry ω} {line : Bytes} {ledger : Ledger} {count : Nat}
    {calls : List (Call ω)}
    (fanned : Fanned r.routes.entries line r.routes.entries r.ledger count calls ledger)
    (name : String) :
    (calls.countP fun call => call.endpoint = name) =
      if r.isEnabled name then calls.countP Call.sends + 1 else 0 := by
  rw [fanned.countP_endpoint, countP_entries, isEnabled]
  split <;> omega

end Registry
end LogFanout
