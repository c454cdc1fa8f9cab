import LogFanout.Proofs.Text.Digits
import LogFanout.Summary
import Mathlib.Data.List.Forall2
import Mathlib.Data.UInt

/-!
# What is reported of counters

The printed summary has a line with the counters of each endpoint and a line with their sums
(`Snapshot.shown_text`). The published measurements give each counter of each endpoint once, and the
number of endpoints (`Snapshot.publishes_published`).
-/

namespace LogFanout

/-- The values of a counter among measurements, by the endpoints that they are about. -/
def Measurement.readings (metric : String) (measurements : List Measurement) :
    List (String × UInt64) :=
  measurements.filterMap fun
    | .counter metric' endpoint value => if metric' = metric then some (endpoint, value) else none
    | .gauge .. => none

/-- The values of a gauge among measurements. -/
def Measurement.levels (metric : String) (measurements : List Measurement) : List Nat :=
  measurements.filterMap fun
    | .gauge metric' value => if metric' = metric then some value else none
    | .counter .. => none

namespace Snapshot

/-- The sum of a counter over all endpoints. -/
def sum (snapshot : Snapshot) (counter : Counters → UInt64) : UInt64 :=
  (snapshot.map fun entry => counter entry.2).sum

/-- A line with the counters of an endpoint. -/
inductive EntryLine (entry : String × Counters) : String → Prop where
  | mk {writes failures bytes} :
    Text.DecimalOf entry.2.writes.toNat writes →
    Text.DecimalOf entry.2.failures.toNat failures →
    Text.DecimalOf entry.2.bytes.toNat bytes →
    EntryLine entry
      ("  " ++ entry.1 ++ ": writes=" ++ writes ++ " failures=" ++ failures ++ " bytes=" ++ bytes
        ++ "\n")

/-- A text with the counters of all endpoints in their order, and their sums. -/
inductive Shown (snapshot : Snapshot) : String → Prop where
  | mk {lines writes failures bytes} :
    List.Forall₂ EntryLine snapshot lines →
    Text.DecimalOf (snapshot.sum Counters.writes).toNat writes →
    Text.DecimalOf (snapshot.sum Counters.failures).toNat failures →
    Text.DecimalOf (snapshot.sum Counters.bytes).toNat bytes →
    Shown snapshot
      ("=== Endpoint Metrics ===\n" ++ String.join lines
        ++ "Total: writes=" ++ writes ++ " failures=" ++ failures
        ++ " (" ++ snapshot.failureRate.fixed 2 ++ "%)" ++ " bytes=" ++ bytes ++ "\n")

/-- Measurements that give the counters of all endpoints and the number of endpoints, and nothing
else. -/
structure Publishes (snapshot : Snapshot) (measurements : List Measurement) : Prop where
  writes : Measurement.readings "rlog_endpoint_writes_total" measurements =
    snapshot.map fun entry => (entry.1, entry.2.writes)
  failures : Measurement.readings "rlog_endpoint_failures_total" measurements =
    snapshot.map fun entry => (entry.1, entry.2.failures)
  bytes : Measurement.readings "rlog_endpoint_bytes_total" measurements =
    snapshot.map fun entry => (entry.1, entry.2.bytes)
  endpoints : Measurement.levels "rlog_endpoints" measurements = [snapshot.length]
  count : measurements.length = 3 * snapshot.length + 1

variable {snapshot : Snapshot}

/-- The totals are the sums of the counters. -/
lemma total_eq (snapshot : Snapshot) :
    snapshot.total =
      ⟨snapshot.sum Counters.writes, snapshot.sum Counters.failures,
        snapshot.sum Counters.bytes⟩ := by
  -- Addition goes from the left, so the sum so far is carried along.
  suffices added : ∀ start : Counters,
      snapshot.foldl (fun sum entry => sum.add entry.2) start =
        ⟨start.writes + snapshot.sum Counters.writes,
          start.failures + snapshot.sum Counters.failures,
          start.bytes + snapshot.sum Counters.bytes⟩ by
    rw [total, added .zero]
    simp [Counters.zero]
  induction snapshot with
  | nil => simp [sum]
  | cons entry snapshot ih =>
    intro start
    rw [List.foldl_cons, ih]
    simp only [sum, List.map_cons, List.sum_cons, Counters.add, UInt64.add_assoc]

lemma entryLine_entryText (entry : String × Counters) :
    EntryLine entry (entryText entry.1 entry.2) := by
  unfold entryText
  exact .mk (Text.decimalOf_decimal _) (Text.decimalOf_decimal _) (Text.decimalOf_decimal _)

/-- The summary shows the counters. -/
lemma shown_text (snapshot : Snapshot) : Shown snapshot snapshot.text := by
  unfold text
  rw [total_eq]
  refine .mk ?_ (Text.decimalOf_decimal _) (Text.decimalOf_decimal _) (Text.decimalOf_decimal _)
  rw [List.forall₂_map_right_iff, List.forall₂_same]
  exact fun entry _ => entryLine_entryText entry

/-- What is published gives the counters. -/
lemma publishes_published (snapshot : Snapshot) : Publishes snapshot snapshot.published where
  writes := by simp [published, Measurement.readings, List.filterMap_flatMap, List.map_eq_flatMap]
  failures := by simp [published, Measurement.readings, List.filterMap_flatMap, List.map_eq_flatMap]
  bytes := by simp [published, Measurement.readings, List.filterMap_flatMap, List.map_eq_flatMap]
  endpoints := by simp [published, Measurement.levels, List.filterMap_flatMap]
  count := by simp [published, List.length_flatMap, Nat.mul_comm]

/-- The attempts that are counted for endpoints add up. -/
lemma sum_attempts {p : String → Bool}
    (each : ∀ entry ∈ snapshot,
      entry.2.writes.toNat + entry.2.failures.toNat = if p entry.1 then 1 else 0) :
    snapshot.sum Counters.writes + snapshot.sum Counters.failures =
      UInt64.ofNat ((snapshot.map Prod.fst).countP p) := by
  induction snapshot with
  | nil => rfl
  | cons entry snapshot ih =>
    obtain ⟨here, each⟩ := List.forall_mem_cons.mp each
    have one : entry.2.writes + entry.2.failures = UInt64.ofNat (if p entry.1 then 1 else 0) := by
      rw [← here, UInt64.ofNat_add, UInt64.ofNat_toNat, UInt64.ofNat_toNat]
    have more := ih each
    simp only [sum] at more ⊢
    rw [List.map_cons, List.map_cons, List.map_cons, List.sum_cons, List.sum_cons, List.countP_cons,
      UInt64.ofNat_add, ← one, ← more]
    ac_rfl

end Snapshot

end LogFanout
