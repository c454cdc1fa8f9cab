import LogFanout.Counters
import LogFanout.Decimal.Binary64
import LogFanout.Text.Numeral

/-!
# Summaries

The counters of all endpoints, their totals, and the share of attempted writes that failed.
Published metrics give the same counters to a collector, one endpoint after the other.
-/

namespace LogFanout

/-- The counters of every endpoint by name. -/
abbrev Snapshot := List (String × Counters)

/-- One measurement given to a collector. -/
inductive Measurement where
  /-- A counter of an endpoint, set to its present value. -/
  | counter (metric endpoint : String) (value : UInt64)
  /-- A gauge of the whole logger. -/
  | gauge (metric : String) (value : Nat)
  deriving DecidableEq, Repr

namespace Snapshot

/-- The sums of all counters. -/
def total (snapshot : Snapshot) : Counters :=
  snapshot.foldl (fun sum entry => sum.add entry.2) .zero

/-- The share of attempted writes that failed, in percent; each step is rounded. -/
def failureRate (snapshot : Snapshot) : Decimal.Binary64 :=
  let sum := snapshot.total
  let attempts := sum.writes + sum.failures
  if attempts = 0 then .zero
  else
    let rate := do
      let failures ← Decimal.Binary64.ofNat sum.failures.toNat
      let attempts ← Decimal.Binary64.ofNat attempts.toNat
      let share ← failures.div attempts
      share.mul (← Decimal.Binary64.ofNat 100)
    rate.getD .zero

/-- The line of one endpoint. -/
def entryText (name : String) (counters : Counters) : String :=
  "  " ++ name ++ ": writes=" ++ Text.decimal counters.writes.toNat
    ++ " failures=" ++ Text.decimal counters.failures.toNat
    ++ " bytes=" ++ Text.decimal counters.bytes.toNat ++ "\n"

/-- The printed summary. -/
def text (snapshot : Snapshot) : String :=
  let sum := snapshot.total
  "=== Endpoint Metrics ===\n"
    ++ String.join (snapshot.map fun (name, counters) => entryText name counters)
    ++ "Total: writes=" ++ Text.decimal sum.writes.toNat
    ++ " failures=" ++ Text.decimal sum.failures.toNat
    ++ " (" ++ snapshot.failureRate.fixed 2 ++ "%)"
    ++ " bytes=" ++ Text.decimal sum.bytes.toNat ++ "\n"

/-- The measurements of every endpoint in order, and the number of endpoints. -/
def published (snapshot : Snapshot) : List Measurement :=
  snapshot.flatMap (fun (name, counters) =>
    [.counter "rlog_endpoint_writes_total" name counters.writes,
      .counter "rlog_endpoint_failures_total" name counters.failures,
      .counter "rlog_endpoint_bytes_total" name counters.bytes])
    ++ [.gauge "rlog_endpoints" snapshot.length]

end Snapshot

end LogFanout
