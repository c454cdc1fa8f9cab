import LogFanout.Proofs.Blueprint.Built
import LogFanout.Proofs.Registry.Accounting
import LogFanout.Proofs.Registry.Plain
import LogFanout.Proofs.Summary

/-!
# A logger for one message

A new logger has counted nothing. So after one message over plain writers its counters are the tally
of the writes of that message, of which there is one for each endpoint that is enabled
(`Enrolled.prints`), and a shutdown closes what was opened to set the logger up
(`Enrolled.bracket`).
-/

namespace LogFanout

variable {ω σ : Type}

/-- One write at most is counted as what it is. -/
lemma tally_attempts {calls : List (Call ω)} (few : calls.length ≤ 1)
    (writes : ∀ call ∈ calls, ∃ line outcome sent, call.action = .write line outcome sent) :
    (tally calls).writes.toNat + (tally calls).failures.toNat = calls.length := by
  cases calls with
  | nil => rfl
  | cons call calls =>
    have last : calls.length ≤ 0 := Nat.le_of_succ_le_succ few
    obtain rfl : calls = [] := List.length_eq_zero_iff.mp (Nat.le_zero.mp last)
    obtain ⟨line, outcome, sent, action⟩ := writes call List.mem_cons_self
    rcases outcome with why | done <;>
      simp [tally, Call.succeeded, Call.failed, action]

/-- Calls that open writers, and calls that close again what they opened, each writer once. -/
structure Call.Bracket (opening closing : List (Call ω)) : Prop where
  opens : ∀ call ∈ opening, call.tried?.isSome
  once : (opening.filterMap Call.opened?).Nodup
  closes : closing.Perm ((opening.filterMap Call.opened?).map Call.undoing)

lemma Call.Bracket.writeless {opening closing : List (Call ω)}
    (bracket : Call.Bracket opening closing) : Writeless (opening ++ closing) := by
  intro call mem line outcome sent action
  rcases List.mem_append.mp mem with mem | mem
  · have tried := bracket.opens call mem
    rw [Call.tried?, action] at tried
    cases tried
  · obtain ⟨opened, -, rfl⟩ := List.mem_map.mp (bracket.closes.mem_iff.mp mem)
    cases action

namespace Logger

/-- The endpoints that a message goes to: all that are enabled, but none if it has no tag. -/
def recipients (message : Message) (logger : Logger ω) : List (String × Endpoint ω) :=
  if message.tag = "" then []
  else logger.registry.endpoints.entries.filter fun entry => entry.2.enabled

/-- The calls by which a message is printed, and the counters of a logger that printed nothing
else. -/
structure Prints (logger : Logger ω) (now : Instant) (message : Message) (calls : List (Call ω))
    (snapshot : Snapshot) : Prop where
  /-- The line of the message is written once to each recipient, and nothing else is written. -/
  written : List.Forall₂
    (fun entry call => call.Writes (message.render logger.capacity 0 now) entry.1 entry.2.writer)
    (logger.recipients message) calls
  names : snapshot.map Prod.fst = logger.registry.endpoints.names
  counted : ∀ entry ∈ snapshot,
    entry.2 = tally (calls.filter fun call => call.endpoint = entry.1)
  attempts : ∀ entry ∈ snapshot, entry.2.writes.toNat + entry.2.failures.toNat =
    if entry.1 ∈ (logger.recipients message).map Prod.fst then 1 else 0
  total : snapshot.sum Counters.writes + snapshot.sum Counters.failures =
    UInt64.ofNat (logger.recipients message).length

/-- A logger in which the plans of a blueprint are set up. -/
structure Embodies (w : Writers ω σ) (start : σ) (blueprint : Blueprint) (logger : Logger ω) :
    Prop where
  capacity : logger.capacity = blueprint.settings.capacity.toNat
  names : logger.registry.endpoints.names.Perm
    ((blueprint.seeds ++ blueprint.plans).map Plan.name)
  enabled : ∀ plan ∈ blueprint.plans, logger.registry.isEnabled plan.name = plan.enabled
  /-- It does not matter if standard output cannot be opened. -/
  seed : blueprint.settings.seeded = true →
    logger.registry.isEnabled Blueprint.seedName = (Plan.seed.opening w start).1.isOk

variable {message : Message} {now : Instant} {calls : List (Call ω)} {r : Registry ω}
  {capacity : Nat}

lemma recipients_sublist (message : Message) (logger : Logger ω) :
    (logger.recipients message).Sublist logger.registry.endpoints.entries := by
  rw [recipients]
  split
  · exact List.nil_sublist _
  · exact List.filter_sublist

/-- The calls of a message are writes, made for its recipients in their order. -/
lemma calls_of_written {line : Bytes} {recipients : List (String × Endpoint ω)}
    (written : List.Forall₂ (fun entry call => call.Writes line entry.1 entry.2.writer)
      recipients calls) :
    (∀ call ∈ calls, ∃ line outcome sent, call.action = .write line outcome sent) ∧
      calls.map Call.endpoint = recipients.map Prod.fst := by
  have parts : List.Forall₂
      (fun (call : Call ω) (entry : String × Endpoint ω) =>
        (∃ line outcome sent, call.action = .write line outcome sent) ∧ call.endpoint = entry.1)
      calls recipients := by
    apply List.Forall₂.flip
    apply written.imp
    rintro entry call ⟨outcome, rfl⟩
    exact ⟨⟨line, outcome, none, rfl⟩, rfl⟩
  obtain ⟨writes, named⟩ := (List.forall₂_and_left calls recipients).mp parts
  have same : List.Forall₂ (· = ·) (calls.map Call.endpoint) (recipients.map Prod.fst) :=
    List.forall₂_map_left_iff.mpr (List.forall₂_map_right_iff.mpr named)
  rw [List.forall₂_eq_eq_eq] at same
  exact ⟨writes, same⟩

/-- Calls on behalf of different names are one for each of the names. -/
lemma length_filter_endpoint {names : List String} (nodup : names.Nodup)
    (called : calls.map Call.endpoint = names) (name : String) :
    (calls.filter fun call => call.endpoint = name).length = if name ∈ names then 1 else 0 := by
  rw [← nodup.count, ← called, List.count, List.countP_map, ← List.countP_eq_length_filter]
  exact List.countP_congr fun call _ => by simp

/-- Names picked out of all names are as many as they are. -/
lemma countP_mem {names picked : List String} (nodup : names.Nodup)
    (sublist : picked.Sublist names) :
    names.countP (fun name => name ∈ picked) = picked.length := by
  rw [List.countP_eq_length_filter]
  apply List.Perm.length_eq
  apply (List.perm_ext_iff_of_nodup (nodup.filter _) (nodup.sublist sublist)).mpr
  intro name
  rw [List.mem_filter, decide_eq_true_eq]
  exact ⟨And.right, fun mem => ⟨sublist.subset mem, mem⟩⟩

lemma of_mem_snapshot {logger : Logger ω} {entry : String × Counters}
    (mem : entry ∈ logger.snapshot) :
    ∃ endpoint, logger.registry.endpoints.find? entry.1 = some endpoint ∧
      entry.2 = logger.registry.ledger.page endpoint.page := by
  simp only [snapshot, Registry.counters, Registry.views, List.map_map] at mem
  obtain ⟨⟨name, endpoint⟩, listed, rfl⟩ := List.mem_map.mp mem
  exact ⟨endpoint, Table.mem_entries_iff.mp listed, rfl⟩

/-- What is counted for the calls of a message is told by the pages of the endpoints. -/
lemma prints_of_pages {ledger : Ledger}
    (written : List.Forall₂
      (fun entry call => call.Writes (message.render capacity 0 now) entry.1 entry.2.writer)
      (recipients message ⟨r, capacity⟩) calls)
    (pages : ∀ name endpoint, r.endpoints.find? name = some endpoint →
      ledger.page endpoint.page = tally (calls.filter fun call => call.endpoint = name)) :
    Prints ⟨r, capacity⟩ now message calls (snapshot ⟨{ r with ledger }, capacity⟩) := by
  obtain ⟨writes, called⟩ := calls_of_written written
  have sublist := (recipients_sublist message ⟨r, capacity⟩).map Prod.fst
  have nodup := r.endpoints.names_nodup.sublist sublist
  have names : (snapshot ⟨{ r with ledger }, capacity⟩).map Prod.fst = r.endpoints.names := by
    simp only [snapshot, Registry.counters, Registry.views, List.map_map]
    rfl
  have counted : ∀ entry ∈ snapshot ⟨{ r with ledger }, capacity⟩,
      entry.2 = tally (calls.filter fun call => call.endpoint = entry.1) := by
    intro entry mem
    obtain ⟨endpoint, found, page⟩ := of_mem_snapshot mem
    exact page.trans (pages _ _ found)
  have attempts : ∀ entry ∈ snapshot ⟨{ r with ledger }, capacity⟩,
      entry.2.writes.toNat + entry.2.failures.toNat =
        if entry.1 ∈ (recipients message ⟨r, capacity⟩).map Prod.fst then 1 else 0 := by
    intro entry mem
    -- Recipients have different names, so a name is called once or not at all.
    have length := length_filter_endpoint nodup called entry.1
    rw [counted entry mem, ← length]
    apply tally_attempts
    · rw [length]
      split
      · exact Nat.le_refl 1
      · exact Nat.zero_le 1
    · exact fun call mem => writes call (List.mem_of_mem_filter mem)
  refine ⟨written, names, counted, attempts, ?_⟩
  have each : ∀ entry ∈ snapshot ⟨{ r with ledger }, capacity⟩,
      entry.2.writes.toNat + entry.2.failures.toNat =
        if decide (entry.1 ∈ (recipients message ⟨r, capacity⟩).map Prod.fst) then 1 else 0 := by
    simpa only [decide_eq_true_eq] using attempts
  rw [Snapshot.sum_attempts (p := fun name => name ∈ (recipients message ⟨r, capacity⟩).map
    Prod.fst) each, names, countP_mem r.endpoints.names_nodup sublist, List.length_map]

end Logger

namespace Enrolled

variable {w : Writers ω σ} {start s : σ} {plans : List Plan} {r : Registry ω}
  {calls : List (Call ω)}

/-- New endpoints have counted nothing. -/
lemma page_eq (enrolled : Enrolled w start plans r s calls) (number : Nat) :
    r.ledger.page number = .zero := by
  induction enrolled with
  | none => rfl
  | more _ _ _ ih => exact (Ledger.page_extend ..).trans ih

/-- Clearing the registry closes what was opened. -/
lemma bracket (enrolled : Enrolled w start plans r s calls) :
    Call.Bracket calls (r.endpoints.entries.flatMap fun entry =>
      Registry.closing entry.1 entry.2) :=
  ⟨enrolled.isSome_tried, enrolled.nodup_opened, Registry.closing_perm_undoing enrolled⟩

variable [DecidableEq ω]

/-- The first message that is printed through a new logger. -/
lemma prints (plain : w.Plain) (enrolled : Enrolled w start plans r s calls) (capacity : Nat)
    (now : Instant) (message : Message) :
    ∃ writing ledger s',
      Logger.print w.recorded now message ⟨r, capacity⟩ (s, calls) =
        (⟨{ r with ledger }, capacity⟩, s', calls ++ writing) ∧
      ledger.next = r.ledger.next ∧
      Logger.Prints ⟨r, capacity⟩ now message writing
        (Logger.snapshot ⟨{ r with ledger }, capacity⟩) := by
  by_cases tagged : message.tag = ""
  · refine ⟨[], r.ledger, s, ?_, rfl, Logger.prints_of_pages ?_ fun name endpoint _ => ?_⟩
    · rw [Logger.print, if_pos tagged, List.append_nil]
    · rw [Logger.recipients, if_pos tagged]
      exact .nil
    · exact enrolled.page_eq _
  · obtain ⟨count, writing, ledger, s', eq, fanned, written⟩ :=
      Registry.fanOut_plain plain (message.render capacity 0 now) r (s, calls)
    refine ⟨writing, ledger, s', ?_, fanned.next,
      Logger.prints_of_pages ?_ fun name endpoint found => ?_⟩
    · simp only [Logger.print, if_neg tagged, eq]
    · rw [Logger.recipients, if_neg tagged]
      rw [enrolled.sound.routes_entries, List.forall₂_map_left_iff] at written
      exact written
    · have page := Registry.Takes.page enrolled.sound (.fannedOut fanned) found
      rw [enrolled.page_eq, Counters.add_comm, Counters.add_zero] at page
      exact page

end Enrolled
end LogFanout
