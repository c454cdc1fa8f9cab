import LogFanout.Proofs.Registry.Service

/-!
# What is counted

`tally` says what counters have to show after a number of calls. What a fan-out counts on the page
of an endpoint is the tally of the calls on behalf of its name (`Fanned.page`), and their number is
that of the lines that went out meanwhile (`Fanned.countP_endpoint`).
-/

namespace LogFanout

namespace Counters

/-- Counters are equal if each of the three is. -/
lemma ext {a b : Counters} (writes : a.writes = b.writes) (failures : a.failures = b.failures)
    (bytes : a.bytes = b.bytes) : a = b := by
  cases a
  cases b
  cases writes
  cases failures
  cases bytes
  rfl

lemma add_assoc (a b c : Counters) : (a.add b).add c = a.add (b.add c) :=
  ext (UInt64.add_assoc ..) (UInt64.add_assoc ..) (UInt64.add_assoc ..)

lemma add_comm (a b : Counters) : a.add b = b.add a :=
  ext (UInt64.add_comm ..) (UInt64.add_comm ..) (UInt64.add_comm ..)

lemma add_left_comm (a b c : Counters) : a.add (b.add c) = b.add (a.add c) := by
  rw [← add_assoc, add_comm a b, add_assoc]

@[simp] lemma add_zero (a : Counters) : a.add .zero = a :=
  ext (UInt64.add_zero _) (UInt64.add_zero _) (UInt64.add_zero _)

end Counters

variable {ω : Type}

/-- Whether a call is a write that succeeded. -/
def Call.succeeded (call : Call ω) : Bool :=
  match call.action with
  | .write _ (.ok _) _ => true
  | _ => false

/-- Whether a call is a write that failed. -/
def Call.failed (call : Call ω) : Bool :=
  match call.action with
  | .write _ (.error _) _ => true
  | _ => false

/-- The line that is sent out from inside a call, if it is a write and there is one. -/
def Call.sent (call : Call ω) : Option Bytes :=
  match call.action with
  | .write _ _ sent => sent
  | _ => none

/-- Whether a line is sent out from inside a call. -/
def Call.sends (call : Call ω) : Bool :=
  call.sent.isSome

/-- The bytes that a call wrote with success. -/
def Call.accepted (call : Call ω) : Bytes :=
  match call.action with
  | .write line (.ok _) _ => line
  | _ => []

/-- What counters show after calls, if they were zero before. -/
def tally (calls : List (Call ω)) : Counters :=
  ⟨.ofNat (calls.countP Call.succeeded), .ofNat (calls.countP Call.failed),
    .ofNat (calls.flatMap Call.accepted).length⟩

@[simp] lemma tally_nil : tally ([] : List (Call ω)) = .zero :=
  rfl

/-- What is counted in two parts is added up. -/
lemma tally_append (calls later : List (Call ω)) :
    tally (calls ++ later) = (tally calls).add (tally later) := by
  simp [tally, Counters.add, List.countP_append, UInt64.ofNat_add]

/-- Counting a write adds its tally. -/
lemma Counters.count_eq (counters : Counters) (name : String) (writer : ω) (line : Bytes)
    (outcome : Except WriteFault Unit) (sent : Option Bytes) :
    counters.count line.length outcome =
      counters.add (tally [⟨name, writer, .write line outcome sent⟩]) := by
  rcases outcome with fault | done
  · exact Counters.ext (UInt64.add_zero _).symm rfl (UInt64.add_zero _).symm
  · exact Counters.ext rfl (UInt64.add_zero _).symm
      (by simp [count, delivered, add, tally, Call.accepted])

/-- There is no write among calls. -/
def Writeless (calls : List (Call ω)) : Prop :=
  ∀ call ∈ calls, ∀ line outcome sent, call.action ≠ .write line outcome sent

/-- Where there is no write, none is counted. -/
lemma Writeless.count {calls : List (Call ω)} (writeless : Writeless calls) :
    calls.countP Call.succeeded = 0 ∧ calls.countP Call.failed = 0 ∧ tally calls = .zero := by
  have none : ∀ call ∈ calls, call.succeeded = false ∧ call.failed = false ∧ call.accepted = [] := by
    rintro ⟨name, writer, action⟩ mem
    cases action with
    | write line outcome sent => exact absurd rfl (writeless _ mem line outcome sent)
    | _ => exact ⟨rfl, rfl, rfl⟩
  have succeeded : calls.countP Call.succeeded = 0 :=
    List.countP_eq_zero.mpr fun call mem => Bool.eq_false_iff.mp (none call mem).1
  have failed : calls.countP Call.failed = 0 :=
    List.countP_eq_zero.mpr fun call mem => Bool.eq_false_iff.mp (none call mem).2.1
  have accepted : calls.flatMap Call.accepted = [] :=
    List.flatMap_eq_nil_iff.mpr fun call mem => (none call mem).2.2
  exact ⟨succeeded, failed, by rw [tally, succeeded, failed, accepted]; rfl⟩

namespace Registry

/-- A fan-out counts on a page that one name has the calls on behalf of that name. -/
lemma Fanned.page {routes rest : List (String × Route ω)} {line : Bytes} {ledger ledger' : Ledger}
    {count : Nat} {calls : List (Call ω)}
    (fanned : Fanned routes line rest ledger count calls ledger') (sub : rest ⊆ routes)
    {name : String} {number : Nat}
    (begun : ∀ entry ∈ routes, entry.2.page < ledger.next)
    (own : ∀ entry ∈ routes, entry.2.page = number ↔ entry.1 = name) :
    ledger'.page number =
      (ledger.page number).add (tally (calls.filter fun call => call.endpoint = name)) := by
  induction fanned with
  | done => simp
  | @wrote line other route rest ledger outcome count calls ledger' fanned ih =>
    obtain ⟨here, sub⟩ := List.cons_subset.mp sub
    rw [ih sub (by simpa using begun), Ledger.page_modify (begun _ here), List.filter_cons]
    by_cases eq : other = name
    · rw [if_pos ((own _ here).mpr eq).symm, if_pos (by simpa using eq), ← List.singleton_append,
        tally_append, ← Counters.add_assoc, ← Counters.count_eq]
    · rw [if_neg fun same => eq ((own _ here).mp same.symm), if_neg (by simpa using eq)]
  | @relayed line other route rest ledger outcome sent relays inner between count calls ledger'
      within fanned ihInner ihOuter =>
    obtain ⟨here, sub⟩ := List.cons_subset.mp sub
    -- The lines inside are counted before the write that sent them out.
    have next := within.next
    have begun' : ∀ entry ∈ routes, entry.2.page < between.next := by simpa [next] using begun
    rw [ihOuter sub (by simpa using begun'), Ledger.page_modify (begun' _ here),
      ihInner (List.Subset.refl _) begun, List.filter_cons, List.filter_append]
    by_cases eq : other = name
    · rw [if_pos ((own _ here).mpr eq).symm, if_pos (by simpa using eq), ← List.singleton_append,
        tally_append, tally_append,
        Counters.count_eq _ other route.writer line outcome (some sent)]
      simp only [Counters.add_assoc]
      rw [Counters.add_left_comm (tally (inner.filter _))]
    · rw [if_neg fun same => eq ((own _ here).mp same.symm), if_neg (by simpa using eq),
        tally_append, Counters.add_assoc]

/-- The calls of a fan-out are writes, each of which succeeds or fails. -/
lemma Fanned.countP_outcomes {routes rest : List (String × Route ω)} {line : Bytes}
    {ledger ledger' : Ledger} {count : Nat} {calls : List (Call ω)}
    (fanned : Fanned routes line rest ledger count calls ledger') (sub : rest ⊆ routes)
    (p : Call ω → Bool) :
    (calls.filter p).countP Call.succeeded + (calls.filter p).countP Call.failed =
      calls.countP p := by
  rw [List.countP_eq_length_filter (p := p), Nat.add_comm,
    List.length_eq_countP_add_countP Call.failed]
  congr 1
  refine List.countP_congr fun call mem => ?_
  obtain ⟨route, line, outcome, sent, -, eq⟩ := fanned.write sub (List.mem_of_mem_filter mem)
  rw [eq]
  cases outcome <;> simp [Call.succeeded, Call.failed]

/-- A fan-out writes once to each route that is left, and once more to every route for each line
that is sent out from inside a write. -/
lemma Fanned.countP_endpoint {routes rest : List (String × Route ω)} {line : Bytes}
    {ledger ledger' : Ledger} {count : Nat} {calls : List (Call ω)}
    (fanned : Fanned routes line rest ledger count calls ledger') (name : String) :
    (calls.countP fun call => call.endpoint = name) =
      (rest.countP fun entry => entry.1 = name) +
        calls.countP Call.sends * routes.countP fun entry => entry.1 = name := by
  induction fanned with
  | done => simp
  | wrote _ ih =>
    rw [List.countP_cons, List.countP_cons, List.countP_cons, ih]
    simp [Call.sends, Call.sent]
    omega
  | relayed _ _ ihInner ihOuter =>
    simp only [List.countP_cons, List.countP_append, ihInner, ihOuter, Call.sends, Call.sent,
      Option.isSome_some, if_true, Nat.add_mul, Nat.one_mul]
    omega

end Registry
end LogFanout
