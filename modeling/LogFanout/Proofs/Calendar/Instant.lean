import LogFanout.Calendar.Instant
import LogFanout.Proofs.Calendar.Date
import LogFanout.Proofs.Text.Digits

/-!
# Stamps and their instants

A stamp is taken apart from its end: all but the year has a fixed number of digits
(`append_padded_inj`), and the sign of a year is no digit (`yearText_inj`). So it tells the second
that it shows (`stamp_inj`). It has no dot, so the microseconds behind one can be told from it.
-/

namespace LogFanout
namespace Instant

/-- The microsecond in which an instant falls, counted from the start of 1970. -/
def microsecond (instant : Instant) : Int :=
  (1000000000 * instant.seconds + instant.nanos) / 1000

lemma toList_padded (width n : Nat) :
    (padded width n).toList =
      List.replicate (width - (Nat.toDigits 10 n).length) '0' ++ Nat.toDigits 10 n :=
  String.toList_ofList

lemma isDigit_padded (width n : Nat) : ∀ c ∈ (padded width n).toList, c.isDigit = true := by
  intro c mem
  rw [toList_padded] at mem
  rcases List.mem_append.mp mem with mem | mem
  · rw [List.eq_of_mem_replicate mem]
    rfl
  · exact Text.isDigit_toDigits c mem

/-- Zeros in front do not change a number. -/
lemma digitsValue_padded (width n : Nat) : Text.digitsValue 10 (padded width n).toList = n := by
  have zeros : ∀ zeros, Text.digitsValue 10 (List.replicate zeros '0') = 0 := by
    intro zeros
    induction zeros with
    | zero => rfl
    | succ zeros ih => exact ih
  rw [toList_padded, Text.digitsValue, List.foldl_append]
  have zeros := zeros (width - (Nat.toDigits 10 n).length)
  rw [Text.digitsValue] at zeros
  rw [zeros]
  exact Text.digitsValue_toDigits n

lemma padded_inj {width m n : Nat} (eq : padded width m = padded width n) : m = n := by
  rw [← digitsValue_padded width m, eq, digitsValue_padded]

lemma length_padded {n : Nat} (lt : n < 100) : (padded 2 n).toList.length = 2 := by
  have le : (Nat.toDigits 10 n).length ≤ 2 :=
    (Nat.length_toDigits_le_iff (by decide) (by decide)).mpr lt
  rw [toList_padded, List.length_append, List.length_replicate, Nat.sub_add_cancel le]

/-- Two digits at the end of a text can be taken off. -/
lemma append_padded_inj {s t : String} {m n : Nat} (hm : m < 100) (hn : n < 100)
    (eq : s ++ padded 2 m = t ++ padded 2 n) : s = t ∧ m = n := by
  have lists := congrArg String.toList eq
  rw [String.toList_append, String.toList_append] at lists
  obtain ⟨front, back⟩ := List.append_inj' lists ((length_padded hm).trans (length_padded hn).symm)
  exact ⟨String.toList_inj.mp front, padded_inj (String.toList_inj.mp back)⟩

/-- Reads a year, with its sign if it has one. -/
def readYear : List Char → Int
  | '-' :: digits => -Text.digitsValue 10 digits
  | '+' :: digits => Text.digitsValue 10 digits
  | digits => Text.digitsValue 10 digits

lemma readYear_padded (width n : Nat) : readYear (padded width n).toList = n := by
  have digits := isDigit_padded width n
  have value := digitsValue_padded width n
  generalize (padded width n).toList = cs at *
  rw [readYear]
  · exact congrArg _ value
  · rintro cs rfl
    exact absurd (digits '-' List.mem_cons_self) (by decide)
  · rintro cs rfl
    exact absurd (digits '+' List.mem_cons_self) (by decide)

lemma readYear_yearText (year : Int) : readYear (yearText year).toList = year := by
  rw [yearText]
  split
  · rw [String.toList_append]
    show -(Text.digitsValue 10 (padded 4 year.natAbs).toList : Int) = year
    rw [digitsValue_padded]
    omega
  · split
    · rw [readYear_padded]
      omega
    · rw [String.toList_append]
      show (Text.digitsValue 10 (padded 4 year.natAbs).toList : Int) = year
      rw [digitsValue_padded]
      omega

lemma yearText_inj {year year' : Int} (eq : yearText year = yearText year') : year = year' := by
  rw [← readYear_yearText year, eq, readYear_yearText]

/-- A stamp tells the second that it shows, unless that is a leap second. -/
lemma stamp_inj {offset : Int} {a b : Instant} (ha : a.nanos < 1000000000)
    (hb : b.nanos < 1000000000) (eq : a.stamp offset = b.stamp offset) : a.seconds = b.seconds := by
  have dateA := Date.inCalendar_ofDayNumber ((a.seconds + offset) / 86400)
  have dateB := Date.inCalendar_ofDayNumber ((b.seconds + offset) / 86400)
  have monthA := dateA.month
  have dayA := dateA.day_le
  have monthB := dateB.month
  have dayB := dateB.day_le
  simp only [stamp, Nat.div_eq_of_lt ha, Nat.div_eq_of_lt hb, Nat.add_zero] at eq
  obtain ⟨eq, second⟩ := append_padded_inj (by omega) (by omega) eq
  obtain ⟨eq, minute⟩ := append_padded_inj (by omega) (by omega) ((String.append_left_inj _).mp eq)
  obtain ⟨eq, hour⟩ := append_padded_inj (by omega) (by omega) ((String.append_left_inj _).mp eq)
  obtain ⟨eq, day⟩ := append_padded_inj (by omega) (by omega) ((String.append_left_inj _).mp eq)
  obtain ⟨eq, month⟩ := append_padded_inj (by omega) (by omega) ((String.append_left_inj _).mp eq)
  have year := yearText_inj ((String.append_left_inj _).mp eq)
  have days := congrArg Date.dayNumber (Date.ext year month day)
  rw [Date.dayNumber_ofDayNumber, Date.dayNumber_ofDayNumber] at days
  omega

/-- A text of digits and of the marks that stand between the numbers of a stamp. -/
def Marked (text : String) : Prop :=
  ∀ c ∈ text.toList, c.isDigit = true ∨ c ∈ ['-', '+', ' ', ':']

instance (text : String) : Decidable (Marked text) :=
  List.decidableBAll (fun c : Char => c.isDigit = true ∨ c ∈ ['-', '+', ' ', ':']) text.toList

lemma Marked.append {s t : String} (hs : Marked s) (ht : Marked t) : Marked (s ++ t) := by
  intro c mem
  rw [String.toList_append] at mem
  exact (List.mem_append.mp mem).elim (hs c) (ht c)

lemma marked_padded (width n : Nat) : Marked (padded width n) :=
  fun c mem => .inl (isDigit_padded width n c mem)

lemma marked_yearText (year : Int) : Marked (yearText year) := by
  rw [yearText]
  split
  · exact .append (by decide) (marked_padded _ _)
  · split
    · exact marked_padded _ _
    · exact .append (by decide) (marked_padded _ _)

lemma marked_stamp (offset : Int) (instant : Instant) : Marked (instant.stamp offset) := by
  have two := marked_padded 2
  have dash : Marked "-" := by decide
  have blank : Marked " " := by decide
  have colon : Marked ":" := by decide
  exact ((((((((((marked_yearText _).append dash).append (two _)).append dash).append
    (two _)).append blank).append (two _)).append colon).append (two _)).append colon).append (two _)

/-- The time that a line shows: the stamp and the microseconds. -/
def shown (offset : Int) (instant : Instant) : String :=
  instant.stamp offset ++ "." ++ Text.decimal instant.micros

lemma microsecond_eq_iff {a b : Instant} (ha : a.nanos < 1000000000) (hb : b.nanos < 1000000000) :
    a.microsecond = b.microsecond ↔ a.seconds = b.seconds ∧ a.nanos / 1000 = b.nanos / 1000 := by
  simp only [microsecond]
  omega

lemma decimal_inj {m n : Nat} (eq : Text.decimal m = Text.decimal n) : m = n := by
  rw [← Text.digitsValue_toDigits m, ← Text.toList_decimal, eq, Text.toList_decimal,
    Text.digitsValue_toDigits]

/-- The time that a line shows tells the microsecond, and no more than that. -/
lemma shown_eq_iff {offset : Int} {a b : Instant} (ha : a.nanos < 1000000000)
    (hb : b.nanos < 1000000000) :
    a.shown offset = b.shown offset ↔ a.microsecond = b.microsecond := by
  rw [microsecond_eq_iff ha hb]
  constructor
  · intro eq
    have dotless : ∀ instant : Instant, '.' ∉ (instant.stamp offset).toList := fun instant mem =>
      absurd (instant.marked_stamp offset '.' mem) (by decide)
    have whole : '.' ∉ (Text.decimal a.micros).toList := fun mem =>
      absurd (Text.isDigit_toDigits '.' (Text.toList_decimal _ ▸ mem)) (by decide)
    have dot : ".".toList = ['.'] := by decide
    have lists := congrArg String.toList eq
    simp only [shown, String.toList_append, List.append_assoc, dot, List.singleton_append] at lists
    obtain ⟨stamps, -, micros⟩ :=
      (List.append_cons_inj_of_notMem (dotless a) whole).mp lists
    refine ⟨stamp_inj ha hb (String.toList_inj.mp stamps), ?_⟩
    have count := decimal_inj (String.toList_inj.mp micros)
    simp only [Instant.micros, maxMicros] at count
    omega
  · rintro ⟨seconds, micros⟩
    simp only [shown, stamp, Instant.micros, seconds, micros, Nat.div_eq_of_lt ha,
      Nat.div_eq_of_lt hb]

end Instant
end LogFanout
