import LogFanout.Calendar.Date
import Mathlib.Tactic.IntervalCases
import Mathlib.Tactic.Lemma

/-!
# Days and their dates

`Date.next` tells which date follows another one, by the lengths of the months and the rule for leap
years. The dates of days follow each other in this way (`gregorian_ofDayNumber`), as they do in one
calendar only (`Gregorian.unique`), and a date tells its day (`dayNumber_ofDayNumber`). This is read
off the place of a day in its span of 400 years (`Place`), where the divisions of `ofDayNumber` come
out even.
-/

namespace LogFanout.Date

/-- Whether a year has a 29th of February. -/
def isLeap (year : Int) : Bool :=
  year % 4 = 0 ∧ (year % 100 ≠ 0 ∨ year % 400 = 0)

/-- The days of a month. -/
def daysOfMonth (year : Int) (month : Nat) : Nat :=
  if month = 2 then if isLeap year then 29 else 28
  else if month ∈ [4, 6, 9, 11] then 30
  else 31

/-- The date of the next day. -/
def next (date : Date) : Date :=
  if date.day < daysOfMonth date.year date.month then { date with day := date.day + 1 }
  else if date.month < 12 then ⟨date.year, date.month + 1, 1⟩
  else ⟨date.year + 1, 1, 1⟩

/-- Dates that there are. -/
structure InCalendar (date : Date) : Prop where
  month : 1 ≤ date.month ∧ date.month ≤ 12
  day : 1 ≤ date.day ∧ date.day ≤ daysOfMonth date.year date.month

/-- Days, counted from 1970-01-01, have the dates of the proleptic Gregorian calendar. -/
structure Gregorian (dateOf : Int → Date) : Prop where
  epoch : dateOf 0 = ⟨1970, 1, 1⟩
  next : ∀ n, dateOf (n + 1) = (dateOf n).next
  inCalendar : ∀ n, (dateOf n).InCalendar

/-- The number of a day, counted from 1970-01-01, by its date. -/
def dayNumber (date : Date) : Int :=
  let year := if date.month < 3 then date.year - 1 else date.year
  let month := if date.month < 3 then date.month + 9 else date.month - 3
  365 * year + year / 4 - year / 100 + year / 400 + daysBeforeMonth month + date.day - 1
    - epochShift

/-- The date of a day of a year that begins in March. -/
def ofMarch (year : Int) (day : Nat) : Date :=
  let month := monthOfYear day
  { year := year + (if month < 10 then 0 else 1)
    month := if month < 10 then month + 3 else month - 9
    day := day - daysBeforeMonth month + 1 }

/-- A day by its span of 400 years, the century of the span, the four years of the century, the year
of these and the day of the year, all counted from 0. Only the last of four years has a day more,
and only if its century or its span ends with the next year. -/
structure Place where
  span : Int
  century : Nat
  four : Nat
  year : Nat
  day : Nat
  century_lt : century < 4
  four_lt : four < 25
  year_lt : year < 4
  day_lt : day < 365 ∨ day = 365 ∧ year = 3 ∧ (four < 24 ∨ century = 3)

namespace Place

/-- The days of the span before a day. -/
def dayOfSpan (place : Place) : Nat :=
  36524 * place.century + 1461 * place.four + 365 * place.year + place.day

/-- The year of the span in which a day lies. -/
def yearOfSpan (place : Place) : Nat :=
  100 * place.century + 4 * place.four + place.year

/-- The number of a day, counted from 1970-01-01. -/
def number (place : Place) : Int :=
  spanDays * place.span + place.dayOfSpan - epochShift

/-- The year in which a day lies, if years begin in March. -/
def marchYear (place : Place) : Int :=
  400 * place.span + place.yearOfSpan

lemma day_le (place : Place) : place.day ≤ 365 := by
  have valid := place.day_lt
  omega

lemma dayOfSpan_lt (place : Place) : place.dayOfSpan < 146097 := by
  obtain ⟨-, century, four, year, day, _, _, _, valid⟩ := place
  simp only [dayOfSpan]
  omega

lemma exists_number (n : Int) : ∃ place : Place, place.number = n := by
  have spans : 0 < spanDays := by decide
  obtain ⟨d, of_span⟩ := Int.eq_ofNat_of_zero_le (Int.emod_nonneg (n + epochShift) spans.ne')
  have lt := Int.emod_lt_of_pos (n + epochShift) spans
  let century := min (d / 36524) 3
  let four := (d - 36524 * century) / 1461
  let year := min ((d - 36524 * century - 1461 * four) / 365) 3
  let day := d - 36524 * century - 1461 * four - 365 * year
  simp only [spanDays] at of_span lt
  refine ⟨⟨(n + epochShift) / spanDays, century, four, year, day, ?_, ?_, ?_, ?_⟩, ?_⟩
  · omega
  · omega
  · omega
  · omega
  · simp only [number, dayOfSpan, spanDays]
    omega

lemma yearOfSpan_eq (place : Place) : Date.yearOfSpan place.dayOfSpan = place.yearOfSpan := by
  obtain ⟨-, century, four, year, day, century_lt, _, _, valid⟩ := place
  simp only [Date.yearOfSpan, dayOfSpan, yearOfSpan]
  -- Whether the days of the four years that are over, and those of leap years before, make 1460.
  obtain ⟨late, eq⟩ : ∃ late, (24 * century + four + 365 * year + day) / 1460 = late := ⟨_, rfl⟩
  have late_le : late ≤ day ∧ day - late < 365 := by omega
  generalize total : 36524 * century + 1461 * four + 365 * year + day = d
  have fours : d / 1460 = 25 * century + four + late := by omega
  obtain ⟨rest, of_century⟩ : ∃ rest, 1461 * four + 365 * year + day = rest := ⟨_, rfl⟩
  have rest_le : rest < 36524 ∨ rest = 36524 ∧ century = 3 := by omega
  have sum : 36524 * century + rest = d := by omega
  have centuries : d / 36524 = century + d / 146096 := by
    clear * - century_lt rest_le sum
    omega
  have days : d - d / 1460 + d / 36524 - d / 146096 =
      365 * (100 * century + 4 * four + year) + (day - late) := by omega
  rw [days]
  omega

lemma daysBeforeYear_eq (place : Place) :
    daysBeforeYear place.yearOfSpan + place.day = place.dayOfSpan := by
  obtain ⟨-, century, four, year, day, _, _, _, valid⟩ := place
  simp only [daysBeforeYear, dayOfSpan, yearOfSpan]
  omega

lemma ofDayNumber_number (place : Place) :
    ofDayNumber place.number = ofMarch place.marchYear place.day := by
  have lt := place.dayOfSpan_lt
  have span : (place.number + epochShift) / spanDays = place.span := by
    simp only [number, spanDays]
    omega
  have day : ((place.number + epochShift) % spanDays).toNat = place.dayOfSpan := by
    simp only [number, spanDays]
    omega
  have year := place.yearOfSpan_eq
  have rest : place.dayOfSpan - daysBeforeYear place.yearOfSpan = place.day := by
    rw [← place.daysBeforeYear_eq]
    exact Nat.add_sub_cancel_left ..
  simp only [ofDayNumber, span, day, year, rest]
  rfl

/-- The number of a day in a year that begins in March. -/
lemma number_eq (place : Place) :
    let year := place.marchYear
    place.number = 365 * year + year / 4 - year / 100 + year / 400 + place.day - epochShift := by
  obtain ⟨span, century, four, year, day, _, _, _, valid⟩ := place
  simp only [number, dayOfSpan, marchYear, yearOfSpan, spanDays]
  omega

end Place

lemma monthOfYear_le {day : Nat} (valid : day ≤ 365) : monthOfYear day ≤ 11 := by
  simp only [monthOfYear]
  omega

lemma daysBeforeMonth_le (day : Nat) : daysBeforeMonth (monthOfYear day) ≤ day := by
  simp only [daysBeforeMonth, monthOfYear]
  omega

lemma dayNumber_ofMarch (year : Int) {day : Nat} (valid : day ≤ 365) :
    (ofMarch year day).dayNumber =
      365 * year + year / 4 - year / 100 + year / 400 + day - epochShift := by
  have month := monthOfYear_le valid
  have before := daysBeforeMonth_le day
  by_cases late : monthOfYear day < 10
  · have march : ¬monthOfYear day + 3 < 3 := by omega
    simp only [ofMarch, dayNumber, if_pos late, if_neg march, Nat.add_sub_cancel, Int.add_zero]
    omega
  · have march : monthOfYear day - 9 < 3 := by omega
    have back : monthOfYear day - 9 + 9 = monthOfYear day := by omega
    simp only [ofMarch, dayNumber, if_neg late, if_pos march, back, Int.add_sub_cancel]
    omega

lemma ext {a b : Date} (year : a.year = b.year) (month : a.month = b.month) (day : a.day = b.day) :
    a = b := by
  cases a
  cases b
  cases year
  cases month
  cases day
  rfl

/-- A date tells its day. -/
lemma dayNumber_ofDayNumber (n : Int) : (ofDayNumber n).dayNumber = n := by
  obtain ⟨place, rfl⟩ := Place.exists_number n
  rw [place.ofDayNumber_number, dayNumber_ofMarch _ place.day_le, place.number_eq]

/-- The months are as long as the days between their beginnings, but for the last one. -/
lemma daysOfMonth_eq (year : Int) {month : Nat} (lt : month < 11) :
    daysOfMonth year (if month < 10 then month + 3 else month - 9) =
      daysBeforeMonth (month + 1) - daysBeforeMonth month := by
  interval_cases month <;> rfl

/-- The next day lies in the same month or is the first one of the next month. -/
lemma monthOfYear_succ (day : Nat) :
    monthOfYear (day + 1) = monthOfYear day ∧ day + 1 < daysBeforeMonth (monthOfYear day + 1) ∨
      monthOfYear (day + 1) = monthOfYear day + 1 ∧
        day + 1 = daysBeforeMonth (monthOfYear day + 1) := by
  simp only [monthOfYear, daysBeforeMonth]
  omega

/-- A day of the last month, which ends with the year. -/
lemma ofMarch_february (year : Int) {day : Nat} (february : monthOfYear day = 11) :
    (ofMarch year day).day = day - 337 + 1 ∧
      daysOfMonth (ofMarch year day).year (ofMarch year day).month =
        if isLeap (year + 1) then 29 else 28 := by
  simp only [ofMarch, february]
  exact ⟨rfl, rfl⟩

/-- A day that is followed by one of the same year. -/
lemma ofMarch_succ {year : Int} {day : Nat}
    (inside : day < 364 ∨ day = 364 ∧ isLeap (year + 1) = true) :
    ofMarch year (day + 1) = (ofMarch year day).next := by
  have month : monthOfYear (day + 1) ≤ 11 := monthOfYear_le (by omega)
  have begun := daysBeforeMonth_le day
  rcases monthOfYear_succ day with ⟨same, before⟩ | ⟨new, first⟩
  · have short : (ofMarch year day).day <
        daysOfMonth (ofMarch year day).year (ofMarch year day).month := by
      rw [same] at month
      rcases Nat.lt_or_eq_of_le month with lt | last
      · simp only [ofMarch]
        rw [daysOfMonth_eq _ lt]
        omega
      · obtain ⟨day, days⟩ := ofMarch_february year last
        rw [day, days]
        grind
    rw [next, if_pos short]
    simp only [ofMarch, same]
    rw [Nat.sub_add_comm begun]
  · rw [new] at month
    have full : ¬(ofMarch year day).day <
        daysOfMonth (ofMarch year day).year (ofMarch year day).month := by
      simp only [ofMarch]
      rw [daysOfMonth_eq _ (Nat.lt_of_succ_le month)]
      omega
    rw [next, if_neg full]
    simp only [ofMarch, new, ← first, Nat.sub_self]
    -- The year ends after the month that has the number 9.
    obtain early | eq | eq : monthOfYear day < 9 ∨ monthOfYear day = 9 ∨ monthOfYear day = 10 := by
      omega
    · have before : monthOfYear day < 10 := by omega
      have before' : monthOfYear day + 1 < 10 := by omega
      have room : monthOfYear day + 3 < 12 := by omega
      simp only [if_pos before, if_pos before', if_pos room, Nat.add_right_comm]
    · simp [eq]
    · simp [eq]

lemma ofMarch_last {year : Int} {day : Nat}
    (last : day = 364 ∧ isLeap (year + 1) = false ∨ day = 365 ∧ isLeap (year + 1) = true) :
    ofMarch (year + 1) 0 = (ofMarch year day).next := by
  rcases last with ⟨rfl, leap⟩ | ⟨rfl, leap⟩
  · simp [ofMarch, next, monthOfYear, daysBeforeMonth, daysOfMonth, leap]
  · simp [ofMarch, next, monthOfYear, daysBeforeMonth, daysOfMonth, leap]

namespace Place

/-- The day that leap years have more is the last one of a year that begins in March. -/
lemma isLeap_succ (place : Place) :
    isLeap (place.marchYear + 1) = true ↔
      place.year = 3 ∧ (place.four < 24 ∨ place.century = 3) := by
  obtain ⟨span, century, four, year, day, _, _, _, valid⟩ := place
  rw [isLeap, decide_eq_true_iff]
  simp only [marchYear, yearOfSpan]
  omega

lemma exists_newYear (place : Place) : ∃ later : Place,
    later.day = 0 ∧ later.marchYear = place.marchYear + 1 := by
  obtain ⟨span, century, four, year, day, century_lt, four_lt, year_lt, -⟩ := place
  by_cases years : year < 3
  · exact ⟨⟨span, century, four, year + 1, 0, century_lt, four_lt, by omega, .inl (by decide)⟩, rfl,
      by simp only [marchYear, yearOfSpan]; omega⟩
  by_cases fours : four < 24
  · exact ⟨⟨span, century, four + 1, 0, 0, century_lt, by omega, by decide, .inl (by decide)⟩, rfl,
      by simp only [marchYear, yearOfSpan]; omega⟩
  by_cases centuries : century < 3
  · exact ⟨⟨span, century + 1, 0, 0, 0, by omega, by decide, by decide, .inl (by decide)⟩, rfl,
      by simp only [marchYear, yearOfSpan]; omega⟩
  · exact ⟨⟨span + 1, 0, 0, 0, 0, by decide, by decide, by decide, .inl (by decide)⟩, rfl,
      by simp only [marchYear, yearOfSpan]; omega⟩

end Place

lemma inCalendar_ofMarch {year : Int} {day : Nat}
    (valid : day < 365 ∨ day = 365 ∧ isLeap (year + 1) = true) :
    (ofMarch year day).InCalendar where
  month := by
    have month : monthOfYear day ≤ 11 := monthOfYear_le (by omega)
    simp only [ofMarch]
    split <;> omega
  day := by
    refine ⟨Nat.le_add_left .., ?_⟩
    have month : monthOfYear day ≤ 11 := monthOfYear_le (by omega)
    rcases Nat.lt_or_eq_of_le month with lt | last
    · have ends : day < daysBeforeMonth (monthOfYear day + 1) := by
        simp only [monthOfYear, daysBeforeMonth]
        omega
      have begun := daysBeforeMonth_le day
      simp only [ofMarch]
      rw [daysOfMonth_eq _ lt]
      omega
    · obtain ⟨day, days⟩ := ofMarch_february year last
      rw [day, days]
      grind

lemma inCalendar_ofDayNumber (n : Int) : (ofDayNumber n).InCalendar := by
  obtain ⟨place, rfl⟩ := Place.exists_number n
  rw [place.ofDayNumber_number]
  apply inCalendar_ofMarch
  rw [place.isLeap_succ]
  exact place.day_lt

/-- Each day has the date that comes after that of the day before. -/
lemma ofDayNumber_succ (n : Int) : ofDayNumber (n + 1) = (ofDayNumber n).next := by
  obtain ⟨place, rfl⟩ := Place.exists_number n
  have leap := place.isLeap_succ
  have valid := place.day_lt
  -- The place of the next day is the next one of its year, or the first one of another year.
  by_cases inside : place.day + 1 < 365 ∨ place.day + 1 = 365 ∧ place.year = 3 ∧
      (place.four < 24 ∨ place.century = 3)
  · obtain ⟨later, second, year⟩ : ∃ later : Place,
        later.day = place.day + 1 ∧ later.marchYear = place.marchYear :=
      ⟨{ place with day := place.day + 1, day_lt := inside }, rfl, rfl⟩
    have next : later.number = place.number + 1 := by
      rw [later.number_eq, place.number_eq, second, year]
      omega
    rw [← next, later.ofDayNumber_number, place.ofDayNumber_number, second, year]
    refine ofMarch_succ ?_
    rw [leap]
    omega
  · obtain ⟨later, first, year⟩ := place.exists_newYear
    have last : place.day = 364 ∧ isLeap (place.marchYear + 1) = false ∨
        place.day = 365 ∧ isLeap (place.marchYear + 1) = true := by
      rw [← Bool.not_eq_true, leap]
      omega
    have next : later.number = place.number + 1 := by
      rw [isLeap, decide_eq_false_iff_not, decide_eq_true_iff] at last
      rw [later.number_eq, place.number_eq, first, year]
      omega
    rw [← next, later.ofDayNumber_number, place.ofDayNumber_number, first, year]
    exact ofMarch_last last

/-- The calendar is the proleptic Gregorian one. -/
lemma gregorian_ofDayNumber : Gregorian ofDayNumber where
  epoch := by decide
  next := ofDayNumber_succ
  inCalendar := inCalendar_ofDayNumber

lemma InCalendar.day_le {date : Date} (inCalendar : date.InCalendar) : date.day ≤ 31 := by
  have day := inCalendar.day.2
  rw [daysOfMonth] at day
  split_ifs at day <;> omega

/-- Different days are followed by different ones. -/
lemma next_inj {a b : Date} (ha : a.InCalendar) (hb : b.InCalendar) (eq : a.next = b.next) :
    a = b := by
  have monthA := ha.month
  have dayA := ha.day
  have monthB := hb.month
  have dayB := hb.day
  rw [next, next] at eq
  -- Months and days are counted from 1, so both days end their month and their year or neither does.
  split_ifs at eq <;>
  · simp only [mk.injEq] at eq
    obtain ⟨year, month, day⟩ := eq
    apply ext <;> grind

/-- There is one such calendar only. -/
theorem Gregorian.unique {f g : Int → Date} (hf : Gregorian f) (hg : Gregorian g) (n : Int) :
    f n = g n := by
  induction n with
  | zero => rw [hf.epoch, hg.epoch]
  | succ n ih => rw [hf.next, hg.next, ih]
  | pred n ih =>
    have later : (f (-n - 1)).next = (g (-n - 1)).next := by
      rw [← hf.next, ← hg.next, Int.sub_add_cancel, ih]
    exact next_inj (hf.inCalendar _) (hg.inCalendar _) later

end LogFanout.Date
