import EventRelay.Proofs.Text.Decimal
import EventRelay.Time.Calendar
import Mathlib.Tactic.IntervalCases

namespace EventRelay.Time

/-- Every fourth year is a leap year, but of the full centuries only every fourth. -/
def isLeapYear (year : Nat) : Bool :=
  year % 4 = 0 ∧ (year % 100 ≠ 0 ∨ year % 400 = 0)

def daysInMonth (year month : Nat) : Nat :=
  if month = 2 then if isLeapYear year then 29 else 28
  else if month = 4 ∨ month = 6 ∨ month = 9 ∨ month = 11 then 30
  else 31

namespace Date

/-- The day after. -/
def next (date : Date) : Date :=
  if date.day < daysInMonth date.year date.month then { date with day := date.day + 1 }
  else if date.month < 12 then ⟨date.year, date.month + 1, 1⟩
  else ⟨date.year + 1, 1, 1⟩

/-- Days before a year of a cycle. Years begin in March. -/
def yearStart (year : Nat) : Nat :=
  365 * year + year / 4 - year / 100

/-- The leap day of a year that begins in March is in the year after. -/
def yearLength (year : Nat) : Nat :=
  if isLeapYear (year + 1) then 366 else 365

/-- The year of a day, both in one cycle. -/
def yearOf (day : Nat) : Nat :=
  (day - day / 1460 + day / 36524 - day / 146096) / 365

/-- A day of a year that begins in March. -/
def ofYear (year day : Nat) : Date :=
  let month := (5 * day + 2) / 153
  { year := if month < 10 then year else year + 1
    month := if month < 10 then month + 3 else month - 9
    day := day - (153 * month + 2) / 5 + 1 }

theorem yearOf_mono {first second : Nat} (hle : first ≤ second) : yearOf first ≤ yearOf second := by
  induction second, hle using Nat.le_induction with
  | base => exact Nat.le_refl _
  | succ day _ ih =>
    refine Nat.le_trans ih (Nat.div_le_div_right ?_)
    omega

theorem yearOf_yearStart_add {year day : Nat} (hyear : year < 400) (hday : day < yearLength year) :
    yearOf (yearStart year + day) = year := by
  have hends : ∀ year < 400, yearOf (yearStart year) = year ∧
      yearOf (yearStart year + (yearLength year - 1)) = year := by decide +kernel
  obtain ⟨hfirst, hlast⟩ := hends year hyear
  have hlow : yearOf (yearStart year) ≤ yearOf (yearStart year + day) := yearOf_mono (by omega)
  have hhigh : yearOf (yearStart year + day) ≤ yearOf (yearStart year + (yearLength year - 1)) :=
    yearOf_mono (by omega)
  omega

theorem yearStart_succ {year : Nat} (hyear : year < 400) :
    yearStart (year + 1) + (if year = 399 then 1 else 0) = yearStart year + yearLength year := by
  have hall : ∀ year < 400, yearStart (year + 1) + (if year = 399 then 1 else 0) =
      yearStart year + yearLength year := by decide +kernel
  exact hall year hyear

theorem ofYear_eq {day month : Nat} (hmonth : (5 * day + 2) / 153 = month) (year : Nat) :
    ofYear year day =
      ⟨if month < 10 then year else year + 1, if month < 10 then month + 3 else month - 9,
        day - (153 * month + 2) / 5 + 1⟩ := by
  subst hmonth
  rfl

theorem next_ofYear {year day : Nat} (hday : day + 1 < yearLength year) :
    (ofYear year day).next = ofYear year (day + 1) := by
  rw [yearLength] at hday
  have hbound : day < 365 := by split at hday <;> omega
  obtain ⟨month, hmonth⟩ : ∃ month, (5 * day + 2) / 153 = month := ⟨_, rfl⟩
  have hsmall : month < 12 := by omega
  by_cases hsame : (5 * (day + 1) + 2) / 153 = month
  · rw [ofYear_eq hmonth, ofYear_eq hsame, next, if_pos]
    · simp only [Date.mk.injEq, true_and]
      omega
    · have hlength : yearLength year = 337 + daysInMonth (year + 1) 2 := by
        simp only [yearLength, daysInMonth, if_pos]
        split <;> rfl
      rw [← yearLength, hlength] at hday
      interval_cases month <;> simp [daysInMonth] at hday ⊢ <;> omega
  · have hnext : (5 * (day + 1) + 2) / 153 = month + 1 := by omega
    rw [ofYear_eq hmonth, ofYear_eq hnext, next, if_neg]
    · interval_cases month <;> simp <;> omega
    · interval_cases month <;> simp [daysInMonth] <;> omega

theorem next_ofYear_last (year : Nat) :
    (ofYear year (yearLength year - 1)).next = ofYear (year + 1) 0 := by
  rw [yearLength]
  cases hleap : isLeapYear (year + 1) with
  | true => simp [ofYear, next, daysInMonth, hleap]
  | false => simp [ofYear, next, daysInMonth, hleap]

theorem isLeapYear_add_cycles (year cycles : Nat) :
    isLeapYear (year + 400 * cycles) = isLeapYear year := by
  have hfour : (year + 400 * cycles) % 4 = year % 4 := by omega
  have hcentury : (year + 400 * cycles) % 100 = year % 100 := by omega
  rw [isLeapYear, hfour, hcentury, Nat.add_mul_mod_self_left, isLeapYear]

theorem yearLength_add_cycles (year cycles : Nat) :
    yearLength (year + 400 * cycles) = yearLength year := by
  rw [yearLength, Nat.add_right_comm, isLeapYear_add_cycles, yearLength]

/-- A day after 1970 is a day of a year of a cycle. -/
structure IsAt (days cycles year day : Nat) : Prop where
  year_lt : year < 400
  day_lt : day < yearLength year
  days_eq : days + epoch = cycle * cycles + (yearStart year + day)

theorem IsAt.ofDays_eq {days cycles year day : Nat} (hat : IsAt days cycles year day) :
    ofDays days = ofYear (year + 400 * cycles) day := by
  have hfits : ∀ year < 400, yearStart year + yearLength year ≤ cycle := by decide +kernel
  have hlt : yearStart year + day < cycle :=
    Nat.lt_of_lt_of_le (Nat.add_lt_add_left hat.day_lt _) (hfits year hat.year_lt)
  have hyear : yearOf (yearStart year + day) = year := yearOf_yearStart_add hat.year_lt hat.day_lt
  have hcycles : (days + epoch) / cycle = cycles := by
    rw [hat.days_eq, Nat.mul_add_div (by decide), Nat.div_eq_of_lt hlt, Nat.add_zero]
  have hday : (days + epoch) % cycle = yearStart year + day := by
    rw [hat.days_eq, Nat.mul_add_mod, Nat.mod_eq_of_lt hlt]
  rw [yearOf] at hyear
  rw [ofDays, hcycles, hday]
  rw [hyear, ← yearStart, Nat.add_sub_cancel_left, ofYear]

theorem IsAt.succ {days cycles year day : Nat} (hat : IsAt days cycles year day) :
    ∃ cycles' year' day', IsAt (days + 1) cycles' year' day' ∧
      (ofYear (year + 400 * cycles) day).next = ofYear (year' + 400 * cycles') day' := by
  obtain ⟨hyear, hday, hdays⟩ := hat
  by_cases hmore : day + 1 < yearLength year
  · refine ⟨cycles, year, day + 1, ⟨hyear, hmore, by omega⟩, next_ofYear ?_⟩
    rwa [yearLength_add_cycles]
  · -- The last day of a year is the last of its cycle as well if the year is.
    have hlast : day = yearLength (year + 400 * cycles) - 1 := by
      rw [yearLength_add_cycles]
      omega
    have hnext := yearStart_succ hyear
    have hlength : 0 < yearLength 0 ∧ 0 < yearLength (year + 1) := by
      simp only [yearLength]
      split <;> split <;> decide
    rw [hlast, next_ofYear_last]
    by_cases hend : year = 399
    · refine ⟨cycles + 1, 0, 0, ⟨by decide, hlength.1, ?_⟩, ?_⟩
      · rw [if_pos hend] at hnext
        subst hend
        simp only [yearStart, cycle] at *
        omega
      · rw [hend]
        congr 1
        omega
    · refine ⟨cycles, year + 1, 0, ⟨by omega, hlength.2, ?_⟩, ?_⟩
      · rw [if_neg hend] at hnext
        omega
      · rw [Nat.add_right_comm]

theorem exists_isAt (days : Nat) : ∃ cycles year day, IsAt days cycles year day := by
  induction days with
  | zero => exact ⟨4, 369, 306, by decide, by decide, by decide⟩
  | succ days ih =>
    obtain ⟨cycles, year, day, hat⟩ := ih
    obtain ⟨cycles', year', day', hat', -⟩ := hat.succ
    exact ⟨cycles', year', day', hat'⟩

theorem ofDays_succ (days : Nat) : ofDays (days + 1) = (ofDays days).next := by
  obtain ⟨cycles, year, day, hat⟩ := exists_isAt days
  obtain ⟨cycles', year', day', hat', hnext⟩ := hat.succ
  rw [hat'.ofDays_eq, hat.ofDays_eq, hnext]

/-- The calendar is found by counting the days from the first of January 1970. -/
theorem ofDays_eq_iterate (days : Nat) : ofDays days = next^[days] ⟨1970, 1, 1⟩ := by
  induction days with
  | zero => decide
  | succ days ih => rw [ofDays_succ, ih, Function.iterate_succ_apply']

end Date

/-- A decimal number that is some digits wide at least. Zeros stand in front only to make it so. -/
structure IsPadded (width : Nat) (text : String) (n : Nat) : Prop where
  decimal : Text.IsDecimal text.toList n
  width_le : width ≤ text.toList.length
  tight : width < text.toList.length → text.toList.head? ≠ some '0'

theorem toList_padded (width n : Nat) : (padded width n).toList =
    List.replicate (width - (Nat.toDigits 10 n).length) '0' ++ Nat.toDigits 10 n := by
  rw [padded, String.toList_append, Text.toList_natText, ← String.length_toList, Text.toList_natText]
  generalize width - (Nat.toDigits 10 n).length = zeros
  congr 1
  induction zeros with
  | zero => rfl
  | succ zeros ih =>
    rw [List.replicate_succ', ← ih]
    simp [String.pushn_eq_repeat_push, Nat.repeat]

theorem isPadded_iff {width n : Nat} (hwidth : 0 < width) {text : String} :
    IsPadded width text n ↔ text = padded width n := by
  rw [← String.toList_inj, toList_padded]
  constructor
  · rintro ⟨hdecimal, hle, htight⟩
    obtain ⟨zeros, heq⟩ := hdecimal.exists_zeros
    rw [heq, List.length_append, List.length_replicate] at hle htight
    rw [heq]
    cases zeros with
    | zero => rw [Nat.sub_eq_zero_of_le (by omega)]
    | succ zeros =>
      have hfull : ¬ width < zeros + 1 + (Nat.toDigits 10 n).length := fun hlt => htight hlt rfl
      congr 2
      omega
  · intro heq
    have hlength := congrArg List.length heq
    rw [List.length_append, List.length_replicate] at hlength
    refine ⟨?_, by omega, ?_⟩
    · rw [heq]
      exact (Text.isDecimal_toDigits n).zeros_append _
    · intro hlt
      rw [heq, Nat.sub_eq_zero_of_le (by omega)]
      refine Text.head?_toDigits_ne_zero (Nat.pos_of_ne_zero ?_)
      rintro rfl
      rw [Nat.toDigits_zero, List.length_singleton] at hlength
      omega

/-- A text gives a date, and an hour, a minute and a second of it. -/
def Writes (text : String) (date : Date) (hour minute second : Nat) : Prop :=
  ∃ year month day hours minutes seconds, IsPadded 4 year date.year ∧ IsPadded 2 month date.month ∧
    IsPadded 2 day date.day ∧ IsPadded 2 hours hour ∧ IsPadded 2 minutes minute ∧
    IsPadded 2 seconds second ∧ text = year ++ "-" ++ month ++ "-" ++ day ++ "T" ++ hours ++ ":" ++
      minutes ++ ":" ++ seconds ++ "Z"

/-- A text gives the date, the hour, the minute and the second of a time. The date is found by counting
the days from the first of January 1970. -/
def Denotes (text : String) (seconds : Nat) : Prop :=
  ∃ day hour minute second, hour < 24 ∧ minute < 60 ∧ second < 60 ∧
    seconds = ((day * 24 + hour) * 60 + minute) * 60 + second ∧
    Writes text (Date.next^[day] ⟨1970, 1, 1⟩) hour minute second

/-- There is one text for a time. -/
theorem denotes_iff {text : String} {seconds : Nat} :
    Denotes text seconds ↔ text = timestamp seconds := by
  have hwrites (date : Date) (hour minute second : Nat) : Writes text date hour minute second ↔
      text = padded 4 date.year ++ "-" ++ padded 2 date.month ++ "-" ++ padded 2 date.day ++ "T" ++
        padded 2 hour ++ ":" ++ padded 2 minute ++ ":" ++ padded 2 second ++ "Z" := by
    simp only [Writes, isPadded_iff (Nat.zero_lt_succ _), exists_and_left, exists_eq_left]
  simp only [Denotes, hwrites, ← Date.ofDays_eq_iterate, timestamp]
  constructor
  · rintro ⟨day, hour, minute, second, hhour, hminute, hsecond, rfl, rfl⟩
    have hday : (((day * 24 + hour) * 60 + minute) * 60 + second) / 86400 = day := by omega
    have hrest : (((day * 24 + hour) * 60 + minute) * 60 + second) % 86400 =
        (hour * 60 + minute) * 60 + second := by omega
    rw [hday, hrest]
    congr <;> omega
  · rintro rfl
    exact ⟨seconds / 86400, seconds % 86400 / 3600, seconds % 86400 / 60 % 60,
      seconds % 86400 % 60, by omega, by omega, by omega, by omega, rfl⟩

end EventRelay.Time
