import EventRelay.Text.Decimal

namespace EventRelay.Time

/-- A day of the Gregorian calendar. Months and days count from one. -/
structure Date where
  year : Nat
  month : Nat
  day : Nat
  deriving DecidableEq, Repr

namespace Date

/-- Days from the first of March of the year zero to the first of January 1970. -/
def epoch : Nat := 719468

/-- Days in four hundred years, after which the calendar repeats. -/
def cycle : Nat := 146097

/-- The day that many days after the first of January 1970. Years are taken to begin in March, so that
    the leap day is the last of its year. -/
def ofDays (days : Nat) : Date :=
  let inCycle := (days + epoch) % cycle
  let year := (inCycle - inCycle / 1460 + inCycle / 36524 - inCycle / 146096) / 365
  let inYear := inCycle - (365 * year + year / 4 - year / 100)
  let month := (5 * inYear + 2) / 153
  let year := year + 400 * ((days + epoch) / cycle)
  { year := if month < 10 then year else year + 1
    month := if month < 10 then month + 3 else month - 9
    day := inYear - (153 * month + 2) / 5 + 1 }

end Date

/-- A number in decimal with at least that many digits. -/
def padded (digits n : Nat) : String :=
  let text := Text.natText n
  "".pushn '0' (digits - text.length) ++ text

/-- A time in seconds from the beginning of 1970, as in `1970-01-01T00:00:00Z`. -/
def timestamp (seconds : Nat) : String :=
  let date := Date.ofDays (seconds / 86400)
  let second := seconds % 86400
  padded 4 date.year ++ "-" ++ padded 2 date.month ++ "-" ++ padded 2 date.day ++ "T" ++
    padded 2 (second / 3600) ++ ":" ++ padded 2 (second / 60 % 60) ++ ":" ++
    padded 2 (second % 60) ++ "Z"

end EventRelay.Time
