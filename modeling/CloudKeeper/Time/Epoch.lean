import CloudKeeper.Time.Timestamp
/-!
Calendar time counted in nanoseconds from the start of 1970. Years are counted from March, so that the
leap day is the last of its year, and in eras of 400 years, which all have the same length.
-/
namespace CloudKeeper.Time

/-- The number of days in 400 years. -/
def daysInEra : Nat := 146097

/-- The day that lies a number of days after the first of January 1970. -/
def Date.ofDays? (days : Nat) : Option Date :=
  let fromMarch := days + 719468
  let inEra := fromMarch % daysInEra
  let year := (inEra - inEra / 1460 + inEra / 36524 - inEra / 146096) / 365
  let inYear := inEra - (365 * year + year / 4 - year / 100)
  let month := (5 * inYear + 2) / 153
  let day := inYear - (153 * month + 2) / 5 + 1
  let year := year + fromMarch / daysInEra * 400
  if month < 10 then Date.of? year (month + 3) day else Date.of? (year + 1 : Nat) (month - 9) day

/-- The point of time a number of nanoseconds after the start of 1970. -/
def Timestamp.ofNanos? (nanos : Nat) : Option Timestamp :=
  let seconds := nanos / 1000000000
  (Date.ofDays? (seconds / 86400)).map fun date =>
    { date
      hour := seconds / 3600 % 24
      minute := seconds / 60 % 60
      second := seconds % 60
      nanos := nanos % 1000000000
      valid := by omega }

/-- The start of 1970. -/
def Timestamp.epoch : Timestamp := ⟨⟨1970, 1, 1, by decide⟩, 0, 0, 0, 0, by decide⟩

/-- Counting starts at the start of 1970. -/
theorem Timestamp.ofNanos?_zero : ofNanos? 0 = some epoch := by decide +kernel

end CloudKeeper.Time
