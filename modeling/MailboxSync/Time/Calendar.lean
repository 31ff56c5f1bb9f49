/-!
# The calendar

* `Calendar.dayNumber` — days from `0001-01-01` to a date of the proleptic Gregorian calendar;
* `Calendar.ofDayNumber` — the date of a day number.  Both count from a first of March, so that the day a leap year
  adds is the last of its year, and go through eras of 400 years;
* `Fields` — a date with a time of day; `Fields.micros` and `Fields.ofMicros` go to and from microseconds since
  `0001-01-01T00:00:00`, and `span` is the first number past `9999-12-31T23:59:59.999999`.
-/

namespace MailboxSync.Calendar

/-- Whether a year has a 29th of February. -/
def isLeap (year : Nat) : Bool := year % 4 = 0 && (year % 100 ≠ 0 || year % 400 = 0)

def daysInMonth (year month : Nat) : Nat :=
  if month = 2 then (if isLeap year then 29 else 28)
  else if month = 4 || month = 6 || month = 9 || month = 11 then 30
  else 31

/-- Days from the first of March of year zero to `0001-01-01`. -/
def epochShift : Nat := 306

/-- Days from `0001-01-01` to a date of year 1 or later. -/
def dayNumber (year month day : Nat) : Nat :=
  let y := if month ≤ 2 then year - 1 else year
  let m := if month ≤ 2 then month + 9 else month - 3
  365 * y + y / 4 - y / 100 + y / 400 + (153 * m + 2) / 5 + (day - 1) - epochShift

/-- The date with a day number, as year, month and day. -/
def ofDayNumber (n : Nat) : Nat × Nat × Nat :=
  let z := n + epochShift
  let era := z / 146097
  let doe := z % 146097
  let yoe := (doe - doe / 1460 + doe / 36524 - doe / 146096) / 365
  let doy := doe - (365 * yoe + yoe / 4 - yoe / 100)
  let mp := (5 * doy + 2) / 153
  let day := doy - (153 * mp + 2) / 5 + 1
  let month := if mp < 10 then mp + 3 else mp - 9
  let year := era * 400 + yoe + (if month ≤ 2 then 1 else 0)
  (year, month, day)

/-- The weekday of a day number, Monday being 0. -/
def weekday (n : Nat) : Nat := n % 7

/-- Days from `0001-01-01` to the first of January of a year. -/
def yearStart (year : Nat) : Nat := dayNumber year 1 1

/-- Microseconds of a second, a minute, an hour and a day. -/
def perSecond : Nat := 1000000
def perMinute : Nat := 60 * perSecond
def perHour : Nat := 60 * perMinute
def perDay : Nat := 24 * perHour

def dayCount : Nat := 3652059

def span : Nat := dayCount * perDay

/-- A date with a time of day. -/
structure Fields where
  year : Nat
  month : Nat
  day : Nat
  hour : Nat
  minute : Nat
  second : Nat
  micro : Nat
  deriving DecidableEq, Repr, Inhabited

def Fields.micros (f : Fields) : Nat :=
  dayNumber f.year f.month f.day * perDay + f.hour * perHour + f.minute * perMinute + f.second * perSecond + f.micro

/-- The fields of a number of microseconds since `0001-01-01T00:00:00`. -/
def Fields.ofMicros (n : Nat) : Fields :=
  let (year, month, day) := ofDayNumber (n / perDay)
  let rest := n % perDay
  { year, month, day
    hour := rest / perHour
    minute := rest % perHour / perMinute
    second := rest % perMinute / perSecond
    micro := rest % perSecond }

def Fields.Valid (f : Fields) : Prop :=
  1 ≤ f.year ∧ f.year ≤ 9999 ∧ 1 ≤ f.month ∧ f.month ≤ 12 ∧ 1 ≤ f.day ∧
    f.day ≤ daysInMonth f.year f.month ∧ f.hour < 24 ∧ f.minute < 60 ∧ f.second < 60 ∧ f.micro < perSecond

instance (f : Fields) : Decidable f.Valid := by unfold Fields.Valid; infer_instance

end MailboxSync.Calendar
