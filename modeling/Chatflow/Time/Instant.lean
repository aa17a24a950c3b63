/-! Moments in time. An instant counts microseconds from the beginning of 1970 in universal time, and
remembers how far east of it the clock stood that it was read from. Calendars run from the year 1 to the
end of the year 9999. -/

namespace Chatflow

/-- A moment, with the offset in seconds of the clock that told it. -/
structure Instant where
  micros : Int
  offset : Int := 0
deriving Repr, DecidableEq, Inhabited

/-- A day, a time of the day and the day of the week, which begins on Monday with 0. -/
structure Civil where
  year : Int
  month : Nat
  day : Nat
  hour : Nat
  minute : Nat
  second : Nat
  micro : Nat
  weekday : Nat
deriving Repr, DecidableEq

/-- Days from the beginning of 1970 to a date. Years are counted from March, so that the leap day is the
last one. -/
def daysFromDate (year : Int) (month day : Nat) : Int :=
  let y := if month ≤ 2 then year - 1 else year
  let era := y.fdiv 400
  let yearOfEra := y.fmod 400
  let m : Int := ((month + 9) % 12 : Nat)
  let dayOfYear := (153 * m + 2).fdiv 5 + day - 1
  era * 146097 + yearOfEra * 365 + yearOfEra.fdiv 4 - yearOfEra.fdiv 100 + dayOfYear - 719468

/-- The date that many days after the beginning of 1970: year, month and day. -/
def dateFromDays (days : Int) : Int × Nat × Nat :=
  let z := days + 719468
  let era := z.fdiv 146097
  let dayOfEra := z.fmod 146097
  let yearOfEra :=
    (dayOfEra - dayOfEra.fdiv 1460 + dayOfEra.fdiv 36524 - dayOfEra.fdiv 146096).fdiv 365
  let dayOfYear := dayOfEra - (365 * yearOfEra + yearOfEra.fdiv 4 - yearOfEra.fdiv 100)
  let m := (5 * dayOfYear + 2).fdiv 153
  let day := dayOfYear - (153 * m + 2).fdiv 5 + 1
  let month := if m < 10 then m + 3 else m - 9
  (yearOfEra + era * 400 + (if month ≤ 2 then 1 else 0), month.toNat, day.toNat)

def microsPerSecond : Int := 1000000
def microsPerDay : Int := 86400 * microsPerSecond

def Civil.ofLocalMicros (local_ : Int) : Civil :=
  let days := local_.fdiv microsPerDay
  let rest := (local_.fmod microsPerDay).toNat
  let (year, month, day) := dateFromDays days
  ⟨year, month, day, rest / 3600000000, rest / 60000000 % 60, rest / 1000000 % 60, rest % 1000000,
    ((days + 3).fmod 7).toNat⟩

namespace Instant

/-- What the clock of the instant's own offset shows. -/
def localMicros (t : Instant) : Int := t.micros + t.offset * microsPerSecond

def civil (t : Instant) : Civil := .ofLocalMicros t.localMicros

/-- Whole seconds since the beginning of 1970, rounded down. -/
def seconds (t : Instant) : Int := t.micros.fdiv microsPerSecond

/-- The first microsecond of the year 1 and of the year 10000, local time. -/
def firstMicro : Int := daysFromDate 1 1 1 * microsPerDay
def endMicro : Int := daysFromDate 10000 1 1 * microsPerDay

/-- Whether the local date is one that calendars know. -/
def inCalendar (t : Instant) : Bool := firstMicro ≤ t.localMicros && t.localMicros < endMicro

/-- The instant so many microseconds later, on the same clock; `none` beyond the calendar. -/
def add? (t : Instant) (micros : Int) : Option Instant :=
  let later : Instant := ⟨t.micros + micros, t.offset⟩
  if later.inCalendar then some later else none

def padded (width n : Nat) : String :=
  let digits := toString n
  String.ofList (List.replicate (width - digits.length) '0') ++ digits

/-- An offset from universal time in hours and minutes. -/
def offsetText (offset : Int) : String :=
  let minutes := offset.natAbs / 60
  (if offset < 0 then "-" else "+") ++ padded 2 (minutes / 60) ++ ":" ++ padded 2 (minutes % 60)

/-- Date and time without the offset; the fraction is left out when it is zero. -/
def civilText (c : Civil) : String :=
  padded 4 c.year.toNat ++ "-" ++ padded 2 c.month ++ "-" ++ padded 2 c.day ++ "T" ++
    padded 2 c.hour ++ ":" ++ padded 2 c.minute ++ ":" ++ padded 2 c.second ++
    (if c.micro = 0 then "" else "." ++ padded 6 c.micro)

/-- The standard text of an instant, `Z` standing for universal time. -/
def text (t : Instant) : String :=
  civilText t.civil ++ if t.offset = 0 then "Z" else offsetText t.offset

/-- The standard text of an instant with the offset always in digits. -/
def textWithOffset (t : Instant) : String := civilText t.civil ++ offsetText t.offset

end Instant

end Chatflow
