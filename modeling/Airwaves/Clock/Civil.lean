import Airwaves.Value.Basic
/-!
# Civil dates and times

Converts moments to proleptic Gregorian dates and wall-clock times in UTC and back, by
the days-from-civil arithmetic on 400-year eras, and writes them in the ISO 8601 forms
used by the service.
-/
namespace Airwaves

/-- A calendar date with a wall-clock time of day. -/
structure Civil where
  year : Int
  month : Nat
  day : Nat
  hour : Nat := 0
  minute : Nat := 0
  second : Nat := 0
  micro : Nat := 0
  deriving Repr, Inhabited, BEq

namespace Civil

/-- Days since 1970-01-01 of a proleptic Gregorian date. -/
def daysFromCivil (y : Int) (m d : Nat) : Int :=
  let y := if m ≤ 2 then y - 1 else y
  let era := y / 400
  let yoe := y - era * 400
  let mp : Int := if m > 2 then (m : Int) - 3 else (m : Int) + 9
  let doy := (153 * mp + 2) / 5 + (d : Int) - 1
  let doe := yoe * 365 + yoe / 4 - yoe / 100 + doy
  era * 146097 + doe - 719468

/-- The date of a day number counted from 1970-01-01. -/
def civilFromDays (z : Int) : Int × Nat × Nat :=
  let z := z + 719468
  let era := z / 146097
  let doe := z - era * 146097
  let yoe := (doe - doe / 1460 + doe / 36524 - doe / 146096) / 365
  let y := yoe + era * 400
  let doy := doe - (365 * yoe + yoe / 4 - yoe / 100)
  let mp := (5 * doy + 2) / 153
  let d := doy - (153 * mp + 2) / 5 + 1
  let m := if mp < 10 then mp + 3 else mp - 9
  ((if m ≤ 2 then y + 1 else y), m.toNat, d.toNat)

/-- Whether a year has a 29th of February. -/
def leapYear (y : Int) : Bool := (y % 4 == 0 && y % 100 != 0) || y % 400 == 0

/-- Number of days in a month of a year. -/
def monthLength (y : Int) (m : Nat) : Nat :=
  match m with
  | 2 => if leapYear y then 29 else 28
  | 4 | 6 | 9 | 11 => 30
  | _ => 31

/-- The moment of a civil date and time. -/
def toInstant (c : Civil) : Instant :=
  let days := daysFromCivil c.year c.month c.day
  let secs := days * 86400 + c.hour * 3600 + c.minute * 60 + c.second
  ⟨secs * 1000000 + c.micro⟩

end Civil

namespace Instant

/-- The civil date and time of a moment. -/
def toCivil (t : Instant) : Civil :=
  let secs := t.micros / 1000000
  let micro := (t.micros % 1000000).toNat
  let days := secs / 86400
  let rest := (secs % 86400).toNat
  let (y, m, d) := Civil.civilFromDays days
  { year := y, month := m, day := d, hour := rest / 3600, minute := rest % 3600 / 60,
    second := rest % 60, micro := micro }

/-- The moment a whole number of seconds after the epoch. -/
def ofSeconds (s : Int) : Instant := ⟨s * 1000000⟩

/-- Whole seconds since the epoch, rounded down. -/
def seconds (t : Instant) : Int := t.micros / 1000000

/-- Zero-padded decimal text of a natural number. -/
def pad (width : Nat) (n : Nat) : String :=
  let s := toString n
  String.ofList (List.replicate (width - s.length) '0') ++ s

/-- Text of a year, four digits at least. -/
def yearText (y : Int) : String :=
  if y < 0 then "-" ++ pad 4 y.natAbs else pad 4 y.toNat

/-- ISO 8601 text `YYYY-MM-DDTHH:MM:SS`, with microseconds when there are any; `sep`
stands between date and time. -/
def isoText (t : Instant) (sep : String := "T") : String :=
  let c := t.toCivil
  let base := yearText c.year ++ "-" ++ pad 2 c.month ++ "-" ++ pad 2 c.day ++ sep ++
    pad 2 c.hour ++ ":" ++ pad 2 c.minute ++ ":" ++ pad 2 c.second
  if c.micro = 0 then base else base ++ "." ++ pad 6 c.micro

/-- The day of the week of a moment, counted from Monday as zero (the epoch fell on a
Thursday). -/
def weekday (t : Instant) : Nat := ((t.seconds / 86400 + 3) % 7).toNat

/-- The three-letter English name of the day of the week of a moment. -/
def weekdayName (t : Instant) : String :=
  (["Mon", "Tue", "Wed", "Thu", "Fri", "Sat", "Sun"].getD t.weekday "")

/-- The date `YYYY-MM-DD` of a moment. -/
def dateText (t : Instant) : String :=
  let c := t.toCivil
  yearText c.year ++ "-" ++ pad 2 c.month ++ "-" ++ pad 2 c.day

end Instant

end Airwaves
