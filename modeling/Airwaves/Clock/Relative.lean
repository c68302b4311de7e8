import Airwaves.World
/-!
# Relative dates

How long ago a moment was, in words: "just now", "5 minutes ago", "Yesterday".
-/
namespace Airwaves.Clock

/-- The words for a difference of whole days and seconds within the last day. -/
def agoText (days : Int) (seconds : Int) : String :=
  if days < 0 then ""
  else if days == 0 && seconds < 10 then "just now"
  else if days == 0 && seconds < 60 then toString seconds ++ " seconds ago"
  else if days == 0 && seconds < 120 then "a minute ago"
  else if days == 0 && seconds < 3600 then toString (seconds / 60) ++ " minutes ago"
  else if days == 0 && seconds < 7200 then "an hour ago"
  else if days == 0 && seconds < 86400 then toString (seconds / 3600) ++ " hours ago"
  else if days == 1 then "Yesterday"
  else if days < 7 then toString days ++ " days ago"
  else if days < 31 then toString (days / 7) ++ " weeks ago"
  else if days < 365 then toString (days / 30) ++ " months ago"
  else toString (days / 365) ++ " years ago"

/-- Why a moment in seconds cannot be read as a local date. -/
inductive MomentError where
  /-- The moment does not fit in a signed 64-bit count of seconds. -/
  | outOfRange
  /-- The year of the moment does not fit in a signed 32-bit count of years from 1900. -/
  | yearTooLarge
  /-- The year of the moment, or of the day before it, lies outside 1 to 9999. -/
  | year (y : Int)
  deriving Repr, BEq

/-- The fault a moment that cannot be read raises. -/
def MomentError.fault : MomentError → Fault
  | .outOfRange => .of .overflow "timestamp out of range for platform time_t"
  | .yearTooLarge => .of .osError "[Errno 75] Value too large for defined data type"
  | .year y => .of .valueError ("year " ++ toString y ++ " is out of range")

/-- The year of a moment in seconds since the epoch. -/
def yearOf (t : Int) : Int := (Civil.civilFromDays (t / 86400)).1

/-- Checks that a moment can be read as a local date: it fits in 64 bits, its year fits
the calendar of the system clock, and both it and the moment a day earlier fall in the
years 1 to 9999 (the day before is read to find a fold of the local time). -/
def checkMoment (t : Int) : Except MomentError Unit :=
  let bound : Int := Int.pow 2 63
  let years : Int := Int.pow 2 31
  if t < -bound || t ≥ bound then .error .outOfRange
  else if yearOf t - 1900 < -years || yearOf t - 1900 ≥ years then .error .yearTooLarge
  else if yearOf t < 1 || yearOf t > 9999 then .error (.year (yearOf t))
  else if yearOf (t - 86400) < 1 then .error (.year (yearOf (t - 86400)))
  else .ok ()

/-- The clock reading in microseconds, rounded to the nearest. -/
def nowMicros : Act Int := do
  let x := (← clock) * 1000000.0
  return (Value.floatToInt? x.round).getD 0

/-- How long ago a moment was, in words. -/
def ago (moment : Value) : Act Value := do
  let now ← nowMicros
  let diff ← match moment with
    | .int t => match checkMoment t with
      | .error e => Act.raise e.fault
      | .ok () => pure (now - t * 1000000)
    | _ => if moment.truthy then Act.raise (Fault.unbound "diff") else pure 0
  let day : Int := 86400 * 1000000
  let days := diff / day
  let seconds := (diff - days * day) / 1000000
  return .str (agoText days seconds)

end Airwaves.Clock
