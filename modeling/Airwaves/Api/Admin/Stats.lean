import Airwaves.Api.Handler
import Airwaves.Clock.Civil
/-!
# Listener statistics

Average listener counts of stations one to five over a range of dates, hourly, daily or weekly,
or by four-hour slot of the week.
-/
namespace Airwaves.Api.Stats

/-- The moment of a date argument as seconds, or a fallback. -/
def secondsOr (v : Value) (name : String) (fallback : Act Value) : Act Value := do
  match ← argument v name with
  | .time t => return .float (Double.ofInt t.seconds)
  | x => if x.truthy then noMember x "timetuple" else fallback

/-- The start and end of the range asked for. -/
def range (v : Value) : Act (Value × Value) := do
  let start ← secondsOr v "date_start" do
    plus (← minus (← timestamp) (.int (7 * 86400))) (.int 1)
  let stop ← secondsOr v "date_end" timestamp
  return (start, stop)

/-- The stations the statistics cover. -/
def statStations : List Value := [.int 1, .int 2, .int 3, .int 4, .int 5]

/-- The moment of a slot's time value, to the second. -/
def slotMoment (x : Value) : Act Instant := do
  match x.number? with
  | some (.whole n) => return Instant.ofSeconds n
  | some (.real r) => return Instant.ofSeconds ((Value.floatToInt? r.floor).getD 0)
  | none => Act.raise (.typeError ("'" ++ x.kindName ++ "' object cannot be interpreted as an integer"))

/-- Reads the counts of each station, writing each slot's time with a format. -/
def countsBy (v start stop : Value) (write : Instant → String) : Act Unit := do
  Config.change fun c => { c with stationIds := statStations }
  let mut result : Dict := []
  for sid in statStations do
    let rows ← fetchAll [start, stop, sid]
    let mut written : List Value := []
    for row in ← itemsOf rows do
      let t ← slotMoment (← col row "lc_time")
      written := written ++ [withField row "lc_time" (.str (write t))]
    result := Dict.put result sid (.list written)
  let _ ← append v (← answerName v) (.dict result)

/-- The hour of a moment as `YYYY-MM-DD HH:00`. -/
def hourText (t : Instant) : String := t.dateText ++ " " ++ Instant.pad 2 t.toCivil.hour ++ ":00"

/-- The slot of the week of a moment as `Ddd HH:MM`. -/
def weekSlotText (t : Instant) : String :=
  t.weekdayName ++ " " ++ Instant.pad 2 t.toCivil.hour ++ ":" ++ Instant.pad 2 t.toCivil.minute

/-- Listener counts over a range of dates. -/
def listenerStats : Endpoint where
  url := "/api4/admin/listener_stats"
  returnName := some "listener_stats"
  gates := { admin := true, station := false }
  fields := [accepts "date_start" .date, accepts "date_end" .date]
  serve v := do
    let (start, stop) ← range v
    if ← isAtLeast start stop then
      Act.raise (refuseWith "invalid_argument" "Start date cannot be after end date.")
    let span ← minus stop start
    if ← isAtMost span (.int (86400 * 7)) then countsBy v start stop hourText
    else countsBy v start stop Instant.dateText

/-- Listener counts over a range of dates, grouped into four-hour slots of the week. -/
def listenerStatsByHour : Endpoint where
  url := "/api4/admin/listener_stats_by_hour"
  returnName := some "listener_stats"
  gates := { admin := true, station := false }
  fields := [accepts "date_start" .date, accepts "date_end" .date]
  serve v := do
    let (start, stop) ← range v
    countsBy v start stop weekSlotText

end Airwaves.Api.Stats
