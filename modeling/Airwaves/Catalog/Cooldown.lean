import Airwaves.Ops
import Airwaves.Config.Basic
/-!
# Cooldown

A station's cooldown figures, computed from the catalog at most once an hour, and the multiplier
of newly added albums.
-/
namespace Airwaves.Cooldown

/-- The figures of every station computed so far. -/
def table : Act Value := do return (← get).globals.cooldownConfig

/-- Sets one figure of a station. -/
def setFigure (sid : Value) (key : String) (v : Value) : Act Unit := do
  let all ← table
  let figures := match all with
    | .dict es => (Dict.lookup? es sid).getD (.dict [])
    | _ => .dict []
  let all := withEntry all sid (withField figures key v)
  modify fun w => { w with globals := { w.globals with cooldownConfig := all } }

/-- A figure of a station. -/
def figure (sid : Value) (key : String) : Act Value := do
  col (← itemOf (← table) sid) key

/-- A value from the database, or a fallback when it is missing or zero. -/
def orElse (v fallback : Value) : Value := if v.truthy then v else fallback

/-- `min(max(low, v), high)`. -/
def clamp (low v high : Value) : Act Value := do smaller (← larger low v) high

/-- Computes a station's cooldown figures unless they are less than an hour old. -/
def prepare (sid : Value) : Act Unit := do
  unless ← isIn sid (← table) do
    setFigure sid "time" (.int 0)
  if ← isGreater (← figure sid "time") (← minus (← timestamp) (.int 3600)) then return
  let sumAasl := orElse (← fetchVar [sid]) (.int 100000)
  let avgAlbumRating ← clamp (.int 1) (orElse (← fetchVar [sid]) (.float 3.5)) (.int 5)
  let adjustment := orElse (← fetchVar [sid]) (.int 1)
  let adjustment ← divide adjustment (← asFloat sumAasl)
  let adjustment ← clamp (.float 0.5) adjustment (.int 4)
  let percentage ← asFloat (← Config.stationGet sid "cooldown_percentage")
  let baseAlbumCool ← divide (← times percentage (← asFloat sumAasl)) (← asFloat adjustment)
  let baseAlbumCool ← larger (← smaller baseAlbumCool (.int 1000000)) (.int 1)
  let baseRating := orElse (← fetchVar [sid]) (.int 4)
  let baseRating ← clamp (.int 1) (← divide (← asFloat baseRating) (← asFloat sumAasl)) (.int 5)
  let minAlbumCool ← times (← Config.stationGet sid "cooldown_highest_rating_multiplier") baseAlbumCool
  let spread ← divide (← minus baseAlbumCool minAlbumCool) (← minus (.int 5) baseRating)
  let maxAlbumCool ← plus minAlbumCool (← times (.float 2.5) spread)
  setFigure sid "sum_aasl" (← asInt sumAasl)
  setFigure sid "avg_album_rating" (← asFloat avgAlbumRating)
  setFigure sid "multiplier_adjustment" (← asFloat adjustment)
  setFigure sid "base_album_cool" (← asInt baseAlbumCool)
  setFigure sid "base_rating" (← asFloat baseRating)
  setFigure sid "min_album_cool" (← asInt minAlbumCool)
  setFigure sid "max_album_cool" (← asInt maxAlbumCool)
  setFigure sid "time" (← asInt (← timestamp))
  let averageSongLength ← fetchVar [sid]
  setFigure sid "average_song_length" (← asFloat averageSongLength)
  let averageSongLength := orElse averageSongLength (.int 160)
  let numberSongs := orElse (← fetchVar [sid]) (.int 1)
  let maxSongCool ← times (← asFloat averageSongLength)
    (← times numberSongs (← Config.stationGet sid "cooldown_song_max_multiplier"))
  setFigure sid "max_song_cool" maxSongCool
  setFigure sid "min_song_cool" (← times maxSongCool (← Config.stationGet sid "cooldown_song_min_multiplier"))

/-- A number as a double for the math library, or the library's type error. -/
def real (v : Value) : Act Double := Act.lift (Value.asFloat v)

/-- The cooldown multiplier of an album added at a moment (seconds since the epoch). -/
def ageMultiplier (addedOn : Value) : Act Value := do
  let ageWeeks ← divide (← minus (← timestampInt) addedOn) (.float 604800.0)
  let threshold ← Config.get "cooldown_age_threshold"
  if !(← isLess ageWeeks threshold) then return .float 1.0
  let stage2End := threshold
  let stage2Start ← Config.get "cooldown_age_stage2_start"
  let stage2Min ← Config.get "cooldown_age_stage2_min_multiplier"
  let stage1Min ← Config.get "cooldown_age_stage1_min_multiplier"
  if ← isAtMost ageWeeks stage2Start then
    plus (← times (← divide ageWeeks stage2Start) (← minus stage2Min stage1Min)) stage1Min
  else
    let square := Double.pow (← real stage2End) 2.0
    let curve ← plus (← minus (.float 0.32436) (← divide stage2End (.float 288.0))) (.float (square / 38170.0))
    let weeks ← real ageWeeks
    let logTerm := 2.0 * weeks + 1.0
    if logTerm ≤ 0.0 then Act.fail .valueError "math domain error"
    let growth ← times curve (.float logTerm.log)
    plus stage2Min (← times (← minus (.float 1.0) stage2Min) growth)

end Airwaves.Cooldown
