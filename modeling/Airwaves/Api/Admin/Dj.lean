import Airwaves.Api.Now
/-!
# DJ controls

Pausing and resuming a station, the pause title and the DJ's heartbeat. Controls that need the
streaming server are not modelled.
-/
namespace Airwaves.Api.Dj

/-- Answers whether the change was made, with a message. -/
def report (v : Value) (entries : List (String × Value)) : Act Unit := do
  let _ ← append v (← answerName v) (Value.record (("success", .bool true) :: entries))

/-- The failure of a control that needs the streaming server. -/
def serverUnreachable : Fault := .general "The streaming server cannot be reached."

/-- Pauses the station. -/
def pause : Endpoint where
  url := "/api4/admin/dj/pause"
  gates := { dj := true }
  serve v := do
    Cache.putStation (← stationOf v) "backend_paused" (.bool true)
    Now.attachDjInfo v
    report v [("message", .str "At 0:00 the station will go silent and wait for you.")]

/-- Lifts the pause of the station. -/
def unpause : Endpoint where
  url := "/api4/admin/dj/unpause"
  gates := { dj := true }
  fields := [accepts "kick_dj" .boolean]
  serve v := do
    let sid ← stationOf v
    let mut result := if (← Cache.readStation sid "backend_paused").truthy then "Unpausing station.  "
      else "Station seems unpaused already.  "
    Cache.putStation sid "backend_paused" (.bool false)
    if (← Cache.readStation sid "backend_paused_playing").truthy then Act.raise serverUnreachable
    result := result ++ "If station remains silent, music will start playing within 5 minutes unless you hit skip."
    if (← argumentOr v "kick_dj" (.bool false)).truthy then Act.raise serverUnreachable
    Now.attachDjInfo v
    report v [("message", .str result)]

/-- Skips the song playing. -/
def skip : Endpoint where
  url := "/api4/admin/dj/skip"
  gates := { dj := true }
  serve _ := Act.raise serverUnreachable

/-- Changes the DJ password. -/
def changePassword : Endpoint where
  url := "/api4/admin/dj/change_pw"
  gates := { dj := true }
  serve _ := Act.raise serverUnreachable

/-- Sets the title shown while the station is paused. -/
def pauseTitle : Endpoint where
  url := "/api4/admin/dj/pause_title"
  gates := { dj := true }
  fields := [needs "title" .text]
  serve v := do
    let title ← argument v "title"
    Cache.putStation (← stationOf v) "pause_title" title
    Now.attachDjInfo v
    report v [("pause_title", title)]

/-- Reports that the DJ is still there. -/
def heartbeat : Endpoint where
  url := "/api4/admin/dj/heartbeat"
  gates := { dj := true }
  serve v := do
    Cache.putStation (← stationOf v) "dj_heartbeat" (← timestamp)
    report v []

end Airwaves.Api.Dj
