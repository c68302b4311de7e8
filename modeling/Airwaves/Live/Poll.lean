import Airwaves.Live.Bank
import Airwaves.Web.Exchange
/-!
# Waiting for the next change over HTTP

A client without a websocket asks for the station's state and waits in the station's bank
until the station moves on, unless it must be answered at once.
-/
namespace Airwaves.Live.Poll

open Api

/-- The long-poll endpoint: acknowledging that the station is offline, asking to resync,
and the event the client knows, all read leniently. -/
def endpoint : Endpoint where
  url := "/api4/sync"
  fields := [tolerates "offline_ack" .boolean, tolerates "resync" .boolean,
    tolerates "known_event_id" .positiveInteger]
  serve _ := pure ()

/-- Sends the answer and takes the request out of its station's bank. -/
def finish (v : Value) : Act Unit := do
  let sid ← stationOf v
  if sid.truthy then remove (← bankOf sid) v
  Web.finishAnswer v

/-- Takes the request out of its station's bank when the client goes away. -/
def closed (v : Value) : Act Unit := do
  let sid ← stationOf v
  if sid.truthy then remove (← bankOf sid) v

/-- Refreshes the listener for the request's station. -/
def refreshUser (v : Value) : Act Unit := do Listeners.refresh (← userOf v) (← stationOf v)

/-- Starts an answer afresh for the station's state: timed from now, refused when the
station is offline, with the listener refreshed and the pause of their requests not
shown. -/
def freshen (v : Value) : Act Unit := do
  let now ← timestamp
  changeHandler v fun h => h.setAttribute "_startclock" now
  if !(← Cache.readStation (← stationOf v) "backend_ok").truthy then
    Act.raise (refuse "station_offline")
  refreshUser v
  let user ← userOf v
  if Dict.hasKey (← Listeners.userOf user).data (.str "requests_paused") then
    let _ ← Listeners.popData user "requests_paused"

/-- Answers with the station's state. -/
def update (v : Value) : Act Unit := do
  freshen v
  Now.attachInfo v
  finish v

/-- Answers with the listener's own data. -/
def sendUser (v : Value) : Act Unit := do
  freshen v
  put v "user" (← Listeners.privateView (← userOf v))
  finish v

/-- Answers with a request to fetch the playlist file again. -/
def warnMixup (v : Value) : Act Unit := do
  put v "redownload_m3u"
    (.record [("tl_key", .str "redownload_m3u"), ("text", ← translate v "redownload_m3u")])
  finish v

/-- Keeps the connection alive with a blank. -/
def keepAlive (v : Value) : Act Unit := do
  Web.write v " "
  Web.flush v

/-- Holds the request until the station moves on, or answers at once. -/
def wait (v : Value) (_ : List Value) : Act Unit := do
  let dj ← Listeners.isDj (← userOf v)
  changeHandler v fun h => h.setAttribute "dj" (.bool dj)
  let sid ← stationOf v
  Now.checkSync sid (← argument v "offline_ack").truthy
  Web.setHeader v "Content-Type" (.str "application/json")
  if (← argument v "resync").truthy then
    update v
    return
  let known ← argument v "known_event_id"
  if known.truthy then
    let playing ← Cache.readStation sid "sched_current_dict"
    if playing.truthy then
      if !Value.equals (← col playing "id") known then
        update v
        return
  append (← bankOf sid) v

/-- The long-poll route. -/
def route : Web.Route where
  endpoint := endpoint
  page := .waiting
  attributes := [("is_websocket", .bool false)]
  post := some wait
  finish := finish
  waits := true

end Airwaves.Live.Poll
