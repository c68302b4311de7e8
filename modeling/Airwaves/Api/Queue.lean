import Airwaves.Api.Handler
/-!
# The request queue

Adding, removing, reordering, filling, clearing and pausing a listener's queue of requests.
-/
namespace Airwaves.Api.Queue

/-- Adds the listener's queue on the station to the answer. -/
def attachRequests (v : Value) : Act Unit := do
  put v "requests" (← Listeners.requestsOn (← userOf v) (← stationOf v))

/-- Requests a song on the station. -/
def request : Endpoint where
  url := "/api4/request"
  fields := [needs "song_id" .songIdOnStation]
  syncAcrossSessions := true
  serve v := do
    let user ← userOf v
    if ← anonymous user then Act.raise (refuse "must_login_and_tune_in_to_request")
    if (← Listeners.addRequest user (← stationOf v) (← argument v "song_id")).truthy then
      standard v "request_success"
      attachRequests v
    else Act.raise (refuse "request_failed")

/-- Removes a song from the listener's queue. -/
def deleteRequest : Endpoint where
  url := "/api4/delete_request"
  gates := { login := true }
  fields := [needs "song_id" .songId]
  syncAcrossSessions := true
  serve v := do
    if (← Listeners.removeRequest (← userOf v) (← argument v "song_id")).truthy then
      standard v "request_deleted"
      attachRequests v
    else Act.raise (refuse "request_delete_failed")

/-- Puts the listener's queue in the order given. -/
def orderRequests : Endpoint where
  url := "/api4/order_requests"
  gates := { login := true }
  fields := [needs "order" .songIdList]
  syncAcrossSessions := true
  serve v := do
    let userId := (← Listeners.userOf (← userOf v)).id
    let mut order : Int := 0
    for songId in ← itemsOf (← argument v "order") do
      let _ ← dbUpdate [.int order, userId, songId]
      order := order + 1
    standard v "requests_reordered"
    attachRequests v

/-- Fills the listener's queue with unrated songs. -/
def requestUnrated : Endpoint where
  url := "/api4/request_unrated_songs"
  gates := { login := true }
  fields := [accepts "limit" .integer]
  syncAcrossSessions := true
  serve v := do
    let added ← Listeners.addUnrated (← userOf v) (← stationOf v) (← argument v "limit")
    if ← isGreater added (.int 0) then
      standard v "request_unrated_songs_success"
      attachRequests v
    else Act.raise (refuse "request_unrated_failed")

/-- Fills the listener's queue with favourite songs. -/
def requestFavourites : Endpoint where
  url := "/api4/request_favorited_songs"
  gates := { login := true }
  fields := [accepts "limit" .integer]
  syncAcrossSessions := true
  serve v := do
    let added ← Listeners.addFavorites (← userOf v) (← stationOf v) (← argument v "limit")
    if ← isGreater added (.int 0) then
      standard v "request_favorited_songs_success"
      attachRequests v
    else Act.raise (refuse "request_favorited_failed")

/-- Empties the listener's queue. -/
def clearRequests : Endpoint where
  url := "/api4/clear_requests"
  gates := { login := true }
  syncAcrossSessions := true
  serve v := do
    let _ ← Listeners.clearRequests (← userOf v)
    attachRequests v

/-- Answers the listener's record and whether the queue is paused. -/
def attachPauseState (v : Value) : Act Unit := do
  let user ← userOf v
  put v "user" (← Listeners.privateView user)
  if (← Listeners.dataOf (← Listeners.userOf user) "requests_paused").truthy then
    standard v "radio_requests_paused"
  else standard v "radio_requests_unpaused"

/-- Pauses the listener's queue. -/
def pauseQueue : Endpoint where
  url := "/api4/pause_request_queue"
  gates := { login := true }
  syncAcrossSessions := true
  serve v := do
    let _ ← Listeners.pauseRequests (← userOf v)
    attachPauseState v

/-- Resumes the listener's queue. -/
def resumeQueue : Endpoint where
  url := "/api4/unpause_request_queue"
  gates := { login := true }
  syncAcrossSessions := true
  serve v := do
    let _ ← Listeners.resumeRequests (← userOf v) (← stationOf v)
    attachPauseState v

/-- The station's request line, as cached. -/
def requestLine : Endpoint where
  url := "/api4/request_line"
  serve v := do
    let _ ← append v (← answerName v) (← Cache.readStation (← stationOf v) "request_line")

end Airwaves.Api.Queue
