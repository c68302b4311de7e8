import Airwaves.Catalog.Pool
/-!
# Requests and the request line

A registered listener keeps requested songs (twelve, twenty-four with perks) and waits in a
station's request line while tuned in.
-/
namespace Airwaves.Listeners

open Catalog

/-- The user behind a reference. -/
def userOf (v : Value) : Act User := do return (← userAt v).2

/-- Changes the user behind a reference. -/
def changeUser (v : Value) (f : User → User) : Act Unit := do
  let (h, _) ← userAt v
  updateUser h f

/-- An entry of the user's data, or a missing key. -/
def dataOf (u : User) (key : String) : Act Value :=
  match Dict.field? u.data key with
  | some x => pure x
  | none => Act.raise (.missingKey (.str key))

/-- Sets an entry of the user's data. -/
def setData (v : Value) (key : String) (x : Value) : Act Unit :=
  changeUser v fun u => { u with data := Dict.putField u.data key x }

/-- Whether the user is registered: an id above one. -/
def isRegistered (u : User) : Act Bool := isGreater u.id (.int 1)

/-- Whether the user is anonymous: an id of at most one. -/
def isAnonymous (u : User) : Act Bool := isAtMost u.id (.int 1)

/-- A refusal of the API with a translation key. -/
def refusal (key : String) : Fault := .api (ApiError.make key)

/-- How many songs the user has requested, on a station when one is given; an anonymous
user has none. -/
def requestCount (v sid : Value) : Act Value := do
  let u ← userOf v
  if ← isAnonymous u then return .bool false
  if sid.truthy then fetchVar [u.id, sid] else fetchVar [u.id]

/-- The room left for requests; a user without room is refused. -/
def requestRoom (v : Value) : Act Value := do
  let count ← requestCount v (.bool false)
  let limit : Value := if (← dataOf (← userOf v) "perks").truthy then .int 24 else .int 12
  if ← isAtLeast count limit then Act.raise (refusal "too_many_requests")
  minus limit count

/-- Leaves the request line; whether the user was in it. -/
def leaveLine (v : Value) : Act Bool := do
  isGreater (← dbUpdate [(← userOf v).id]) (.int 0)

/-- Whether the user is in a request line. -/
def inLine (v : Value) : Act Bool := do
  isGreater (← fetchVar [(← userOf v).id]) (.int 0)

/-- The user's first request that can be played on a station now. -/
def topRequest (v sid : Value) : Act Value := do fetchVar [(← userOf v).id, sid]

/-- The station of the user's request line. -/
def lineStation (v : Value) : Act Value := do fetchVar [(← userOf v).id]

/-- Joins a station's request line: refused (false) for anonymous users and without a
station, nothing when requests are paused, true when already in that line, and otherwise
whether joining wrote a row, remembering whether a request could be played. -/
def joinLine (v sid : Value) : Act Value := do
  let u ← userOf v
  if (← isAnonymous u) || !sid.truthy then return .bool false
  if (← fetchVar [u.id]).truthy then return .none
  let lined ← fetchRow [u.id]
  if lined.truthy then
    if Value.equals (← col lined "sid") sid then
      if (← col lined "line_expiry_tune_in").truthy then
        let _ ← dbUpdate [u.id]
      return .bool true
    let _ ← leaveLine v
  let valid := (← topRequest v sid).truthy
  return .bool (← isGreater (← dbUpdate [u.id, sid, .bool valid]) (.int 0))

/-- Refuses a song that a stored request already names, or, for a user without perks, a song
whose album a stored request's song is on. -/
def checkStored (v : Value) (s : Song) (requested : Value) : Act Unit := do
  if Value.equals s.id (← col requested "song_id") then Act.raise (refusal "same_request_exists")
  if !(← dataOf (← userOf v) "perks").truthy then
    let album ← itemOf s.albums (.int 0)
    if Value.equals (← metadataOf album).id (← col requested "album_id") then
      Act.raise (refusal "same_request_album")

/-- Requests a song on a station, joining the line when the user is tuned in there. -/
def addRequest (v sid songId : Value) : Act Value := do
  let _ ← requestRoom v
  let song ← Songs.loadFromId songId sid
  let s ← Songs.songOf song
  let u ← userOf v
  for requested in ← itemsOf (← fetchAll [u.id]) do
    checkStored v s requested
  let added ← dbUpdate [u.id, songId, sid]
  let u ← userOf v
  if Value.equals (← dataOf u "sid") sid then
    if (← dataOf u "tuned_in").truthy then
      let _ ← joinLine v sid
  return added

/-- The number of songs to request in bulk: the room left when no number is given or
when the room is larger. -/
def bulkLimit (room limit : Value) : Act Value := do
  if !limit.truthy then return room
  if ← isGreater room limit then return room
  return limit

/-- Requests each chosen song, joining the line when any was added; the number added. -/
def addChosen (v sid : Value) (songs : List Value) : Act Value := do
  let u ← userOf v
  let mut added : Value := .int 0
  for songId in songs do
    if songId.truthy then
      added ← plusIn added (← dbUpdate [u.id, songId, sid])
  if ← isGreater added (.int 0) then let _ ← joinLine v sid
  return added

/-- Requests unrated songs on a station, up to the room left. -/
def addUnrated (v sid limit : Value) : Act Value := do
  let limit ← bulkLimit (← requestRoom v) limit
  addChosen v sid (← Pool.unratedForRequesting (← userOf v).id sid limit)

/-- Requests favourite and highly rated songs on a station, up to the room left. -/
def addFavorites (v sid limit : Value) : Act Value := do
  let limit ← bulkLimit (← requestRoom v) limit
  addChosen v sid (← Pool.favoritesForRequesting (← userOf v).id sid limit)

/-- Withdraws a request; a song that was not requested is refused. -/
def removeRequest (v songId : Value) : Act Value := do
  let u ← userOf v
  if !(← fetchVar [u.id, songId]).truthy then Act.raise (refusal "song_not_requested")
  dbUpdate [u.id, songId]

/-- Withdraws every request. -/
def clearRequests (v : Value) : Act Value := do dbUpdate [(← userOf v).id]

/-- Pauses requests, leaving the line; whether the pause was recorded. -/
def pauseRequests (v : Value) : Act Bool := do
  let _ ← leaveLine v
  if Value.equals (← dbUpdate [(← userOf v).id]) (.int 0) then return false
  setData v "requests_paused" (.bool true)
  return true

/-- Resumes requests, joining a station's line; whether the resumption was recorded. -/
def resumeRequests (v sid : Value) : Act Bool := do
  if Value.equals (← dbUpdate [(← userOf v).id]) (.int 0) then return false
  setData v "requests_paused" (.bool false)
  let _ ← joinLine v sid
  return true

/-- The user's entry in a mapping keyed by user id; none for users without an entry. -/
def cachedEntry (v table : Value) : Act Value := do
  let u ← userOf v
  if ← isIn u.id table then itemOf table u.id else return .none

/-- Where the user stands in a station's request line. -/
def linePosition (v sid : Value) : Act Value := do
  if ← isAnonymous (← userOf v) then return .none
  cachedEntry v (← Cache.readStation sid "request_user_positions")

/-- When the user's place in the request line expires. -/
def lineExpiry (v : Value) : Act Value := do
  if ← isAnonymous (← userOf v) then return .none
  cachedEntry v (← Cache.read "request_expire_times")

/-- One requested song as the listener sees it: playable only when it exists on the
station asked about and is neither cooling down nor blocked, with its album described. -/
def shownRequest (sid row : Value) : Act Value := do
  let playable ← do
    if !(← col row "valid").truthy then pure false
    else if (← col row "cool").truthy then pure false
    else if (← col row "elec_blocked").truthy then pure false
    else pure (Value.equals (← col row "sid") sid)
  let row := withField row "valid" (.bool playable)
  let name ← col row "album_name"
  let id ← col row "album_id"
  let fave ← col row "album_fave"
  let rating ← roundTo (← col row "album_rating") 1
  let ratingUser ← col row "album_rating_user"
  let complete ← col row "album_rating_complete"
  let art ← artUrl id (← col row "sid")
  let row := ["album_name", "album_fave", "album_rating", "album_rating_user", "album_rating_complete",
    "album_id"].foldl (fun r k => match r with
      | .dict es => .dict (Dict.without es (.str k))
      | other => other) row
  return withField row "albums" (.list [Value.record [("name", name), ("id", id), ("fave", fave),
    ("rating", rating), ("rating_user", ratingUser), ("rating_complete", complete), ("art", art)]])

/-- The user's requests as seen from a station, in request order. -/
def requestsOn (v sid : Value) : Act Value := do
  let u ← userOf v
  if ← isAnonymous u then return .list []
  let rows ← if ← isPostgres then fetchAll [sid, u.id, u.id, sid, u.id] else pure (.list [])
  let rows := if rows.truthy then rows else .list []
  let mut shown : List Value := []
  for row in ← itemsOf rows do
    shown := shown ++ [← shownRequest sid row]
  return .list shown

/-- Sets when the user's place in line expires unless the user tunes in: a given time,
or the configured timeout from now; nothing when the user is not in a line. -/
def setTuneInExpiry (v t : Value) : Act Value := do
  if !(← inLine v) then return .none
  let t ← if t.truthy then pure t else do plus (← timestamp) (← Config.get "request_tunein_timeout")
  dbUpdate [t, (← userOf v).id]

/-- Locks the listener to a station for a number of elections. -/
def lockToStation (v sid count : Value) : Act Value := do
  setData v "lock" (.bool true)
  setData v "lock_sid" sid
  setData v "lock_counter" count
  dbUpdate [sid, count, ← dataOf (← userOf v) "listener_id"]

end Airwaves.Listeners
