import Airwaves.Listener.Account
import Airwaves.Catalog.SongPlay
/-!
# A station's request line

Rebuilding the line from the listeners waiting on a station, longest waiting first, with the
countdowns for listeners without a playable request or not tuned in.
-/
namespace Airwaves.Requests

open Catalog Listeners

/-- The place a listener keeps in the line, and what the rebuild carries along. -/
structure Rebuild where
  line : List Value := []
  places : Dict := []
  pendingAlbums : List Value := []
  keptPlace : Nat := 1
  shownPlace : Nat := 1
  validPlaces : Nat := 0

/-- Sets a field of a row. -/
def setField (row : Value) (key : String) (x : Value) : Value := withField row key x

/-- Whether a time has passed: set and not after now. -/
def hasPassed (t now : Value) : Act Bool := do
  if !t.truthy then return false
  isAtMost t now

/-- Notes a tuned-in listener's first request that can be played: the row is marked as having
had a valid request, and so is the listener's place in the line's table. -/
def noteValid (u : User) (row songId : Value) : Act Value := do
  if songId.truthy && !(← col row "line_has_had_valid").truthy then
    let _ ← dbUpdate [u.id]
    return setField row "line_has_had_valid" (.bool true)
  return row

/-- A tuned-in listener with a request that can be played keeps the place; the row names the
request and its song, and the request's album is marked. -/
def withSong (row songId : Value) (acc : Rebuild) : Act (Value × Bool × Rebuild) := do
  let album ← fetchVar [songId]
  let song ← fetchRow [songId]
  return (setField (setField row "song" song) "song_id" songId, true,
    { acc with pendingAlbums := acc.pendingAlbums ++ [album] })

/-- A tuned-in listener without a request that can be played: once the countdown ran out the
listener leaves the line (and joins the line of the station tuned in to, if requests remain);
at one of the first two kept places the countdown starts; otherwise the listener waits. -/
def withoutSong (user row songId now : Value) (acc : Rebuild) : Act (Value × Bool × Rebuild) := do
  let electionExpiry ← col row "line_expiry_election"
  if ← hasPassed electionExpiry now then
    let _ ← leaveLine user
    if (← requestCount user (.bool false)).truthy then
      let _ ← joinLine user (← tunedInStation user)
    return (row, false, acc)
  if !electionExpiry.truthy && acc.keptPlace ≤ 2 then
    let expiry ← plus now (.int 900)
    let row := setField row "line_expiry_election" expiry
    let _ ← dbUpdate [expiry, ← col row "user_id"]
    return (row, true, acc)
  return (setField (setField row "song" .none) "song_id" songId, true, acc)

/-- The outcome for one tuned-in listener: the row, whether the listener keeps a place, and
the rebuild so far, which counts a valid place for a listener who has had a valid request. -/
def checkTunedIn (user row sid now : Value) (acc : Rebuild) : Act (Value × Bool × Rebuild) := do
  let u ← userOf user
  let songId ← topRequest user sid
  let row ← noteValid u row songId
  let valid := (← col row "line_has_had_valid").truthy
  let acc := if valid then { acc with validPlaces := acc.validPlaces + 1 } else acc
  if songId.truthy then withSong row songId acc else withoutSong user row songId now acc

/-- A listener who is not tuned in keeps the place and, unless a deadline to tune in is set,
gets ten minutes to tune in. -/
def awaitTuneIn (row tuneInExpiry now : Value) : Act Unit := do
  if !tuneInExpiry.truthy || Value.equals tuneInExpiry (.int 0) then
    let _ ← dbUpdate [← plus now (.int 600), ← col row "user_id"]

/-- The outcome for one listener in line: the row, whether the listener keeps a place, and the
rebuild so far. -/
def checkRow (user row sid now : Value) (u : User) (acc : Rebuild) : Act (Value × Bool × Rebuild) := do
  let tuneInExpiry ← col row "line_expiry_tune_in"
  if ← hasPassed tuneInExpiry now then
    let _ ← leaveLine user
    return (row, false, acc)
  if Value.equals (← fetchVar [u.id, sid]) sid then
    checkTunedIn user row sid now acc
  else
    awaitTuneIn row tuneInExpiry now
    return (row, true, acc)

/-- Places one listener of the line. -/
def placeRow (sid now : Value) (acc : Rebuild) (row : Value) : Act Rebuild := do
  let user ← create (← col row "user_id")
  let u ← userOf user
  let (row, kept, acc) ← checkRow user (setField row "song_id" .none) sid now u acc
  let row := setField (setField row "skip" (.bool !kept)) "position" (.int acc.shownPlace)
  return { acc with
    line := acc.line ++ [row]
    places := Dict.put acc.places u.id (.int acc.shownPlace)
    shownPlace := acc.shownPlace + 1
    keptPlace := if kept then acc.keptPlace + 1 else acc.keptPlace }

/-- Rebuilds a station's line from its rows at a moment, caching the line, the places and
the number of valid places, and marking the albums with a request waiting; the new line. -/
def rebuildLine (line sid now : Value) : Act Value := do
  let mut acc : Rebuild := {}
  for row in ← itemsOf line do
    acc ← placeRow sid now acc row
  Cache.putStation sid "request_valid_positions" (.int acc.validPlaces)
  Cache.putStation sid "request_line" (.list acc.line) true
  Cache.putStation sid "request_user_positions" (.dict acc.places) true
  let _ ← dbUpdate [sid]
  for album in acc.pendingAlbums do
    let _ ← dbUpdate [album, sid]
  return .list acc.line

/-- Rebuilds a station's line from its rows now. -/
def processLine (line sid : Value) : Act Value := do
  rebuildLine line sid (← timestampInt)

/-- Rebuilds a station's line from the listeners waiting on it. -/
def updateLine (sid : Value) : Act Unit := do
  let _ ← processLine (← fetchAll [sid]) sid

/-- The time a place in line expires: the earlier of the tune-in and election deadlines
that are set, or none. -/
def expiryOf (row : Value) : Act Value := do
  let tuneIn ← col row "line_expiry_tune_in"
  let election ← col row "line_expiry_election"
  if !tuneIn.truthy && !election.truthy then return .none
  if tuneIn.truthy && !election.truthy then return tuneIn
  if election.truthy && !tuneIn.truthy then return election
  if ← isAtMost election tuneIn then return election
  return tuneIn

/-- Caches when each listener's place in any line expires. -/
def updateExpireTimes : Act Unit := do
  let mut times : Dict := []
  for row in ← itemsOf (← queryText .all "SELECT * FROM r4_request_line") do
    let user ← col row "user_id"
    times := Dict.put times user .none
    times := Dict.put times user (← expiryOf row)
  Cache.put "request_expire_times" (.dict times) true

/-- The entries of the cached line before the first one that can be fulfilled, each
checked the way the line is read: an empty entry is passed over, and so is one to skip or
without a song. -/
def passOver (entry : Value) : Act Bool := do
  if !entry.truthy then return true
  if (← isIn (.str "skip") entry) then
    if (← col entry "skip").truthy then
      let _ ← col entry "username"
      return true
  if !(← col entry "song_id").truthy then
    let _ ← col entry "username"
    return true
  return false

/-- Fulfils the request of the first listener in a station's cached line who has a song
to play: the song, marked with who requested it, or none. -/
def nextRequest (sid : Value) : Act Value := do
  let line ← Cache.readStation sid "request_line"
  if !line.truthy then return .none
  let entries ← itemsOf line
  let mut pos := 0
  for entry in entries do
    if ← passOver entry then
      pos := pos + 1
      continue
    let rest := entries.take pos ++ entries.drop (pos + 1)
    Cache.rewrite (Cache.stationKey sid "request_line") (.list rest)
    let songId ← col entry "song_id"
    let song ← Songs.loadFromId songId sid
    let username ← col entry "username"
    let _ ← attributeOf song "filename"
    Songs.setData song "elec_request_user_id" (← col entry "user_id")
    Songs.setData song "elec_request_username" username
    let user ← create (← col entry "user_id")
    let u ← userOf user
    let _ ← dbUpdate [u.id, songId]
    let _ ← leaveLine user
    let count ← plus (← fetchVar [u.id]) (.int 1)
    let s ← Songs.songOf song
    let _ ← dbUpdate [s.id, u.id]
    let waited ← minus (← timestamp) (← col entry "line_wait_start")
    let _ ← dbUpdate [u.id, s.id, waited, .int rest.length, count, sid]
    let _ ← dbUpdate [count, u.id]
    Songs.updateRequestCount song sid (.bool true)
    return song
  return .none

end Airwaves.Requests
