import Airwaves.Schedule.Event
import Airwaves.Schedule.Requests
/-!
# Elections

An election puts a few songs to a listener vote. Filling one takes requests when the station is
ready for them, then draws songs close in length to the first.
-/
namespace Airwaves.Elections

open Catalog Events

/-- The entry type of songs in a normal entry. -/
def normalEntry : Value := .int 2

/-- The entry type of requested songs. -/
def requestEntry : Value := .int 4

/-- A new election of a kind; made for a station, it has the station's number of songs. -/
def construct (kind : EventKind) (sid : Value) : Act Event := do
  let count ← if sid.truthy then Config.stationGet sid "songs_in_election" else pure (.int 3)
  let (requests, songs) := if kind == .pvpElection then (Value.int 2, Value.int 2) else (.int 1, count)
  return { blank kind .none with isElection := .bool true, numRequests := some requests, numSongs := some songs }

/-- A new election of a kind, as an object. -/
def make (kind : EventKind) (sid : Value) : Act Value := do allocRef (.event (← construct kind sid))

/-- The songs of an election. -/
def songsOf (v : Value) : Act (List Value) := do itemsOf (← eventOf v).songs

/-- The data of a song. -/
def songData (song : Value) : Act Value := attributeOf song "data"

/-- An entry of a song's data. -/
def entryOf (song : Value) (key : String) : Act Value := do itemOf (← songData song) (.str key)

/-- Whether a song's data has an entry. -/
def hasEntry (song : Value) (key : String) : Act Bool := do isIn (.str key) (← songData song)

/-- The song of an entry, loaded on the election's station or, when it is missing there, on
its station of origin. -/
def entrySong (songId sid : Value) : Act Value := do
  match ← Act.attempt (Songs.loadFromId songId sid) with
  | .ok s => pure s
  | .error f =>
    if f.isKind .songNonExistent then Songs.loadFromId songId (← fetchVar [songId])
    else Act.raise f

/-- Adds an entry row's song to an election, with the entry's id, type, position and votes; an
entry that is not a normal one is taken to have been requested by nobody. -/
def restoreEntry (v sid songRow : Value) : Act Unit := do
  let song ← entrySong (← col songRow "song_id") sid
  Songs.setData song "entry_id" (← col songRow "entry_id")
  Songs.setData song "entry_type" (← col songRow "entry_type")
  Songs.setData song "entry_position" (← col songRow "entry_position")
  Songs.setData song "entry_votes" (← col songRow "entry_votes")
  if !Value.equals (← entryOf song "entry_type") normalEntry then
    Songs.setData song "elec_request_user_id" (.int 0)
    Songs.setData song "elec_request_username" .none
  changeEvent v fun e => { e with songs := .list (((e.songs.items?).getD []) ++ [song]) }

/-- Loads an election of a kind by id with its entries; a song missing from the election's
station is loaded from its station of origin. -/
def load (kind : EventKind) (elecId : Value) : Act Value := do
  let e ← construct kind .none
  let row ← fetchRow [elecId]
  if !row.truthy then Act.raise (.raised .invalidElectionId [])
  let type ← col row "elec_type"
  let used ← col row "elec_used"
  let startActual ← col row "elec_start_actual"
  let inProgress ← col row "elec_in_progress"
  let sid ← col row "sid"
  let priority ← col row "elec_priority"
  let schedId ← col row "sched_id"
  let v ← allocRef (.event { e with
    id := elecId, isElection := .bool true, type := type, used := used,
    start := .none, startActual := startActual, inProgress := inProgress, sid := sid, songs := .list [],
    hasPriority := some priority, isPublic := some (.bool true), timed := some (.bool false),
    schedId := some schedId })
  for songRow in ← itemsOf (← fetchAll [elecId]) do
    restoreEntry v sid songRow
  return v

/-- Makes an election of a kind on a station, for a scheduled block when given. -/
def create (kind : EventKind) (sid schedId : Value) : Act Value := do
  let elecId := Value.int (← nextId "r4_schedule" "sched_id")
  let e ← construct kind sid
  let v ← allocRef (.event { e with
    isElection := .bool true, id := elecId, type := .str "Election",
    used := .bool false, startActual := .none, inProgress := .bool false, sid := sid, start := .none,
    songs := .list [], hasPriority := some (.bool false), isPublic := some (.bool true),
    timed := some (.bool true), schedId := some schedId })
  let _ ← dbUpdate [elecId, .bool false, .str "Election", sid, schedId]
  return v

/-- Appends a song to an election's songs. -/
def appendSong (v song : Value) : Act Unit :=
  changeEvent v fun e => { e with songs := .list (((e.songs.items?).getD []) ++ [song]) }

/-- Enters a song in an election: numbered, placed last, a normal entry without votes
unless it says otherwise, and blocked from the station's next elections; a request entry
rebuilds the request line. Nothing is entered for no song. -/
def addSong (v song : Value) : Act Bool := do
  if !song.truthy then return false
  let entryId := Value.int (← nextId "r4_election_entries" "entry_id")
  Songs.setData song "entry_id" entryId
  let position := Value.int (← songsOf v).length
  Songs.setData song "entry_position" position
  unless ← hasEntry song "entry_type" do Songs.setData song "entry_type" normalEntry
  unless ← hasEntry song "entry_votes" do Songs.setData song "entry_votes" (.int 0)
  let e ← eventOf v
  let s ← Songs.songOf song
  let _ ← dbUpdate [entryId, s.id, e.id, position, ← entryOf song "entry_type", ← entryOf song "entry_votes"]
  Songs.startElectionBlock song e.sid (← plus (← Config.stationGet e.sid "num_planned_elections") (.int 1))
  appendSong v song
  if Value.equals (← entryOf song "entry_type") requestEntry then Requests.updateLine e.sid
  return true

/-- The request counters of a station. -/
def counter (interval : Bool) : Act Value := do
  let g := (← get).globals
  return if interval then g.requestInterval else g.requestSequence

/-- Sets a station's request counter. -/
def setCounter (interval : Bool) (sid x : Value) : Act Unit := do
  let table := withEntry (← counter interval) sid x
  modify fun w => { w with globals := if interval then { w.globals with requestInterval := table }
    else { w.globals with requestSequence := table } }

/-- A station's request counter. -/
def counterOf (interval : Bool) (sid : Value) : Act Value := do itemOf (← counter interval) sid

/-- Makes the station's next election take requests. -/
def forceRequest (sid : Value) : Act Unit := do
  setCounter true sid (.int 0)
  setCounter false sid (.int 0)

/-- Takes a station's request counter from the cache (zero when nothing is cached) unless
the station already has one. -/
def loadCounter (interval : Bool) (sid : Value) : Act Unit := do
  unless ← isIn sid (← counter interval) do
    let cached ← Cache.readStation sid (if interval then "request_interval" else "request_sequence")
    setCounter interval sid (if cached.truthy then cached else .int 0)

/-- Counts a station's requests down and says whether a request is due: a spent interval
and sequence stay as they are and want a request, a running sequence wants one and
counts down, and otherwise the interval counts down. -/
def countDown (sid : Value) : Act Bool := do
  if (← isAtMost (← counterOf true sid) (.int 0)) && (← isAtMost (← counterOf false sid) (.int 0)) then
    return true
  else if ← isGreater (← counterOf false sid) (.int 0) then
    setCounter false sid (← minusIn (← counterOf false sid) (.int 1))
    return true
  else
    setCounter true sid (← minusIn (← counterOf true sid) (.int 1))
    return false

/-- Whether a station is ready for a request, counting down the interval between request
sequences or the requests left in one; the counters are cached. -/
def requestDue (sid : Value) : Act Bool := do
  loadCounter true sid
  loadCounter false sid
  let needed ← countDown sid
  Cache.putStation sid "request_interval" (← counterOf true sid)
  Cache.putStation sid "request_sequence" (← counterOf false sid)
  return needed

/-- Whether an election's station is ready for a request; a head-to-head election first
makes it ready. -/
def isRequestNeeded (v : Value) : Act Bool := do
  let e ← eventOf v
  if e.kind == .pvpElection then forceRequest e.sid
  requestDue e.sid

/-- The length of a station's request line for a new sequence: the cached number of its
valid places, or else that value counted up by the line's entries with a song. -/
def lineLength (sid : Value) : Act Value := do
  let mut length ← Cache.readStation sid "request_valid_positions"
  if !length.truthy then
    let line ← Cache.readStation sid "request_line"
    for entry in ← itemsOf (if line.truthy then line else .list []) do
      if (← col entry "song_id").truthy then length ← plusIn length (.int 1)
  return length

/-- Starts a new request sequence when the station is ready for one: as long as the valid
places in the request line (or the line's entries with a song) divided by the station's
scale, followed by the station's interval. -/
def resetRequestSequence (v : Value) : Act Unit := do
  let sid := (← eventOf v).sid
  unless ← isAtMost (← counterOf true sid) (.int 0) do return
  unless ← isAtMost (← counterOf false sid) (.int 0) do return
  let scaled ← divide (← lineLength sid) (← Config.stationGet sid "request_sequence_scale")
  setCounter false sid (← Act.lift (Value.floorToInt scaled))
  setCounter true sid (← Config.stationGet sid "request_interval")

/-- The next request of the station's line as a request entry, or none. -/
def takeRequest (v : Value) : Act Value := do
  let song ← Requests.nextRequest (← eventOf v).sid
  if !song.truthy then return .none
  resetRequestSequence v
  Songs.setData song "entry_type" requestEntry
  Songs.setData song "entry_votes" (.int 1)
  return song

/-- Enters requests when the station is ready for them and the election has room. -/
def addRequests (v : Value) : Act Unit := do
  if !(← isRequestNeeded v) then return
  let e ← eventOf v
  if !(← isLess (.int (← songsOf v).length) (e.numSongs.getD .none)) then return
  let count ← match e.numRequests.getD .none with
    | .int n => pure n.toNat
    | .bool b => pure (if b then 1 else 0)
    | other => Act.raise (.typeError ("'" ++ other.kindName ++ "' object cannot be interpreted as an integer"))
  for _ in List.range count do
    let _ ← addSong v (← takeRequest v)

/-- A song drawn for an election: the shortest song for shortest-song elections, and
otherwise a song close to a target length. -/
def drawSong (v target : Value) : Act Value := do
  let e ← eventOf v
  if e.kind == .shortestElection then Pool.shortestSong e.sid else Pool.randomTimed e.sid target .none

/-- The target length for the next drawn song: the one given, or else the first song's. -/
def nextTarget (v target : Value) : Act Value := do
  if target.truthy then return target
  let songs ← songsOf v
  match songs with
  | first :: _ => if ← hasEntry first "length" then entryOf first "length" else return target
  | [] => return target

/-- Draws one song into an election as a normal entry. -/
def fillOne (v target : Value) : Act Unit := do
  let song ← drawSong v target
  Songs.setData song "entry_votes" (.int 0)
  Songs.setData song "entry_type" normalEntry
  Songs.setData song "elec_request_user_id" (.int 0)
  Songs.setData song "elec_request_username" .none
  let _ ← addSong v song

/-- Fills an election up to its number of songs (requests first, unless skipped); songs
that fail to be drawn are left out, but an empty election fails. Requesters whose songs
were entered go back to the line, which is then rebuilt. -/
def fill (v target skipRequests : Value) : Act Unit := do
  if !skipRequests.truthy then addRequests v
  let first := (← songsOf v).length
  let stop ← match (← eventOf v).numSongs.getD .none with
    | .int n => pure n
    | .bool b => pure (if b then 1 else 0)
    | other => Act.raise (.typeError ("'" ++ other.kindName ++ "' object cannot be interpreted as an integer"))
  let mut target := target
  for _ in List.range (stop - first).toNat do
    match ← Act.attempt (nextTarget v target) with
    | .error _ => pure ()
    | .ok t =>
      target := t
      let _ ← Act.attempt (fillOne v t)
  if (← songsOf v).isEmpty then Act.raise (.raised .electionEmpty [])
  for song in ← songsOf v do
    if ← hasEntry song "elec_request_user_id" then
      let requester ← entryOf song "elec_request_user_id"
      if requester.truthy then
        let user ← Listeners.create requester
        let _ ← Listeners.joinLine user (← Listeners.tunedInStation user)
  Requests.updateLine (← eventOf v).sid

/-- Sorts values by a key, keeping the order of equal keys. -/
def sortByKey (xs : List (Value × Value)) : List (Value × Value) :=
  xs.mergeSort fun a b => Value.order a.2 b.2 != .gt

/-- Orders an election's entries for play: the recorded votes are read in, the entries are
shuffled and then sorted by entry type and by votes, highest first; the winner's replay
gain is taken. -/
def prepare (v : Value) : Act Unit := do
  let e ← eventOf v
  let results ← itemsOf (← fetchAll [e.id])
  for song in ← songsOf v do
    let s ← Songs.songOf song
    for result in results do
      if Value.equals (← col result "song_id") s.id then
        Songs.setData song "entry_votes" (← col result "entry_votes")
    unless ← hasEntry song "entry_votes" do Songs.setData song "entry_votes" (.int 0)
  let shuffled ← shuffled (← songsOf v)
  let mut keyed : List (Value × Value) := []
  for song in shuffled do keyed := keyed ++ [(song, ← entryOf song "entry_type")]
  let byType := (sortByKey keyed).map (·.1)
  keyed := []
  for song in byType do keyed := keyed ++ [(song, ← entryOf song "entry_votes")]
  let ordered := ((sortByKey keyed).map (·.1)).reverse
  changeEvent v fun e => { e with songs := .list ordered }
  let gain ← attributeOf (← itemOf (.list ordered) (.int 0)) "replay_gain"
  changeEvent v fun e => { e with replayGain := gain }

/-- Starts an election: unless it already played, the entries take their final positions
and the vote shares of its songs and albums, the requests that won and lost and the votes
that won and lost are recorded; then it is marked playing and used. -/
def start (v : Value) : Act Unit := do
  let e ← eventOf v
  if !e.used.truthy && !e.inProgress.truthy then
    let songs ← songsOf v
    let mut total : Value := .int 0
    let mut i : Int := 0
    for song in songs do
      Songs.setData song "entry_position" (.int i)
      if ← hasEntry song "entry_votes" then total ← plusIn total (← entryOf song "entry_votes")
      else Songs.setData song "entry_votes" (.int 0)
      let _ ← dbUpdate [.int i, ← entryOf song "entry_id"]
      i := i + 1
    if ← isGreater total (.int 0) then
      for song in songs do
        let s ← Songs.songOf song
        let votes ← entryOf song "entry_votes"
        let _ ← dbUpdate [votes, total, votes, total, s.id]
        for album in ← itemsOf s.albums do
          let _ ← dbUpdate [votes, total, votes, total, (← metadataOf album).id, e.sid]
        if ← hasEntry song "elec_request_user_id" then
          let _ ← dbUpdate [← entryOf song "elec_request_user_id"]
    if (← joinsOnUpdate) && !songs.isEmpty then
      let winner ← Songs.songOf (← itemOf (.list songs) (.int 0))
      let _ ← dbUpdate [e.id, winner.id]
      let _ ← dbUpdate [e.id, winner.id]
  let now ← timestampInt
  changeEvent v fun e => { e with startActual := now, inProgress := .bool true, used := .bool true }
  let _ ← dbUpdate [now, (← eventOf v).id]

/-- The song an election plays, none while it has no songs. -/
def playedSong (v : Value) : Act Value := do
  match ← songsOf v with
  | first :: _ => return first
  | [] => return .none

/-- The file an election plays, none while it has no songs. -/
def playedFile (v : Value) : Act Value := do
  match ← songsOf v with
  | first :: _ => attributeOf first "filename"
  | [] => return .none

/-- The length of an election: the winner's once it is playing or used, and otherwise the
average length of its songs, rounded down. -/
def length (v : Value) : Act Value := do
  let e ← eventOf v
  if e.used.truthy || e.inProgress.truthy then
    if (← lengthOf e.songs) == 0 then return .int 0
    return ← entryOf (← itemOf e.songs (.int 0)) "length"
  let mut total : Value := .int 0
  for song in ← songsOf v do
    total ← plusIn total (← entryOf song "length")
  if Value.equals total (.int 0) then return .int 0
  Act.lift (Value.floor (← divide total (.int (← lengthOf e.songs))))

/-- Finishes an election: no longer playing, used, and its winner's votes, last play,
rating and cooldown recorded. -/
def finish (v : Value) : Act Unit := do
  changeEvent v fun e => { e with inProgress := .bool false, used := .bool true }
  let e ← eventOf v
  let _ ← dbUpdate [e.id]
  match ← songsOf v with
  | [] => pure ()
  | winner :: _ =>
    if winner.truthy then
      let data ← songData winner
      if data.truthy then
        if ← hasEntry winner "entry_votes" then
          let _ ← Songs.addToVoteCount winner (← entryOf winner "entry_votes") e.sid
    let _ ← Songs.updateLastPlayed winner e.sid
    Songs.updateRating winner (.bool false)
    Songs.startCooldown winner e.sid

/-- Sets whether an election has priority. -/
def setPriority (v priority : Value) : Act Unit := do
  let _ ← dbUpdate [(← eventOf v).id]
  changeEvent v fun e => { e with hasPriority := some priority }

/-- The client view of an election: the event view with its songs as the listener sees
them, their rating rights checked first for a registered listener when asked. -/
def view (v user : Value) (checkAcl : Bool) : Act Value := do
  let base ← Events.viewWith v user false length
  let e ← eventOf v
  let mut obj := (base.entries?).getD []
  obj := Dict.putField obj "used" e.used
  obj := Dict.putField obj "length" (← length v)
  obj := Dict.putField obj "songs" (.list [])
  let mut songs : List Value := []
  for song in ← songsOf v do
    if checkAcl then
      let anonymous ← match user with
        | .ref _ => Listeners.isAnonymous (← Listeners.userOf user)
        | other => noMember other "is_anonymous"
      if !anonymous then Songs.checkRatingAcl song user
    songs := songs ++ [← Songs.toDict song user]
  return .dict (Dict.putField obj "songs" (.list songs))

/-- The entry of an election with an entry id, if any. -/
def entry (v entryId : Value) : Act Value := do
  for song in ← songsOf v do
    if Value.equals (← entryOf song "entry_id") entryId then return song
  return .none

/-- The request entry of a listener, or false. -/
def requestBy (v userId : Value) : Act Value := do
  for song in ← songsOf v do
    if Value.equals (← entryOf song "entry_type") requestEntry then
      if Value.equals (← entryOf song "elec_request_user_id") userId then return song
  return .bool false

/-- Adds votes to an entry. -/
def addVote (entryId addition : Value) : Act Value := dbUpdate [addition, entryId]

/-- Deletes an election. -/
def delete (v : Value) : Act Value := do dbUpdate [(← eventOf v).id]

/-- Reads the current votes of every entry. -/
def refreshVotes (v : Value) : Act Unit := do
  for song in ← songsOf v do
    Songs.setData song "entry_votes" (← fetchVar [← entryOf song "entry_id"])

end Airwaves.Elections
