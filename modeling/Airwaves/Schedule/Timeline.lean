import Airwaves.Schedule.Producer
/-!
# A station's timeline

The event playing now, the events coming up and the last few played: loading them, planning the
events to come, and moving on to the next.
-/
namespace Airwaves.Timeline

open Catalog

/-- Which part of a station's timeline. -/
inductive Part where
  | current
  | upnext
  | history

/-- The table of a part of the timeline. -/
def table (p : Part) : Act Value := do
  let g := (← get).globals
  return match p with
    | .current => g.current
    | .upnext => g.upnext
    | .history => g.history

/-- Sets a station's entry of a part of the timeline. -/
def setPart (p : Part) (sid x : Value) : Act Unit := do
  let t := withEntry (← table p) sid x
  modify fun w => { w with globals := match p with
    | .current => { w.globals with current := t }
    | .upnext => { w.globals with upnext := t }
    | .history => { w.globals with history := t } }

/-- A station's entry of a part of the timeline. -/
def partOf (p : Part) (sid : Value) : Act Value := do itemOf (← table p) sid

/-- The events of a station's plan or history. -/
def eventsOf (p : Part) (sid : Value) : Act (List Value) := do itemsOf (← partOf p sid)

/-- Whether a value is an election event. -/
def isElection (e : Value) : Act Bool := do return (← attributeOf e "is_election").truthy

/-! ## Producers at a time -/

/-- The producer of a station's block at a time, started when found; the default election
producer when no block is scheduled then, when it cannot be loaded, or when it has no
more events. -/
def producerAt (sid atTime : Value) : Act Value := do
  let _ ← minus atTime (← timestamp)
  let schedId ← fetchVar [sid, ← plus atTime (.int 20), atTime]
  let mut found : Value := .none
  match ← Act.attempt (Producers.loadById schedId) with
  | .error _ => pure ()
  | .ok p =>
    found := p
    if p.truthy then
      let _ ← Act.attempt (Producers.start p)
  if !found.truthy then return ← Producers.make .election sid
  if !(← Producers.hasNext found).truthy then return ← Producers.make .election sid
  return found

/-- The producer of a station's block now. -/
def currentProducer (sid : Value) : Act Value := do producerAt sid (← timestampInt)

/-- The event in progress on a station: that of the current block, or else that of the
default elections. -/
def eventInProgress (sid : Value) : Act Value := do
  let evt ← Producers.loadInProgress (← currentProducer sid)
  let usable ← do
    if !evt.truthy then pure false
    else
      let songs ← attributeOf evt "songs"
      if !songs.truthy then pure false else pure ((← lengthOf songs) != 0)
  if usable then return evt
  Producers.loadInProgress (← Producers.make .election sid)

/-! ## Planning -/

/-- The figures planning starts from: the highest block id, the highest election id, the
number of planned elections, and when the plan ends. -/
structure Stats where
  maxSchedId : Value
  maxElecId : Value
  elections : Nat
  endTime : Value

/-- The figures of a station's timeline; the latest used election from the database when
no election is known. -/
def stats (sid : Value) : Act Stats := do
  let mut maxSched : Value := .int 0
  let mut maxElec : Value := .none
  let mut endTime ← timestampInt
  if ← isIn sid (← table .current) then
    let cur ← partOf .current sid
    if cur.truthy then
      maxSched ← attributeOf cur "id"
      let startActual ← attributeOf cur "start_actual"
      if startActual.truthy then endTime ← plus startActual (← Schedule.eventLength cur)
      else endTime ← plusIn endTime (← Schedule.eventLength cur)
      if ← isElection cur then maxElec ← attributeOf cur "id"
  let mut count := 0
  if ← isIn sid (← table .upnext) then
    for e in ← eventsOf .upnext sid do
      let id ← attributeOf e "id"
      if ← isElection e then
        count := count + 1
        if ← isGreater id maxElec then maxElec := id
      else if ← isGreater id maxSched then maxSched := id
      endTime ← plusIn endTime (← Schedule.eventLength e)
  if !maxElec.truthy then
    maxElec ← queryText .var "SELECT elec_id FROM r4_elections WHERE elec_used = TRUE ORDER BY elec_id DESC LIMIT 1"
  return { maxSchedId := maxSched, maxElecId := maxElec, elections := count, endTime := endTime }

/-- The figures as a tuple. -/
def Stats.toValue (s : Stats) : Value := .tuple [s.maxSchedId, s.maxElecId, .int s.elections, s.endTime]

/-- A station's average song length. -/
def averageLength (sid : Value) : Act Value := Pool.averageSongLength sid

/-- The length to aim the next election at, and whether to use shortest-song elections,
for the time left before the next block. -/
def aim (sid gap : Value) : Act (Value × Bool) := do
  if ← isLess gap (.int 40) then return (gap, true)
  if ← isLess gap (← times (← averageLength sid) (.float 1.3)) then return (gap, false)
  if ← isLess gap (← times (← averageLength sid) (.float 2.2)) then return (← averageLength sid, false)
  return (.none, false)

/-- Plans a station's events up to the producers' limits and gives every planned event its
start time. -/
def manageNext (sid : Value) : Act Unit := do
  let s ← stats sid
  let mut maxElec := s.maxElecId
  let mut futureTime := s.endTime
  let nowProducer ← producerAt sid (← timestamp)
  let mut nextProducer ← producerAt sid futureTime
  let nextStart ← fetchVar [sid, futureTime]
  let mut gap ← if nextStart.truthy then minus nextStart futureTime else pure (.int 86400)
  for _ in List.range 1000 do
    let limit ← smaller (← Producers.producerOf nowProducer).planAheadLimit
      (← Producers.producerOf nextProducer).planAheadLimit
    unless ← isLess (.int (← eventsOf .upnext sid).length) limit do break
    let (target, shortest) ← aim sid gap
    if shortest then nextProducer ← Producers.make .shortestElection sid
    let mut next ← Producers.loadNext nextProducer target maxElec (.bool false)
    if !next.truthy then
      nextProducer ← Producers.make .election sid
      next ← Producers.loadNext nextProducer target maxElec (.bool false)
    setPart .upnext sid (.list ((← eventsOf .upnext sid) ++ [next]))
    if ← isElection next then
      let id ← attributeOf next "id"
      if ← isGreater id maxElec then maxElec := id
    let length ← Schedule.eventLength next
    futureTime ← plusIn futureTime length
    gap ← minusIn gap length
    nextProducer ← producerAt sid futureTime
  let cur ← partOf .current sid
  let curStart ← attributeOf cur "start"
  let mut start ← if curStart.truthy then do plus curStart (← Schedule.eventLength cur)
    else do asInt (← plus (← timestamp) (← Schedule.eventLength cur))
  for evt in ← eventsOf .upnext sid do
    Events.changeEvent evt fun e => { e with start := start }
    start ← plusIn start (← Schedule.eventLength evt)
    if ← isElection evt then Elections.refreshVotes evt

/-- The next election of the default producer after the known ones. -/
def electionAfterKnown (sid target : Value) : Act Value := do
  let s ← stats sid
  Producers.loadNext (← Producers.make .election sid) target s.maxElecId (.bool false)

/-! ## Loading -/

/-- Loads every station's timeline from the cache, or else from the database. -/
def load : Act Unit := do
  for sid in ← Config.stationIdList do
    setPart .current sid (← Cache.readStation sid "sched_current")
    if !(← partOf .current sid).truthy then setPart .current sid (← eventInProgress sid)
    if !(← partOf .current sid).truthy then Act.raise (.general "Could not load any events!")
    setPart .upnext sid (← Cache.readStation sid "sched_next")
    if !(← partOf .upnext sid).truthy then
      setPart .upnext sid (.list [])
      manageNext sid
    setPart .history sid (← Cache.readStation sid "sched_history")
    if !(← partOf .history sid).truthy then
      setPart .history sid (.list [])
      for songId in ← itemsOf (← fetchList [sid]) do
        let evt ← Events.singleSong songId sid
        setPart .history sid (.list (evt :: (← eventsOf .history sid)))
      if (← eventsOf .history sid).isEmpty then
        for _ in List.range 4 do
          let evt ← Events.singleSong (← Pool.randomIgnoringAll sid) sid
          setPart .history sid (.list (evt :: (← eventsOf .history sid)))

/-! ## Reading the timeline -/

/-- The event about to play. -/
def advancingEvent (sid : Value) : Act Value := do itemOf (← partOf .upnext sid) (.int 0)

/-- The file about to play. -/
def advancingFile (sid : Value) : Act Value := do Schedule.eventFile (← advancingEvent sid)

/-- The event playing. -/
def currentEvent (sid : Value) : Act Value := partOf .current sid

/-- The file playing. -/
def currentFile (sid : Value) : Act Value := do Schedule.eventFile (← currentEvent sid)

/-- Sets whether the event about to play crossfades. -/
def setUpnextCrossfade (sid crossfade : Value) : Act Unit := do
  unless ← isIn sid (← table .upnext) do return
  let next ← itemOf (← partOf .upnext sid) (.int 0)
  if next.truthy then
    Events.changeEvent next fun e => { e with useCrossfade := crossfade }

/-! ## Advancing -/

/-- Tells the front ends that something changed: an action naming what, under one field. -/
def announce (action field : String) (v : Value) : Act Value := do
  publish (Value.record [("action", .str action), (field, v)])
  return .none

/-- Whether the event at the head of the plan cannot play: used, or without songs. -/
def isSpent (e : Value) : Act Bool := do
  if (← attributeOf e "used").truthy then return true
  return (← lengthOf (← attributeOf e "songs")) == 0

/-- Drops used and empty events from the head of a station's plan (planning more when it
runs out), prepares the next event and schedules the station's refresh. -/
def advance (sid : Value) : Act Unit := do
  let work : Act Unit := do
    if (← eventsOf .upnext sid).isEmpty then manageNext sid
    for _ in List.range 1000 do
      let head ← itemOf (← partOf .upnext sid) (.int 0)
      unless ← isSpent head do break
      let _ ← Schedule.deleteEvent head
      setPart .upnext sid (.list ((← eventsOf .upnext sid).drop 1))
      if (← eventsOf .upnext sid).isEmpty then manageNext sid
    Schedule.prepareEvent (← itemOf (← partOf .upnext sid) (.int 0))
    let _ ← advancingFile sid
    let _ ← addTimer 0.15 "<lambda>" (.postProcess sid)
  match ← Act.attempt work with
  | .ok () => pure ()
  | .error f =>
    rollback
    Act.raise f

/-- Deletes old blocks, elections and song history. -/
def trim (sid : Value) : Act Unit := do
  let now ← timestampInt
  let _ ← dbUpdate [← minus now (← Config.get "trim_event_age")]
  let _ ← dbUpdate [← minus now (← Config.get "trim_election_age")]
  let maxHistory ← queryText .var "SELECT MAX(songhist_id) FROM r4_song_history"
  let _ ← dbUpdate [← minus maxHistory (← Config.get "trim_history_length"), sid]

/-- The live votes of the elections coming up on a station, as cached. -/
def updateLiveVoting (sid : Value) : Act Value := do
  let upnext ← Cache.readStation sid "sched_next"
  if !upnext.truthy then return .dict []
  let mut votes : Dict := []
  for evt in ← itemsOf upnext do
    if ← isElection evt then
      let id ← attributeOf evt "id"
      votes := Dict.put votes id (← fetchAll [id])
  Cache.putStation sid "live_voting" (.dict votes)
  return .dict votes

/-- The election coming up on a station that has an entry, or zero. -/
def electionOfEntry (sid entryId : Value) : Act Value := do
  for evt in ← itemsOf (← Cache.readStation sid "sched_next") do
    if ← isElection evt then
      if (← Elections.entry evt entryId).truthy then return ← attributeOf evt "id"
  return .int 0

/-- Caches a station's timeline and its client views, and a summary of what is playing. -/
def cacheSchedule (sid : Value) : Act Unit := do
  Cache.putStation sid "sched_current" (← partOf .current sid) true
  Cache.putStation sid "sched_next" (← partOf .upnext sid) true
  Cache.putStation sid "sched_history" (← partOf .history sid) true
  let current ← Schedule.eventView (← partOf .current sid) .none false
  Cache.putStation sid "sched_current_dict" current true
  let mut next : List Value := []
  for evt in ← eventsOf .upnext sid do next := next ++ [← Schedule.eventView evt .none false]
  Cache.putStation sid "sched_next_dict" (.list next) true
  let mut past : List Value := []
  for evt in ← eventsOf .history sid do past := past ++ [← Schedule.eventView evt .none false]
  Cache.putStation sid "sched_history_dict" (.list past) true
  let (title, album, art) ← do
    if ← isIn (.str "songs") current then
      let song ← itemOf (← col current "songs") (.int 0)
      let firstAlbum ← itemOf (← col song "albums") (.int 0)
      pure (← col song "title", ← col firstAlbum "name", ← col firstAlbum "art")
    else pure (Value.none, Value.none, Value.none)
  let info := Value.record [("title", title), ("album", album), ("art", art),
    ("event_name", ← col current "name"), ("event_type", ← col current "type")]
  Cache.putStation sid "all_station_info" info true

/-- Caches the listeners' ratings of the songs and albums of some events. -/
def primeRatings (sid : Value) (events : List Value) : Act Unit := do
  for evt in events do
    for song in ← itemsOf (← attributeOf evt "songs") do
      let s ← Songs.songOf song
      for (user, rating) in ((← Songs.allRatings song).entries?).getD [] do
        Cache.putSongRating s.id user rating
      for album in ← itemsOf s.albums do
        let albumId := (← metadataOf album).id
        for (user, rating) in ((← Albums.allRatings album sid).entries?).getD [] do
          Cache.putAlbumRating sid albumId user rating

/-- The DJ of an event, if it has one. -/
def djOf (evt : Value) : Act Value := do
  match evt with
  | .ref h => return ((← deref h).attribute? "dj_user_id").getD .none
  | _ => return .none

/-- Rebuilds every cached view of a station. -/
def updateMemcache (sid : Value) : Act Unit := do
  cacheSchedule sid
  let _ ← updateLiveVoting sid
  let current ← partOf .current sid
  let upnext ← eventsOf .upnext sid
  let history ← eventsOf .history sid
  primeRatings sid (current :: upnext ++ history)
  Cache.putStation sid "current_listeners" (← fetchAll [sid]) true
  Cache.putStation sid "album_diff" (← Albums.updatedDiff sid) true
  Albums.clearUpdated sid
  Cache.putStation sid "all_albums" (← Pool.albumsList sid .none) true
  Cache.putStation sid "all_artists" (← Pool.artistsList sid) true
  Cache.putStation sid "all_groups" (← Pool.groupsList sid) true
  let mut djs : List Value := []
  let dj ← djOf current
  if dj.truthy then djs := djs ++ [dj]
  for evt in upnext do
    let dj ← djOf evt
    if dj.truthy then djs := djs ++ [dj]
  match history.getLast? with
  | some last =>
    if last.truthy then
      let dj ← djOf last
      if dj.truthy then djs := djs ++ [dj]
  | none => pure ()
  Cache.putStation sid "dj_user_ids" (.list djs)

/-- Reads what the partner listing would be told about the song playing. -/
def readPartnerListing (sid : Value) : Act Unit := do
  let current ← partOf .current sid
  if !current.truthy then return
  if !(← Config.hasStation sid (.str "tunein_partner_key")) then return
  if !(← Config.stationGet sid "tunein_partner_key").truthy then return
  let song ← Schedule.eventSong current
  if !song.truthy then return
  let s ← Songs.songOf song
  let _ ← Songs.dataOf s "title"
  let _ ← Catalog.dataOf (← metadataOf (← itemOf s.albums (.int 0))) "name"
  for artist in ← itemsOf s.artists do
    let _ ← Catalog.dataOf (← metadataOf artist) "name"
  let _ ← Config.stationGet sid "tunein_id"

/-- Finishes the event that played and starts the next: cooldowns are prepared and
warmed, the finished event and the blocks that ended are closed, the last song is
recorded, the history keeps five events, old records are trimmed, listeners are trimmed
and unlocked, election blocks are counted down, the request line and plan are refreshed,
the cached views are rebuilt and the front ends are told. -/
def postProcess (sid : Value) : Act Unit := do
  let work : Act Unit := do
    Cooldown.prepare sid
    Albums.clearUpdated sid
    Schedule.finishEvent (← partOf .current sid)
    for schedId in ← itemsOf (← fetchList [← timestamp]) do
      let block ← Producers.loadById schedId
      match block with
      | .ref _ => Producers.finish block
      | other => noMember other "finish"
    let lastSong ← Schedule.eventSong (← partOf .current sid)
    if lastSong.truthy then
      let _ ← dbUpdate [sid, (← Songs.songOf lastSong).id]
    setPart .history sid (.list ((← partOf .current sid) :: (← eventsOf .history sid)))
    setPart .history sid (.list ((← eventsOf .history sid).take 5))
    let upnext ← eventsOf .upnext sid
    let next ← itemOf (.list upnext) (.int 0)
    setPart .upnext sid (.list (upnext.drop 1))
    setPart .current sid next
    Schedule.startEvent next
    Pool.warmCooledSongs sid
    Albums.warmCooled sid
    trim sid
    Listeners.trimListeners sid
    let latest ← itemOf (← partOf .history sid) (.int 0)
    Cache.updateRatingAcl sid (← Songs.songOf (← Schedule.eventSong latest)).id
    Listeners.unlockListeners sid
    let _ ← dbUpdate [sid]
    Pool.reduceSongBlocks sid
    Requests.updateLine sid
    manageNext sid
    Requests.updateExpireTimes
    updateMemcache sid
    let _ ← announce "update_all" "sid" sid
  match ← Act.attempt work with
  | .ok () => pure ()
  | .error f =>
    rollback
    Act.raise f
  readPartnerListing sid

end Airwaves.Timeline
