import Airwaves.Schedule.Slot
/-!
# Producers

Election producers hand out their unused elections or make new ones; a power hour hands out its
songs in order, each once.
-/
namespace Airwaves.Producers

open Catalog

/-- The producer behind a reference. -/
def producerOf (v : Value) : Act Producer := do return (← producerAt v).2

/-- Changes the producer behind a reference. -/
def changeProducer (v : Value) (f : Producer → Producer) : Act Unit := do
  let (h, _) ← producerAt v
  updateProducer h f

/-- The event kind a producer hands out. -/
def electionKind (p : Producer) : EventKind := (p.kind.electionKind).getD .election

/-- A new producer of a kind for a station: election producers plan as many elections
ahead as the station says, power hours five songs. -/
def construct (kind : ProducerKind) (sid : Value) : Act Producer := do
  let base : Producer := { kind := kind, sid := sid, type := .str kind.kindName }
  match kind.electionKind with
  | some ek =>
    let limit ← Config.stationGet sid "num_planned_elections"
    return { base with planAheadLimit := limit, elecType := some (.str ek.kindName),
                       elecClass := some (.kind ek.kindName) }
  | none => if kind == .oneUp then return { base with planAheadLimit := .int 5 } else return base

/-- A new producer of a kind, as an object. -/
def make (kind : ProducerKind) (sid : Value) : Act Value := do allocRef (.producer (← construct kind sid))

/-- Loads a scheduled block by id; none when there is no such block, and a failure for a
kind that is not registered. -/
def loadById (schedId : Value) : Act Value := do
  let row ← fetchRow [schedId]
  if !row.truthy then return .none
  if (← lengthOf row) == 0 then return .none
  let type ← col row "sched_type"
  let kind ← match ProducerKind.registered.find? fun k => Value.equals (.str k.kindName) type with
    | some k => pure k
    | none => Act.raise (.general ("Unknown producer type " ++ type.display ++ "."))
  let p ← construct kind (← col row "sid")
  let p := { p with
    id := ← col row "sched_id", start := ← col row "sched_start", startActual := ← col row "sched_start_actual"
    «end» := ← col row "sched_end", endActual := ← col row "sched_end_actual", name := ← col row "sched_name"
    isPublic := ← col row "sched_public", timed := ← col row "sched_timed"
    inProgress := ← col row "sched_in_progress", used := ← col row "sched_used"
    useCrossfade := ← col row "sched_use_crossfade", useTagSuffix := ← col row "sched_use_tag_suffix"
    url := ← col row "sched_url", djUserId := ← col row "sched_dj_user_id" }
  allocRef (.producer p)

/-- The settings of a new scheduled block. -/
structure BlockSettings where
  name : Value := .none
  isPublic : Value := .bool true
  timed : Value := .bool true
  url : Value := .none
  useCrossfade : Value := .bool true
  useTagSuffix : Value := .bool true
  djUserId : Value := .none

/-- Schedules a new block of a kind on a station between two times. -/
def create (kind : ProducerKind) (sid start stop : Value) (s : BlockSettings) : Act Value := do
  let p ← construct kind sid
  let id := Value.int (← nextId "r4_schedule" "sched_id")
  let p := { p with
    id := id, start := start, «end» := stop, name := s.name, sid := sid, isPublic := s.isPublic
    timed := s.timed, url := s.url, useCrossfade := s.useCrossfade, useTagSuffix := s.useTagSuffix
    djUserId := s.djUserId }
  let _ ← dbUpdate [id, start, stop, p.type, s.name, sid, s.isPublic, s.timed, s.url, s.useCrossfade,
    s.useTagSuffix, s.djUserId]
  allocRef (.producer p)

/-- The failure of a block that was already used. -/
def usedFault : Fault := .general "Cannot change the start time of a used producer."

/-- Moves a block's start; a power hour keeps its length. -/
def changeStart (v newStart : Value) : Act Unit := do
  let p ← producerOf v
  if p.used.truthy then Act.raise usedFault
  if p.kind == .oneUp then
    let length ← minus p.«end» p.start
    let stop ← plus newStart length
    changeProducer v fun p => { p with start := newStart, «end» := stop }
    let _ ← dbUpdate [newStart, stop, p.id]
  else
    changeProducer v fun p => { p with start := newStart }
    let _ ← dbUpdate [newStart, p.id]

/-- Moves a block's end. -/
def changeEnd (v newEnd : Value) : Act Unit := do
  let p ← producerOf v
  if p.used.truthy then Act.raise usedFault
  changeProducer v fun p => { p with «end» := newEnd }
  let _ ← dbUpdate [newEnd, p.id]

/-- The failure of a producer without a kind of event. -/
def noKind : Fault := .general "No event type specified."

/-- Starts a block now, unless it started already. -/
def start (v : Value) : Act Unit := do
  let p ← producerOf v
  if p.startActual.truthy then return
  let now ← timestampInt
  changeProducer v fun p => { p with startActual := now }
  if p.id.truthy then
    let _ ← dbUpdate [now, p.id]

/-- Ends a block now. -/
def finish (v : Value) : Act Unit := do
  let now ← timestampInt
  changeProducer v fun p => { p with endActual := now }
  let p ← producerOf v
  if p.id.truthy then
    let _ ← dbUpdate [now, p.id]

/-! ## Power hours -/

/-- Recomputes a power hour's end: its start (actual, when it started) plus the length of
its songs and half a minute for each. -/
def updateLength (v : Value) : Act Unit := do
  let p ← producerOf v
  let stats ← fetchRow [p.id]
  let length ← if !stats.truthy then pure (.int 0)
    else do plus (← col stats "l") (← times (.int 30) (← col stats "c"))
  let from_ := if p.startActual.truthy then p.startActual else p.start
  let stop ← plus from_ length
  changeProducer v fun p => { p with «end» := stop }
  let _ ← dbUpdate [stop, p.id]

/-- The next free place in a power hour. -/
def nextOrder (v : Value) : Act Value := do
  let order ← fetchVar [(← producerOf v).id]
  return if order.truthy then order else .int 0

/-- Adds a song to a power hour, last unless a place is given. -/
def addSong (v songId sid order : Value) : Act Unit := do
  let order ← if order.truthy then pure order else nextOrder v
  let _ ← dbUpdate [(← producerOf v).id, songId, order, sid]
  updateLength v

/-- Adds the songs of an album to a power hour, in the album's order. -/
def addAlbum (v albumId sid : Value) : Act Unit := do
  let mut order ← nextOrder v
  let album ← Albums.loadFromIdWithSongs albumId sid .none (.bool false)
  for song in ← itemsOf (← itemOf (← attributeOf album "data") (.str "songs")) do
    addSong v (← itemOf song (.str "id")) sid order
    order ← plusIn order (.int 1)
  updateLength v

/-- Removes a song from a power hour; whether one was removed. -/
def removeSong (v oneUpId : Value) : Act Bool := do
  if ← isAtLeast (← dbUpdate [oneUpId]) (.int 1) then
    updateLength v
    return true
  return false

/-- Shuffles the order of a power hour's songs. -/
def shuffleSongs (v : Value) : Act Unit := do
  let ids ← shuffled (← itemsOf (← fetchList [(← producerOf v).id]))
  let mut i : Int := 0
  for oneUpId in ids do
    let _ ← dbUpdate [.int i, oneUpId]
    i := i + 1

/-- Moves a song of a power hour one place up. -/
def moveSongUp (v oneUpId : Value) : Act Unit := do
  let ids ← itemsOf (← fetchList [(← producerOf v).id])
  let mut i : Int := 0
  let mut previous : Value := .bool false
  for oid in ids do
    if Value.equals oid oneUpId && previous.truthy then
      let _ ← dbUpdate [.int (i - 1), oneUpId]
      let _ ← dbUpdate [.int i, previous]
    previous := oid
    i := i + 1

/-- Loads the songs of a power hour with their places. -/
def loadAllSongs (v : Value) : Act Unit := do
  changeProducer v fun p => { p with songs := .list [] }
  for row in ← itemsOf (← fetchAll [(← producerOf v).id]) do
    let song ← Songs.loadFromId (← col row "song_id") (← col row "one_up_sid")
    Songs.setData song "one_up_used" (← col row "one_up_used")
    Songs.setData song "one_up_queued" (← col row "one_up_queued")
    Songs.setData song "one_up_id" (← col row "one_up_id")
    changeProducer v fun p => { p with songs := .list (((p.songs.items?).getD []) ++ [song]) }

/-- Fills a power hour with a station's unrated songs until it is longer than a length. -/
def fillUnrated (v sid maxLength : Value) : Act Unit := do
  let mut total : Value := .int 0
  for row in ← itemsOf (← fetchAll [sid]) do
    if ← isGreater total maxLength then return
    addSong v (← col row "song_id") sid .none
    total ← plusIn total (← col row "song_length")
  updateLength v

/-- The next song of a power hour, marked as queued; the block is used up when none is left. -/
def nextOneUp (v : Value) : Act Value := do
  let p ← producerOf v
  let next ← fetchVar [p.id]
  if !next.truthy then
    let _ ← dbUpdate [p.id]
    return .none
  let _ ← dbUpdate [next]
  let up ← Events.loadOneUp next p.sid
  Events.changeEvent up fun e => { e with name := p.name, coreEventId := p.id }
  return up

/-- The song of a power hour that is playing, if one was queued. -/
def oneUpInProgress (v : Value) : Act Value := do
  let p ← producerOf v
  let queued ← fetchVar [p.id]
  if !queued.truthy then return .none
  let up ← Events.loadOneUp p.id p.sid
  Events.changeEvent up fun e => { e with name := p.name, url := p.url, coreEventId := p.id }
  return up

/-! ## Election producers -/

/-- Makes and fills a new election for the block; an election that comes out empty is
refused. -/
def fillNewElection (v target skipRequests : Value) : Act Value := do
  let p ← producerOf v
  let elec ← Elections.create (electionKind p) p.sid p.id
  Events.changeEvent elec fun e => { e with url := p.url, name := p.name, djUserId := some p.djUserId }
  Elections.fill elec target skipRequests
  if Value.equals (← Elections.length elec) (.int 0) then
    Act.raise (.general "Created zero-length election.")
  return elec

/-- Makes and fills a new election for the block; on failure the database's transaction is
rolled back. -/
def createElection (v target skipRequests : Value) : Act Value := do
  match ← Act.attempt (fillNewElection v target skipRequests) with
  | .ok elec => return elec
  | .error f =>
    rollback
    Act.raise f

/-- The next unused election of the block above an id, skipping (and using up) empty
ones; a new election when there is none, unless the block is done. -/
def nextElection (v target minElecId skipRequests : Value) : Nat → Act Value
  | 0 => return .none
  | fuel + 1 => do
    let p ← producerOf v
    let elecType := p.elecType.getD .none
    let elecId ← if p.id.truthy then fetchVar [elecType, p.sid, minElecId, p.id]
      else fetchVar [elecType, p.sid, minElecId]
    if elecId.truthy then
      let elec ← Elections.load (electionKind p) elecId
      let e ← Events.eventOf elec
      if !e.songs.truthy then
        let _ ← dbUpdate [e.id]
        return ← nextElection v .none (.int 0) (.bool false) fuel
      Events.changeEvent elec fun e => { e with url := p.url, name := p.name }
      return elec
    if p.id.truthy && p.kind != .pvpElection then return .none
    createElection v target skipRequests

/-- The election of the block that is playing, or else the next one. -/
def electionInProgress (v : Value) : Act Value := do
  let p ← producerOf v
  let elecType := p.elecType.getD .none
  let elecId ← if p.id.truthy then fetchVar [elecType, p.sid, p.id] else fetchVar [elecType, p.sid]
  if !elecId.truthy then return ← nextElection v .none (.int 0) (.bool false) 1000
  let elec ← Elections.load (electionKind p) elecId
  let e ← Events.eventOf elec
  if !e.songs.truthy then
    let _ ← dbUpdate [e.id]
    return ← nextElection v .none (.int 0) (.bool false) 1000
  Events.changeEvent elec fun e => { e with name := p.name, url := p.url, djUserId := some p.djUserId }
  return elec

/-! ## Any producer -/

/-- Whether the block has another event to hand out. -/
def hasNext (v : Value) : Act Value := do
  let p ← producerOf v
  match p.kind with
  | .base => Act.raise noKind
  | .pvpElection => return .bool true
  | .oneUp => return .bool (← fetchVar [p.id]).truthy
  | .election | .shortestElection =>
    if !p.id.truthy then return .bool true
    fetchVar [p.elecType.getD .none, p.sid, p.id]

/-- The next event of the block. -/
def loadNext (v target minElecId skipRequests : Value) : Act Value := do
  let p ← producerOf v
  match p.kind with
  | .base => Act.raise noKind
  | .oneUp => nextOneUp v
  | _ => nextElection v target minElecId skipRequests 1000

/-- The event of the block that is playing. -/
def loadInProgress (v : Value) : Act Value := do
  let p ← producerOf v
  match p.kind with
  | .base => Act.raise noKind
  | .oneUp => oneUpInProgress v
  | _ => electionInProgress v

/-- The client view of a block, with its songs; a power hour loads its songs first. -/
def view (v : Value) : Act Value := do
  if (← producerOf v).kind == .oneUp then loadAllSongs v
  let p ← producerOf v
  let mut songs : List Value := []
  if p.songs.truthy then
    for song in ← itemsOf p.songs do
      songs := songs ++ [← Songs.toDict song .none]
  return Value.record [("sid", p.sid), ("id", p.id), ("start", p.start), ("start_actual", p.startActual),
    ("end", p.«end»), ("end_actual", p.endActual), ("type", p.type), ("name", p.name),
    ("public", p.isPublic), ("timed", p.timed), ("url", p.url), ("in_progress", p.inProgress),
    ("used", p.used), ("use_crossfade", p.useCrossfade), ("use_tag_suffix", p.useTagSuffix),
    ("plan_ahead_limit", p.planAheadLimit), ("songs", .list songs)]

/-- The kinds of block an administrator may schedule. -/
def creatableKinds : List Value :=
  (ProducerKind.registered.filter fun k => k != .shortestElection && k != .oneUp).map
    fun k => .str k.kindName

end Airwaves.Producers
