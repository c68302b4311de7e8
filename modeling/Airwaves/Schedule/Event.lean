import Airwaves.Catalog.SongPlay
/-!
# Events that play one song

Preparing, starting and finishing an event that plays one song, and the length and client view
of such an event.
-/
namespace Airwaves.Events

open Catalog

/-- The event behind a reference. -/
def eventOf (v : Value) : Act Event := do return (← eventAt v).2

/-- Changes the event behind a reference. -/
def changeEvent (v : Value) (f : Event → Event) : Act Unit := do
  let (h, _) ← eventAt v
  updateEvent h f

/-- A blank event of a kind on a station. -/
def blank (kind : EventKind) (sid : Value) : Event :=
  { kind := kind, type := .str kind.kindName, sid := sid }

/-- The first song of an event. -/
def firstSong (e : Event) : Act Value := itemOf e.songs (.int 0)

/-- The length recorded for a song. -/
def songLength (song : Value) : Act Value := do
  itemOf (← attributeOf song "data") (.str "length")

/-- The song a single-song event plays. -/
def playedSong (v : Value) : Act Value := do firstSong (← eventOf v)

/-- The file a single-song event plays. -/
def playedFile (v : Value) : Act Value := do attributeOf (← playedSong v) "filename"

/-- Prepares a single-song event: nothing while it is playing, a failure once it was
used, and otherwise its song's replay gain. -/
def prepare (v : Value) : Act Unit := do
  let e ← eventOf v
  if e.inProgress.truthy && !e.used.truthy then return
  if e.used.truthy then Act.raise (.raised .eventAlreadyUsed [])
  let gain ← attributeOf (← playedSong v) "replay_gain"
  changeEvent v fun e => { e with replayGain := gain }

/-- Starts an event now. -/
def start (v : Value) : Act Unit := do
  let now ← timestampInt
  changeEvent v fun e => { e with startActual := now, inProgress := .bool true }

/-- Finishes a single-song event now: used, ended, and its song played and cooling down. -/
def finish (v : Value) : Act Unit := do
  let now ← timestampInt
  changeEvent v fun e => { e with used := .bool true, inProgress := .bool false, «end» := now }
  let song ← playedSong v
  if song.truthy then
    let sid := (← eventOf v).sid
    let _ ← Songs.updateLastPlayed song sid
    Songs.startCooldown song sid

/-- The length of a single-song event. -/
def length (v : Value) : Act Value := do
  let e ← eventOf v
  if !e.used.truthy then return ← songLength (← firstSong e)
  if e.startActual.truthy then return ← minus e.startActual e.«end»
  if e.start.truthy && e.«end».truthy then return ← minus e.start e.«end»
  songLength (← firstSong e)

/-- The client view of an event, with the event's own length: its fields, its end as its
start plus its length, and its songs as the listener sees them (their rating rights
checked first when asked). -/
def viewWith (v user : Value) (checkAcl : Bool) (lengthOf : Value → Act Value) : Act Value := do
  let e ← eventOf v
  let mut obj : Dict := Dict.ofStrings [("id", e.id), ("start", e.start), ("start_actual", e.startActual),
    ("end", if e.endActual.truthy then e.endActual else e.«end»), ("type", e.type), ("name", e.name),
    ("sid", e.sid), ("url", e.url), ("voting_allowed", .bool false), ("used", e.used),
    ("length", ← lengthOf v), ("core_event_id", e.coreEventId)]
  if e.startActual.truthy then obj := Dict.putField obj "end" (← plus e.startActual (← lengthOf v))
  else if e.start.truthy then obj := Dict.putField obj "end" (← plus e.start (← lengthOf v))
  let mut songs : List Value := []
  for song in ← itemsOf e.songs do
    if checkAcl then Songs.checkRatingAcl song user
    songs := songs ++ [← Songs.toDict song user]
  return .dict (Dict.putField obj "songs" (.list songs))

/-- The client view of a single-song event. -/
def view (v user : Value) (checkAcl : Bool) : Act Value := viewWith v user checkAcl length

/-- A single-song event for a song (given by id or as a song) on a station, numbered in
the order such events are made. -/
def singleSong (song sid : Value) : Act Value := do
  let songs ← match song with
    | .int _ | .bool _ => pure [← Songs.loadFromId song sid]
    | .ref h =>
      match ← deref h with
      | .song _ => pure [song]
      | _ => Act.raise (.general "Not a song.")
    | _ => Act.raise (.general "Not a song.")
  let number := (← get).globals.singleSongCounter
  let next ← plus number (.int 1)
  modify fun w => { w with globals := { w.globals with singleSongCounter := next } }
  allocRef (.event { blank .singleSong sid with songs := .list songs, id := number })

/-- One song of a power hour, by its entry, on a station. -/
def loadOneUp (oneUpId sid : Value) : Act Value := do
  let row ← fetchRow [oneUpId]
  if !row.truthy then Act.raise (.general ("OneUp schedule ID " ++ oneUpId.display ++ " not found."))
  let id ← col row "one_up_id"
  let used ← col row "one_up_used"
  let song ← Songs.loadFromId (← col row "song_id") (← col row "one_up_sid")
  allocRef (.event { blank .oneUp .none with id := id, used := used, songs := .list [song], sid := sid })

/-- Finishes a song of a power hour, marking its entry used. -/
def finishOneUp (v : Value) : Act Unit := do
  finish v
  let _ ← dbUpdate [(← eventOf v).id]

/-- Deletes a song of a power hour. -/
def deleteOneUp (v : Value) : Act Value := do dbUpdate [(← eventOf v).id]

end Airwaves.Events
