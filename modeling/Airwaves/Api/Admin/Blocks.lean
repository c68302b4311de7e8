import Airwaves.Api.Handler
import Airwaves.Schedule.Producer
/-!
# Scheduled blocks

Administrators list, create, rename, move and delete scheduled blocks, and build power
hours (add a song or an album, remove, shuffle and reorder their songs). A DJ prepares an
election of chosen songs, kept in the cache until it is committed, and deletes elections
of the DJ's own blocks.
-/
namespace Airwaves.Api.Blocks

open Catalog

/-- Answers a value under the answer name. -/
def answer (v x : Value) : Act Unit := do let _ ← append v (← answerName v) x

/-- The producer kind registered under a type name. -/
def kindNamed (name : Value) : Act ProducerKind := do
  match ProducerKind.registered.find? fun k => Value.equals (.str k.kindName) name with
  | some k => return k
  | none => Act.raise (.missingKey name)

/-- The upcoming and past blocks of the station. -/
def listProducers : Endpoint where
  url := "/api4/admin/list_producers"
  returnName := some "producers"
  gates := { admin := true }
  serve v := do
    let sid ← stationOf v
    answer v (← fetchAll [sid, ← timestamp])
    put v "producers_past" (← fetchAll [sid, ← minus (← timestamp) (.int (86400 * 60)), ← timestamp])

/-- The upcoming and past blocks of every station. -/
def listProducersAll : Endpoint where
  url := "/api4/admin/list_producers_all"
  returnName := some "producers"
  gates := { admin := true, station := false }
  serve v := do
    answer v (← fetchAll [← timestamp])
    put v "producers_past" (← fetchAll [← minus (← timestamp) (.int (86400 * 26)), ← timestamp])

/-- The kinds of block an administrator may create. -/
def listProducerTypes : Endpoint where
  url := "/api4/admin/list_producer_types"
  returnName := some "producer_types"
  gates := { admin := true, station := false }
  serve v := do answer v (.list Producers.creatableKinds)

/-- Creates a block, filling a power hour with unrated songs when asked. -/
def createProducer : Endpoint where
  url := "/api4/admin/create_producer"
  returnName := some "power_hour"
  gates := { admin := true }
  fields := [needs "producer_type" .producerType, needs "name" .text,
    needs "start_utc_time" .positiveInteger, needs "end_utc_time" .positiveInteger,
    tolerates "url" .text, tolerates "dj_user_id" .userId, accepts "fill_unrated" .boolean]
  serve v := do
    let kind ← kindNamed (← argument v "producer_type")
    let sid ← stationOf v
    let start ← argument v "start_utc_time"
    let stop ← argument v "end_utc_time"
    let settings : Producers.BlockSettings :=
      ⟨← argument v "name", .bool true, .bool true, ← argument v "url", .bool true, .bool true,
        ← argument v "dj_user_id"⟩
    let p ← Producers.create kind sid start stop settings
    if (← argument v "fill_unrated").truthy && kind == .oneUp then
      Producers.fillUnrated p sid (← minus stop start)
    answer v (← Producers.view p)

/-- Loads a block, refusing when there is none. -/
def existingBlock (v : Value) : Act Value := do
  let schedId ← argument v "sched_id"
  let p ← Producers.loadById schedId
  if !p.truthy then
    Act.raise (refuseWith "internal_error" ("Producer ID " ++ schedId.display ++ " not found."))
  return p

/-- Renames a block. -/
def changeProducerName : Endpoint where
  url := "/api4/admin/change_producer_name"
  gates := { admin := true, station := false }
  fields := [needs "sched_id" .schedId, needs "name" .text]
  serve v := do
    let _ ← existingBlock v
    let name ← argument v "name"
    let _ ← dbUpdate [name, ← argument v "sched_id"]
    standardText v "success" ("Producer name changed to '" ++ name.display ++ "'.")

/-- Changes or removes the address of a block. -/
def changeProducerUrl : Endpoint where
  url := "/api4/admin/change_producer_url"
  gates := { admin := true, station := false }
  fields := [needs "sched_id" .schedId, tolerates "url" .text]
  serve v := do
    let _ ← existingBlock v
    let url ← argument v "url"
    let _ ← dbUpdate [url, ← argument v "sched_id"]
    if url.truthy then standardText v "success" ("Producer URL changed to '" ++ url.display ++ "'.")
    else standardText v "success" "Producer URL removed."

/-- Moves the start of a block. -/
def changeProducerStart : Endpoint where
  url := "/api4/admin/change_producer_start_time"
  returnName := some "producer"
  gates := { admin := true }
  fields := [needs "sched_id" .schedId, needs "utc_time" .positiveInteger]
  serve v := do
    let p ← Producers.loadById (← argument v "sched_id")
    if !p.truthy then noMember p "change_start"
    Producers.changeStart p (← argument v "utc_time")
    answer v (← Producers.view p)

/-- Moves the end of a block. -/
def changeProducerEnd : Endpoint where
  url := "/api4/admin/change_producer_end_time"
  returnName := some "producer"
  gates := { admin := true }
  fields := [needs "sched_id" .schedId, needs "utc_time" .positiveInteger]
  serve v := do
    let p ← Producers.loadById (← argument v "sched_id")
    if !p.truthy then noMember p "change_end"
    Producers.changeEnd p (← argument v "utc_time")
    answer v (← Producers.view p)

/-- Deletes a block. -/
def deleteProducer : Endpoint where
  url := "/api4/admin/delete_producer"
  gates := { admin := true, station := false }
  fields := [needs "sched_id" .schedId]
  serve v := do
    let _ ← existingBlock v
    let _ ← dbUpdate [← argument v "sched_id"]
    standardText v "success" "Producer deleted."

/-! ## Power hours -/

/-- A loaded block used as a power hour, failing as a missing member when it is not one. -/
def powerHour (p : Value) (member : String) : Act Value := do
  match p with
  | .ref _ =>
    if (← Producers.producerOf p).kind == .oneUp then return p
    noMember p member
  | other => noMember other member

/-- The power hours of the station from the last days on. -/
def listPowerHours : Endpoint where
  url := "/api4/admin/list_power_hours"
  returnName := some "power_hours"
  gates := { admin := true }
  serve v := do
    let sid ← stationOf v
    answer v (← fetchAll [sid, ← minus (← timestamp) (.int (86400 * 26))])

/-- A power hour. -/
def getPowerHour : Endpoint where
  url := "/api4/admin/get_power_hour"
  returnName := some "power_hour"
  gates := { admin := true }
  fields := [needs "sched_id" .schedId]
  serve v := do
    let p ← Producers.loadById (← argument v "sched_id")
    if p.truthy then answer v (← Producers.view p) else answer v .none

/-- Adds a song to a power hour. -/
def addSongToPowerHour : Endpoint where
  url := "/api4/admin/add_song_to_power_hour"
  returnName := some "power_hour"
  gates := { admin := true, stationZero := true }
  fields := [needs "sched_id" .schedId, needs "song_id" .songId, needs "song_sid" .station]
  serve v := do
    let p ← powerHour (← Producers.loadById (← argument v "sched_id")) "add_song_id"
    Producers.addSong p (← argument v "song_id") (← argument v "song_sid") .none
    answer v (← Producers.view p)

/-- Adds the songs of an album to a power hour. -/
def addAlbumToPowerHour : Endpoint where
  url := "/api4/admin/add_album_to_power_hour"
  returnName := some "power_hour"
  gates := { admin := true, stationZero := true }
  fields := [needs "sched_id" .schedId, needs "album_id" .albumId, needs "album_sid" .station]
  serve v := do
    let p ← powerHour (← Producers.loadById (← argument v "sched_id")) "add_album_id"
    Producers.addAlbum p (← argument v "album_id") (← argument v "album_sid")
    answer v (← Producers.view p)

/-- The power hour a song of a power hour belongs to, refusing an unknown song. -/
def powerHourOfSong (v : Value) (member : String) : Act Value := do
  let schedId ← fetchVar [← argument v "one_up_id"]
  if !schedId.truthy then Act.raise (refuseWith "invalid_argument" "Invalid One Up ID.")
  powerHour (← Producers.loadById schedId) member

/-- Removes a song from a power hour. -/
def removeFromPowerHour : Endpoint where
  url := "/api4/admin/remove_from_power_hour"
  returnName := some "power_hour"
  gates := { admin := true }
  fields := [needs "one_up_id" .positiveInteger]
  serve v := do
    let p ← powerHourOfSong v "remove_one_up"
    let _ ← Producers.removeSong p (← argument v "one_up_id")
    answer v (← Producers.view p)

/-- Shuffles the songs of a power hour. -/
def shufflePowerHour : Endpoint where
  url := "/api4/admin/shuffle_power_hour"
  returnName := some "power_hour"
  gates := { admin := true }
  fields := [needs "sched_id" .schedId]
  serve v := do
    let p ← powerHour (← Producers.loadById (← argument v "sched_id")) "shuffle_songs"
    Producers.shuffleSongs p
    answer v (← Producers.view p)

/-- Moves a song of a power hour one place up. -/
def moveUpInPowerHour : Endpoint where
  url := "/api4/admin/move_up_in_power_hour"
  returnName := some "power_hour"
  gates := { admin := true }
  fields := [needs "one_up_id" .positiveInteger]
  serve v := do
    let p ← powerHourOfSong v "move_song_up"
    Producers.moveSongUp p (← argument v "one_up_id")
    answer v (← Producers.view p)

/-! ## DJ elections -/

/-- The songs a DJ queued under a name, rendered. -/
def rendered (songs : List Value) : Act Value := do
  let mut out : List Value := []
  for song in songs do out := out ++ [← Songs.toDict song .none]
  return .list out

/-- The songs a DJ queued for an election. -/
def getDjElection : Endpoint where
  url := "/api4/admin/get_dj_election"
  returnName := some "dj_election"
  gates := { djPreparation := true }
  serve v := do
    let songs ← Cache.readUser (← userIdOf v) "dj_election"
    if songs.truthy then answer v (← rendered (← itemsOf songs)) else answer v (.list [])

/-- Queues a song for a DJ's election. -/
def addToDjElection : Endpoint where
  url := "/api4/admin/add_to_dj_election"
  returnName := some "dj_election"
  gates := { djPreparation := true, stationZero := true }
  fields := [needs "song_id" .songId, needs "song_sid" .station]
  serve v := do
    let cached ← Cache.readUser (← userIdOf v) "dj_election"
    let songs ← if cached.truthy then itemsOf cached else pure []
    let song ← Songs.loadFromId (← argument v "song_id") (← argument v "song_sid")
    let songs := songs ++ [song]
    Cache.putUser (← userIdOf v) "dj_election" (.list songs)
    answer v (← rendered songs)

/-- Removes every song of an id from a list the way removal during a walk over the
same list does: after a removal the walk skips the song that moved into its place. -/
def removeWalking (songId : Value) : List Value → Act (List Value)
  | [] => return []
  | song :: rest => do
    if Value.equals (← attributeOf song "id") songId then
      match rest with
      | [] => return []
      | next :: more => return next :: (← removeWalking songId more)
    else return song :: (← removeWalking songId rest)

/-- Removes a song from a DJ's election. -/
def removeFromDjElection : Endpoint where
  url := "/api4/admin/remove_from_dj_election"
  returnName := some "dj_election"
  gates := { djPreparation := true }
  fields := [needs "song_id" .songId]
  serve v := do
    let cached ← Cache.readUser (← userIdOf v) "dj_election"
    if !cached.truthy then
      Act.raise (refuseWith "no_dj_election" "No songs found queued for a DJ election.")
    let songs ← removeWalking (← argument v "song_id") (← itemsOf cached)
    Cache.putUser (← userIdOf v) "dj_election" (.list songs)
    answer v (Value.record [("success", .bool true)])

/-- Makes an election of the songs a DJ queued. -/
def commitDjElection : Endpoint where
  url := "/api4/admin/commit_dj_election"
  gates := { djPreparation := true }
  fields := [accepts "sched_id" .schedId]
  serve v := do
    let cached ← Cache.readUser (← userIdOf v) "dj_election"
    if !cached.truthy then
      Act.raise (refuseWith "no_dj_election" "No songs found queued for a DJ election.")
    if (← argument v "sched_id").truthy then
      let user ← userOf v
      let _ ← someUser user "is_admin"
      -- `is_admin` is named but not called: a bound method is true, so the owner is never asked
      let admin := Value.func "User.is_admin" (match user with | .ref h => some h | _ => none)
      if !admin.truthy then
        if !Value.equals (← userIdOf v) (← fetchVar [← argument v "sched_id"]) then
          Act.raise (refuse "auth_required" 403)
    let elec ← Elections.create .election (← stationOf v) (← argument v "sched_id")
    for song in ← itemsOf cached do
      let _ ← Elections.addSong elec song
    Cache.putUser (← userIdOf v) "dj_election" .none
    answer v (Value.record [("success", .bool true)])

/-- Deletes an election; a DJ who is not an administrator only of the DJ's own block. -/
def deleteElection : Endpoint where
  url := "/api4/admin/delete_election"
  gates := { djPreparation := true }
  fields := [needs "elec_id" .elecId]
  serve v := do
    let elec ← Elections.load .election (← argument v "elec_id")
    let user ← userOf v
    if !(← Listeners.isAdmin user) then
      let owner ← fetchVar [← attributeOf elec "sched_id"]
      if !Value.equals (← userIdOf v) owner then Act.raise (refuse "auth_required" 403)
    let _ ← Elections.delete elec
    answer v (Value.record [("success", .bool true)])

end Airwaves.Api.Blocks
