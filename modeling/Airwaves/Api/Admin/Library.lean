import Airwaves.Api.Handler
import Airwaves.Catalog.Listing
import Airwaves.Catalog.SongPlay
/-!
# Library settings

Administrators' changes to groups, request-only songs and cooldowns, and the collections they
gather before choosing groups.
-/
namespace Airwaves.Api.LibraryAdmin

open Catalog

/-- Answers a value under the answer name. -/
def answer (v x : Value) : Act Unit := do let _ ← append v (← answerName v) x

/-- Takes a song out of a group. -/
def removeGroupFromSong : Endpoint where
  url := "/api4/admin/remove_group_from_song"
  gates := { admin := true, station := false }
  fields := [needs "song_id" .songId, needs "group_id" .groupId]
  serve v := do
    let song ← Songs.loadFromId (← argument v "song_id") .none
    let group ← loadFromId .group (← argument v "group_id")
    let _ ← Songs.removeById song .group (← metadataOf group).id
    reconcileGroup group
    answer v (Value.record [("success", .str "true"), ("tl_key", .str "Group removed from song ID.")])

/-- Sets how many elections a group blocks. -/
def editGroupElectionBlock : Endpoint where
  url := "/api4/admin/edit_group_elec_block"
  gates := { admin := true, station := false }
  fields := [needs "group_id" .groupId, tolerates "elec_block" .zeroOrGreaterInteger]
  serve v := do
    let group ← loadFromId .group (← argument v "group_id")
    let count ← argument v "elec_block"
    setGroupElectionBlock group count
    answer v (Value.record [("tl_key", .str "group_edit_success"),
      ("text", .str ("Group elec block updated to " ++ count.display))])

/-- Sets how long a group cools down. -/
def editGroupCooldown : Endpoint where
  url := "/api4/admin/edit_group_cooldown"
  gates := { admin := true, station := false }
  fields := [needs "group_id" .groupId, needs "cooldown" .zeroOrGreaterInteger]
  serve v := do
    let group ← loadFromId .group (← argument v "group_id")
    let time ← argument v "cooldown"
    setGroupCooldown group time
    answer v (Value.record [("tl_key", .str "group_edit_success"),
      ("text", .str ("Group cooldown updated to " ++ time.display))])

/-- Makes a song playable only by request on the station, or lifts that. -/
def setSongRequestOnly : Endpoint where
  url := "/api4/admin/set_song_request_only"
  gates := { admin := true }
  fields := [needs "song_id" .songId, needs "request_only" .boolean]
  serve v := do
    let songId ← argument v "song_id"
    let sid ← stationOf v
    if (← argument v "request_only").truthy then
      let _ ← dbUpdate [songId, sid]
      answer v (Value.record [("success", .bool true),
        ("text", .str ("Song ID " ++ songId.display ++ " is now request only."))])
    else
      let _ ← dbUpdate [songId, sid]
      answer v (Value.record [("success", .bool true),
        ("text", .str ("Song ID " ++ songId.display ++ " is not request only."))])

/-- The station's request line, for administrators. -/
def adminRequestLine : Endpoint where
  url := "/api4/admin/request_line"
  returnName := some "request_line"
  gates := { admin := true }
  serve v := do answer v (← Cache.readStation (← stationOf v) "request_line")

/-- The items an administrator has collected under a key, extended by one more. -/
def collect (v : Value) (key : String) (item : Value) : Act Unit := do
  let user ← userOf v
  let items := match ← Cache.readUser user key with
    | .list xs => xs
    | .tuple xs => xs
    | _ => []
  Cache.putUser user key (.list (items ++ [item]))

/-- Collects a song to put into groups. -/
def collectSong : Endpoint where
  url := "/api4/admin/associate_groups_add_song"
  gates := { admin := true, station := false }
  fields := [needs "song_id" .songId]
  serve v := do
    collect v "admin_associate_groups_songs" (← argument v "song_id")
    standard v "song_added"

/-- Collects an album of a station to put into groups. -/
def collectAlbum : Endpoint where
  url := "/api4/admin/associate_groups_add_album"
  gates := { admin := true, station := false }
  fields := [needs "album_id" .albumId, needs "album_sid" .station]
  serve v := do
    collect v "admin_associate_groups_albums"
      (.tuple [← argument v "album_id", ← argument v "album_sid"])
    standard v "album_added"

end Airwaves.Api.LibraryAdmin
