import Airwaves.Api.Handler
/-!
# Cooldown settings

Administrators change how long a song, or an album on a station, cools down after it
plays: a multiplier and an override, each kept as it is when not given, or both reset.
-/
namespace Airwaves.Api.Cooldowns

/-- Answers whether the change was made, with its text. -/
def report (v : Value) (success : Bool) (text : String) : Act Unit := do
  let _ ← append v (← answerName v) (Value.record [("success", .bool success), ("text", .str text)])

/-- Sets a song's cooldown multiplier, override or both. -/
def setSongCooldown : Endpoint where
  url := "/api4/admin/set_song_cooldown"
  gates := { admin := true, station := false }
  fields := [needs "song_id" .songId, tolerates "multiply" .floatNum, tolerates "override" .integer]
  serve v := do
    let multiply ← argument v "multiply"
    let override ← argument v "override"
    let songId ← argument v "song_id"
    if multiply.truthy && override.truthy then
      let _ ← dbUpdate [multiply, override, songId]
      report v true "Song cooldown multiplier and override updated."
    else if multiply.truthy then
      let _ ← dbUpdate [multiply, songId]
      report v true "Song cooldown multiplier updated.  Override untouched."
    else if override.truthy then
      let _ ← dbUpdate [override, songId]
      report v true "Song cooldown override updated.  Multiplier untouched."
    else report v false "Neither multiply or override parameters set."

/-- Resets a song's cooldown. -/
def resetSongCooldown : Endpoint where
  url := "/api4/admin/reset_song_cooldown"
  gates := { admin := true, station := false }
  fields := [needs "song_id" .songId]
  serve v := do
    let _ ← dbUpdate [← argument v "song_id"]
    report v true "Song cooldown reset."

/-- Sets an album's cooldown multiplier, override or both on the station. -/
def setAlbumCooldown : Endpoint where
  url := "/api4/admin/set_album_cooldown"
  gates := { admin := true }
  fields := [needs "album_id" .albumId, tolerates "multiply" .floatNum, tolerates "override" .integer]
  serve v := do
    let multiply ← argument v "multiply"
    let override ← argument v "override"
    let albumId ← argument v "album_id"
    let sid ← stationOf v
    if multiply.truthy && override.truthy then
      let _ ← dbUpdate [multiply, override, albumId, sid]
      report v true "Album cooldown multiplier and override updated."
    else if multiply.truthy then
      let _ ← dbUpdate [multiply, albumId, sid]
      report v true "Album cooldown multiplier updated.  Override untouched."
    else if override.truthy then
      let _ ← dbUpdate [override, albumId, sid]
      report v true "Album cooldown override updated.  Override untouched."
    else report v false "Neither multiply or override parameters set."

/-- Resets an album's cooldown on the station. -/
def resetAlbumCooldown : Endpoint where
  url := "/api4/admin/reset_album_cooldown"
  gates := { admin := true }
  fields := [needs "album_id" .albumId]
  serve v := do
    let _ ← dbUpdate [← argument v "album_id", ← stationOf v]
    report v true "Album cooldown multiplier and override reset."

end Airwaves.Api.Cooldowns
