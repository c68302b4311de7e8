import Airwaves.Api.Handler
import Airwaves.Catalog.Rating
import Airwaves.Schedule.Slot
/-!
# Ratings and favourites

A listener rates a song, clears a rating, or marks a song or an album as a favourite.

A listener who may not rate anything may rate the song playing only while tuned in, and
another song only when the station's rating list admits the listener for it. A rating
answers the album ratings it changed.
-/
namespace Airwaves.Api.Ratings

open Catalog

/-- The song an event value plays, failing as a missing member for anything else. -/
def songPlaying (evt : Value) : Act Value := do
  match evt with
  | .ref _ => Schedule.eventSong evt
  | other => noMember other "get_song"

/-- Checks that the listener may rate a song now. -/
def checkMayRate (v songId : Value) : Act Unit := do
  let user ← userOf v
  let sid ← stationOf v
  if (← Listeners.dataOf (← Listeners.userOf user) "rate_anything").truthy then return
  let acl ← Cache.readStation sid "user_rating_acl"
  let playing ← songPlaying (← Cache.readStation sid "sched_current")
  if !Value.equals (← attributeOf playing "id") songId then
    if !(← isIn songId acl) then Act.raise (refuse "cannot_rate_now")
    if !(← isIn (← Listeners.userOf user).id (← itemOf acl songId)) then
      Act.raise (refuse "cannot_rate_now")
  else if !(← tunedIn user) then Act.raise (refuse "tunein_to_rate_current_song")

/-- Rates a song for the listener. -/
def rate : Endpoint where
  url := "/api4/rate"
  returnName := some "rate_result"
  gates := { login := true }
  fields := [needs "song_id" .songId, needs "rating" .rating]
  syncAcrossSessions := true
  serve v := do
    let songId ← argument v "song_id"
    let rating ← argument v "rating"
    checkMayRate v songId
    let user ← Listeners.userOf (← userOf v)
    let albums ← Rating.setSongRating (← stationOf v) songId user.id rating .none
    standard v "rating_submitted"
      [("updated_album_ratings", albums), ("song_id", songId), ("rating_user", rating)]

/-- Clears the listener's rating of a song. -/
def clearRating : Endpoint where
  url := "/api4/clear_rating"
  returnName := some "rate_result"
  gates := { login := true }
  fields := [needs "song_id" .songId]
  syncAcrossSessions := true
  serve v := do
    let songId ← argument v "song_id"
    let sid ← stationOf v
    let user ← Listeners.userOf (← userOf v)
    let albums ← Rating.clearSongRating sid songId user.id
    let song ← Songs.loadFromId songId sid
    let rating ← Songs.dataOf (← Songs.songOf song) "rating"
    standard v "rating_submitted" [("updated_album_ratings", albums),
      ("song_id", songId), ("rating_user", .none), ("rating", rating)]

/-- What a favourite is set on. -/
inductive Favourite where
  | song
  | album

/-- The name of what a favourite is set on. -/
def Favourite.name : Favourite → String
  | .song => "song"
  | .album => "album"

/-- Sets or clears a favourite for the listener. -/
def setFavourite (what : Favourite) (v : Value) : Act Unit := do
  let objectId ← argument v (what.name ++ "_id")
  let fave ← argument v "fave"
  let user ← Listeners.userOf (← userOf v)
  let sid ← stationOf v
  let result ← match what with
    | .song => Rating.setSongFave objectId user.id fave
    | .album => Rating.setAlbumFave sid objectId user.id fave
  if !result.truthy then Act.raise (refuseWith "fave_failed" "Fave failed.")
  let text := (if fave.truthy then "Favourited " else "Unfavourited ") ++ what.name ++ "."
  standardText v "fave_success" text [("id", objectId), ("fave", fave), ("sid", sid)]

/-- Marks or unmarks a song as a favourite. -/
def faveSong : Endpoint where
  url := "/api4/fave_song"
  gates := { login := true, station := false }
  fields := [needs "song_id" .songId, needs "fave" .boolean]
  syncAcrossSessions := true
  serve := setFavourite .song

/-- Marks or unmarks an album as a favourite on the station. -/
def faveAlbum : Endpoint where
  url := "/api4/fave_album"
  gates := { login := true }
  fields := [needs "album_id" .albumId, needs "fave" .boolean]
  syncAcrossSessions := true
  serve := setFavourite .album

end Airwaves.Api.Ratings
