import Airwaves.Api.Now
import Airwaves.Catalog.Listing
/-!
# Browsing the library

The albums, artists, groups and songs of a station, with the listener's ratings, favourites,
requests and votes.
-/
namespace Airwaves.Api.Library

open Catalog

/-- Answers a value under the answer name. -/
def answer (v x : Value) : Act Unit := do let _ ← append v (← answerName v) x

/-- Every album of the station, with the listener's ratings. -/
def allAlbums : Endpoint where
  url := "/api4/all_albums"
  returnName := some "all_albums"
  serve v := do answer v (← Now.albumsFor (← stationOf v) (← userOf v))

/-- Every artist of the station. -/
def allArtists : Endpoint where
  url := "/api4/all_artists"
  returnName := some "all_artists"
  serve v := do answer v (← Cache.readStation (← stationOf v) "all_artists")

/-- Every group of the station. -/
def allGroups : Endpoint where
  url := "/api4/all_groups"
  returnName := some "all_groups"
  serve v := do answer v (← Cache.readStation (← stationOf v) "all_groups")

/-- An artist with the songs of the artist on the station. -/
def artist : Endpoint where
  url := "/api4/artist"
  returnName := some "artist"
  fields := [needs "id" .artistId]
  serve v := do
    let a ← loadFromId .artist (← argument v "id")
    loadArtistSongs a (← stationOf v) (← userIdOf v)
    answer v (← toDictFull a (← userOf v))

/-- A group with the songs of the group on the station. -/
def group : Endpoint where
  url := "/api4/group"
  returnName := some "group"
  fields := [needs "id" .groupId]
  serve v := do
    let g ← loadFromId .group (← argument v "id")
    loadGroupSongs g (← stationOf v) (← userIdOf v)
    answer v (← toDictFull g (← userOf v))

/-- Refuses an album that is not on the station, naming a station that has it. -/
def albumElsewhere (v : Value) : Act Unit := do
  changeHandler v fun h => { h with returnName := .str "album_error" }
  let sids ← fetchList [← argument v "id"]
  if !sids.truthy || (← lengthOf sids) == 0 then Act.raise (refuse "album_is_dj_only")
  let first ← itemOf sids (.int 0)
  let names := (← Config.current).stationIdFriendly
  let fallback ← Config.get "default_station"
  if ← isIn fallback sids then
    Act.raise (refuse "album_on_other_station" 200
      [("available_station", ← itemOf names fallback), ("available_sid", first)])
  Act.raise (refuse "album_on_other_station" 200
    [("available_station", ← itemOf names first), ("available_sid", first)])

/-- An album with its songs on the station and its details. -/
def album : Endpoint where
  url := "/api4/album"
  returnName := some "album"
  fields := [needs "id" .albumId, tolerates "sort" .text]
  serve v := do
    let sid ← stationOf v
    let loaded ← Act.attempt do
      let a ← Albums.loadFromIdWithSongs (← argument v "id") sid (← userOf v) (← argument v "sort")
      Albums.loadExtraDetail a sid
      return a
    match loaded with
    | .ok a => put v "album" (← toDictFull a (← userOf v))
    | .error f =>
      if f.isKind .metadataNotFound then albumElsewhere v else Act.raise f

/-- A song with its details. -/
def song : Endpoint where
  url := "/api4/song"
  returnName := some "song"
  fields := [needs "id" .songId]
  serve v := do
    let sid ← stationOf v
    let s ← Songs.loadFromId (← argument v "id") sid
    Songs.loadExtraDetail s sid
    put v "song" (← Songs.toDict s (← userOf v))

/-- Every song with the listener's ratings, by album and title or by rating. -/
def allSongs : Endpoint where
  url := "/api4/all_songs"
  returnName := some "all_songs"
  gates := { login := true, station := false }
  fields := [accepts "order" .text]
  allowGet := true
  pagination := true
  serve v := do
    let _ ← argument v "order"
    let _ ← pageLimit v
    answer v (← fetchAll [← userIdOf v])

/-- The listener's unrated songs. -/
def unratedSongs : Endpoint where
  url := "/api4/unrated_songs"
  returnName := some "unrated_songs"
  gates := { login := true }
  pagination := true
  serve v := do
    answer v (← Pool.unratedForListener (← userIdOf v) (.str (← pageLimit v)))

/-- The text of the best-rated songs of every station. -/
def topSongsText : String :=
  "SELECT DISTINCT ON (song_rating, song_id) song_origin_sid AS origin_sid, song_id AS id, " ++
  "song_title AS title, album_name, CAST(ROUND(CAST(song_rating AS NUMERIC), 1) AS REAL) AS song_rating, " ++
  "song_rating_count FROM r4_songs JOIN r4_song_sid USING (song_id) JOIN r4_albums USING (album_id) " ++
  "WHERE song_rating_count > 20 AND song_verified = TRUE ORDER BY song_rating DESC, song_id LIMIT 100"

/-- The hundred best-rated songs, of the station when one is asked for. -/
def top100 : Endpoint where
  url := "/api4/top_100"
  returnName := some "top_100"
  gates := { station := false }
  allowGet := true
  serve v := do
    if ← isGiven v "sid" then answer v (← fetchAll [← stationOf v])
    else answer v (← queryText .all topSongsText)

/-- The listener's favourite songs, on the station when one is asked for. -/
def allFaves : Endpoint where
  url := "/api4/all_faves"
  returnName := some "all_faves"
  gates := { login := true, station := false }
  allowGet := true
  pagination := true
  serve v := do
    if ← isGiven v "sid" then
      let sid ← stationOf v
      let _ ← pageLimit v
      answer v (← fetchAll [sid, ← userIdOf v])
    else
      let _ ← pageLimit v
      answer v (← fetchAll [← userIdOf v])

/-- What the station played, with the listener's ratings for registered listeners. -/
def playbackHistory : Endpoint where
  url := "/api4/playback_history"
  returnName := some "playback_history"
  gates := { login := false }
  allowGet := true
  pagination := true
  serve v := do
    let user ← userOf v
    if ← anonymous user then
      let _ ← pageLimit v
      answer v (← fetchAll [← stationOf v])
    else
      let _ ← pageLimit v
      answer v (← fetchAll [← userIdOf v, ← stationOf v])

/-- The text of the song count of every station. -/
def songCountText : String :=
  "SELECT song_origin_sid AS sid, COUNT(song_id) AS song_count FROM r4_songs " ++
  "WHERE song_verified = TRUE GROUP BY song_origin_sid"

/-- The number of songs of every station. -/
def stationSongCount : Endpoint where
  url := "/api4/station_song_count"
  returnName := some "station_song_count"
  gates := { station := false }
  allowGet := true
  serve v := do answer v (← queryText .all songCountText)

/-- The listener's fulfilled requests on the station. -/
def requestedHistory : Endpoint where
  url := "/api4/user_requested_history"
  returnName := some "user_requested_history"
  gates := { login := true }
  pagination := true
  serve v := do
    let _ ← pageLimit v
    answer v (← fetchAll [← stationOf v, ← userIdOf v])

/-- The listener's recent votes on the station. -/
def recentVotes : Endpoint where
  url := "/api4/user_recent_votes"
  returnName := some "user_recent_votes"
  gates := { login := true }
  pagination := true
  serve v := do
    let _ ← pageLimit v
    answer v (← fetchAll [← stationOf v, ← userIdOf v])

end Airwaves.Api.Library
