import Airwaves.Catalog.Album
/-!
# Songs

Loading a song with its stations, album, artists and groups; saving it; and disabling a song
that fails to load.
-/
namespace Airwaves.Songs

open Catalog

/-- The song behind a reference. -/
def songOf (v : Value) : Act Song := do return (← songAt v).2

/-- Changes the song behind a reference. -/
def changeSong (v : Value) (f : Song → Song) : Act Unit := do
  let (h, _) ← songAt v
  updateSong h f

/-- Sets an entry of the song's data. -/
def setData (v : Value) (key : String) (x : Value) : Act Unit :=
  changeSong v fun s => { s with data := Dict.putField s.data key x }

/-- An entry of the song's data, or a missing key. -/
def dataOf (s : Song) (key : String) : Act Value :=
  match Dict.field? s.data key with
  | some x => pure x
  | none => Act.raise (.missingKey (.str key))

/-- The song's station, which exists only once the song was loaded for one. -/
def stationOf (v : Value) : Act Value := do
  match (← songOf v).sid with
  | some s => return s
  | none => noMember v "sid"

/-- A blank song. -/
def fresh : Act Value := allocRef (.song {})

/-- Brings an album or group in line with the stations its songs are on; artists cannot
be reconciled. -/
def reconcile (m : Value) : Act Unit := do
  match (← metadataOf m).role with
  | .album => let _ ← reconcileAlbum m
  | .group => reconcileGroup m
  | .artist => noMember m "reconcile_sids"

/-- Disables a song: unverified, off every station, out of the request lines, with its
album and groups reconciled. A song without an id is left alone. -/
def disable (v : Value) : Act Unit := do
  let s ← songOf v
  if !s.id.truthy then return
  let _ ← dbUpdate [s.id]
  let _ ← dbUpdate [s.id]
  let _ ← dbUpdate [s.id]
  if s.albums.truthy then
    for m in ← itemsOf s.albums do reconcile m
  if s.groups.truthy then
    for m in ← itemsOf s.groups do reconcile m

/-- Copies a row's columns into the song's data under their names without the `song_`
prefix; album columns are left out. -/
def assignRow (v row : Value) : Act Unit := do
  let entries ← match row with
    | .dict es => pure es
    | _ => noMember row "iteritems"
  for (k, x) in entries do
    let name := match k with
      | .str t => if "song_".isPrefixOf t then (t.drop 5).toString else t
      | other => other.display
    unless "album_".isPrefixOf name do
      setData v name x

/-- The row of a song on a station, with the station; without a station, the row of the song
on its station of origin. -/
def findRow (songId sid : Value) : Act (Value × Value) := do
  if sid.isNone then
    let row ← fetchRow [songId]
    return (row, ← col row "song_origin_sid")
  else return (← fetchRow [songId, sid], sid)

/-- Fills a song from its row on a station: its file, verification and gain, its stations,
the row's columns, its album on the station, its artists and its groups. -/
def fill (v songId sid row : Value) : Act Unit := do
  let filename ← col row "song_filename"
  changeSong v fun s => { s with filename := filename }
  let verified ← col row "song_verified"
  changeSong v fun s => { s with verified := verified }
  let gain ← col row "song_replay_gain"
  changeSong v fun s => { s with replayGain := gain }
  setData v "sids" (← fetchList [songId])
  setData v "sid" sid
  setData v "rank" .none
  assignRow v row
  if hasField row "album_id" then
    if (← col row "album_id").truthy then
      let album ← Albums.loadFromIdSid (← col row "album_id") sid
      changeSong v fun s => { s with albums := .list [album] }
  let artists ← loadListFromSongId .artist songId
  changeSong v fun s => { s with artists := artists }
  let groups ← loadListFromSongId .group songId sid
  changeSong v fun s => { s with groups := groups }

/-- Loads a song by id, on a station or else on its station of origin, with its
stations, album, artists and groups. A song that fails to load is disabled. -/
def loadFromId (songId sid : Value) : Act Value := do
  let (row, sid) ← findRow songId sid
  if !row.truthy then Act.raise (.raised .songNonExistent [])
  let v ← fresh
  changeSong v fun s => { s with id := songId, sid := some sid }
  match ← Act.attempt (fill v songId sid row) with
  | .ok () => return v
  | .error f =>
    disable v
    Act.raise f

/-- Writes the song's artists, as a JSON list of ids and names, into its row. -/
def updateArtistParseable (v : Value) : Act Unit := do
  let s ← songOf v
  if !s.artists.truthy then return
  let mut parts : List Value := []
  for a in ← itemsOf s.artists do
    let m ← metadataOf a
    parts := parts ++ [Value.record [("id", m.id), ("name", ← Catalog.dataOf m "name")]]
  let text ← Config.jsonText (.list parts) .spacedUnicode
  let _ ← dbUpdate [.str text, s.id]

/-- The time a file was last changed, in whole seconds; the file must exist. -/
def fileTime (name : Value) : Act Value := do
  match name with
  | .str n =>
    match (← get).files.lookup n with
    | some f => return .int f.mtime
    | none => Act.raise (.of .fileNotFound ("[Errno 2] No such file or directory: " ++ name.quote))
  | _ => Act.raise (.typeError ("stat: path should be string, bytes, os.PathLike or integer, not " ++
      name.kindName))

/-- Saves a song's row and the stations it is on (those given, or else those it has):
stations it left are marked as not having it, and each of its stations is written,
whether it is new or returning. A song without an id takes the id of a song with its
title, length and artist when duplicates are not allowed. -/
def save (v sidsOverride : Value) : Act Unit := do
  let s ← songOf v
  let mut update := false
  if s.id.truthy then update := true
  else
    let title ← dataOf s "title"
    let length ← dataOf s "length"
    let potential ← if s.artistTag.truthy then fetchVar [title, length, s.artistTag]
      else fetchVar [title, length]
    if !(← Config.get "allow_duplicate_song").truthy && potential.truthy then
      changeSong v fun s => { s with id := potential }
      update := true
  if sidsOverride.truthy then setData v "sids" sidsOverride
  else if (← lengthOf (← dataOf (← songOf v) "sids")) == 0 then
    Act.raise (.raised .songHasNoSids [])
  setData v "origin_sid" (← itemOf (← dataOf (← songOf v) "sids") (.int 0))
  let s ← songOf v
  let mtime ← if s.fake.truthy then pure (.int 0) else fileTime s.filename
  if update then
    let title ← dataOf s "title"
    let params := [s.filename, title, .str (← Searchable.foldIn title), ← dataOf s "url",
      ← dataOf s "link_text", ← dataOf s "length", ← dataOf s "track_number",
      ← dataOf s "disc_number", ← dataOf s "year", mtime, s.replayGain, ← dataOf s "origin_sid", s.id]
    let _ ← dbUpdate params
    if s.artistTag.truthy then
      let _ ← dbUpdate [s.artistTag, s.id]
  else
    let id ← nextId "r4_songs" "song_id"
    changeSong v fun s => { s with id := .int id }
    let title ← dataOf s "title"
    let params := [.int id, s.filename, title, .str (← Searchable.foldIn title), ← dataOf s "url",
      ← dataOf s "link_text", ← dataOf s "length", ← dataOf s "track_number",
      ← dataOf s "disc_number", ← dataOf s "year", ← dataOf s "origin_sid", mtime, .bool true,
      .bool true, s.replayGain, s.artistTag]
    let _ ← dbUpdate params
    changeSong v fun s => { s with verified := .bool true }
    setData v "added_on" (← timestampInt)
  let s ← songOf v
  let current ← fetchList [s.id]
  let sids ← dataOf s "sids"
  let sidList ← itemsOf sids
  let currentList ← itemsOf current
  for sid in currentList do
    unless sidList.any (Value.equals · sid) do
      let _ ← dbUpdate [s.id, sid]
  for sid in sidList do
    let _ ← dbUpdate [s.id, sid]

end Airwaves.Songs
