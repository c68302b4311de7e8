import Airwaves.Catalog.Metadata
/-!
# Song listings of an artist or a group

An artist's page lists its songs on every station, and a group's page its songs on one
station, each grouped by album. A listed song is a row whose album columns are folded
into a one-album list, and which is requestable only for a listener who is logged in.
-/
namespace Airwaves.Catalog

/-- Takes a column out of a row, or fails with a missing key. -/
def takeColumn (row : Value) (key : String) : Act (Value × Value) := do
  let v ← col row key
  let rest := match row with
    | .dict d => .dict (Dict.without d (.str key))
    | r => r
  return (v, rest)

/-- Folds a listed row's album columns into its one-album list. -/
def foldAlbum (row : Value) : Act Value := do
  let (name, row) ← takeColumn row "album_name"
  let (id, row) ← takeColumn row "album_id"
  let (year, row) ← takeColumn row "album_year"
  return withField row "albums" (.list [Value.record [("name", name), ("id", id), ("year", year)]])

/-- A listed row, requestable only when the listener may request and the row says so. -/
def listedRow (mayRequest : Bool) (row : Value) : Act Value := do
  let requestable ← if mayRequest then col row "requestable" else pure (.bool false)
  return withField row "requestable" requestable

/-- Appends a row to the list under a key of a grouping, starting the list if needed. -/
def appendUnder (groups : Value) (key row : Value) : Act Value := do
  let existing : Value ← if ← isIn key groups then itemOf groups key else pure (.list [])
  match existing with
  | .list xs => return withEntry groups key (.list (xs ++ [row]))
  | other => return withEntry groups key other

/-- Lists an artist's songs for a listener on every station, by station and then by
album; songs whose station is not a station of the service are left out. -/
def loadArtistSongs (v sid userId : Value) : Act Unit := do
  let m ← metadataOf v
  let rows ← fetchAll [sid, sid, userId, m.id]
  let stations ← Config.stationIdList
  let start : Dict := stations.map fun s => (s, .dict [])
  setData v "all_songs" (.dict start)
  let mayRequest ← isGreater userId (.int 1)
  for row in ← itemsOf rows do
    let songSid ← col row "sid"
    unless stations.any (Value.equals · songSid) do continue
    let row ← listedRow mayRequest row
    let all := fieldOr (.dict (← metadataOf v).data) "all_songs" (.dict [])
    let byAlbum ← itemOf all songSid
    let albumId ← col row "album_id"
    let byAlbum ← appendUnder byAlbum albumId (← foldAlbum row)
    setData v "all_songs" (withEntry all songSid byAlbum)

/-- Lists a group's songs on a station for a listener, by album. -/
def loadGroupSongs (v sid userId : Value) : Act Unit := do
  let m ← metadataOf v
  let rows ← fetchAll [sid, sid, userId, m.id]
  setData v "all_songs_for_sid" (.dict [])
  let mayRequest ← isGreater userId (.int 1)
  for row in ← itemsOf rows do
    let row ← listedRow mayRequest row
    let byAlbum := fieldOr (.dict (← metadataOf v).data) "all_songs_for_sid" (.dict [])
    let albumId ← col row "album_id"
    setData v "all_songs_for_sid" (← appendUnder byAlbum albumId (← foldAlbum row))

/-- Sets a group's own election block. -/
def setGroupElectionBlock (v count : Value) : Act Unit := do
  let _ ← dbUpdate [count, (← metadataOf v).id]

/-- Sets a group's own cooldown time. -/
def setGroupCooldown (v time : Value) : Act Unit := do
  let _ ← dbUpdate [time, (← metadataOf v).id]

end Airwaves.Catalog
