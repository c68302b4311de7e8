import Airwaves.Catalog.Rating
import Airwaves.Catalog.Cooldown
import Airwaves.Catalog.Searchable
/-!
# Albums, artists and song groups

Loading, saving, associating and cooling down the metadata a song is associated with.
-/
namespace Airwaves.Catalog

/-- The object behind a reference. -/
def metadataOf (v : Value) : Act Metadata := do return (← metadataAt v).2

/-- Changes the object behind a reference. -/
def changeMetadata (v : Value) (f : Metadata → Metadata) : Act Unit := do
  let (h, _) ← metadataAt v
  updateMetadata h f

/-- Sets an entry of the object's data. -/
def setData (v : Value) (key : String) (x : Value) : Act Unit :=
  changeMetadata v fun m => { m with data := Dict.putField m.data key x }

/-- An entry of the object's data, or a missing key. -/
def dataOf (m : Metadata) (key : String) : Act Value :=
  match Dict.field? m.data key with
  | some x => pure x
  | none => Act.raise (.missingKey (.str key))

/-- The failure of an object that could not be written, found or named. -/
def metadataFault (kind : FaultKind) (text : String) : Fault := .raised kind [.str text]

/-- Marks an album as updated on a station; the station must have an updated table. -/
def markUpdated (sid albumId : Value) : Act Unit := do
  let all := (← get).globals.updatedAlbumIds
  let forStation ← itemOf all sid
  let all := withEntry all sid (withEntry forStation albumId (.bool true))
  modify fun w => { w with globals := { w.globals with updatedAlbumIds := all } }

/-- The album art address: there is no art directory, so there is none. -/
def artUrl (_albumId _sid : Value) : Act Value := do
  let path ← Config.get "album_art_file_path"
  if !path.truthy then return .str ""
  return .str ""

/-- Fills an artist or group from a row with `id` and `name` and the optional `is_tag`,
`elec_block`, `cool_time`, `cool_override`, `name_searchable` and `order`. -/
def assignPlain (v row : Value) : Act Unit := do
  let id ← col row "id"
  let name ← col row "name"
  let present (key : String) : Option Value :=
    match row with
    | .dict es => Dict.field? es key
    | _ => none
  changeMetadata v fun m =>
    let m := { m with id := id, data := Dict.putField m.data "name" name }
    let m := match present "is_tag" with
      | some x => { m with isTag := x }
      | none => m
    let m := match present "elec_block" with
      | some .none | none => m
      | some x => { m with elecBlock := x }
    let m := match present "cool_time" with
      | some .none | none => m
      | some x => { m with coolTime := x }
    let m := match present "cool_override" with
      | some .none | none => m
      | some x => { m with coolTime := x }
    let m := match present "name_searchable" with
      | some x => { m with data := Dict.putField m.data "name_searchable" x }
      | none => m
    match present "order" with
    | some x => { m with data := Dict.putField m.data "order" x }
    | none => m

/-- The album columns copied into the data under their short names, with their
defaults. -/
def albumColumns (name : Value) : List (String × Value) :=
  [("album_rating_count", .none), ("album_cool_multiply", .int 1), ("album_cool_override", .none),
   ("album_cool_lowest", .int 0), ("album_played_last", .int 0), ("album_fave_count", .int 0),
   ("album_vote_count", .int 0), ("album_song_count", .int 0), ("album_request_count", .int 0),
   ("album_cool", .bool false), ("album_name_searchable", name)]

/-- Fills an album from an album row: name, added date, the rating (kept precisely and
rounded to one place), the per-station columns, the station and the art. -/
def assignAlbum (v row : Value) (sid : Value) : Act Unit := do
  let id ← col row "album_id"
  let name ← col row "album_name"
  let addedOn ← col row "album_added_on"
  changeMetadata v fun m =>
    let named := Dict.putField (Dict.putField m.data "name" name) "added_on" addedOn
    { m with id := id, data := named }
  if hasField row "album_rating" then
    let precise ← col row "album_rating"
    let rounded ← roundTo precise 1
    changeMetadata v fun m =>
      let rated := Dict.putField m.data "rating" rounded
      { m with ratingPrecise := some precise, data := rated }
  for (key, fallback) in albumColumns name do
    setData v (key.drop 6).toString (fieldOr row key fallback)
  if hasField row "sid" then
    let s ← col row "sid"
    changeMetadata v fun m => { m with sid := some s }
  setData v "art" (← artUrl id sid)
  setData v "year" (fieldOr row "album_year" .none)

/-- Fills an object of any role from a row. -/
def assign (v row : Value) (sid : Value := .none) : Act Unit := do
  match (← metadataOf v).role with
  | .album => assignAlbum v row sid
  | _ => assignPlain v row

/-- A fresh object of a role. -/
def fresh (role : MetadataRole) : Act Value := allocRef (.metadata (Metadata.blank role))

/-- The station of an album, which exists only once it was loaded for one. -/
def stationOf (v : Value) : Act Value := do
  match (← metadataOf v).sid with
  | some s => return s
  | none => noMember v "sid"

/-- Writes a new object's row; true when a row was written. -/
def insertRow (v : Value) : Act Bool := do
  let m ← metadataOf v
  let (table, column) := match m.role with
    | .artist => ("r4_artists", "artist_id")
    | .group => ("r4_groups", "group_id")
    | .album => ("r4_albums", "album_id")
  let id ← nextId table column
  changeMetadata v fun m => { m with id := .int id }
  let name ← dataOf m "name"
  return (← dbUpdate [.int id, name, .str (← Searchable.foldIn name)]).truthy

/-- Rewrites an object's row; true when a row was written. An album is marked updated on
its station unless that is station zero. -/
def updateRow (v : Value) : Act Bool := do
  let m ← metadataOf v
  let name ← dataOf m "name"
  let written ← dbUpdate [name, .str (← Searchable.foldIn name), m.id]
  if m.role == .album then
    let sid ← stationOf v
    if !Value.equals sid (.int 0) then markUpdated sid m.id
  return written.truthy

/-- Saves an object: inserts it when it is new and named, updates it when it has an id. -/
def save (v : Value) : Act Unit := do
  let m ← metadataOf v
  let kind := m.role.kindName
  let name ← dataOf m "name"
  if !m.id.truthy && name.truthy then
    unless ← insertRow v do
      Act.raise (metadataFault .metadataInsertion (kind ++ " with name \"" ++ name.display ++
        "\" could not be inserted into the database."))
  else if m.id.truthy then
    unless ← updateRow v do
      Act.raise (metadataFault .metadataUpdate (kind ++ " with ID " ++ m.id.display ++ " could not be updated."))
  else
    Act.raise (metadataFault .metadataNotNamed ("Tried to save a " ++ kind ++ " without a name"))

/-- Loads the object of a role with a name, creating and saving it when there is none. -/
def loadFromName (role : MetadataRole) (name : Value) : Act Value := do
  let v ← fresh role
  let row ← fetchRow [name]
  if row.truthy then
    assign v row
  else
    setData v "name" name
    save v
  return v

/-- Loads the object of a role with an id. -/
def loadFromId (role : MetadataRole) (id : Value) : Act Value := do
  let v ← fresh role
  let row ← fetchRow [id]
  if !row.truthy then
    Act.raise (metadataFault .metadataNotFound (role.kindName ++ " ID " ++ id.display ++ " could not be found."))
  assign v row
  return v

/-- Adds to the objects found the one a fragment of a tag names, stripped of surrounding
blanks and marked as a tag; an empty fragment adds nothing. -/
def addFragment (role : MetadataRole) (found : List Value) (fragment : String) : Act (List Value) := do
  if fragment.length > 0 then
    let v ← loadFromName role (.str (Value.strip fragment))
    changeMetadata v fun m => { m with isTag := .bool true }
    return found ++ [v]
  else return found

/-- Loads the objects named in a comma separated tag, each marked as a tag. -/
def loadListFromTag (role : MetadataRole) (tag : Value) : Act Value := do
  if !tag.truthy then return .list []
  let text ← match tag with
    | .str s => pure s
    | _ => noMember tag "split"
  return .list (← (text.splitOn ",").foldlM (addFragment role) [])

/-- Builds objects of a role from rows. -/
def fromRows (role : MetadataRole) (rows : Value) : Act Value := do
  let mut found : List Value := []
  for row in ← itemsOf rows do
    let v ← fresh role
    assign v row
    found := found ++ [v]
  return .list found

/-- Loads the objects of a role associated with a song; groups may be limited to those
shown on a station. -/
def loadListFromSongId (role : MetadataRole) (songId : Value) (sid : Value := .none) : Act Value := do
  if role == .group && sid.truthy then
    fromRows role (← fetchAll [sid, songId, sid])
  else
    fromRows role (← fetchAll [songId])

/-- Blocks the songs of a group or album from elections on a station for a number of
elections. -/
def blockElectionsRows (v sid count : Value) : Act Unit := do
  let m ← metadataOf v
  match m.role with
  | .artist => pure ()
  | .group =>
    if ← joinsOnUpdate then
      let _ ← dbUpdate [.str "group", count, m.id, sid, count]
  | .album =>
    if ← joinsOnUpdate then
      let _ ← dbUpdate [.str "album", count, m.id, sid, count]

/-- Blocks an object's songs from elections: for its own override when it has one and it
is positive, otherwise for the number given. -/
def startElectionBlock (v sid count : Value) : Act Unit := do
  let m ← metadataOf v
  if !Value.equals m.elecBlock .none then
    if ← isGreater m.elecBlock (.int 0) then blockElectionsRows v sid m.elecBlock
  else if count.truthy then
    blockElectionsRows v sid count

/-- Starts the cooldown of an album's or group's songs on a station until a moment a
cooldown time from now; songs already cooling longer keep their end. -/
def cooldownRows (v sid coolTime : Value) : Act Unit := do
  let m ← metadataOf v
  match m.role with
  | .artist => pure ()
  | .group =>
    let coolEnd ← asInt (← plus coolTime (← timestamp))
    if ← joinsOnUpdate then
      let _ ← dbUpdate [coolEnd, m.id, sid, coolEnd]
      let requestOnlyEnd ← plus coolEnd (.int 300)
      let _ ← dbUpdate [requestOnlyEnd, m.id, sid, coolEnd]
    else
      let songIds ← fetchList [m.id, sid, ← minus (← timestamp) coolTime]
      for songId in ← itemsOf songIds do
        let _ ← dbUpdate [coolEnd, songId, sid]
  | .album =>
    let coolEnd ← asInt (← plus coolTime (← timestamp))
    if ← joinsOnUpdate then
      let _ ← dbUpdate [coolEnd, m.id, sid, coolEnd]
      let requestOnlyEnd ← plus coolEnd (← Config.stationGet sid "cooldown_request_only_period")
      let _ ← dbUpdate [requestOnlyEnd, m.id, sid, coolEnd]
    else
      let songs ← fetchList [m.id, sid, coolEnd]
      for songId in ← itemsOf songs do
        let _ ← dbUpdate [coolEnd, songId, coolEnd, sid]

/-- The number of songs of an album on a station. -/
def albumSongCount (v sid : Value) : Act Value := do
  fetchVar [(← metadataOf v).id, sid]

/-- The cooldown time of an album on a station, from its rating, its size and its age:
`min + (5 - rating) / 4 * (max - min)` seconds, times a size factor that falls from the
largest multiplier towards the smallest as the album grows past a size, the age multiplier and the
album's own multiplier. -/
def albumCoolTime (v sid : Value) : Act Value := do
  let m ← metadataOf v
  let precise ← match m.ratingPrecise with
    | some r => pure r
    | none => noMember v "rating_precise"
  let coolRating := if !precise.truthy || Value.equals precise (.int 0) then .int 3 else precise
  let figures ← itemOf (← Cooldown.table) sid
  let minCool ← col figures "min_album_cool"
  let share ← divide (← minus (.int 5) coolRating) (.float 4.0)
  let autoCool ← plus minCool (← times share (← minus (← col figures "max_album_cool") (← col figures "min_album_cool")))
  let count ← albumSongCount v sid
  let low ← Config.stationGet sid "cooldown_size_min_multiplier"
  let range ← minus (← Config.stationGet sid "cooldown_size_max_multiplier")
    (← Config.stationGet sid "cooldown_size_min_multiplier")
  let slope ← Config.stationGet sid "cooldown_size_slope"
  let exponent ← times slope (← minus count (← Config.stationGet sid "cooldown_size_slope_start"))
  let power := Double.pow 2.7183 (← Cooldown.real exponent)
  let sizeMultiplier ← plus low (← divide range (.float (1.0 + power / 2.0)))
  let ageMultiplier ← Cooldown.ageMultiplier (← dataOf m "added_on")
  let product ← times (← times (← times autoCool sizeMultiplier) ageMultiplier) (← dataOf m "cool_multiply")
  asInt product

/-- Starts an object's cooldown on a station. An artist never cools down; a group uses
its own cooldown time when it has one and it is positive, otherwise the time given; an
album uses the time given, else its override, else the time computed from its figures,
and is marked updated. Nothing cools down on station zero. -/
def startCooldown (v sid coolTime : Value) : Act Unit := do
  let m ← metadataOf v
  match m.role with
  | .album =>
    if Value.equals sid (.int 0) then return
    let mut time := coolTime
    if coolTime.truthy then pure ()
    else
      let override ← dataOf m "cool_override"
      if override.truthy then time := override
      else time ← albumCoolTime v sid
    markUpdated sid m.id
    cooldownRows v sid time
  | _ =>
    if !Value.equals m.coolTime .none then
      if ← isGreater m.coolTime (.int 0) then cooldownRows v sid m.coolTime
    else if coolTime.truthy then
      if ← isGreater coolTime (.int 0) then cooldownRows v sid coolTime

/-- The statement that sets the display flag of every station row of a group. -/
def groupDisplayText (shown : Bool) : String :=
  "UPDATE r4_group_sid SET group_display = " ++ (if shown then "TRUE" else "FALSE") ++ " WHERE group_id = %s"

/-- The statement that adds a shown station row for a group. -/
def groupInsertText : String :=
  "INSERT INTO r4_group_sid (group_id, sid, group_display) VALUES (%s, %s, TRUE)"

/-- Brings a group's station rows in line with the stations where songs of more than one album
belong to it: each station that has a row sets the display flag of every row of the group to
whether it is such a station, and each such station without a row gets a shown one. -/
def reconcileGroup (v : Value) : Act Unit := do
  let m ← metadataOf v
  let rows ← fetchAll [m.id]
  let newSids ← (← itemsOf rows).mapM fun row => col row "sid"
  for sid in ← Config.stationIdList do
    let existing ← fetchRow [m.id, sid]
    let shown := newSids.any (Value.equals · sid)
    if existing.truthy then
      let _ ← queryStatement .update (groupDisplayText shown) [m.id]
    else if shown then
      let _ ← queryStatement .update groupInsertText [m.id, sid]

/-- Recomputes every listener's rating of an album on every station. -/
def updateAllUserRatings (v : Value) : Act Unit := do
  if !(← joinsOnUpdate) then return
  let m ← metadataOf v
  for sid in ← Config.stationIdList do
    let count ← albumSongCount v sid
    let _ ← dbUpdate [m.id, sid, m.id, sid, m.id, sid, count]

/-- Brings an album's stations in line with the stations its songs are on: it leaves
stations it no longer has songs on, returns to or joins the others (a new station marks
it updated), recounts its songs, recomputes its listeners' ratings and its year. -/
def reconcileAlbum (v : Value) : Act Value := do
  let m ← metadataOf v
  let newSids ← fetchList [m.id]
  let currentSids ← fetchList [m.id]
  let oldSids ← fetchList [m.id]
  for sid in ← itemsOf currentSids do
    unless ← isIn sid newSids do
      let _ ← dbUpdate [m.id, sid]
  for sid in ← itemsOf newSids do
    if ← isIn sid currentSids then pure ()
    else if ← isIn sid oldSids then
      let _ ← dbUpdate [m.id, sid]
    else
      let _ ← dbUpdate [m.id, sid]
      if !Value.equals sid (.int 0) then markUpdated sid m.id
    let count ← albumSongCount v sid
    let _ ← dbUpdate [count, m.id, sid]
  updateAllUserRatings v
  let text := "UPDATE r4_albums SET album_year = (SELECT MAX(song_year) FROM r4_songs WHERE album_id = " ++
    m.id.display ++ " AND song_verified = TRUE) WHERE album_id = " ++ m.id.display
  let _ ← queryText .update text
  return newSids

/-- Associates an album with a song: the song moves to it (its old album is reconciled),
the album is reconciled, and its newest song time follows the song's. -/
def associateAlbum (v songId : Value) : Act Unit := do
  let m ← metadataOf v
  let row ← fetchRow [songId]
  let existing ← col row "album_id"
  if !existing.truthy || !Value.equals existing m.id then
    let _ ← dbUpdate [m.id, songId]
  if existing.truthy && !Value.equals existing m.id then
    let old ← loadFromId .album existing
    let _ ← reconcileAlbum old
  let _ ← reconcileAlbum v
  for songSid in ← itemsOf (← fetchList [songId]) do
    let added ← col row "song_added_on"
    let _ ← dbUpdate [added, added, m.id, songSid]

/-- The order an artist takes among a song's artists: the order given, else the order it already
has, else one past the song's last order, which counts as none when it is zero. -/
def artistOrder (m : Metadata) (songId order : Value) : Act Value := do
  let known := fieldOr (.dict m.data) "order" .none
  if !order.truthy && (!hasField (.dict m.data) "order" || !known.truthy) then
    let last ← fetchVar [songId]
    plusIn (if last.truthy then last else .int (-1)) (.int 1)
  else if !order.truthy then return known
  else return order

/-- Links an artist or group with a song, as a tag or not (keeping the object's own flag when
none is given), an artist at an order; nothing is written when the two are linked already. A
group is then shown on the stations where it belongs. -/
def link (role : MetadataRole) (v songId isTag order : Value) : Act Unit := do
  let mut isTag := isTag
  if Value.equals isTag .none then isTag := (← metadataOf v).isTag
  else changeMetadata v fun m => { m with isTag := isTag }
  let m ← metadataOf v
  if ← isGreater (← fetchVar [songId, m.id]) (.int 0) then pure ()
  else
    let params := if role == .artist then [songId, m.id, isTag, order] else [songId, m.id, isTag]
    if !(← dbUpdate params).truthy then
      Act.raise (metadataFault .metadataUpdate ("Cannot associate song ID " ++ songId.display ++
        " with " ++ m.role.kindName ++ " ID " ++ m.id.display))
  if role == .group then reconcileGroup v

/-- Associates an object with a song, as a tag or not (keeping the object's own flag when none
is given); an artist first takes its order among the song's artists. -/
def associate (v songId isTag order : Value) : Act Unit := do
  let m ← metadataOf v
  match m.role with
  | .album => associateAlbum v songId
  | .artist =>
    let order ← artistOrder m songId order
    setData v "order" order
    link .artist v songId isTag order
  | .group => link .group v songId isTag order

/-- Dissociates an object from a song, deleting it once no verified song has it; albums
are never dissociated this way. -/
def disassociate (v songId : Value) : Act Unit := do
  let m ← metadataOf v
  if m.role == .album then return
  if !(← dbUpdate [songId, m.id]).truthy then
    Act.raise (metadataFault .metadataUpdate ("Cannot disassociate song ID " ++ songId.display ++
      " with " ++ m.role.kindName ++ " ID " ++ m.id.display))
  if Value.equals (← fetchVar [m.id]) (.int 0) then
    let _ ← dbUpdate [m.id]

/-- The short form of an object for clients: id and name, an artist's order, an album's
rating, art and the listener's rating. -/
def toDict (v user : Value) : Act Value := do
  let m ← metadataOf v
  match m.role with
  | .album =>
    let mut d : Dict := Dict.ofStrings [("id", m.id)]
    for key in ["rating", "art", "name"] do
      d := Dict.putField d key (← dataOf m key)
    if user.truthy then
      let (_, u) ← userAt user
      match ← Rating.albumRating (← stationOf v) m.id u.id with
      | .dict r => d := Dict.merge d r
      | _ => pure ()
    else
      d := Dict.putField (Dict.putField d "rating_user" .none) "fave" .none
    return .dict d
  | role =>
    let d := Dict.ofStrings [("id", m.id), ("name", ← dataOf m "name")]
    if role == .artist then return .dict (Dict.putField d "order" (← dataOf m "order"))
    return .dict d

/-- The full form of an object for clients: its data with its id (and for an album the
listener's rating), kept in the object's data. -/
def toDictFull (v user : Value) : Act Value := do
  let m ← metadataOf v
  setData v "id" m.id
  if m.role == .album then
    if user.truthy then
      let (_, u) ← userAt user
      match ← Rating.albumRating (← stationOf v) m.id u.id with
      | .dict r => changeMetadata v fun m => { m with data := Dict.merge m.data r }
      | _ => pure ()
    else
      setData v "rating_user" .none
      setData v "fave" .none
  return .dict (← metadataOf v).data

end Airwaves.Catalog
