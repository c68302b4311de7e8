import Airwaves.Catalog.Song
/-!
# Songs in play

Cooldowns, election blocks, ratings and counts of a song as it is played, voted for and rated.
-/
namespace Airwaves.Songs

open Catalog

/-- Starts a song's cooldown on its station when it is on that station (never on
station zero): its groups' and then its album's cooldowns first, then its own, from its
override, or else from its rating (the station's base rating when it has none) between
the station's shortest and longest song cooldown, scaled by the song's age and its own
multiplier. The song becomes request-only for a period after its cooldown ends. -/
def startCooldown (v sid : Value) : Act Unit := do
  let s ← songOf v
  let own ← stationOf v
  if !Value.equals own sid then return
  if !(← isIn own (← dataOf s "sids")) || Value.equals sid (.int 0) then return
  for m in ← itemsOf s.groups do Catalog.startCooldown m sid (.bool false)
  for m in ← itemsOf s.albums do Catalog.startCooldown m sid (.bool false)
  let figures ← itemOf (← Cooldown.table) sid
  let s ← songOf v
  let mut coolTime ← col figures "max_song_cool"
  let override ← dataOf s "cool_override"
  if override.truthy then coolTime := override
  else
    let rating ← dataOf s "rating"
    let coolRating ← if !rating.truthy || Value.equals rating (.int 0) then col figures "base_rating"
      else pure rating
    let minCool ← col figures "min_song_cool"
    let share ← divide (← minus (.int 4) (← minus coolRating (.int 1))) (.float 4.0)
    let autoCool ← plus minCool (← times share (← minus (← col figures "max_song_cool") (← col figures "min_song_cool")))
    let age ← Cooldown.ageMultiplier (← dataOf s "added_on")
    coolTime ← times (← times autoCool age) (← dataOf s "cool_multiply")
  let coolEnd ← asInt (← plus coolTime (← timestamp))
  let _ ← dbUpdate [coolEnd, s.id, sid, coolEnd]
  setData v "cool" (.bool true)
  setData v "cool_end" coolEnd
  let requestOnlyEnd ← plus coolEnd (← Config.stationGet sid "cooldown_request_only_period")
  setData v "request_only_end" requestOnlyEnd
  setData v "request_only" (.bool true)
  let _ ← dbUpdate [requestOnlyEnd, s.id, sid]

/-- Blocks a song from elections on a station for a number of elections, giving the
reason. -/
def setElectionBlock (v sid blockedBy length : Value) : Act Unit := do
  let _ ← dbUpdate [blockedBy, length, (← songOf v).id, sid, length]
  setData v "elec_blocked_num" length
  setData v "elec_blocked_by" blockedBy
  setData v "elec_blocked" (.bool true)

/-- Blocks a song, its groups and its album from elections on a station for a number of
elections, because it is in one (never on station zero). -/
def startElectionBlock (v sid count : Value) : Act Unit := do
  if Value.equals sid (.int 0) then return
  let s ← songOf v
  for m in ← itemsOf s.groups do Catalog.startElectionBlock m sid count
  for m in ← itemsOf s.albums do Catalog.startElectionBlock m sid count
  setElectionBlock v sid (.str "in_election") count

/-- Recomputes a song's rating from its active listeners' ratings when enough of them
earned points, and then (unless asked not to) its album's ratings. -/
def updateRating (v skipAlbums : Value) : Act Unit := do
  let s ← songOf v
  let ratings ← fetchAll [s.id]
  let (points, potential) ← match ← Rating.calculate ratings with
    | .tuple [p, q] => pure (p, q)
    | other => Act.raise (.typeError ("cannot unpack non-iterable " ++ other.kindName ++ " object"))
  if ← andAlso (isGreater points (.int 0))
      (do isGreater potential (← Config.get "rating_threshold_for_calc")) then
    let rating ← plus (← times (← divide points potential) (.int 4)) (.int 1)
    setData v "rating" rating
    setData v "rating_count" potential
    let _ ← dbUpdate [rating, potential, s.id]
  if !skipAlbums.truthy then
    for album in ← itemsOf (← songOf v).albums do Albums.updateRating album

/-- Whether one of the objects of a list has a name. -/
def hasNamed (items : List Value) (name : Value) : Act Bool := do
  for m in items do
    if Value.equals (← Catalog.dataOf (← metadataOf m) "name") name then return true
  return false

/-- Adds an artist or group by name to one of the song's lists, unless one of that name
is there: it is loaded or created, and associated with the song. -/
def addNamed (v : Value) (role : MetadataRole) (name : Value) : Act Value := do
  let s ← songOf v
  let list := if role == .artist then s.artists else s.groups
  let items ← itemsOf list
  if ← hasNamed items name then return .bool true
  let m ← loadFromName role name
  associate m s.id .none .none
  let grown := match list with
    | .list xs => .list (xs ++ [m])
    | other => other
  changeSong v fun s => if role == .artist then { s with artists := grown } else { s with groups := grown }
  return .bool true

/-- Adds an artist by name and rewrites the song's artist list. -/
def addArtist (v name : Value) : Act Value := do
  let r ← addNamed v .artist name
  updateArtistParseable v
  return r

/-- Adds a group by name. -/
def addGroup (v name : Value) : Act Value := addNamed v .group name

/-- Gives a song an album by name on its stations (or those given); a song has at most
one album. -/
def addAlbum (v name sids : Value) : Act Value := do
  let s ← songOf v
  if !sids.truthy && !hasField (.dict s.data) "sids" then
    Act.raise (.typeError "add_album() requires a station ID list if song was not loaded/saved into database")
  if (← lengthOf s.albums) ≥ 1 then
    Act.raise (.general "Cannot add more than 1 album association to a song.")
  if ← hasNamed (← itemsOf s.albums) name then return .bool true
  let m ← loadFromName .album name
  associate m s.id .none .none
  let grown := match s.albums with
    | .list xs => .list (xs ++ [m])
    | other => other
  changeSong v fun s => { s with albums := grown }
  return .bool true

/-- Dissociates the first object of a list that matches and was not given by the tag;
with none, the song's metadata cannot be removed. -/
def removeMatching (v list : Value) (matches_ : Metadata → Act Bool) (what : String) : Act Value := do
  let s ← songOf v
  for m in ← itemsOf list do
    let md ← metadataOf m
    if (← matches_ md) && !md.isTag.truthy then
      disassociate m s.id
      return .bool true
  Act.raise (.of .songMetadataUnremovable ("Found no tag by " ++ what ++ " that wasn't assigned by ID3."))

/-- Which list of a song a role's objects are in. -/
def listOf (s : Song) : MetadataRole → Value
  | .artist => s.artists
  | .album => s.albums
  | .group => s.groups

/-- Removes an object of a role by id. -/
def removeById (v : Value) (role : MetadataRole) (id : Value) : Act Value := do
  let r ← removeMatching v (listOf (← songOf v) role) (fun m => pure (Value.equals m.id id))
    ("ID " ++ id.display)
  if role == .artist then updateArtistParseable v
  return r

/-- Removes an object of a role by name. -/
def removeByName (v : Value) (role : MetadataRole) (name : Value) : Act Value := do
  let r ← removeMatching v (listOf (← songOf v) role)
    (fun m => do return Value.equals (← Catalog.dataOf m "name") name) ("name " ++ name.display)
  if role == .artist then updateArtistParseable v
  return r

/-- Dissociates the song's artists and groups that were not given by its tag. -/
def removeNontagMetadata (v : Value) : Act Unit := do
  let s ← songOf v
  let artists ← itemsOf s.artists
  let groups ← match s.groups with
    | .list xs => pure xs
    | other => Act.raise (.typeError ("can only concatenate list (not \"" ++ other.kindName ++ "\") to list"))
  for m in artists ++ groups do
    unless (← metadataOf m).isTag.truthy do disassociate m s.id

/-- A rank as a percentile of the songs, between five and ninety-nine. -/
def rankPercentile (total rank : Value) : Act Value := do
  let share ← divide (← asFloat (← minus total rank)) (← asFloat total)
  let scaled ← times share (.int 100)
  larger (.int 5) (← smaller (.int 99) (← asInt scaled))

/-- Loads a song's ranks by rating and by requests among all songs, and its rating
histogram. -/
def loadExtraDetail (v _sid : Value) : Act Unit := do
  let s ← songOf v
  let ratingRank ← plus (.int 1) (← fetchVar [← dataOf s "rating"])
  setData v "rating_rank" ratingRank
  let s ← songOf v
  let requestRank ← plus (.int 1) (← fetchVar [← dataOf s "request_count"])
  setData v "request_rank" requestRank
  let counts := (← get).globals.songCounts
  let total ← itemOf counts (.str "_total")
  setData v "rating_rank_percentile" (← times (← divide (← asFloat (← minus total ratingRank)) (← asFloat total)) (.int 100))
  setData v "rating_rank_percentile" (← rankPercentile total ratingRank)
  let total ← itemOf counts (.str "_total")
  setData v "request_rank_percentile" (← times (← divide (← asFloat (← minus total requestRank)) (← asFloat total)) (.int 100))
  setData v "request_rank_percentile" (← rankPercentile total requestRank)
  setData v "rating_histogram" (.dict [])
  let histo ← fetchAll [s.id]
  for point in ← itemsOf histo do
    let key := (← col point "rating_user_rnd").display
    let count ← col point "rating_user_count"
    let current := fieldOr (.dict (← songOf v).data) "rating_histogram" (.dict [])
    setData v "rating_histogram" (withField current key count)

/-- The data fields a song's short form carries when the song has them. -/
def optionalFields : List String :=
  ["entry_id", "elec_request_user_id", "entry_position", "entry_type", "entry_votes",
   "elec_request_username", "sid", "one_up_used", "one_up_queued", "one_up_id", "rating_rank",
   "request_rank", "request_count", "rating_histogram", "rating_count",
   "rating_rank_percentile", "request_rank_percentile"]

/-- The short form of a song for clients, with the listener's rating when there is a
listener. -/
def toDict (v user : Value) : Act Value := do
  let s ← songOf v
  let mut d : Dict := Dict.ofStrings [("title", ← dataOf s "title"), ("id", s.id),
    ("rating", ← roundTo (← dataOf s "rating") 1), ("origin_sid", ← dataOf s "origin_sid"),
    ("link_text", ← dataOf s "link_text"), ("artist_parseable", ← dataOf s "artist_parseable"),
    ("cool", ← dataOf s "cool"), ("url", ← dataOf s "url"), ("elec_blocked", ← dataOf s "elec_blocked"),
    ("elec_blocked_by", ← dataOf s "elec_blocked_by"), ("length", ← dataOf s "length")]
  for key in ["track_number", "disc_number", "year"] do
    if let some x := Dict.field? s.data key then d := Dict.putField d key x
  let mut albums : List Value := []
  let mut artists : List Value := []
  let mut groups : List Value := []
  if s.albums.truthy then
    for m in ← itemsOf s.albums do albums := albums ++ [← Catalog.toDict m user]
  if s.artists.truthy then
    for m in ← itemsOf s.artists do artists := artists ++ [← Catalog.toDict m user]
  if s.groups.truthy then
    for m in ← itemsOf s.groups do groups := groups ++ [← Catalog.toDict m user]
  d := Dict.putField (Dict.putField (Dict.putField d "artists" (.list artists)) "albums" (.list albums))
    "groups" (.list groups)
  d := Dict.putField (Dict.putField d "rating_user" .none) "fave" .none
  d := Dict.putField d "rating_allowed" (← dataOf s "rating_allowed")
  if user.truthy then
    let (_, u) ← userAt user
    match ← Rating.songRating s.id u.id with
    | .dict r => d := Dict.merge d r
    | _ => pure ()
    if (← itemOf (.dict u.data) (.str "rate_anything")).truthy then
      d := Dict.putField d "rating_allowed" (.bool true)
  for key in optionalFields do
    if let some x := Dict.field? s.data key then d := Dict.putField d key x
  return .dict d

/-- Every active listener's rating of a song, by listener. -/
def allRatings (v : Value) : Act Value := do
  let table ← fetchAll [(← songOf v).id]
  let mut all : Dict := []
  for row in ← itemsOf table do
    let entry := Dict.ofStrings [("rating_user", ← col row "song_rating_user"), ("fave", ← col row "song_fave")]
    all := Dict.put all (← col row "user_id") (.dict entry)
  return .dict all

/-- Records that a song (and its album) played now on a station. -/
def updateLastPlayed (v sid : Value) : Act Value := do
  for album in ← itemsOf (← songOf v).albums do
    let _ ← Albums.updateLastPlayed album sid
  dbUpdate [← timestamp, (← songOf v).id, sid]

/-- Adds votes to a song's vote count. -/
def addToVoteCount (v votes _sid : Value) : Act Value := do
  dbUpdate [votes, (← songOf v).id]

/-- Decides whether a listener may rate a song: always when already allowed or when the
listener may rate anything, otherwise when the station's rating list has the listener
for the song; the anonymous listener is never decided for. -/
def checkRatingAcl (v user : Value) : Act Unit := do
  let (_, u) ← userAt user
  if Value.equals u.id (.int 1) then return
  let s ← songOf v
  if (← dataOf s "rating_allowed").truthy then return
  if (← itemOf (.dict u.data) (.str "rate_anything")).truthy then
    setData v "rating_allowed" (.bool true)
    return
  let acl ← Cache.readStation (← stationOf v) "user_rating_acl"
  let allowed ← do
    if !acl.truthy then pure false
    else if !(← isIn s.id acl) then pure false
    else isIn u.id (← itemOf acl s.id)
  setData v "rating_allowed" (.bool allowed)

/-- Recounts one of a song's counts and, unless asked not to, its album's. -/
def recount (v sid updateAlbums : Value) (albumRecount : Value → Value → Act Value) : Act Unit := do
  let s ← songOf v
  let count ← fetchVar [s.id]
  let _ ← dbUpdate [count, s.id]
  if updateAlbums.truthy then
    for album in ← itemsOf s.albums do
      let _ ← albumRecount album sid

/-- Recounts a song's requests. -/
def updateRequestCount (v sid updateAlbums : Value) : Act Unit :=
  recount v sid updateAlbums Albums.updateRequestCount

/-- Recounts a song's favourites. -/
def updateFaveCount (v sid updateAlbums : Value) : Act Unit :=
  recount v sid updateAlbums Albums.updateFaveCount

/-- Recounts a song's votes. -/
def updateVoteCount (v sid updateAlbums : Value) : Act Unit :=
  recount v sid updateAlbums Albums.updateVoteCount

/-- A song's length in seconds. -/
def length (v : Value) : Act Value := do dataOf (← songOf v) "length"

end Airwaves.Songs
