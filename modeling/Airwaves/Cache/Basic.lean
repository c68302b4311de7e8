import Airwaves.Config.Basic
/-!
# The cache

An in-memory cache keyed by text, with a local table a read consults first; ratings live in a
cache of their own.
-/
namespace Airwaves.Cache

/-- The cache in the world. -/
def state : Act Cache := do return (← get).cache

/-- Changes the cache. -/
def change (f : Cache → Cache) : Act Unit := modify fun w => { w with cache := f w.cache }

/-- Fails unless a cache client is connected. -/
def requireClient (op : String) : Act Unit := do
  unless (← state).connected do Act.raise (.noAttribute "NoneType" op)

/-- Stores an entry; the local copy is updated when one exists or `keepLocal` is set. -/
def put (key : String) (v : Value) (keepLocal : Bool := false) : Act Unit := do
  let c ← state
  if keepLocal || Dict.hasKey c.localEntries (.str key) then
    change fun c => { c with localEntries := Dict.putField c.localEntries key v }
  requireClient "set"
  change fun c => { c with entries := Dict.putField c.entries key v }

/-- Reads an entry, the local copy first. -/
def read (key : String) : Act Value := do
  let c ← state
  match Dict.field? c.localEntries key with
  | some v => return v
  | none =>
    requireClient "get"
    return (Dict.field? c.entries key).getD .none

/-- The key of a user entry: the user may be given by id or as a user object. -/
def userKey (user : Value) (key : String) : Act String := do
  match user with
  | .int n => return "u" ++ toString n ++ "_" ++ key
  | .ref _ =>
    let (_, u) ← userAt user
    return "u" ++ u.id.display ++ "_" ++ key
  | v => return "u" ++ v.display ++ "_" ++ key

/-- Stores a user entry. -/
def putUser (user : Value) (key : String) (v : Value) : Act Unit := do
  put (← userKey user key) v

/-- Reads a user entry. -/
def readUser (user : Value) (key : String) : Act Value := do
  read (← userKey user key)

/-- The key of a station entry. -/
def stationKey (sid : Value) (key : String) : String := "sid" ++ sid.display ++ "_" ++ key

/-- Stores a station entry. -/
def putStation (sid : Value) (key : String) (v : Value) (keepLocal : Bool := false) : Act Unit :=
  put (stationKey sid key) v keepLocal

/-- Reads a station entry. -/
def readStation (sid : Value) (key : String) : Act Value := read (stationKey sid key)

/-- Stores a user's rating of a song. -/
def putSongRating (songId userId rating : Value) : Act Unit := do
  requireClient "set"
  let key := "rating_song_" ++ songId.display ++ "_" ++ userId.display
  change fun c => { c with ratings := Dict.putField c.ratings key rating }

/-- A user's cached rating of a song. -/
def readSongRating (songId userId : Value) : Act Value := do
  requireClient "get"
  return (Dict.field? (← state).ratings ("rating_song_" ++ songId.display ++ "_" ++ userId.display)).getD .none

/-- Stores a user's rating of an album on a station. -/
def putAlbumRating (sid albumId userId rating : Value) : Act Unit := do
  requireClient "set"
  let key := "rating_album_" ++ sid.display ++ "_" ++ albumId.display ++ "_" ++ userId.display
  change fun c => { c with ratings := Dict.putField c.ratings key rating }

/-- A user's cached rating of an album on a station. -/
def readAlbumRating (sid albumId userId : Value) : Act Value := do
  requireClient "get"
  return (Dict.field? (← state).ratings
    ("rating_album_" ++ sid.display ++ "_" ++ albumId.display ++ "_" ++ userId.display)).getD .none

/-- The station entries that are kept locally and emptied when the caches are reset. -/
def localStationKeys : List String :=
  ["album_diff", "sched_next", "sched_history", "sched_current", "current_listeners",
   "request_line", "request_user_positions", "user_rating_acl", "user_rating_acl_song_index"]

/-- Empties the locally kept entries of every station. -/
def resetStations : Act Unit := do
  put "request_expire_times" .none true
  for sid in ← Config.stationIdList do
    for key in localStationKeys do
      putStation sid key .none true

/-- Connects a cache client unless one is connected; a fresh in-memory cache starts with
its station entries reset. -/
def connect : Act Unit := do
  if (← state).connected then return
  let fake ← do
    if (← Config.get "memcache_fake").truthy then pure true
    else pure (← Config.get "web_developer_mode").truthy
  if fake then
    change fun c => { c with connected := true, entries := [], ratings := [] }
    resetStations

/-- Replaces an entry wherever it is held: a change made to a held object shows in every
place that holds it. -/
def rewrite (key : String) (v : Value) : Act Unit :=
  change fun c => { c with
    localEntries := if Dict.hasKey c.localEntries (.str key) then Dict.putField c.localEntries key v
      else c.localEntries
    entries := if Dict.hasKey c.entries (.str key) then Dict.putField c.entries key v else c.entries }

/-- Copies an entry from the cache into the local table. -/
def refreshLocal (key : String) : Act Unit := do
  requireClient "get"
  let v := (Dict.field? (← state).entries key).getD .none
  change fun c => { c with localEntries := Dict.putField c.localEntries key v }

/-- Copies a station's entries into the local table and gathers every station's summary. -/
def refreshStation (sid : Value) : Act Unit := do
  for key in ["album_diff", "sched_next", "sched_history", "sched_current", "sched_next_dict",
      "sched_history_dict", "sched_current_dict", "current_listeners", "request_line",
      "request_user_positions", "user_rating_acl", "user_rating_acl_song_index"] do
    refreshLocal (stationKey sid key)
  refreshLocal "request_expire_times"
  let mut all : Dict := []
  for s in ← Config.stationIdList do
    all := Dict.put all s (← readStation s "all_station_info")
  put "all_stations_info" (.dict all)

/-- Records that a song was just played on a station: the song joins the last few played
songs (at most six are kept, the oldest leaving first) and every listener then on the
station may rate it. -/
def updateRatingAcl (sid songId : Value) : Act Unit := do
  let users := match ← readStation sid "user_rating_acl" with
    | .dict d => d
    | _ => []
  let songs := match ← readStation sid "user_rating_acl_song_index" with
    | .list xs => xs
    | _ => []
  let leaving := songs.take (songs.length - 5)
  let users := leaving.foldl (fun acc s => Dict.without acc s) users
  let songs := songs.drop (songs.length - 5) ++ [songId]
  let listeners ← fetchList [sid]
  let allowed : Dict := ((listeners.items?).getD []).foldl (fun acc u => Dict.put acc u (.bool true)) []
  let users := Dict.put users songId (.dict allowed)
  putStation sid "user_rating_acl" (.dict users) true
  putStation sid "user_rating_acl_song_index" (.list songs) true

end Airwaves.Cache
