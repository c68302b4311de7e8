import Airwaves.Catalog.Metadata
/-!
# Albums on a station

An album's figures are kept per station: its rating from its songs' ratings, how often
it was requested, faved and voted for, when it last played, and when its earliest song
comes off cooldown. The albums whose figures changed since clients were last told are
listed per station, and are sent as a batch.
-/
namespace Airwaves.Albums

open Catalog

/-- Loads an album with its figures on a station. -/
def loadFromIdSid (albumId sid : Value) : Act Value := do
  let row ← fetchRow [albumId, sid]
  if !row.truthy then
    Act.raise (metadataFault .metadataNotFound ("Album ID " ++ albumId.display ++ " for sid " ++
      sid.display ++ " could not be found."))
  let v ← fresh .album
  assign v row sid
  changeMetadata v fun m => { m with sid := some sid }
  return v

/-- Loads an album on a station with its songs, each with the listener's rating, ordered
by disc and track or, when asked, newest first. -/
def loadFromIdWithSongs (albumId sid user sort : Value) : Act Value := do
  let row ← fetchRow [albumId, sid]
  if !row.truthy then
    Act.raise (metadataFault .metadataNotFound ("Album ID " ++ albumId.display ++ " for sid " ++
      sid.display ++ " could not be found."))
  let v ← fresh .album
  assign v row sid
  changeMetadata v fun m => { m with sid := some sid }
  let userId ← if user.truthy then do pure (← userAt user).2.id else pure .none
  let requestable := .bool user.truthy
  let songs ← fetchAll [requestable, userId, (← metadataOf v).id, sid]
  setData v "songs" songs
  let _ := sort
  return v

/-- Finds when an album's earliest song comes off cooldown on a station, whether it is
cooling now, and stores both. -/
def solveCoolLowest (v sid : Value) : Act Value := do
  let m ← metadataOf v
  let lowest ← fetchVar [m.id, sid]
  setData v "cool_lowest" lowest
  let cool ← isGreater lowest (← timestamp)
  setData v "cool" (.bool cool)
  let _ ← dbUpdate [lowest, .bool cool, m.id, sid]
  return lowest

/-- Recomputes an album's rating on each of its stations from its songs' ratings, when
enough ratings earned points: one plus four times the share of points earned. -/
def updateRating (v : Value) : Act Unit := do
  let m ← metadataOf v
  for sid in ← itemsOf (← fetchList [m.id]) do
    let ratings ← fetchAll [sid, m.id]
    let result ← Rating.calculate ratings
    let (points, potential) := match result with
      | .tuple [p, q] => (p, q)
      | _ => (.float 0.0, .float 0.0)
    let _ ← itemOf (← get).config.stationIdFriendly sid
    let _ ← dataOf (← metadataOf v) "name"
    if ← andAlso (isGreater points (.int 0))
        (do isGreater potential (← Config.get "rating_threshold_for_calc")) then
      let precise ← plus (← times (← divide points potential) (.int 4)) (.int 1)
      let rounded ← roundTo precise 1
      changeMetadata v fun m => { m with ratingPrecise := some precise }
      setData v "rating" rounded
      setData v "rating_count" potential
      let _ ← dbUpdate [precise, potential, m.id, sid]

/-- Records that an album played now on a station. -/
def updateLastPlayed (v sid : Value) : Act Value := do
  dbUpdate [← timestamp, (← metadataOf v).id, sid]

/-- Every active listener's rating of an album on a station, by listener. -/
def allRatings (v sid : Value) : Act Value := do
  let table ← fetchAll [(← metadataOf v).id, sid]
  let mut all : Dict := []
  for row in ← itemsOf table do
    let entry := Dict.ofStrings [("rating_user", ← col row "album_rating_user"),
      ("fave", ← col row "album_fave"), ("rating_complete", ← col row "album_rating_complete")]
    all := Dict.put all (← col row "user_id") (.dict entry)
  return .dict all

/-- Recomputes whether each listener has rated all of an album's songs. -/
def resetUserCompletedFlags (v : Value) : Act Unit := do
  if !(← joinsOnUpdate) then return
  let _ ← dbUpdate [(← metadataOf v).id]

/-- The number of albums on a station. -/
def stationAlbumCount (sid : Value) : Act Value := do
  itemOf (← get).globals.albumCounts sid

/-- A rank as a percentile between five and ninety-nine. -/
def percentile (total rank : Value) : Act Value := do
  let share ← divide (← asFloat (← minus total rank)) (← asFloat total)
  let scaled ← times share (.int 100)
  larger (.int 5) (← smaller (.int 99) (← asInt scaled))

/-- Loads an album's ranks, genres and rating histogram on a station. -/
def loadExtraDetail (v sid : Value) : Act Unit := do
  let m ← metadataOf v
  let precise ← match m.ratingPrecise with
    | some r => pure r
    | none => noMember v "rating_precise"
  let ratingRank ← plus (.int 1) (← fetchVar [precise, sid])
  setData v "rating_rank" ratingRank
  let requestCount ← dataOf (← metadataOf v) "request_count"
  let requestRank ← plus (.int 1) (← fetchVar [requestCount, sid])
  setData v "request_rank" requestRank
  let total ← stationAlbumCount sid
  setData v "rating_rank_percentile" (← times (← divide (← asFloat (← minus total ratingRank)) (← asFloat total)) (.int 100))
  setData v "rating_rank_percentile" (← percentile total ratingRank)
  let total ← stationAlbumCount sid
  setData v "request_rank_percentile" (← times (← divide (← asFloat (← minus total ratingRank)) (← asFloat total)) (.int 100))
  setData v "request_rank_percentile" (← percentile total ratingRank)
  setData v "genres" (← fetchAll [sid, sid, m.id])
  setData v "rating_histogram" (.dict [])
  let histo ← fetchAll [sid, m.id]
  for point in ← itemsOf histo do
    let key := (← col point "song_rating_user").display
    let count ← col point "rating_count"
    let current := fieldOr (.dict (← metadataOf v).data) "rating_histogram" (.dict [])
    setData v "rating_histogram" (withField current key count)

/-- Recounts an album's requests on a station. -/
def updateRequestCount (v sid : Value) : Act Value := do
  let id := (← metadataOf v).id
  let count ← fetchVar [id, sid]
  dbUpdate [count, id, sid]

/-- Recounts an album's favourites on a station. -/
def updateFaveCount (v sid : Value) : Act Value := do
  let id := (← metadataOf v).id
  let count ← fetchVar [id, sid]
  dbUpdate [count, id, sid]

/-- Recounts an album's votes on a station. -/
def updateVoteCount (v sid : Value) : Act Value := do
  let id := (← metadataOf v).id
  let count ← fetchVar [id, sid]
  dbUpdate [count, id, sid]

/-- Empties a station's list of updated albums. -/
def clearUpdated (sid : Value) : Act Unit := do
  let all := withEntry (← get).globals.updatedAlbumIds sid (.dict [])
  modify fun w => { w with globals := { w.globals with updatedAlbumIds := all } }

/-- The albums of a station changed since clients were last told, in full form without
listener fields. Albums added since the newest one seen are included; the newest moment
seen moves to now. -/
def updatedDiff (sid : Value) : Act Value := do
  unless ← isIn sid (← get).globals.updatedAlbumIds do return .list []
  let previous ← Cache.readStation sid "newest_album"
  if !previous.truthy then
    Cache.putStation sid "newest_album" (← timestamp)
  else
    let newest ← fetchList [sid, previous]
    for albumId in ← itemsOf newest do
      markUpdated sid albumId
    Cache.putStation sid "newest_album" (← timestamp)
  let mut diff : List Value := []
  for albumId in ← itemsOf (← itemOf (← get).globals.updatedAlbumIds sid) do
    let album ← loadFromIdSid albumId sid
    let _ ← solveCoolLowest album sid
    let full ← toDictFull album .none
    let trimmed := match full with
      | .dict d => .dict (Dict.without (Dict.without d (.str "rating_user")) (.str "fave"))
      | x => x
    diff := diff ++ [trimmed]
  return .list diff

/-- Marks the albums of a station whose cooldown has ended as updated and no longer
cooling. -/
def warmCooled (sid : Value) : Act Unit := do
  if Value.equals sid (.int 0) then return
  let albums ← fetchList [sid, ← timestamp]
  for albumId in ← itemsOf albums do
    markUpdated sid albumId
  let _ ← dbUpdate [sid, ← timestamp]

end Airwaves.Albums
