import Airwaves.Ops
import Airwaves.Cache.Basic
/-!
# Ratings

A song's or album's rating from how many listeners gave each rating, by the configured
`rating_map`; a listener's album rating is the average of their song ratings.
-/
namespace Airwaves.Rating

/-- Points earned and points possible for rows of `rating` and `count`: each row earns its
count times the share of the highest threshold its rating reaches; the points earned are
kept between zero and the points possible. -/
def calculate (ratings : Value) : Act Value := do
  let pointMap ← Config.get "rating_map"
  let mut points : Value := .float 0.0
  let mut potential : Value := .float 0.0
  for row in ← itemsOf ratings do
    let mut tierPoints : Value := .int 0
    let count ← col row "count"
    potential ← plusIn potential count
    for tier in ← itemsOf pointMap do
      if ← isAtLeast (← col row "rating") (← col tier "threshold") then
        tierPoints ← times (← col row "count") (← col tier "points")
    points ← plusIn points tierPoints
  points ← smaller potential (← larger (.int 0) points)
  return .tuple [points, potential]

/-- A listener's rating and favourite of a song, from the cache or else the database. -/
def songRating (songId userId : Value) : Act Value := do
  let mut rating ← Cache.readSongRating songId userId
  if !rating.truthy then
    rating ← fetchRow [userId, songId]
    if !rating.truthy then
      rating := .dict (Dict.ofStrings [("rating_user", .int 0), ("fave", .none)])
  Cache.putSongRating songId userId rating
  return rating

/-- A listener's rating, favourite and completeness of an album on a station, from the
cache or else the database. -/
def albumRating (sid albumId userId : Value) : Act Value := do
  let mut rating ← Cache.readAlbumRating sid albumId userId
  if !rating.truthy then
    rating ← fetchRow [userId, albumId, sid]
    if !rating.truthy then
      rating := .dict (Dict.ofStrings [("rating_user", .int 0), ("fave", .none),
        ("rating_complete", .bool false)])
  Cache.putAlbumRating sid albumId userId rating
  return rating

/-- Recomputes a listener's ratings of the albums a song belongs to, on every station,
and returns those on the given station. -/
def updateAlbumRatings (targetSid songId userId : Value) : Act Value := do
  let mut found : List Value := []
  for row in ← itemsOf (← fetchAll [songId]) do
    let albumId ← col row "album_id"
    let sid ← col row "sid"
    let numSongs ← col row "album_song_count"
    let userData ← fetchRow [albumId, sid, userId]
    let complete ← isAtLeast (← col userData "rating_user_count") numSongs
    let mut albumRating : Value := .none
    if (← col userData "rating_user").truthy then
      albumRating ← asFloat (← col userData "rating_user")
    let mut albumFave : Value := .none
    let existing ← fetchRow [albumId, userId, sid]
    if existing.truthy then
      albumFave ← col existing "album_fave"
      let _ ← dbUpdate [albumRating, albumFave, .bool complete, userId, albumId, sid]
    else
      let _ ← dbUpdate [albumRating, albumFave, .bool complete, userId, albumId, sid]
    Cache.putAlbumRating sid albumId userId (.dict (Dict.ofStrings
      [("rating_user", albumRating), ("fave", albumFave), ("rating_complete", .bool complete)]))
    if Value.equals targetSid sid then
      found := found ++ [.dict (Dict.ofStrings [("sid", sid), ("id", albumId),
        ("rating_user", albumRating), ("rating_complete", .bool complete)])]
  return .list found

/-- Runs an action as a transaction: a failure rolls it back and is raised again. -/
def transaction {α : Type} (body : Act α) : Act α := do
  match ← Act.attempt body with
  | .ok v => return v
  | .error f =>
    rollback
    Act.raise f

/-- Rates a song for a listener (keeping the old rating or favourite when none is
given), counts the rating for the listener and returns the listener's changed album
ratings on the station. -/
def setSongRating (sid songId userId rating fave : Value) : Act Value :=
  transaction do
    let existing ← fetchRow [songId, userId]
    let mut count ← fetchVar [userId]
    if !existing.truthy then
      count ← plusIn count (.int 1)
    let rank ← fetchVar [count]
    let mut rating := rating
    let mut fave := fave
    if existing.truthy then
      if !rating.truthy then rating ← col existing "song_rating_user"
      if !fave.truthy then fave ← col existing "song_fave"
      let _ ← dbUpdate [rating, fave, ← timestamp, rank, count, userId, songId]
      let _ ← dbUpdate [← timestamp, userId]
    else
      if !rating.truthy then rating := .none
      if !fave.truthy then fave := .none
      let _ ← dbUpdate [rating, fave, ← timestamp, rank, count, userId, songId]
    let _ ← dbUpdate [count, ← timestamp, userId]
    let albums ← updateAlbumRatings sid songId userId
    Cache.putSongRating songId userId (.dict (Dict.ofStrings [("rating_user", rating), ("fave", fave)]))
    return albums

/-- Clears a listener's rating of a song and returns the changed album ratings. -/
def clearSongRating (sid songId userId : Value) : Act Value := do
  let _ ← dbUpdate [songId, userId]
  updateAlbumRatings sid songId userId

/-- Whether a favourite change counts up (`some true`), down (`some false`) or not at
all, given the existing row and the new favourite. The existing row is read for its
favourite unless the first test already decided, so a missing row with no favourite
fails as reading from nothing does. -/
def faveChange (exists_ fave : Value) (column : String) : Act (Option Bool) := do
  if !exists_.truthy && fave.truthy then return some true
  if !(← col exists_ column).truthy && fave.truthy then return some true
  if exists_.truthy && (← col exists_ column).truthy && !fave.truthy then return some false
  return none

/-- Marks or unmarks a song as a listener's favourite and keeps the song's favourite
count; false when the row could not be written. -/
def setSongFave (songId userId fave : Value) : Act Value := do
  let exists_ ← fetchRow [songId, userId]
  let mut rating : Value := .none
  if !exists_.truthy then
    if Value.equals (← dbUpdate [songId, userId, fave]) (.int 0) then return .bool false
  else
    rating ← col exists_ "song_rating_user"
    if Value.equals (← dbUpdate [fave, songId, userId]) (.int 0) then return .bool false
  match ← faveChange exists_ fave "song_fave" with
  | some _ => let _ ← dbUpdate [songId]
  | none => pure ()
  Cache.putSongRating songId userId (.dict (Dict.ofStrings [("rating_user", rating), ("fave", fave)]))
  return .bool true

/-- Marks or unmarks an album as a listener's favourite on a station and keeps the
album's favourite count; false when the row could not be written. -/
def setAlbumFave (sid albumId userId fave : Value) : Act Value := do
  let exists_ ← fetchRow [albumId, userId, sid]
  let mut rating : Value := .none
  let mut complete : Value := .bool false
  if !exists_.truthy then
    if Value.equals (← dbUpdate [albumId, userId, fave, sid]) (.int 0) then return .bool false
  else
    rating ← col exists_ "album_rating_user"
    complete ← col exists_ "album_rating_complete"
    if Value.equals (← dbUpdate [fave, albumId, userId, sid]) (.int 0) then return .bool false
  match ← faveChange exists_ fave "album_fave" with
  | some _ => let _ ← dbUpdate [albumId, sid]
  | none => pure ()
  Cache.putAlbumRating sid albumId userId (.dict (Dict.ofStrings
    [("rating_user", rating), ("fave", fave), ("rating_complete", complete)]))
  return .bool true

end Airwaves.Rating
