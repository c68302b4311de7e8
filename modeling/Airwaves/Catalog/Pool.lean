import Airwaves.Catalog.Song
/-!
# A station's song pool

Drawing a song a station can play, relaxing the rules when none is left, and picking songs for
a listener to request.
-/
namespace Airwaves.Pool

open Catalog

/-- Recounts the songs, songs of origin and albums of every station. Only the counts of
songs by origin station are shared with the rest of the service (listener profiles read
them); the song and album totals the recount reads are its own, and the totals the
catalogue ranks by are set apart from it. -/
def updateCounts : Act Unit := do
  let _ ← queryText .var "SELECT COUNT(song_id) FROM r4_songs WHERE song_verified = TRUE"
  for sid in ← Config.stationIdList do
    let _ ← fetchVar [sid]
    let origin ← fetchVar [sid]
    modify fun w => { w with globals :=
      { w.globals with originSongCounts := withEntry w.globals.originSongCounts sid origin } }
    let _ ← fetchVar [sid]

/-- The average song length on a station, as the cooldown figures have it. -/
def averageSongLength (sid : Value) : Act Value := do
  col (← itemOf (← Cooldown.table) sid) "average_song_length"

/-- The whole number a range ends at: a whole number as it is, a double only when it is
whole (it is cut toward zero first, so an infinity or NaN cannot be read). -/
def rangeStop (stop : Value) : Act Int := do
  match stop with
  | .int n => return n
  | .bool b => return if b then 1 else 0
  | .float x =>
    if x != x then Act.raise (.of .valueError "cannot convert float NaN to integer")
    match Value.floatToInt? x with
    | none => Act.raise (.of .overflow "cannot convert float infinity to integer")
    | some n =>
      if x.floor == x then return n
      Act.raise (.of .valueError "non-integer stop for randrange()")
  | other => Act.raise (.typeError ("'" ++ other.kindName ++ "' object cannot be interpreted as an integer"))

/-- Draws a whole number between one and a count (inclusive): the range from one up to
the count plus one must not be empty. -/
def drawUpTo (count : Value) : Act Value := do
  let stop ← rangeStop (← plus count (.int 1))
  let width := stop - 1
  if width ≤ 0 then
    Act.raise (.of .valueError ("empty range for randrange() (1, " ++ toString stop ++ ", " ++
      toString width ++ ")"))
  return .int (← randomBetween 1 (stop - 1))

/-- A song drawn from the station's pool under the strictest rules, then with pending
requests ignored, then with every rule but existence ignored. -/
def randomIgnoringAll (sid : Value) : Act Value := do
  let available ← fetchVar [sid]
  if Value.equals available (.int 0) then
    Act.raise (.general "Could not find any songs to play.")
  let offset ← minus (← drawUpTo available) (.int 1)
  Songs.loadFromId (← fetchVar [sid, offset]) sid

/-- A song drawn with pending requests ignored. -/
def randomIgnoringRequests (sid : Value) : Act Value := do
  let available ← fetchVar [sid]
  if Value.equals available (.int 0) then return ← randomIgnoringAll sid
  let offset ← minus (← drawUpTo available) (.int 1)
  Songs.loadFromId (← fetchVar [sid, offset]) sid

/-- A song drawn under every rule. -/
def randomSong (sid : Value) : Act Value := do
  let available ← fetchVar [sid]
  if Value.equals available (.int 0) then return ← randomIgnoringRequests sid
  let offset ← minus (← drawUpTo available) (.int 1)
  Songs.loadFromId (← fetchVar [sid, offset]) sid

/-- A song drawn under every rule whose length is within half a margin (the station's,
unless given) of a target length; without a target, or with no such song, any song. -/
def randomTimed (sid target margin : Value) : Act Value := do
  if !target.truthy then return ← randomSong sid
  let margin ← if margin.truthy then pure margin else Config.stationGet sid "song_lookup_length_delta"
  let half ← divide margin (.int 2)
  let lower ← minus target half
  let upper ← plus target half
  let available ← fetchVar [sid, lower, upper]
  if Value.equals available (.int 0) then return ← randomSong sid
  let offset ← minus (← drawUpTo available) (.int 1)
  Songs.loadFromId (← fetchVar [sid, lower, upper, offset]) sid

/-- The shortest song of the station's pool. -/
def shortestSong (sid : Value) : Act Value := do
  Songs.loadFromId (← fetchVar [sid]) sid

/-- Ends the cooldowns and request-only periods that are over. -/
def warmCooledSongs (sid : Value) : Act Unit := do
  let _ ← dbUpdate [sid, ← timestampInt]
  let _ ← dbUpdate [sid, ← timestampInt]

/-- Lifts every cooldown and election block of a station. -/
def removeAllLocks (sid : Value) : Act Unit := do
  let _ ← dbUpdate [sid]
  let _ ← queryText .update ("UPDATE r4_album_sid SET album_cool = FALSE AND album_cool_lowest = 0 WHERE sid = " ++
    sid.display)

/-- A station's albums, with the listener's ratings when there is a registered listener. -/
def albumsList (sid user : Value) : Act Value := do
  if !user.truthy then return ← fetchAll [sid]
  let (_, u) ← userAt user
  if Value.equals u.id (.int 1) then fetchAll [sid] else fetchAll [u.id, sid, sid]

/-- A station's artists. -/
def artistsList (sid : Value) : Act Value := fetchAll [sid]

/-- A station's shown groups. -/
def groupsList (sid : Value) : Act Value := fetchAll [sid]

/-- Counts down the election blocks of a station, lifting those that ran out. -/
def reduceSongBlocks (sid : Value) : Act Unit := do
  let _ ← dbUpdate [sid]
  let _ ← dbUpdate [sid]

/-- A listener's unrated songs, up to a limit clause. -/
def unratedForListener (userId limit : Value) : Act Value := do
  match limit with
  | .str _ => fetchAll [userId]
  | other => Act.raise (.typeError ("can only concatenate str (not \"" ++ other.kindName ++ "\") to str"))

/-- The clause naming the albums a listener has requests on, where the database can
join on update; none otherwise. -/
def requestedAlbumsClause : Act Value := do
  if !(← joinsOnUpdate) then return .none
  return .str ("WITH requested_albums AS (SELECT r4_songs.album_id FROM r4_request_store JOIN r4_song_sid ON " ++
    "(r4_request_store.song_id = r4_song_sid.song_id AND r4_request_store.sid = r4_song_sid.sid) JOIN r4_songs " ++
    "ON (r4_songs.song_id = r4_request_store.song_id) WHERE user_id = %s) ")

/-- Fails unless the clause can start a query text. -/
def clauseText (clause : Value) : Act Unit := do
  match clause with
  | .str _ => pure ()
  | other => Act.raise (.typeError ("unsupported operand type(s) for +: '" ++ other.kindName ++ "' and 'str'"))

/-- Unrated songs a listener could request on a station, up to a limit: one from each
of the largest unrated albums off cooldown, then the song soonest off cooldown from the
albums soonest off cooldown. -/
def unratedForRequesting (userId sid limit : Value) : Act (List Value) := do
  clauseText (← requestedAlbumsClause)
  let mut found : List Value := []
  for row in ← itemsOf (← fetchAll [userId, userId, sid, limit]) do
    found := found ++ [← col row "song_id"]
  if ← isLess (.int found.length) limit then
    clauseText (← requestedAlbumsClause)
    let left ← minus limit (.int found.length)
    for albumRow in ← itemsOf (← fetchAll [userId, userId, sid, left]) do
      found := found ++ [← fetchVar [userId, ← col albumRow "album_id", sid]]
  return found

/-- Favourite and highly rated songs a listener could request on a station, one per
album, up to a limit. -/
def favoritesForRequesting (userId sid limit : Value) : Act (List Value) := do
  clauseText (← requestedAlbumsClause)
  let mut found : List Value := []
  for row in ← itemsOf (← fetchAll [userId, userId, sid, limit]) do
    found := found ++ [← col row "song_id"]
  return found

end Airwaves.Pool
