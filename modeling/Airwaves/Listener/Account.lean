import Airwaves.Listener.RequestLine
import Airwaves.Web.Percent
import Airwaves.Api.Fields
/-!
# Listener accounts

How a listener is recognised by a key and what the service remembers about one: name, perks,
the station the listener is tuned in to and any lock to one.
-/
namespace Airwaves.Listeners

open Catalog

/-- Where uploaded avatars are served. -/
def uploadedAvatar (name : Value) : String := "/forums/download/file.php?avatar=" ++ name.display

/-- The avatar to show for an avatar setting: an upload, a remote image, or the default. -/
def solveAvatar (kind avatar : Value) : Value :=
  if Value.equals kind (.str "avatar.driver.upload") then .str (uploadedAvatar avatar)
  else if Value.equals kind (.str "avatar.driver.remote") then avatar
  else .str defaultAvatar

/-- Forgets the listeners of a station that were marked for removal. -/
def trimListeners (sid : Value) : Act Unit := do let _ ← dbUpdate [sid]

/-- Counts down the locks to a station and lifts those that ran out. -/
def unlockListeners (sid : Value) : Act Unit := do
  let _ ← dbUpdate [sid]
  let _ ← queryText .update "UPDATE r4_listeners SET listener_lock = FALSE WHERE listener_lock_counter <= 0"

/-- A new user with an id. -/
def create (id : Value) : Act Value := allocRef (.user { id := id })

/-- The stored keys of a registered user, which also refresh the cached list; nothing
for other users. -/
def storedKeys (v : Value) : Act Value := do
  let u ← userOf v
  if !(← isRegistered u) then return .none
  let keys ← fetchList [u.id]
  Cache.putUser v "api_keys" keys
  return keys

/-- The entries a mapping update takes from a value: a mapping's entries, or pairs from
a sequence. -/
def updateEntries (d : Value) : Act Dict := do
  match d with
  | .dict es => return es
  | .list xs | .tuple xs =>
    let mut out : Dict := []
    let mut i := 0
    for x in xs do
      match x with
      | .list [k, y] | .tuple [k, y] => out := Dict.put out k y
      | .list ys | .tuple ys =>
        Act.raise (.of .valueError ("dictionary update sequence element #" ++ toString i ++ " has length " ++
          toString ys.length ++ "; 2 is required"))
      | .str t =>
        if t.length == 2 then out := Dict.put out (.str (t.take 1).toString) (.str (t.drop 1).toString)
        else Act.raise (.of .valueError ("dictionary update sequence element #" ++ toString i ++ " has length " ++
          toString t.length ++ "; 2 is required"))
      | _ => Act.raise (.typeError ("cannot convert dictionary update sequence element #" ++ toString i ++
          " to a sequence"))
      i := i + 1
    return out
  | other => Act.raise (.typeError ("'" ++ other.kindName ++ "' object is not iterable"))

/-- Merges a mapping into the user's data. -/
def mergeData (v d : Value) : Act Unit := do
  let es ← updateEntries d
  changeUser v fun u => { u with data := Dict.merge u.data es }

/-- Removes an entry of the user's data, which must be there. -/
def popData (v : Value) (key : String) : Act Value := do
  let x ← dataOf (← userOf v) key
  changeUser v fun u => { u with data := Dict.without u.data (.str key) }
  return x

/-- Draws ten characters from letters and digits. -/
def drawKey : Act Value := do
  let alphabet := "ABCDEFGHIJKLMNOPQRSTUVWXYZ0123456789abcdefghijklmnopqrstuvwxyz".toList
  let mut key := ""
  for _ in List.range 10 do
    key := key.push (alphabet.getD (← randomBelow alphabet.length) 'A')
  return .str key

/-- Gives the user a new listen key. -/
def newListenKey (v : Value) : Act Unit := do
  let key ← drawKey
  let _ ← dbUpdate [key, (← userOf v).id]
  mergeData v (Value.record [("radio_listen_key", key)])

/-- Reads a registered user's details once the key is accepted (or the check bypassed). -/
def authorizeRegistered (v key : Value) (bypass : Bool) : Act Unit := do
  if !bypass then
    let cached ← Cache.readUser v "api_keys"
    let known ← if cached.truthy then isIn key cached else pure false
    if !known then
      if !(← isIn key (← storedKeys v)) then return
  changeUser v fun u => { u with authorized := .bool true }
  mergeData v (← fetchRow [(← userOf v).id])
  let u ← userOf v
  setData v "avatar" (solveAvatar (← dataOf u "_avatar_type") (← dataOf u "avatar"))
  let _ ← popData v "_avatar_type"
  let group ← dataOf (← userOf v) "_group_id"
  if [5, 4, 8, 18].any fun g => Value.equals group (.int g) then setData v "perks" (.bool true)
  if [5, 18].any fun g => Value.equals group (.int g) then setData v "admin" (.bool true)
  let _ ← popData v "_group_id"
  if (← dataOf (← userOf v) "perks").truthy then setData v "rate_anything" (.bool true)
  else if ← isGreater (← dataOf (← userOf v) "_total_ratings") (← Config.get "rating_allow_all_threshold") then
    setData v "rate_anything" (.bool true)
  let _ ← popData v "_total_ratings"
  if !(← dataOf (← userOf v) "listen_key").truthy then newListenKey v

/-- The cache key of the key stored for an anonymous address. -/
def addressKey (u : User) : String := "ip_" ++ u.ipAddress.display ++ "_api_key"

/-- Authorises an anonymous listener whose key is the one stored for the address. -/
def authorizeAnonymous (v key : Value) (bypass : Bool) : Act Unit := do
  if !bypass then
    let u ← userOf v
    let mut expected ← Cache.read (addressKey u)
    if !expected.truthy then
      expected ← fetchVar [u.ipAddress]
      if !expected.truthy then return
      Cache.put (addressKey u) expected
    if !Value.equals expected key then return
  changeUser v fun u => { u with authorized := .bool true }

/-- Whether a key is a run of word characters, as the key check reads it. -/
def isKeyText (key : Value) : Act Bool := do
  match key with
  | .str s =>
    let cs := Fields.body s.toList
    return !cs.isEmpty && cs.all Fields.isWord
  | other => Act.raise (.typeError ("expected string or bytes-like object, got '" ++ other.kindName ++ "'"))

/-- Authorises the user by a key, unless the key is malformed. -/
def authorize (v key : Value) (bypass : Bool) : Act Unit := do
  changeUser v fun u => { u with apiKey := key }
  if !bypass then
    if !(← isKeyText key) then return
  if ← isRegistered (← userOf v) then authorizeRegistered v key bypass
  else authorizeAnonymous v key bypass

/-- The listener's record, by user or (for anonymous listeners) by address; it is merged
into the user's data when there is one. -/
def listenerRecord (v : Value) : Act Value := do
  let u ← userOf v
  let record ← if ← isRegistered u then fetchRow [u.id] else fetchRow [u.ipAddress]
  if record.truthy then mergeData v record
  return record

/-- The station the listener is tuned in to: the known one, or else the record's. -/
def tunedInStation (v : Value) : Act Value := do
  let u ← userOf v
  if Dict.hasKey u.data (.str "sid") then
    let sid ← dataOf u "sid"
    if sid.truthy then return sid
  let record ← listenerRecord v
  if ← isIn (.str "sid") record then itemOf record (.str "sid") else return .none

/-- Refreshes the listener for a station: tuned in when the record is on that station,
otherwise moved there; a registered listener's place in line is read when the station has
a schedule, and a tuned-in listener with requests joins the line; a lock to another
station takes effect. -/
def refresh (v sid : Value) : Act Unit := do
  setData v "tuned_in" (.bool false)
  let record ← listenerRecord v
  if record.truthy then
    if Value.equals (← dataOf (← userOf v) "sid") sid then setData v "tuned_in" (.bool true)
    else setData v "sid" sid
  else setData v "sid" sid
  let registered ← isRegistered (← userOf v)
  if registered then
    if (← Cache.readStation sid "sched_current").truthy then
      let here ← dataOf (← userOf v) "sid"
      setData v "request_position" (← linePosition v here)
      setData v "request_expires_at" (← lineExpiry v)
      if (← dataOf (← userOf v) "tuned_in").truthy then
        if !(← inLine v) then
          if (← requestCount v (.bool false)).truthy then
            let _ ← joinLine v (← dataOf (← userOf v) "sid")
  if (← dataOf (← userOf v) "lock").truthy then
    if !Value.equals sid (← dataOf (← userOf v) "lock_sid") then setData v "lock_in_effect" (.bool true)

/-- The listener's tuned-in flag, as recorded. -/
def tunedIn (v : Value) : Act Value := do dataOf (← userOf v) "tuned_in"

/-- The listener's perks flag, as recorded. -/
def perks (v : Value) : Act Value := do dataOf (← userOf v) "perks"

/-- What the listener is shown about themselves: their data mapping. -/
def privateView (v : Value) : Act Value := do return .dict (← userOf v).data

/-- Whether the user administers the service. -/
def isAdmin (v : Value) : Act Bool := do isGreater (← dataOf (← userOf v) "admin") (.int 0)

/-- Whether the user is the station's DJ. -/
def isDj (v : Value) : Act Bool := do
  let u ← userOf v
  return (Dict.field? u.data "dj").any Value.truthy

/-- Stores a new key for the user, with an expiry, and refreshes the cached keys. -/
def newApiKey (v expiry : Value) : Act Value := do
  let key ← drawKey
  let u ← userOf v
  let _ ← dbUpdate [u.id, key, expiry, u.ipAddress]
  let _ ← storedKeys v
  return key

/-- The user's key, made when there is none: an anonymous listener's lasts two days and
is cached for the address. Users with an id below one have no key at all. -/
def ensureApiKey (v : Value) : Act Value := do
  let u ← userOf v
  if !Value.equals u.id (.int 1) then
    if ← isRegistered u then
      if let some known := Dict.field? u.data "api_key" then
        if known.truthy then return known
  let key ← if Value.equals u.id (.int 1) then do
      let stored ← fetchVar [u.ipAddress]
      if stored.truthy then pure stored
      else
        let key ← newApiKey v (.int ((← clockSeconds) + 172800))
        Cache.put (addressKey (← userOf v)) key
        pure key
    else if ← isRegistered u then do
      let stored ← fetchVar [u.id]
      if stored.truthy then pure stored else newApiKey v .none
    else Act.raise (.of .unboundLocal
      "cannot access local variable 'api_key' where it is not associated with a value")
  setData v "api_key" key
  return key

/-- Stores the listener's preferences, given as percent-encoded JSON text, when the
service keeps preferences; a failure to store them is ignored. -/
def savePreferences (v address prefs : Value) : Act Unit := do
  if !(← Config.get "store_prefs").truthy || !prefs.truthy then return
  if !(← isPostgres) then return
  let store : Act Unit := do
    let text ← match prefs with
      | .str s => pure (Value.str (Web.unquote s))
      | other => Act.raise (.typeError ("expected string or bytes-like object, got '" ++ other.kindName ++ "'"))
    let u ← userOf v
    if ← isRegistered u then
      if !(← fetchVar [u.id]).truthy then let _ ← dbUpdate [u.id, text]
      else let _ ← dbUpdate [text, u.id]
    else
      if !(← fetchVar [address, u.id]).truthy then let _ ← dbUpdate [u.id, address, text]
      else let _ ← dbUpdate [text, address, u.id]
  let _ ← Act.attempt store

end Airwaves.Listeners
