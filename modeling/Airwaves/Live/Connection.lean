import Airwaves.Live.Backlog
import Airwaves.Api.Now
import Airwaves.Web.Response
/-!
# Websocket connections

Opening a connection on a station, sending it JSON, and updating it with the station's full
state.
-/
namespace Airwaves.Live

open Api

/-! ## Fields -/

/-- The connection behind a reference. -/
def socketAt (v : Value) : Act (Nat × Socket) := do
  match v with
  | .ref h => match ← deref h with
    | .socket s => return (h, s)
    | _ => noMember v "sid"
  | _ => noMember v "sid"

/-- A field of a connection, or the failure of a missing member. -/
def field (ws : Value) (name : String) : Act Value := do
  match (← socketAt ws).2.get? name with
  | some x => return x
  | none => noMember ws name

/-- Sets a field of a connection. -/
def setField (ws : Value) (name : String) (x : Value) : Act Unit := do
  let (h, s) ← socketAt ws
  store h (.socket (s.setAttribute name x))

/-- A new connection, not yet opened. -/
def fresh : Act Value := allocRef (.socket {})

/-! ## Sending -/

/-- What the other side reads of a message: its JSON text read back, with the trace of
an unexpected failure replaced by a mark. -/
def wireForm (msg : Value) : Act Value := do
  match Json.normalize msg with
  | .error e => Act.raise (.typeError e.message)
  | .ok v => return Web.markTrace v

/-- Sends a message over the connection. -/
def send (msg : Value) : Act Unit := do sendSocket (← wireForm msg)

/-- Closes the connection. -/
def close : Act Unit := sendSocket (.record [("$close", .bool true)])

/-- Translates a key for the connection's locale. -/
def say (ws : Value) (key : String) (args : List (String × Value) := []) : Act Value := do
  Locale.translateWith (← field ws "locale") (.str key) args

/-- A notice under a name: a translation key and its text. -/
def notice (ws : Value) (name key : String) (args : List (String × Value) := []) : Act Value := do
  let text ← say ws key args
  return .record [(name, .record [("tl_key", .str key), ("text", text)])]

/-- Sends a notice under `wserror`. -/
def refuseMessage (ws : Value) (key : String) (args : List (String × Value) := []) : Act Unit := do
  send (← notice ws "wserror" key args)

/-- A timestamped part, under a name. -/
def stamped (name : String) : Act Value := do
  return .record [(name, .record [("timestamp", ← timestamp)])]

/-- The timing part of an answer: the time taken since a start, and the time now rounded
to a second. -/
def timing (start : Value) : Act Value := do
  let now ← timestamp
  return .record [("exectime", ← minus now start), ("time", ← roundTo now 0)]

/-! ## Opening -/

/-- The locale the connection's browser asks for. -/
def browserLocaleOf (ws : Value) : Act Value := do
  let request ← field ws "request"
  Locale.browserLocaleFrom (← attributeOf request "cookies") request (.str "en_CA")

/-- Takes the station given first: a whole number read from it becomes the connection's
station; anything else leaves the station as it was. -/
def takeStation (ws : Value) (args : List Value) : Act Unit := do
  if let some given := args.head? then
    if let .ok sid := Value.toInt given then setField ws "sid" sid

/-- Opens the connection on the station given first: a whole number read from it, kept
even when refused. -/
def openOn (ws : Value) (args : List Value) : Act Unit := do
  takeStation ws args
  let sid ← field ws "sid"
  if !sid.truthy then
    refuseMessage ws "missing_station_id"
    return
  if !(← Config.stationIdList).any (Value.equals · sid) then
    refuseMessage ws "invalid_station_id"
    return
  setField ws "locale" (← browserLocaleOf ws)
  setField ws "authorized" (.bool false)
  setField ws "msg_times" (.list [])
  setField ws "throttled" (.bool false)
  setField ws "throttled_msgs" (.list [])

/-- Whether a connection from an origin is accepted: from anywhere when so configured,
else when the origin's host ends with the configured one. -/
def acceptsOrigin (origin : Value) : Act Bool := do
  match (← get).globals.websocketAllowFrom, origin with
  | .str "*", _ => return true
  | .str allowed, .str o => return (Web.hostOf o).endsWith allowed
  | allowed, _ => Act.raise (.typeError ("endswith first arg must be str or a tuple of str, not " ++
      allowed.kindName))

/-! ## Plain services -/

/-- Tells the other side the connection is alive. -/
def keepAlive : Act Unit := do send (← stamped "ping")

/-- Reads the listener in again for the connection's station. -/
def refreshUser (ws : Value) : Act Unit := do
  Listeners.refresh (← field ws "user") (← field ws "sid")

/-- Sends the listener's own data. -/
def sendUser (ws : Value) : Act Unit := do
  send (.record [("user", ← Listeners.privateView (← field ws "user"))])

/-- Asks a listener who seems not to be tuned in to fetch the playlist file again. -/
def warnMixup (ws : Value) : Act Unit := do
  send (← notice ws "sync_result" "redownload_m3u")

/-- Tells the other side the station is not running, when it is not. -/
def offlineCheck (ws : Value) : Act Unit := do
  if !(← Cache.readStation (← field ws "sid") "backend_ok").truthy then
    send (← notice ws "sync_result" "station_offline")

/-! ## Updates -/

/-- The plain endpoint that updates are answered through. -/
def updates : Endpoint := { plainEndpoint with returnName := some "sync_result" }

/-- A request made on the connection's behalf: the arguments given and the connection's
cookies. -/
def requestFor (ws : Value) (args : Value) : Act Value := do
  let cookies ← attributeOf (← field ws "request") "cookies"
  allocRef (.record "FakeRequestObject" [("arguments", args), ("cookies", cookies)])

/-- Sends the station's full state to the connection, or the failure that stopped it. -/
def update (ws : Value) : Act Unit := do
  let handler ← openHandler updates
  let locale ← field ws "locale"
  let request ← requestFor ws (.dict [])
  let sid ← field ws "sid"
  let user ← field ws "user"
  changeHandler handler fun h =>
    { h with locale := locale, request := request, sid := sid, user := user,
             returnName := .str "sync_result" }
  let outcome ← Act.attempt do
    let start ← timestamp
    prepareStandalone updates handler
    if !(← Cache.readStation sid "backend_ok").truthy then Act.raise (refuse "station_offline")
    refreshUser ws
    Now.attachInfo handler "" false true
    if ← Listeners.isDj user then Now.attachDjInfo handler
    put handler "user" (← Listeners.privateView user)
    put handler "api_info" (← timing start)
  if let .error f := outcome then
    let _ ← writeError handler f
  send (← handlerOf handler).output

end Airwaves.Live
