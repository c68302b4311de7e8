import Airwaves.Web.Exchange
/-!
# Listener reports from relays

Configured relays report listeners tuning in to and leaving a station; any other address is
refused with status 403.
-/
namespace Airwaves.Web

open Api

/-- Tells the other processes that a listener's sessions should update. -/
def listenerChanged (id : Value) : Act Unit :=
  publish (.record [("action", .str "update_user"), ("user_id", id)])

/-- Tells the other processes that the sessions at an address should update. -/
def addressChanged (address : Value) : Act Unit :=
  publish (.record [("action", .str "update_ip"), ("ip", address)])

/-- A value's text, followed by blanks up to a width. -/
def padded (width : Nat) (v : Value) : String :=
  let s := v.display
  s ++ String.ofList (List.replicate (width - s.length) ' ')

/-- A line of the outcome of a listener tuning in. -/
def tuneInLine (action : String) (userId sid address relay client agent : Value) : String :=
  padded 5 userId ++ " " ++ action ++ ": " ++ sid.display ++ " " ++ padded 15 address ++ " " ++
    padded 15 relay ++ " " ++ padded 10 client ++ " " ++ agent.display ++ "."

/-- Sets whether the report failed. -/
def setFailed (v : Value) (failed : Bool) : Act Unit :=
  changeHandler v fun h => h.setAttribute "failed" (.bool failed)

/-- Tells the relay a message, in the message header and as the body. -/
def tell (v : Value) (message : String) : Act Unit := do
  setHeader v "icecast-auth-message" (.str message)
  write v message

/-- Sends the answer to a relay: 200 and user header 1 on success, 403 and 0 otherwise. -/
def finishRelay (v : Value) : Act Unit := do
  if (← attributeOf v "failed").truthy then
    setStatus v 403
    setHeader v "icecast-auth-user" (.str "0")
  else
    setStatus v 200
    setHeader v "icecast-auth-user" (.str "1")
  finishResponse v

/-- Writes a failure into the answer to a relay: a refusal is translated and sent as the
message; other failures are left to the standard answer. -/
def relayFailure (v : Value) (f : Fault) : Act Fault := do
  setFailed v true
  match f with
  | .api _ =>
    let shown ← localize (← localeOf v) f
    let reason := match shown with
      | .api e => Value.ofOption (e.reason.map .str)
      | _ => .none
    if let .ok () ← Act.attempt (setHeader v "icecast-auth-message" reason) then
      let _ ← Act.attempt (finishResponse v)
    return shown
  | .http _ =>
    let _ ← Act.attempt (finishResponse v)
    return f
  | .raised _ _ => return f

/-- Prepares a relay's report: a report from an address that is not a relay is refused
at once; otherwise the standard preparation. -/
def prepareRelay (e : Endpoint) (v : Value) : Act Unit := do
  setFailed v true
  let address ← remoteAddress v
  let relay ← Fields.validRelay address
  changeHandler v fun h => h.setAttribute "relay" relay
  if !relay.truthy then
    setStatus v 403
    tell v (address.display ++ " is not a valid relay.")
    finishRelay v
    return
  prepareRequest e v

/-- Records a registered listener tuning in, once their listen key matches. -/
def addRegistered (v sid userId key agent : Value) : Act Unit := do
  if !Value.equals (← fetchVar [userId]) key then
    Act.raise (refuse "invalid_argument" 200 [("reason", .str "mismatched listen_key.")])
  let address ← argument v "ip"
  let client ← argument v "client"
  let relay ← attributeOf v "relay"
  if (← fetchVar [userId]).truthy then
    let _ ← dbUpdate [sid, address, client, relay, agent, userId]
    tell v (tuneInLine "update" userId sid address relay client agent)
  else
    let _ ← dbUpdate [sid, userId, address, client, relay, agent]
    tell v (tuneInLine "new   " userId sid address relay client agent)
  setFailed v false
  let user ← Listeners.create userId
  let _ ← Listeners.listenerRecord user
  if (← Listeners.requestCount user (.bool false)).truthy then
    let _ ← Listeners.joinLine user sid
  listenerChanged userId

/-- Records an anonymous listener tuning in, by address. -/
def addAnonymous (v sid userId agent : Value) : Act Unit := do
  let address ← argument v "ip"
  let client ← argument v "client"
  let relay ← attributeOf v "relay"
  let records ← itemsOf (← fetchList [address])
  if records.isEmpty then
    let _ ← dbUpdate [sid, address, .int 1, relay, agent, client]
    addressChanged address
    tell v (tuneInLine "new   " userId sid address relay client agent)
  else
    for extra in (records.dropLast.drop 1).reverse do
      let _ ← dbUpdate [extra]
    let _ ← dbUpdate [client, address, relay]
    tell v (tuneInLine "update" userId sid address relay client agent)
  setFailed v false
  addressChanged address

/-- Records a listener tuning in to the station in the address. -/
def addListener (v : Value) (captured : List Value) : Act Unit := do
  let (userId, key) ← match ← argument v "mount" with
    | .tuple [_, u, k] | .list [_, u, k] => pure (u, k)
    | other => Act.raise (.typeError ("cannot unpack non-iterable " ++ (← kindNameOf other) ++ " object"))
  let agent ← argument v "agent"
  let sid ← match captured.head? with
    | some (.str s) =>
      match Value.parseInt? s with
      | some n => if s.isEmpty then Act.raise (refuse "invalid_station_id" 400) else pure (Value.int n)
      | none => Act.raise (refuse "invalid_station_id" 400)
    | _ => Act.raise (.typeError "AddListener.post() missing 1 required positional argument: 'sid'")
  changeHandler v fun h => { h with sid := sid }
  if ← isGreater userId (.int 1) then addRegistered v sid userId key agent
  else addAnonymous v sid userId agent

/-- Records a listener leaving, when the relay knows the client. -/
def removeListener (v : Value) (_ : List Value) : Act Unit := do
  let relay ← attributeOf v "relay"
  let client ← argument v "client"
  let listener ← fetchRow [relay, client]
  if !listener.truthy then return
  let _ ← dbUpdate [relay, client]
  let userId ← col listener "user_id"
  if ← isGreater userId (.int 1) then
    let _ ← dbUpdate [← plus (← timestamp) (.int 600), userId]
    Cache.putUser userId "listener_record" .none
    listenerChanged userId
  else addressChanged (← col listener "listener_ip")
  tell v (padded 5 userId ++ " remove: " ++ padded 15 relay ++ " " ++ padded 10 client ++ ".")
  setFailed v false

/-- The endpoint of listeners tuning in. -/
def addEndpoint (url : String) : Endpoint where
  url := url
  gates := { keyed := false, station := false }
  fields := [needs "client" .integer, needs "mount" .icecastMount, needs "ip" .ipAddress,
    needs "agent" .mediaPlayer]
  serve _ := pure ()

/-- The endpoint of listeners leaving. -/
def removeEndpoint (url : String) : Endpoint where
  url := url
  gates := { keyed := false, station := false }
  fields := [needs "client" .integer]
  serve _ := pure ()

/-- A route of relay reports. -/
def relayRoute (e : Endpoint) (answer : Value → List Value → Act Unit) : Route where
  endpoint := e
  page := .relay
  prepare := prepareRelay e
  post := some answer
  finish := finishRelay
  writeError := relayFailure

/-- The routes of relay reports, at their current addresses and the older ones. -/
def relayRoutes : List Route :=
  [relayRoute (addEndpoint "/api4/listener_add/(\\d+)") addListener,
   relayRoute (removeEndpoint "/api4/listener_remove") removeListener,
   relayRoute (addEndpoint "/sync/(\\d+)/listener_add") addListener,
   relayRoute (removeEndpoint "/sync/(\\d+)/listener_remove") removeListener]

end Airwaves.Web
