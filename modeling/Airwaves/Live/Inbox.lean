import Airwaves.Live.Bank
import Airwaves.Api.Directory
import Airwaves.Schedule.Timeline
/-!
# Messages from a connection

Authorising a connection, serving its messages as API requests, and holding back the messages
of a connection that sends too many.
-/
namespace Airwaves.Live

open Api

/-! ## Messages -/

/-- The entries of a message. -/
def entriesOf (m : Value) : Act Dict := do
  match m with
  | .ref h => match ← deref h with
    | .message d => return d
    | _ => noMember m "keys"
  | .dict d => return d
  | _ => noMember m "keys"

/-- Whether a message has an entry. -/
def hasEntry (m : Value) (key : String) : Act Bool := do
  return Dict.hasKey (← entriesOf m) (.str key)

/-- An entry of a message, or the failure of a missing key. -/
def entry (m : Value) (key : String) : Act Value := itemOf m (.str key)

/-- Sets an entry of a message. -/
def setEntry (m : Value) (key : String) (x : Value) : Act Unit := do
  match m with
  | .ref h => store h (.message (Dict.putField (← entriesOf m) key x))
  | _ => noMember m "__setitem__"

/-- The entries a list of pairs gives a mapping, in order, a later value for a key
replacing an earlier one: each item a pair with a usable key, or a text of two
characters. -/
def pairEntries (items : List Value) : Option Dict :=
  let step (d : Dict) (item : Value) : Option Dict :=
    match item with
    | .list [k, v] =>
      match k with
      | .list _ | .dict _ => none
      | _ => some (Dict.put d k v)
    | .str s =>
      match s.toList with
      | [a, b] => some (Dict.put d (.str a.toString) (.str b.toString))
      | _ => none
    | _ => none
  items.foldlM step []

/-- Reads a message from its text: a JSON object, or a list of pairs. -/
def readMessage (text : Value) : Option Dict :=
  match text with
  | .str s =>
    match Json.read s with
    | .ok (.dict es) => some es
    | .ok (.list items) => pairEntries items
    | _ => none
  | _ => none

/-! ## Authorising -/

/-- Points out a listener or key that a message lacks or gives malformed; the sign-in goes
on all the same. A message without a listener fails. -/
def checkAuthArguments (ws m : Value) : Act Unit := do
  if !(← hasEntry m "user_id") then refuseMessage ws "missing_argument" [("argument", .str "user_id")]
  else if !(← entry m "user_id").truthy then
    refuseMessage ws "missing_argument" [("argument", .str "user_id")]
  if !Fields.isNumber (← entry m "user_id") then
    refuseMessage ws "invalid_argument" [("argument", .str "user_id")]
  if !(← hasEntry m "key") then refuseMessage ws "missing_argument" [("argument", .str "key")]
  else if !(← entry m "key").truthy then refuseMessage ws "missing_argument" [("argument", .str "key")]

/-- Signs the connection in as the listener a message names, with its key: a listener that is
not accepted is told so and the connection closed; an accepted listener's connection joins its
station's bank and is told so. -/
def signInConnection (ws m : Value) : Act Unit := do
  let user ← Listeners.create (← entry m "user_id")
  setField ws "user" user
  let address ← attributeOf (← field ws "request") "remote_ip"
  Listeners.changeUser user fun u => { u with ipAddress := address }
  Listeners.authorize user (← entry m "key") false
  if !(← Listeners.userOf user).authorized.truthy then
    refuseMessage ws "auth_failed"
    close
    return
  setField ws "authorized" (.bool true)
  setField ws "uuid" (.str (← freshUuid))
  append (← bankOf (← field ws "sid")) ws
  let byKey ← if ← anonymous user then attributeOf (← field ws "request") "remote_ip"
    else attributeOf user "id"
  setField ws "votes_by_key" byKey
  refreshUser ws
  send (.record [("wsok", .bool true)])
  offlineCheck ws

/-- Authorises the connection with the listener and key a message names. Missing or
malformed values are pointed out; a listener that is not accepted is told so and the
connection closed; any failure closes the connection. -/
def authenticate (ws m : Value) : Act Unit := do
  let outcome ← Act.attempt do
    checkAuthArguments ws m
    signInConnection ws m
  if let .error _ := outcome then close

/-! ## Votes -/

/-- How long a listener's shared vote counts wait: the rest of five seconds after their
last vote, once they voted three times; otherwise nothing. -/
def voteWait (ws : Value) : Act Value := do
  let key ← field ws "votes_by_key"
  let g := (← get).globals
  if !(← isIn key g.votesBy) then return .int 0
  if ← isAtLeast (← itemOf g.votesBy key) (.int 3) then
    let due ← plus (← itemOf g.lastVoteBy key) (.int 5)
    if ← isLess (← timestamp) due then return ← minus due (← timestamp)
  return .int 0

/-- Whether an answer's part under a name is a mapping whose `success` is as given. -/
def partSucceeded (out name : Value) (success : Bool) : Act Bool := do
  if !(← isIn name out) then return false
  match ← itemOf out name with
  | p@(.dict _) => return (← itemOf p (.str "success")).truthy == success
  | _ => return false

/-- Shares a served request's outcome: a result to the listener's other connections
(unless it failed), and after a successful vote the new counts to everyone. -/
def share (ws handler : Value) (e : Endpoint) (action : Value) : Act Unit := do
  let h ← handlerOf handler
  if e.syncAcrossSessions then
    if !(← partSucceeded h.output h.returnName false) then
      let h ← handlerOf handler
      publish (.record [("action", .str "result_sync"), ("sid", ← field ws "sid"),
        ("user_id", ← attributeOf (← field ws "user") "id"), ("data", h.output),
        ("uuid_exclusion", ← field ws "uuid")])
  if Value.equals action (.str "/api4/vote") then
    let h ← handlerOf handler
    if ← partSucceeded h.output h.returnName true then
      let sid ← field ws "sid"
      let counts ← Timeline.updateLiveVoting sid
      put handler "live_voting" counts
      let kind := if (← voteWait ws).truthy then "delayed_live_voting" else "live_voting"
      publish (.record [("action", .str kind), ("sid", sid), ("uuid_exclusion", ← field ws "uuid"),
        ("data", .record [("live_voting", counts)])])

/-! ## Serving -/

/-- The endpoint a message's address names, among those open to connections. -/
def endpointFor (path : Value) : Option Endpoint :=
  match path with
  | .str url => Api.directory.find? fun e => e.url == url && !e.gates.trustedOnly
  | _ => none

/-- Serves a message by an endpoint and sends the answer back. -/
def serveBy (ws m : Value) (e : Endpoint) (messageId : Value) : Act Unit := do
  let handler ← openHandler e
  let locale ← field ws "locale"
  let request ← requestFor ws (.dict (← entriesOf m))
  let sid ← do
    if ← hasEntry m "sid" then
      let s ← entry m "sid"
      if s.truthy then pure s else field ws "sid"
    else field ws "sid"
  let user ← field ws "user"
  changeHandler handler fun h => { h with locale := locale, request := request, sid := sid, user := user }
  let action ← actionOf m
  let outcome ← Act.attempt do
    let start ← timestamp
    if Value.equals action (.str "/api4/vote") then
      if ← anonymous user then Listeners.refresh user (← field ws "sid")
    if ← hasEntry m "message_id" then
      if messageId matches .none then
        prepareStandalone e handler
        Act.raise (refuse "invalid_argument" 400 [("argument", .str "message_id"),
          ("reason", .str "must be positive number or zero.")])
      prepareStandalone e handler messageId
    else prepareStandalone e handler
    e.serve handler
    put handler "api_info" (← timing start)
    share ws handler e action
  if let .error f := outcome then
    let _ ← writeError handler f
  send (← handlerOf handler).output

/-- Holds a message back. -/
def hold (ws m : Value) : Act Unit := do
  let held ← itemsOf (← field ws "throttled_msgs")
  setField ws "throttled_msgs" (.list (held ++ [m]))

/-- Checks the listener's idea of the current event: a different one gets a full update
and a warning that the data was out of date. -/
def checkCurrent (ws m : Value) : Act Unit := do
  if !(← hasEntry m "sched_id") then
    refuseMessage ws "missing_argument" [("argument", .str "sched_id")]
    return
  if !(← entry m "sched_id").truthy then
    refuseMessage ws "missing_argument" [("argument", .str "sched_id")]
    return
  if !Fields.isNumber (← entry m "sched_id") then
    refuseMessage ws "invalid_argument" [("argument", .str "sched_id")]
  offlineCheck ws
  let sid ← field ws "sid"
  if (← Cache.readStation sid "sched_current_dict").truthy then
    let current ← Cache.readStation sid "sched_current_dict"
    if !Value.equals (← itemOf current (.str "id")) (← entry m "sched_id") then
      update ws
      send (.record [("outdated_data_warning", .record [("outdated", .bool true)])])

/-- The id a message carries, as a whole number of zero or more; none when it carries none. -/
def messageIdOf (m : Value) : Act Value := do
  if ← hasEntry m "message_id" then return Fields.zeroOrGreaterInteger (← entry m "message_id")
  else return .none

/-- Serves a message, holding it back when the connection sends too fast (a held message
being served is not counted again). -/
def process (ws m : Value) (fromBacklog : Bool) : Act Unit := do
  let messageId ← messageIdOf m
  let now ← timestamp
  let cutoff ← minus now (.int 3)
  let recent ← (← itemsOf (← field ws "msg_times")).filterM fun t => isGreater t cutoff
  setField ws "msg_times" (.list recent)
  if !fromBacklog then
    setField ws "msg_times" (.list (recent ++ [now]))
    if (← field ws "throttled").truthy then
      hold ws m
      return
    else if recent.length + 1 ≥ 5 then
      setField ws "throttled" (.bool true)
      hold ws m
      let _ ← addTimer 0.5 "process_throttle" (.serveBacklog ws)
      return
  let action ← actionOf m
  if Value.equals action (.str "ping") then
    send (← stamped "pong")
    return
  if Value.equals action (.str "pong") then
    send (← stamped "pongConfirm")
    return
  if Value.equals action (.str "vote") then
    publish (.record [("action", .str "vote_by"), ("by", ← field ws "votes_by_key")])
  if Value.equals action (.str "check_sched_current_id") then
    checkCurrent ws m
    return
  let path := Value.str ("/api4/" ++ action.display)
  setEntry m "action" path
  match endpointFor path with
  | none => refuseMessage ws "websocket_404"
  | some e => serveBy ws m e messageId

/-- Points out a vote's entry that is missing or not a whole number; the vote goes on all
the same. -/
def checkVoteEntry (ws chosen : Value) : Act Unit := do
  if !chosen.truthy then refuseMessage ws "missing_argument" [("argument", .str "entry_id")]
  else if !(Fields.integer chosen).truthy then
    let text ← say ws "missing_argument" [("argument", .str "entry_id"), ("reason", .str "must be a number.")]
    send (.record [("wserror", .record [("tl_key", .str "invalid_argument"), ("text", text)])])

/-- Takes in a message from the other side. -/
def receive (ws text : Value) : Act Unit := do
  match readMessage text with
  | none => refuseMessage ws "invalid_json"
  | some d =>
    let m ← allocRef (.message d)
    if !Dict.hasKey d (.str "action") then
      refuseMessage ws "missing_argument" [("argument", .str "action")]
      return
    let action ← actionOf m
    if !action.truthy then
      refuseMessage ws "missing_argument" [("argument", .str "action")]
      return
    let authorized := (← field ws "authorized").truthy
    if !authorized && !Value.equals action (.str "auth") then
      refuseMessage ws "auth_required"
      return
    if !authorized then
      authenticate ws m
      return
    if Value.equals action (.str "vote") then
      checkVoteEntry ws (← entry m "entry_id")
      setEntry m "elec_id" (← Timeline.electionOfEntry (← field ws "sid") (← entry m "entry_id"))
    process ws m false

/-- The actions that may be repeated in the backlog. -/
def repeatable : List String :=
  ["request", "delete_request", "fave_song", "fave_album", "rate", "clear_rating"]

/-- Takes the next message off the sorted backlog and stores what is left: for an action
that may not repeat, the last of its messages, the others being refused with a notice when
they carry a message id; otherwise the first message. -/
def takeNext (ws : Value) (sorted : List Value) : Act Value := do
  let action ← actionOf (sorted.headD .none)
  if !repeatable.any (fun a => Value.equals action (.str a)) then
    let same ← sorted.filterM fun m => do return Value.equals (← actionOf m) action
    for m in same.dropLast do
      if ← hasEntry m "message_id" then
        let id := Fields.zeroOrGreaterInteger (← entry m "message_id")
        if id.truthy then
          let text ← say ws "websocket_throttle"
          send (.record [("wsthrottle", .record [("tl_key", .str "websocket_throttle"), ("text", text)]),
            ("message_id", .record [("message_id", id), ("success", .bool false),
              ("tl_key", .str "websocket_throttle")])])
    let rest ← sorted.filterM fun m => do return !Value.equals (← actionOf m) action
    setField ws "throttled_msgs" (.list rest)
    return same.getLastD .none
  else
    setField ws "throttled_msgs" (.list sorted.tail)
    return sorted.headD .none

/-- Sorts the backlog and takes the next message off it; none when nothing is held, which
ends the slow-down. -/
def nextHeld (ws : Value) : Act (Option Value) := do
  let held ← itemsOf (← field ws "throttled_msgs")
  if held.isEmpty then
    setField ws "throttled" (.bool false)
    return none
  let sorted ← sortBacklog held
  setField ws "throttled_msgs" (.list sorted)
  return some (← takeNext ws sorted)

/-- Serves the next held message, or ends the slow-down when none is left. -/
def serveBacklog (ws : Value) : Act Unit := do
  let some next ← nextHeld ws | return
  if !(← entriesOf next).isEmpty then process ws next true
  let _ ← addTimer 0.5 "process_throttle" (.serveBacklog ws)

end Airwaves.Live
