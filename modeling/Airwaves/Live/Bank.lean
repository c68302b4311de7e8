import Airwaves.Live.Connection
/-!
# Session banks

Each station's bank of sessions waiting for its updates: websocket connections (also filed by
listener) and other sessions, with filing, removal, lookup and passing messages on.
-/
namespace Airwaves.Live

/-! ## The bank object -/

/-- The bank behind a reference. -/
def bankAt (v : Value) : Act (Nat × SessionBank) := do
  match v with
  | .ref h => match ← deref h with
    | .bank b => return (h, b)
    | _ => noMember v "sessions"
  | _ => noMember v "sessions"

/-- Changes the bank behind a reference. -/
def changeBank (v : Value) (f : SessionBank → SessionBank) : Act Unit := do
  let (h, b) ← bankAt v
  store h (.bank (f b))

/-- A new, empty bank. -/
def newBank : Act Value := allocRef (.bank {})

/-- The bank of a station. -/
def bankOf (sid : Value) : Act Value := do itemOf (← get).globals.sessions sid

/-! ## Sessions -/

/-- Whether two sessions are the same: the same object, or plain records with equal
fields. -/
def sameSession (a b : Value) : Act Bool := do
  match a, b with
  | .ref x, .ref y =>
    if x == y then return true
    match ← deref x, ← deref y with
    | .record "SimpleNamespace" fa, .record "SimpleNamespace" fb =>
      return fa.length == fb.length &&
        fa.all fun (k, v) => (fb.find? (·.1 == k)).any fun e => Value.equals e.2 v
    | _, _ => return false
  | _, _ => return Value.equals a b

/-- Whether a list holds a session. -/
def holds (xs : List Value) (s : Value) : Act Bool := xs.anyM (sameSession s)

/-- A list without the first occurrence of a session. -/
def withoutFirst (xs : List Value) (s : Value) : Act (List Value) := do
  match xs with
  | [] => return []
  | x :: rest => if ← sameSession x s then return rest else return x :: (← withoutFirst rest s)

/-- The key a session is filed under: itself; plain records and mappings cannot be keys. -/
def sessionKey (s : Value) : Act Value := do
  match s with
  | .ref h => match ← deref h with
    | .record "SimpleNamespace" _ => Act.raise (.typeError "unhashable type: 'types.SimpleNamespace'")
    | .message _ => Act.raise (.typeError "unhashable type: 'WSMessage'")
    | _ => return s
  | .list _ | .dict _ | .set _ => Act.raise (.typeError ("unhashable type: '" ++ s.kindName ++ "'"))
  | _ => return s

/-- Whether a user is anonymous. -/
def anonymous (user : Value) : Act Bool := do
  match user with
  | .ref h => match ← deref h with
    | .user u => Listeners.isAnonymous u
    | _ => noMember user "is_anonymous"
  | _ => noMember user "is_anonymous"

/-- Whether a user is tuned in. -/
def tunedIn (user : Value) : Act Bool := do return (← Listeners.tunedIn user).truthy

/-- The user of a session. -/
def userOfSession (s : Value) : Act Value := attributeOf s "user"

/-! ## Filing sessions -/

/-- The connections filed under a listener: none when the listener has none yet. -/
def filedUnder (b : SessionBank) (id : Value) : Act (List Value) :=
  match Dict.lookup? b.websocketsByUser id with
  | none => pure []
  | some (.list xs) => pure xs
  | some other => noMember other "append"

/-- Files a connection under its listener, once more each time, unless the listener is
anonymous. -/
def fileUnderUser (bank s : Value) : Act Unit := do
  let user ← userOfSession s
  if !(← anonymous user) then
    let id ← attributeOf user "id"
    let (_, b) ← bankAt bank
    let filed ← filedUnder b id
    changeBank bank fun b => { b with websocketsByUser := Dict.put b.websocketsByUser id (.list (filed ++ [s])) }

/-- Files a session: a connection among the connections (and under its listener when
registered, once more each time), another session among the sessions. -/
def append (bank s : Value) : Act Unit := do
  let (_, b) ← bankAt bank
  if (← attributeOf s "is_websocket").truthy then
    if !(← holds b.websockets s) then changeBank bank fun b => { b with websockets := b.websockets ++ [s] }
    fileUnderUser bank s
  else
    if !(← holds b.sessions s) then changeBank bank fun b => { b with sessions := b.sessions ++ [s] }

/-- Cancels the held update of a session, if it has one. -/
def cancelHeld (bank key : Value) : Act Unit := do
  let (_, b) ← bankAt bank
  if let some timer := Dict.lookup? b.throttled key then
    removeTimer timer
    changeBank bank fun b => { b with throttled := Dict.without b.throttled key }

/-- Takes a session out of the connections, and out of its listener's when the index is found
holding both the listener and the session's key, or else out of the waiting sessions. -/
def dropSession (bank s key : Value) : Act Unit := do
  let (_, b) ← bankAt bank
  if ← holds b.websockets s then
    let rest ← withoutFirst b.websockets s
    changeBank bank fun b => { b with websockets := rest }
    let user ← userOfSession s
    if !(← anonymous user) then
      let id ← attributeOf user "id"
      if Dict.hasKey b.websocketsByUser id && Dict.hasKey b.websocketsByUser key then
        let filed ← match Dict.lookup? b.websocketsByUser id with
          | some (.list xs) => withoutFirst xs s
          | _ => pure []
        let kept := fun (d : Dict) => if filed.isEmpty then Dict.without d id else Dict.put d id (.list filed)
        changeBank bank fun b => { b with websocketsByUser := kept b.websocketsByUser }
  else if ← holds b.sessions s then
    let rest ← withoutFirst b.sessions s
    changeBank bank fun b => { b with sessions := rest }

/-- Takes a session out: its held update is cancelled, and it leaves the connections or
the sessions. -/
def remove (bank s : Value) : Act Unit := do
  let key ← sessionKey s
  cancelHeld bank key
  dropSession bank s key

/-- Cancels every held update and lets the waiting sessions go; connections stay. -/
def clear (bank : Value) : Act Unit := do
  let (_, b) ← bankAt bank
  for (_, timer) in b.throttled do removeTimer timer
  changeBank bank fun b => { b with sessions := [], throttled := [] }

/-- Every session, waiting sessions first. -/
def everyone (bank : Value) : Act (List Value) := do
  let (_, b) ← bankAt bank
  return b.sessions ++ b.websockets

/-- The sessions of a listener. -/
def findUser (bank id : Value) : Act (List Value) := do
  (← everyone bank).filterM fun s => do
    return Value.equals (← attributeOf (← userOfSession s) "id") id

/-- The sessions from an address. -/
def findAddress (bank address : Value) : Act (List Value) := do
  (← everyone bank).filterM fun s => do
    return Value.equals (← attributeOf (← attributeOf s "request") "remote_ip") address

/-! ## Passing messages -/

/-- Passes a message to a listener's connections, except the one with the given
identifier; a message identifier in it is dropped. -/
def sendToUser (bank id exclusion data : Value) : Act Unit := do
  let (_, b) ← bankAt bank
  match Dict.lookup? b.websocketsByUser id with
  | none => pure ()
  | some filed =>
    let data ← if ← isIn (.str "message_id") data then
        match data with
        | .dict es => pure (Value.dict (Dict.without es (.str "message_id")))
        | other => pure other
      else pure data
    for s in ← itemsOf filed do
      if !Value.equals (← attributeOf s "uuid") exclusion then send data

/-- Passes a message to every connection except the one with the given identifier. -/
def sendToAll (bank exclusion data : Value) : Act Unit := do
  let (_, b) ← bankAt bank
  for s in b.websockets do
    if !Value.equals exclusion (← attributeOf s "uuid") then send data

/-- Closes a connection: it no longer holds messages and leaves its station's bank. -/
def closed (ws : Value) : Act Unit := do
  setField ws "throttled_msgs" (.list [])
  let sid ← field ws "sid"
  if sid.truthy then remove (← bankOf sid) ws

end Airwaves.Live
