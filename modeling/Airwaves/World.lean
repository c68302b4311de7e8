import Airwaves.Value.Arith
import Airwaves.Database
import Airwaves.Schedule.Basic
import Airwaves.Api.Basic
import Airwaves.Locale.Basic
import Airwaves.Chance.Twister
import Airwaves.Media.Tag
import Airwaves.Media.ReadError
/-!
# The world a call runs in

One `World`: clock, configuration, cache, scripted database, the objects made, station-wide
state, the libraries the service takes from outside, and what was sent out. A failure of an `Act`
keeps every change made before it.
-/
namespace Airwaves

/-- An object of the store. -/
inductive Obj where
  | song (s : Song)
  | metadata (m : Metadata)
  | event (e : Event)
  | producer (p : Producer)
  | user (u : User)
  | locale (l : Locale)
  | handler (h : Handler)
  | socket (s : Socket)
  | bank (b : SessionBank)
  /-- A plain object with named fields. -/
  | record (kindName : String) (fields : List (String × Value))
  | fault (f : Fault)
  /-- A websocket message: a mapping ordered by whether it is a request. -/
  | message (entries : Dict)
  deriving Inhabited

/-- The configuration and what is derived from it when it is loaded. -/
structure Config where
  opts : Dict := []
  testMode : Value := .bool false
  stationIds : List Value := []
  stationIdFriendly : Value := .dict []
  stationHostnames : Value := .dict []
  publicRelays : Value := .none
  publicRelaysJson : Value := .dict []
  stationList : Value := .dict []
  stationListJson : Value := .dict []
  stationMounts : Value := .dict []
  stationMountFilenames : Value := .dict []
  buildNumber : Value := .int 0
  deriving Inhabited

/-- The in-memory cache: its entries, the entries also kept locally, the separate
ratings cache, and whether a cache client is connected. -/
structure Cache where
  connected : Bool := true
  entries : Dict := []
  localEntries : Dict := []
  ratings : Dict := []
  deriving Inhabited

/-- Station-wide state kept between calls. -/
structure Globals where
  cooldownConfig : Value := .dict []
  updatedAlbumIds : Value := .dict []
  albumCounts : Value := .dict []
  songCounts : Value := .dict []
  originSongCounts : Value := .dict []
  requestInterval : Value := .dict []
  requestSequence : Value := .dict []
  current : Value := .dict []
  upnext : Value := .dict []
  history : Value := .dict []
  singleSongCounter : Value := .int 0
  sessions : Value := .dict []
  delayedLiveVote : Value := .dict []
  delayedLiveVoteTimers : Value := .dict []
  websocketAllowFrom : Value := .str "*"
  votesBy : Value := .dict []
  lastVoteBy : Value := .dict []
  helpSections : Value := .dict []
  /-- The class-level field tables of handlers that a set-up step has written the paging
  fields into, by name. -/
  pagedFieldTables : List String := []
  deriving Inhabited

/-- What the service sent out. -/
structure Outbox where
  published : Array Value := #[]
  socketMessages : Array Value := #[]
  timers : Array Value := #[]
  responses : Array Value := #[]
  deriving Inhabited

/-- A file in the working directory: its bytes and when it was last changed, in whole
seconds. -/
structure StoredFile where
  bytes : List UInt8
  mtime : Int
  deriving Inhabited

/-- What a timer of the event loop runs when it comes due. -/
inductive Callback where
  /-- Serving the update held back for a session of a bank; `byAddress` says whether a change
  of address caused it. -/
  | heldUpdate (bank session byAddress : Value)
  /-- Passing on the vote counts waiting for a station. -/
  | passVote (sid : Value)
  /-- Serving the next message a connection holds back. -/
  | serveBacklog (ws : Value)
  /-- The work that follows a station moving on. -/
  | postProcess (sid : Value)
  deriving Inhabited

/-- The third-party libraries the service calls: `unidecode`, which spells a text in ASCII,
and the MP3 reader, which finds a song file's tag and the length of its audio. The service
is studied for any libraries; a theorem names what it assumes of them. -/
structure Libraries where
  unidecode : String → String := id
  readMp3 : List UInt8 → Except Media.ReadError Media.SongFile := fun _ => .error .noStream
  deriving Inhabited

/-- Everything a call can read or change. -/
structure World where
  now : Double := 1500000000.0
  seed : Value := .int 0
  config : Config := {}
  cache : Cache := {}
  db : Database := {}
  store : Array Obj := #[]
  locales : List (String × Nat) := []
  globals : Globals := {}
  names : List (String × Value) := []
  outbox : Outbox := {}
  uuidCount : Nat := 0
  timerCount : Nat := 0
  /-- The timers of the event loop that are set and have neither run nor been cancelled, by
  handle, with what each runs. -/
  loop : List (Nat × Callback) := []
  files : List (String × StoredFile) := []
  rng : Chance.Twister := Chance.Twister.seed 0
  libraries : Libraries := {}
  deriving Inhabited

/-- A computation in the world that may fail. -/
abbrev Act := EStateM Fault World

namespace Act

/-- Fails with a fault. -/
def raise {α : Type} (f : Fault) : Act α := throw f

/-- Fails with a kind and a message. -/
def fail {α : Type} (kind : FaultKind) (message : String) : Act α := throw (.of kind message)

/-- Runs a computation that may fail without touching the world. -/
def lift {α : Type} (e : Except Fault α) : Act α :=
  match e with
  | .ok a => pure a
  | .error f => throw f

/-- Catches a failure. -/
def attempt {α : Type} (x : Act α) : Act (Except Fault α) :=
  tryCatch (do let a ← x; pure (.ok a)) (fun f => pure (.error f))

end Act

/-- The current time in seconds, as a double. -/
def clock : Act Double := do return (← get).now

/-- The current time as a value. -/
def clockValue : Act Value := do return .float (← clock)

/-- The current time rounded down to whole seconds. -/
def clockSeconds : Act Int := do
  return (Value.floatToInt? (← clock)).getD 0

/-! ## Database calls -/

/-- Draws a whole number from a closed range. -/
def randomBetween (lo hi : Int) : Act Int := do
  let (r, g) := Chance.Twister.between lo hi (← get).rng
  modify fun w => { w with rng := g }
  return r

/-- Draws a fraction in `[0, 1)`. -/
def randomFraction : Act Double := do
  let (r, g) := Chance.Twister.fraction (← get).rng
  modify fun w => { w with rng := g }
  return r

/-- Draws a whole number below a bound. -/
def randomBelow (n : Nat) : Act Nat := do
  let (r, g) := Chance.Twister.below n (← get).rng
  modify fun w => { w with rng := g }
  return r

/-- Shuffles a list. -/
def shuffled (xs : List Value) : Act (List Value) := do
  let (r, g) := Chance.Twister.shuffle xs (← get).rng
  modify fun w => { w with rng := g }
  return r

/-- Runs a database call with parameters. -/
def query (k : QueryKind) (params : List Value) : Act Value :=
  modifyGet fun w => let (v, db) := w.db.call k (some params) ""; (v, { w with db := db })

/-- Runs a database call whose values are written into its statement text. -/
def queryText (k : QueryKind) (sql : String) : Act Value :=
  modifyGet fun w => let (v, db) := w.db.call k none sql; (v, { w with db := db })

/-- Runs a database call with parameters whose statement text holds a value of its own. -/
def queryStatement (k : QueryKind) (sql : String) (params : List Value) : Act Value :=
  modifyGet fun w => let (v, db) := w.db.callStatement k sql params; (v, { w with db := db })

/-- A single value. -/
def fetchVar (params : List Value) : Act Value := query .var params
/-- A row. -/
def fetchRow (params : List Value) : Act Value := query .row params
/-- All rows. -/
def fetchAll (params : List Value) : Act Value := query .all params
/-- A column. -/
def fetchList (params : List Value) : Act Value := query .list params
/-- An update; its answer is the number of changed rows. -/
def dbUpdate (params : List Value) : Act Value := query .update params

/-- The next identifier of a table's column. -/
def nextId (table column : String) : Act Int :=
  modifyGet fun w => let (v, db) := w.db.nextIdentifier table column; (v, { w with db := db })

/-- Rolls back the open transaction. -/
def rollback : Act Unit := modify fun w => { w with db := w.db.rollback }

/-- Whether the database joins on updates. -/
def joinsOnUpdate : Act Bool := do return (← get).db.allowsJoinOnUpdate.truthy

/-- Whether the database is the full-featured one. -/
def isPostgres : Act Bool := do return (← get).db.isPostgres.truthy

/-! ## The store -/

/-- Adds an object to the store and returns its handle. -/
def alloc (o : Obj) : Act Nat :=
  modifyGet fun w => (w.store.size, { w with store := w.store.push o })

/-- Adds an object and returns a reference to it. -/
def allocRef (o : Obj) : Act Value := do return .ref (← alloc o)

/-- The object under a handle. -/
def deref (h : Nat) : Act Obj := do
  match (← get).store[h]? with
  | some o => pure o
  | none => Act.fail .runtime "dangling reference"

/-- Replaces the object under a handle. -/
def store (h : Nat) (o : Obj) : Act Unit :=
  modify fun w => { w with store := w.store.set! h o }

/-- The kind name of an object. -/
def Obj.kindName : Obj → String
  | .song _ => "Song"
  | .metadata m => m.role.kindName
  | .event e => e.kind.kindName
  | .producer p => p.kind.kindName
  | .user _ => "User"
  | .locale _ => "RainwaveLocale"
  | .handler h => if h.route.isEmpty then "RainwaveHandler" else h.page.kindName
  | .socket _ => "WSHandler"
  | .bank _ => "SessionBank"
  | .record k _ => k
  | .fault f => f.kindName
  | .message _ => "WSMessage"

/-- The fields of an object under their client names. -/
def Obj.attributes : Obj → List (String × Value)
  | .song s => s.attributes
  | .metadata m => m.attributes
  | .event e => e.attributes
  | .producer p => p.attributes
  | .user u => u.attributes
  | .locale l => [("code", l.code), ("dict", .dict l.dict), ("missing", .dict l.missing)]
  | .handler h => h.attributes
  | .socket s => s.attributes
  | .bank b => b.attributes
  | .record _ fields => fields
  | .fault f =>
    match f with
    | .raised k [a] => if k.quotesArgument then [("value", a)] else []
    | .api e => [("tl_key", .str e.tlKey), ("reason", Value.ofOption (e.reason.map Value.str)),
        ("extra", .dict e.extra), ("status_code", .nat e.httpCode)]
    | _ => []
  | .message d => d.map fun e => (e.1.display, e.2)

/-- Sets a field of an object by its client name. -/
def Obj.setAttribute (o : Obj) (name : String) (v : Value) : Obj :=
  match o with
  | .song s => .song (s.setAttribute name v)
  | .metadata m => .metadata (m.setAttribute name v)
  | .event e => .event (e.setAttribute name v)
  | .producer p => .producer (p.setAttribute name v)
  | .user u => .user (u.setAttribute name v)
  | .locale l =>
    match name with
    | "code" => .locale { l with code := v }
    | "dict" => .locale { l with dict := (v.entries?).getD l.dict }
    | "missing" => .locale { l with missing := (v.entries?).getD l.missing }
    | _ => .locale l
  | .handler h => .handler (h.setAttribute name v)
  | .socket s => .socket (s.setAttribute name v)
  | .bank b => .bank (b.setAttribute name v)
  | .record k fields => .record k (setNamed fields name v)
  | .fault f => .fault f
  | .message d => .message (Dict.putField d name v)

/-- A field of an object by its client name. -/
def Obj.attribute? (o : Obj) (name : String) : Option Value :=
  match o with
  | .socket s => s.get? name
  | .message d => Dict.field? d name
  | _ => (o.attributes.find? (·.1 == name)).map (·.2)

/-- The kind name of a value, looking objects up in the store. -/
def kindNameOf (v : Value) : Act String := do
  match v with
  | .ref h => return (← deref h).kindName
  | v => return v.kindName

/-- The failure for a member a value lacks. -/
def noMember {α : Type} (v : Value) (name : String) : Act α := do
  Act.raise (Fault.noAttribute (← kindNameOf v) name)

/-- A field of the object a value refers to, or the failure of a missing member. -/
def attributeOf (v : Value) (name : String) : Act Value := do
  match v with
  | .ref h =>
    match (← deref h).attribute? name with
    | some x => return x
    | none => noMember v name
  | _ => noMember v name

/-- `container[key]`: a mapping entry, or a list item or a character of a text by
whole-number index (negative indices count from the end). -/
def itemOf (container key : Value) : Act Value := do
  match container with
  | .dict es =>
    match Dict.lookup? es key with
    | some x => return x
    | none => Act.raise (.missingKey key)
  | .list xs | .tuple xs =>
    match key with
    | .int i =>
      let n : Int := xs.length
      let j := if i < 0 then i + n else i
      if 0 ≤ j && j < n then return xs.getD j.toNat .none
      Act.raise Fault.indexOut
    | .bool b => match xs[if b then 1 else 0]? with
      | some x => return x
      | none => Act.raise Fault.indexOut
    | _ => Act.raise (.typeError ("list indices must be integers or slices, not " ++ key.kindName))
  | .str s =>
    match key with
    | .int i =>
      let n : Int := s.length
      let j := if i < 0 then i + n else i
      if 0 ≤ j && j < n then return .str (String.singleton (s.toList.getD j.toNat ' '))
      Act.raise (.of .indexError "string index out of range")
    | .bool b => match s.toList[if b then 1 else 0]? with
      | some c => return .str (String.singleton c)
      | none => Act.raise (.of .indexError "string index out of range")
    | _ => Act.raise (.typeError ("string indices must be integers, not '" ++ key.kindName ++ "'"))
  | .none => Act.raise (.typeError "'NoneType' object is not subscriptable")
  | .ref h =>
    match ← deref h with
    | .message d =>
      match Dict.lookup? d key with
      | some x => return x
      | none => Act.raise (.missingKey key)
    | _ => Act.raise (.typeError ("'" ++ (← kindNameOf container) ++ "' object is not subscriptable"))
  | _ => Act.raise (.typeError ("'" ++ container.kindName ++ "' object is not subscriptable"))

/-- The song behind a reference. -/
def songAt (v : Value) : Act (Nat × Song) := do
  match v with
  | .ref h => match ← deref h with
    | .song s => return (h, s)
    | _ => noMember v "data"
  | _ => noMember v "data"

/-- The album, artist or group behind a reference. -/
def metadataAt (v : Value) : Act (Nat × Metadata) := do
  match v with
  | .ref h => match ← deref h with
    | .metadata m => return (h, m)
    | _ => noMember v "id"
  | _ => noMember v "id"

/-- The event behind a reference. -/
def eventAt (v : Value) : Act (Nat × Event) := do
  match v with
  | .ref h => match ← deref h with
    | .event e => return (h, e)
    | _ => noMember v "songs"
  | _ => noMember v "songs"

/-- The producer behind a reference. -/
def producerAt (v : Value) : Act (Nat × Producer) := do
  match v with
  | .ref h => match ← deref h with
    | .producer p => return (h, p)
    | _ => noMember v "id"
  | _ => noMember v "id"

/-- The user behind a reference. -/
def userAt (v : Value) : Act (Nat × User) := do
  match v with
  | .ref h => match ← deref h with
    | .user u => return (h, u)
    | _ => noMember v "data"
  | _ => noMember v "data"

/-- The locale behind a reference. -/
def localeAt (v : Value) : Act Locale := do
  match v with
  | .ref h => match ← deref h with
    | .locale l => return l
    | _ => noMember v "translate"
  | _ => noMember v "translate"

/-- Changes the song under a handle. -/
def updateSong (h : Nat) (f : Song → Song) : Act Unit := do
  match ← deref h with
  | .song s => store h (.song (f s))
  | _ => pure ()

/-- Changes the metadata under a handle. -/
def updateMetadata (h : Nat) (f : Metadata → Metadata) : Act Unit := do
  match ← deref h with
  | .metadata m => store h (.metadata (f m))
  | _ => pure ()

/-- Changes the event under a handle. -/
def updateEvent (h : Nat) (f : Event → Event) : Act Unit := do
  match ← deref h with
  | .event e => store h (.event (f e))
  | _ => pure ()

/-- Changes the producer under a handle. -/
def updateProducer (h : Nat) (f : Producer → Producer) : Act Unit := do
  match ← deref h with
  | .producer p => store h (.producer (f p))
  | _ => pure ()

/-- Changes the user under a handle. -/
def updateUser (h : Nat) (f : User → User) : Act Unit := do
  match ← deref h with
  | .user u => store h (.user (f u))
  | _ => pure ()

/-! ## What goes out -/

/-- Publishes a message to the other processes. -/
def publish (v : Value) : Act Unit :=
  modify fun w => { w with outbox := { w.outbox with published := w.outbox.published.push v } }

/-- Records a message sent over a websocket. -/
def sendSocket (v : Value) : Act Unit :=
  modify fun w => { w with outbox := { w.outbox with socketMessages := w.outbox.socketMessages.push v } }

/-- Records a finished HTTP response. -/
def recordResponse (v : Value) : Act Unit :=
  modify fun w => { w with outbox := { w.outbox with responses := w.outbox.responses.push v } }

/-- Schedules a timer that runs `run`, named `callback` where it is logged, and returns its
handle. -/
def addTimer (seconds : Double) (callback : String) (run : Callback) : Act Value := do
  let w ← get
  let handle := w.timerCount + 1
  let entry := Value.list [.str "add_timeout", .float seconds, .str callback, .nat handle]
  set { w with
    timerCount := handle, loop := w.loop ++ [(handle, run)],
    outbox := { w.outbox with timers := w.outbox.timers.push entry } }
  return .nat handle

/-- Cancels a timer: it leaves the event loop. -/
def removeTimer (handle : Value) : Act Unit :=
  let entry := Value.list [.str "remove_timeout", handle]
  modify fun w => { w with
    loop := w.loop.filter fun e => !Value.equals handle (.nat e.1),
    outbox := { w.outbox with timers := w.outbox.timers.push entry } }

/-- A fresh unique identifier, counted per run. -/
def freshUuid : Act String := do
  let w ← get
  let n := w.uuidCount + 1
  set { w with uuidCount := n }
  return "00000000-0000-4000-8000-" ++ Value.hexPad 12 n

end Airwaves
