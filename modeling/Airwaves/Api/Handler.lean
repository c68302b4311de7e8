import Airwaves.Api.Endpoint
import Airwaves.Listener.Account
import Airwaves.Locale.Catalog
/-!
# Serving one request

Before an endpoint runs, its handler names its answer, reads its arguments in order, and checks
the station and the caller; the first check that fails refuses the request.
-/
namespace Airwaves.Api

/-- The handler behind a reference. -/
def handlerAt (v : Value) : Act (Nat × Handler) := do
  match v with
  | .ref h => match ← deref h with
    | .handler x => return (h, x)
    | _ => noMember v "_output"
  | _ => noMember v "_output"

/-- The handler behind a reference. -/
def handlerOf (v : Value) : Act Handler := do return (← handlerAt v).2

/-- Changes the handler behind a reference. -/
def changeHandler (v : Value) (f : Handler → Handler) : Act Unit := do
  let (h, x) ← handlerAt v
  store h (.handler (f x))

/-- A fresh handler for an endpoint, with the endpoint's settings as its fields. -/
def openHandler (e : Endpoint) : Act Value :=
  allocRef (.handler
    { route := e.url, returnName := Value.ofOption (e.returnName.map .str), extra := e.settings })

/-- The endpoint of a handler made on its own, at no address and with no arguments. -/
def plainEndpoint : Endpoint where
  url := ""
  serve _ := pure ()

/-- A handler made on its own. -/
def plainHandler : Act Value := openHandler plainEndpoint

/-! ## Arguments -/

/-- The arguments of the request as given. -/
def givenArguments (v : Value) : Act Value := do
  attributeOf (← attributeOf v "request") "arguments"

/-- Whether the request gave an argument. -/
def isGiven (v : Value) (name : String) : Act Bool := do isIn (.str name) (← givenArguments v)

/-- The value given for an argument as the handler reads it: a list gives its last item
without surrounding blanks, anything else is taken as it is. -/
def readGiven (x : Value) : Act Value := do
  match x with
  | .list xs =>
    match xs.getLast? with
    | some (.str s) => return .str (Value.strip s)
    | some other => noMember other "strip"
    | none => Act.raise Fault.indexOut
  | x => return x

/-- An argument: its checked value, else its value as given, else a fallback. -/
def argumentOr (v : Value) (name : String) (fallback : Value) : Act Value := do
  let h ← handlerOf v
  if let some x := Dict.field? h.cleanedArgs name then return x
  let args ← givenArguments v
  if !(← isIn (.str name) args) then return fallback
  readGiven (← itemOf args (.str name))

/-- An argument, none when absent. -/
def argument (v : Value) (name : String) : Act Value := argumentOr v name .none

/-- Sets a checked argument. -/
def setArgument (v : Value) (name : String) (x : Value) : Act Unit :=
  changeHandler v fun h => { h with cleanedArgs := Dict.putField h.cleanedArgs name x }

/-- A cookie of the request, if it has one. -/
def cookie (v : Value) (name : String) : Act Value := do
  let cookies ← attributeOf (← attributeOf v "request") "cookies"
  if !cookies.truthy then return .none
  if !(← isIn (.str name) cookies) then return .none
  attributeOf (← itemOf cookies (.str name)) "value"

/-! ## The answer -/

/-- Sets an entry of a mapping held in a value. -/
def putEntry (d key x : Value) : Act Value := do
  match d with
  | .dict es => return .dict (Dict.put es key x)
  | other => Act.raise (.typeError ("'" ++ other.kindName ++ "' object does not support item assignment"))

/-- Adds a named part to the answer, unless the part is none; answers the part's `code`
when it has one, and true otherwise. -/
def append (v key x : Value) : Act Value := do
  if x matches .none then return .none
  let h ← handlerOf v
  if h.outputArray.truthy then
    match h.output with
    | .list xs => changeHandler v fun h => { h with output := .list (xs ++ [.dict [(key, x)]]) }
    | other => noMember other "append"
  else
    let out ← putEntry h.output key x
    changeHandler v fun h => { h with output := out }
  if ← isIn (.str "code") x then itemOf x (.str "code") else return .bool true

/-- Adds a named part under a text name. -/
def put (v : Value) (key : String) (x : Value) : Act Unit := do let _ ← append v (.str key) x

/-- The handler's locale. -/
def localeOf (v : Value) : Act Value := attributeOf v "locale"

/-- Translates a key for the handler's locale. -/
def translate (v : Value) (key : String) (args : List (String × Value) := []) : Act Value := do
  Locale.translateWith (← localeOf v) (.str key) args

/-- The answer name of the handler. -/
def answerName (v : Value) : Act Value := do return (← handlerOf v).returnName

/-- Adds a standard part: the details given, whether it succeeded, the translation key
and its text (translated with the details unless given), under the answer name or the
name given. -/
def appendStandard (v : Value) (key : String) (text : Value) (success : Bool) (name : Value)
    (details : List (String × Value)) : Act Unit := do
  let text ← if text.truthy then pure text else translate v key details
  let part := Value.record (details ++ [("success", .bool success), ("tl_key", .str key), ("text", text)])
  let target ← if name.truthy then pure name else answerName v
  let _ ← append v target part

/-- Adds a successful standard part with translated text under the answer name. -/
def standard (v : Value) (key : String) (details : List (String × Value) := []) : Act Unit :=
  appendStandard v key .none true .none details

/-- Adds a successful standard part with a given text under the answer name. -/
def standardText (v : Value) (key text : String) (details : List (String × Value) := []) :
    Act Unit :=
  appendStandard v key (.str text) true .none details

/-- Names the answer after the endpoint unless it already has a name. -/
def setupOutput (e : Endpoint) (v : Value) : Act Unit := do
  let h ← handlerOf v
  if !h.returnName.truthy then
    changeHandler v fun h => { h with returnName := .str (e.lastPart ++ "_result") }

/-! ## Checks before an endpoint runs -/

namespace Field

/-- The refusal of a required argument that was not given. -/
def missing (f : Field) : Fault := refuse "missing_argument" 400 [("argument", .str f.name)]

/-- The refusal of an argument its kind does not accept, with the kind's error text. -/
def invalid (f : Field) : Fault :=
  refuse "invalid_argument" 400 [("argument", .str f.name),
    ("reason", .str (f.name ++ " " ++ f.kind.errorValue.display))]

end Field

/-- Reads one argument. One that was not given reads as none and refuses the request when it
is required; a given one is read by its kind, and a reading of none refuses the request
unless the argument is lenient. -/
def readArgument (v : Value) (f : Field) : Act Unit := do
  if !(← isGiven v f.name) then
    if f.need == .required then Act.raise f.missing
    setArgument v f.name .none
  else
    let parsed ← f.kind.check (← argument v f.name) v
    if (parsed matches .none) && f.need != .lenient then Act.raise f.invalid
    setArgument v f.name parsed

/-- Reads arguments one after another, in order. -/
def readFields (v : Value) (fs : List Field) : Act Unit := fs.forM (readArgument v)

/-- Reads the endpoint's arguments in order: a required argument that is absent, or an
argument that is not acceptable and not lenient, refuses the request. -/
def readArguments (e : Endpoint) (v : Value) : Act Unit := readFields v e.fields

/-- Checks the station: a missing station becomes the default one when none is needed;
station zero passes where allowed; any other station must be configured. -/
def checkStation (e : Endpoint) (v : Value) : Act Unit := do
  let h ← handlerOf v
  if h.sid matches .none then
    if !e.gates.station then
      let fallback ← Config.get "default_station"
      changeHandler v fun h => { h with sid := fallback }
  let sid := (← handlerOf v).sid
  if Value.equals sid (.int 0) && e.gates.stationZero then return
  if !(← Config.stationIdList).any (Value.equals · sid) then
    Act.raise (refuse "invalid_station_id" 400)

/-- The handler's user. -/
def userOf (v : Value) : Act Value := do return (← handlerOf v).user

/-- The handler's station. -/
def stationOf (v : Value) : Act Value := do return (← handlerOf v).sid

/-- The user behind a value, failing as a missing member named by the caller when the
value is none. -/
def someUser (user : Value) (member : String) : Act User := do
  if user matches .none then noMember user member
  Listeners.userOf user

/-- Whether a user value is anonymous. -/
def anonymous (user : Value) : Act Bool := do Listeners.isAnonymous (← someUser user "is_anonymous")

/-- Whether a user value is tuned in. -/
def tunedIn (user : Value) : Act Bool := do
  let _ ← someUser user "is_tunedin"
  return (← Listeners.tunedIn user).truthy

/-- The id of the handler's user. -/
def userIdOf (v : Value) : Act Value := do return (← someUser (← userOf v) "id").id

/-- A gate that asks for a caller with a property: without a caller, or when the property
fails, the request is refused with the gate's key. -/
def requireCaller (asked present : Bool) (key : String) (holds : Act Bool) : Act Unit := do
  if asked then
    if !present then Act.raise (refuse key 403)
    if !(← holds) then Act.raise (refuse key 403)

/-- The gate of endpoints for listeners not locked to another station: without a caller the
request is refused as needing one; a lock elsewhere is refused with the friendly name of the
station locked to and the lock's counter. -/
def requireUnlocked (asked present : Bool) (user sid : Value) : Act Unit := do
  if asked then
    if !present then Act.raise (refuse "auth_required" 403)
    let u ← Listeners.userOf user
    if (← Listeners.dataOf u "lock").truthy then
      let lockSid ← Listeners.dataOf u "lock_sid"
      if !Value.equals lockSid sid then
        let station ← itemOf (← Config.current).stationIdFriendly lockSid
        let counter ← Listeners.dataOf (← Listeners.userOf user) "lock_counter"
        Act.raise (refuse "unlocked_only" 403 [("station", station), ("lock_counter", counter)])

/-- The DJ gate: an administrator, or a user among the station's DJs; the user is then
marked as DJ. -/
def requireDj (asked present : Bool) (user sid : Value) : Act Unit := do
  if asked then
    if !present then Act.raise (refuse "dj_required" 403)
    if !(← Listeners.isAdmin user) then
      let djs ← Cache.readStation sid "dj_user_ids"
      if !djs.truthy then Act.raise (refuse "dj_required" 403)
      if !(← isIn (← Listeners.userOf user).id djs) then Act.raise (refuse "dj_required" 403)
    Listeners.setData user "dj" (.bool true)

/-- The gate of DJ preparation: an administrator, or a user the database counts as owning an
unused DJ schedule. The caller is asked whether they administer before anything else, so
without a caller it fails as a missing member. -/
def requireDjPreparation (asked present : Bool) (user : Value) : Act Unit := do
  if asked then
    if !present then noMember user "is_admin"
    if !(← Listeners.isAdmin user) then
      if !(← fetchVar [(← Listeners.userOf user).id]).truthy then
        Act.raise (refuse "dj_required" 403)

/-- Checks the caller against the endpoint's gates, in order: login, tuned in,
administrator, perks, not locked elsewhere, DJ and DJ preparation (asked only of a caller
who did not pass as DJ). -/
def checkCaller (e : Endpoint) (v : Value) : Act Unit := do
  let g := e.gates
  let user ← userOf v
  let sid ← stationOf v
  let present := user.truthy
  requireCaller (g.login || g.admin || g.dj) present "login_required" (do return !(← anonymous user))
  requireCaller g.tunedIn present "tunein_required" (tunedIn user)
  requireCaller g.admin present "admin_required" (Listeners.isAdmin user)
  requireCaller g.perks present "perks_required" (do return (← Listeners.perks user).truthy)
  requireUnlocked g.unlockedOnly present user sid
  requireDj g.dj present user sid
  requireDjPreparation (g.djPreparation && !g.dj) present user

/-- Prepares a handler for a request that arrives without cookies or headers: an empty
answer (holding the message id when one is given), the answer name, the arguments, the
station and the caller. -/
def prepareStandalone (e : Endpoint) (v : Value) (messageId : Value := .none) : Act Unit := do
  changeHandler v fun h => { h with output := .dict [] }
  if !(messageId matches .none) then
    put v "message_id" (Value.record [("message_id", messageId)])
  setupOutput e v
  readArguments (← e.seen) v
  checkStation e v
  checkCaller e v

/-! ## Failures -/

/-- Fills in a refusal's text from the locale, unless it has one. -/
def localize (locale : Value) (f : Fault) : Act Fault := do
  match f with
  | .api err =>
    let known := match err.reason with
      | some r => !r.isEmpty
      | none => false
    if known || !locale.truthy then return f
    let args := err.extra.filterMap fun (k, x) => match k with
      | .str s => some (s, x)
      | _ => none
    match ← Locale.translateWith locale (.str err.tlKey) args with
    | .str text => return .api { err with reason := some text }
    | _ => return f
  | _ => return f

/-- The client form of a refusal: its details with its status, failure, key and text;
the details keep these entries. -/
def clientForm (err : ApiError) : ApiError × Value :=
  let extra := Dict.putField (Dict.putField (Dict.putField (Dict.putField err.extra
    "code" (.nat err.httpCode)) "success" (.bool false)) "tl_key" (.str err.tlKey))
    "text" (Value.ofOption (err.reason.map Value.str))
  ({ err with extra := extra }, .dict extra)

/-- Whether a failure is a missing song. -/
def isMissingSong (f : Fault) : Bool := f.isKind .songNonExistent

/-- Replaces the answer after a failure: the refusal's client form under the answer name,
the missing-song form, or for any other failure its written form and a trace. The answer
keeps the message id when it had one. Answers the failure as it stands afterwards. -/
def writeError (v : Value) (f : Fault) (status : Nat := 500) : Act Fault := do
  let h ← handlerOf v
  if h.outputArray.truthy then
    changeHandler v fun h => { h with output := .list [] }
  else
    let keep ← do
      if !h.output.truthy then pure none
      else if ← isIn (.str "message_id") h.output then pure (some (← itemOf h.output (.str "message_id")))
      else pure none
    match keep with
    | some mid =>
      let text ← translate v "internal_error"
      let part := Value.record [("tl_key", .str "internal_error"), ("text", text),
        ("status", .int 500), ("success", .bool false)]
      changeHandler v fun h => { h with output := .dict [(.str "message_id", mid), (h.returnName, part)] }
    | none => changeHandler v fun h => { h with output := .dict [] }
  let name ← answerName v
  match ← localize (← localeOf v) f with
  | .api err =>
    let (err, form) := clientForm err
    let _ ← append v name form
    return .api err
  | other =>
    if isMissingSong other then
      let text ← translate v "song_does_not_exist"
      put v "error" (Value.record [("code", .nat status), ("tl_key", .str "song_does_not_exist"),
        ("text", text)])
    else
      put v "error" (Value.record [("code", .nat status), ("tl_key", .str "internal_error"),
        ("text", .str other.written)])
      put v "traceback" (Value.record [("traceback", .list [])])
    return other

/-! ## Paging -/

/-- The limit clause for a page size and a page start: `LIMIT 100` without a size, `LIMIT ALL`
for an empty one, the size written out otherwise, and the start written out as an offset
when there is one. -/
def limitClause (perPage start : Value) : String :=
  let clause := match perPage with
    | .none => "LIMIT 100"
    | size => if size.truthy then "LIMIT " ++ size.display else "LIMIT ALL"
  if start.truthy then clause ++ " OFFSET " ++ start.display else clause

/-- The limit clause of a paged endpoint, from its `per_page` and `page_start` arguments. -/
def pageLimit (v : Value) : Act String := do
  return limitClause (← argument v "per_page") (← argument v "page_start")

end Airwaves.Api
