import Airwaves.Web.SignIn
import Airwaves.Web.Response
/-!
# Serving a request over HTTP

A route ties an address pattern to an endpoint, with the standard preparation of a request and
how its page is answered, sent and written on failure.
-/
namespace Airwaves.Web

open Api

/-- The status a failure is answered with: the refusal's, or 500. -/
def statusOf (f : Fault) : Nat :=
  match f with
  | .api e => e.httpCode
  | .http code => code
  | .raised _ _ => 500

/-- The station a request asks for: the cookie, then the host it was sent to, then the
`sid` argument, each read as a whole number. -/
def askedStation (v : Value) : Act Value := do
  let mut sid := Fields.integer (← cookie v "r4_sid")
  let host ← header v "Host"
  if host.truthy then
    let name := Value.str ((host.display.splitOn ":").headD "")
    let hosts := (← Config.current).stationHostnames
    if ← isIn name hosts then sid ← itemOf hosts name
  let given := Fields.integer (← argument v "sid")
  if !(given matches .none) then sid := given
  return sid

/-- The standard preparation of a request to an endpoint. -/
def prepareRequest (e : Endpoint) (v : Value) : Act Unit := do
  let address ← remoteAddress v
  if e.gates.trustedOnly then
    if !(← isIn address (← Config.get "api_trusted_ip_addresses")) then
      Act.raise (refuseWith "rejected" "You are not coming from a trusted address.")
  if e.allowCors then
    setHeader v "Access-Control-Allow-Origin" (.str "*")
    setHeader v "Access-Control-Max-Age" (.str "600")
    setHeader v "Access-Control-Allow-Credentials" (.str "false")
  setupOutput e v
  if ← isGiven v "in_order" then
    changeHandler v fun h => { h with output := .list [], outputArray := .bool true }
  else changeHandler v fun h => { h with output := .dict [] }
  let sid ← askedStation v
  changeHandler v fun h => { h with sid := sid }
  if sid matches .none then
    if e.gates.station then Act.raise (refuse "missing_station_id" 400)
  readArguments (← e.seen) v
  checkStation e v
  let sid ← stationOf v
  if sid.truthy then setCookie v "r4_sid" (.str sid.display)
  if e.forumAuth then forumSignIn v else keySignIn e v
  if (← userOf v) matches .none then
    if e.gates.keyed then Act.raise (refuse "auth_required" 403)
    let _ ← takeUser v (.int 1)
  let user ← userOf v
  Listeners.refresh user (← stationOf v)
  if (← Config.get "store_prefs").truthy then
    Listeners.savePreferences user address (← cookie v "r4_prefs")
  checkCaller e v

/-- Writes a failure into a JSON answer and sends it. Answers the failure as shown; a
failure to send is left for the caller to notice. -/
def answerFailure (finish : Value → Act Unit) (v : Value) (f : Fault) : Act Fault := do
  let shown ← writeError v f (statusOf f)
  let _ ← Act.attempt (finish v)
  return shown

/-- A route of the site: the address pattern, the endpoint, the kind of page, the fields
its handler starts with, and how requests to it are prepared, answered (by method, with
the parts the pattern captured), sent and failed. A waiting route is not sent when its
method returns. -/
structure Route where
  endpoint : Endpoint
  pattern : String := endpoint.url
  page : Page := .answer
  attributes : List (String × Value) := []
  prepare : Value → Act Unit := prepareRequest endpoint
  post : Option (Value → List Value → Act Unit) := some fun v _ => endpoint.serve v
  get : Option (Value → List Value → Act Unit) := none
  finish : Value → Act Unit := finishAnswer
  writeError : Value → Fault → Act Fault := answerFailure finish
  waits : Bool := false

namespace Route

/-- A handler for a request to the route: the route's endpoint and page, the browser's
locale, the clock now and a fresh response. -/
def start (r : Route) (request : Value) : Act Value := do
  let v ← openHandler r.endpoint
  let locale ← Locale.browserLocaleFrom (← attributeOf request "cookies") request (.str "en_CA")
  let now ← timestamp
  changeHandler v fun h =>
    { h with page := r.page, request := request, locale := locale, headers := freshHeaders,
             extra := h.extra ++ r.attributes ++ [("_startclock", now)] }
  return v

/-- Answers a failure that stopped a request: a fresh response with the failure's status,
the failure written by the page, and the response sent if the page did not send it.
Answers the failure as shown, and a failure met while sending. -/
def sendError (r : Route) (v : Value) (f : Fault) : Act (Fault × Option Fault) := do
  clearResponse v
  setStatus v (statusOf f)
  let shown ← match ← Act.attempt (r.writeError v f) with
    | .ok g => pure g
    | .error _ => pure f
  if !(← isFinished v) then
    if let .error g ← Act.attempt (r.finish v) then return (shown, some g)
  return (shown, none)

/-- The method of the route that answers a request method. -/
def methodFor (r : Route) (method : String) : Option (Value → List Value → Act Unit) :=
  if method == "get" then r.get else if method == "post" then r.post else none

/-- Serves a request to the route with the parts its pattern captured. Answers the
failure that stopped it (as shown) and a failure met while answering that one. -/
def respond (r : Route) (v : Value) (method : String) (captured : List Value) :
    Act (Option Fault × Option Fault) := do
  let outcome ← Act.attempt do
    r.prepare v
    if ← isFinished v then return
    match r.methodFor method with
    | some answer => answer v captured
    | none => Act.raise (.http 405)
    if !(← isFinished v) && !r.waits then r.finish v
  match outcome with
  | .ok () => return (none, none)
  | .error f =>
    if ← isFinished v then return (some f, none)
    let (shown, failed) ← r.sendError v f
    return (some shown, failed)

end Route

end Airwaves.Web
