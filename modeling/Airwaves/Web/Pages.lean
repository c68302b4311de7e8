import Airwaves.Web.Exchange
import Airwaves.Api.Directory
/-!
# Pages of the site

The start of a client, error reports, playlist files and the other pages served over HTTP
besides the plain JSON answers.
-/
namespace Airwaves.Web

open Api

/-! ## The start of a client -/

/-- The standard preparation, then a key for the listener. -/
def prepareStart (e : Endpoint) (v : Value) : Act Unit := do
  prepareRequest e v
  let _ ← Listeners.ensureApiKey (← userOf v)

/-- Whether a browser's agent text names a phone. -/
def isPhone (agent : String) : Bool :=
  let lower := Unicode.lower agent
  Fields.containsText lower "mobile" || Fields.containsText lower "android"

/-- The start-up script of the web client. -/
def startScript (v : Value) (_ : List Value) : Act Unit := do
  setHeader v "Content-Type" (.str "text/javascript")
  put v "locales" (.dict Locale.shortNames)
  put v "cookie_domain" (← Config.get "cookie_domain")
  put v "on_init" (.list [])
  put v "on_measure" (.list [])
  put v "on_draw" (.list [])
  put v "websocket_host" (← Config.get "websocket_host")
  Boot.attachBootstrap v
  let phone ← match ← header v "User-Agent" with
    | .str agent => pure (isPhone agent)
    | other => noMember other "lower"
  write v (if phone then "window.MOBILE = true;" else "window.MOBILE = false;")
  write v "var BOOTSTRAP="

/-- The start of a client, as JSON or as a script. -/
def bootstrap : Route where
  endpoint := Boot.bootstrap
  prepare := prepareStart Boot.bootstrap
  get := some startScript

/-- The start of a DJ's client, as JSON or as a script. -/
def bootstrapDj : Route where
  endpoint := Boot.bootstrapDj
  prepare := prepareStart Boot.bootstrapDj
  get := some startScript

/-! ## Error reports -/

/-- The host name of an address: the part between `//` and the path, without the user
before `@`, the number after `:` or the brackets around it, in lower case; none when the
address has none. -/
def hostName (address : String) : Value :=
  let place := (((hostOf address).splitOn "@").getLast?).getD ""
  let name :=
    if place.startsWith "[" then ((place.drop 1).toString.splitOn "]").headD ""
    else (place.splitOn ":").headD ""
  if name.isEmpty then .none else .str (Unicode.lower name)

/-- Refuses an error report that does not come from a page of an accepted host. -/
def checkReferrer (v : Value) : Act Unit := do
  let referrer ← header v "Referer"
  let refusal (why : String) : Fault :=
    refuseWith "auth_failed" ("Error reporting cannot be made from an external address. (" ++ why ++ ")")
  if !referrer.truthy then Act.raise (refusal "no referral")
  let host := hostName referrer.display
  if ← isIn host (← Config.current).stationHostnames then return
  if ← Config.has (.str "accept_error_reports_from_hosts") then
    if ← isIn host (← Config.get "accept_error_reports_from_hosts") then return
  Act.raise (refusal host.display)

/-- Error reports from the web client. -/
def errorReport : Route where
  endpoint := Reports.errorReport
  prepare v := do
    checkReferrer v
    prepareRequest Reports.errorReport v

/-! ## Playlist files -/

/-- A page of text fails empty: a refusal is translated for the failure as shown. -/
def documentFailure (v : Value) (f : Fault) : Act Fault := do localize (← localeOf v) f

/-- A station name in lower case; a name that is not text cannot be lowered. -/
def lowerName (name : Value) : Act String := do
  match name with
  | .str s => return Unicode.lower s
  | other => noMember other "lower"

/-- The station a playlist address names: by number, or by name in any case; the
request's station otherwise. A station that is not served is not found. -/
def playlistStation (v named : Value) : Act Value := do
  if named.truthy then
    let n := Fields.positiveInteger named
    if n.truthy then changeHandler v fun h => { h with sid := n }
    else
      let names ← match (← Config.current).stationIdFriendly with
        | .dict es => pure es
        | other => noMember other "iteritems"
      let wanted := Unicode.lower named.display
      for (sid, name) in names do
        if (← lowerName name) == wanted then
          changeHandler v fun h => { h with sid := sid }
          break
  let sid ← stationOf v
  if !sid.truthy then Act.raise (.http 404)
  if !(← Config.stationIdList).any (Value.equals · sid) then Act.raise (.http 404)
  return sid

/-- The playlist file of a station for a player format. -/
def playlist (v : Value) (captured : List Value) : Act Unit := do
  let sid ← playlistStation v (captured.getD 0 .none)
  let format := (captured.getD 1 .none).display
  let name ← itemOf (← Config.current).stationIdFriendly sid
  let station := name.display
  setHeader v "Content-Disposition"
    (.str ("inline; filename=\"rainwave_" ++ (← lowerName name) ++ "_" ++ format ++ ".m3u\""))
  let user ← userOf v
  let file ← Now.streamFilename sid format user
  write v ("#EXTINF:0,Rainwave " ++ station ++ ": " ++ (← translate v "random_relay").display ++ "\n")
  write v ((← Now.relayUrl sid format user) ++ "\n")
  for relay in ← itemsOf (← itemOf (← Config.current).publicRelays sid) do
    write v ("#EXTINF:0, Rainwave " ++ station ++ ": " ++ (← col relay "name").display ++ " Relay\n")
    write v ((← col relay "protocol").display ++ (← col relay "hostname").display ++ ":" ++
      (← col relay "port").display ++ "/" ++ file ++ "\n")

/-- The endpoint of playlist files. -/
def playlistEndpoint : Endpoint where
  url := "/tune_in/(\\w+|\\d)\\.(ogg|mp3)"
  gates := { keyed := false, station := false }
  forumAuth := true
  allowGet := true
  serve _ := pure ()

/-- Playlist files, never cached. -/
def playlistRoute : Route where
  endpoint := playlistEndpoint
  page := .document
  prepare v := do
    prepareRequest playlistEndpoint v
    setHeader v "Content-Type" (.str "audio/x-mpegurl")
    setHeader v "Cache-Control" (.str "no-cache, must-revalidate")
    setHeader v "Expires" (.str "Mon, 26 Jul 1997 05:00:00 GMT")
  post := none
  get := some playlist
  finish := finishResponse
  writeError := documentFailure

/-! ## The web-app manifest -/

/-- An icon of the web app at a size. -/
def icon (size : Nat) : Value :=
  .record [("src", .str ("/static/images4/android/" ++ toString size ++ ".png")),
    ("sizes", .str (toString size ++ "x" ++ toString size)), ("type", .str "image/png")]

/-- The web-app manifest of the request's station. -/
def manifest (v : Value) (_ : List Value) : Act Unit := do
  let sid ← stationOf v
  if !(← Config.stationIdList).any (Value.equals · sid) then Act.raise (.http 404)
  setHeader v "Content-Type" (.str "application/x-web-app-manifest+json")
  let station ← itemOf (← Config.current).stationIdFriendly sid
  let code ← attributeOf (← localeOf v) "code"
  let m := Value.record [("lang", .str (code.display.take 2).toString), ("short_name", station),
    ("name", .str ("Rainwave " ++ station.display)),
    ("description", ← translate v ("station_description_id_" ++ sid.display)),
    ("launch_path", .str "/"), ("start_url", .str "/"),
    ("developer", .record [("name", .str "Rainwave"), ("url", .str "http://rainwave.cc")]),
    ("fullscreen", .bool true), ("orientation", .str "portrait"), ("display", .str "standalone"),
    ("theme_color", .str "#1978B7"), ("background_color", .str "#000"),
    ("splash_screens", .list [.record [("src", .str "/static/images4/logo_white.png"),
      ("sizes", .str "512x512")]]),
    ("icons", .list ([32, 48, 128, 256, 384, 512].map icon))]
  match Json.write .spacedUnicode m with
  | .ok text => write v text
  | .error e => Act.raise (.typeError e.message)

/-- The endpoint of the web-app manifest. -/
def manifestEndpoint : Endpoint where
  url := "/manifest.json"
  gates := { keyed := false, station := false }
  forumAuth := true
  allowGet := true
  serve _ := pure ()

/-- The web-app manifest. -/
def manifestRoute : Route where
  endpoint := manifestEndpoint
  page := .document
  post := none
  get := some manifest
  finish := finishResponse
  writeError := documentFailure

end Airwaves.Web
