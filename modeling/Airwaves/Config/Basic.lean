import Airwaves.World
import Airwaves.Json.Read
import Airwaves.Json.Write
import Airwaves.Value.SetOrder
/-!
# Configuration

The configuration document and what loading it derives: the station list, relays, host names
and mounts.
-/
namespace Airwaves.Config

/-- The configuration in the world. -/
def current : Act Config := do return (← get).config

/-- Replaces the configuration. -/
def put (c : Config) : Act Unit := modify fun w => { w with config := c }

/-- Changes the configuration. -/
def change (f : Config → Config) : Act Unit := modify fun w => { w with config := f w.config }

/-- Whether a top-level option is present. -/
def has (key : Value) : Act Bool := do return Dict.hasKey (← current).opts key

/-- Fails unless a top-level option is present. -/
def require (key : Value) : Act Unit := do
  unless ← has key do
    Act.raise (.general ("Required configuration key '" ++ key.display ++ "' not found."))

/-- A top-level option. -/
def option (key : Value) : Act Value := do
  require key
  return (Dict.lookup? (← current).opts key).getD .none

/-- A top-level option by name. -/
def get (key : String) : Act Value := option (.str key)

/-- A directory option; an empty one stands for the temporary directory. -/
def directory (key : Value) : Act Value := do
  let v ← option key
  return if v.truthy then v else .str "/tmp"

/-- Sets a top-level option and returns it. -/
def setOption (key v : Value) : Act Value := do
  change fun c => { c with opts := Dict.put c.opts key v }
  return v

/-- The per-station blocks. -/
def stations : Act Dict := do
  match Dict.field? (← current).opts "stations" with
  | some (.dict d) => return d
  | _ => Act.raise (.missingKey (.str "stations"))

/-- Whether a station has an option. -/
def hasStation (sid key : Value) : Act Bool := do
  match Dict.lookup? (← stations) sid with
  | some (.dict block) => return Dict.hasKey block key
  | some _ => return false
  | none => return false

/-- An option of a station. -/
def station (sid key : Value) : Act Value := do
  match Dict.lookup? (← stations) sid with
  | none => Act.raise (.general ("Station SID " ++ sid.display ++ " has no configuration."))
  | some block =>
    match block with
    | .dict d =>
      match Dict.lookup? d key with
      | some v => return v
      | none => Act.raise (.general ("Station SID " ++ sid.display ++ " has no configuration key " ++
          key.display ++ "."))
    | _ => Act.raise (.general ("Station SID " ++ sid.display ++ " has no configuration key " ++
        key.display ++ "."))

/-- An option of a station by name. -/
def stationGet (sid : Value) (key : String) : Act Value := station sid (.str key)

/-- The station ids. -/
def stationIdList : Act (List Value) := do return (← current).stationIds

/-- Whether a value is one of the station ids. -/
def isStation (sid : Value) : Act Bool := do
  return (← stationIdList).any fun s => Value.equals s sid

/-- Items of a value that can be walked: list items, or the keys of a mapping. -/
def walk (v : Value) : Act (List Value) := do
  match v with
  | .list xs | .tuple xs | .set xs => return xs
  | .dict es => return Dict.keyList es
  | .str s => return s.toList.map fun c => .str c.toString
  | _ => Act.raise (.typeError ("'" ++ v.kindName ++ "' object is not iterable"))

/-- The entries of a mapping; anything else fails as the method the service calls on it
would. -/
def entriesOf (v : Value) (method : String) : Act Dict :=
  match v with
  | .dict es => pure es
  | _ => Act.raise (.noAttribute v.kindName method)

/-- Collects the stations fed by the music directories (each once, station zero left out,
in the order a set of them walks them) and adds the friendly names, their keys read as
whole numbers. -/
def setStationIds (dirs friendly : Value) : Act Unit := do
  let dirEntries ← entriesOf dirs "iteritems"
  let mut found : List Value := []
  for (_, sids) in dirEntries do
    for sid in ← walk sids do
      if !(found.any fun s => Value.equals s sid) && !(Value.equals sid (.int 0)) then
        found := found ++ [sid]
  change fun c => { c with stationIds := SetOrder.order found }
  let friendEntries ← entriesOf friendly "iteritems"
  for (sid, name) in friendEntries do
    let key ← Act.lift (Value.toInt sid)
    change fun c =>
      let names := match c.stationIdFriendly with
        | .dict d => d
        | _ => []
      { c with stationIdFriendly := .dict (Dict.put names key name) }

/-- JSON text with the service's default layout. -/
def jsonText (v : Value) (st : Json.Style := .spaced) : Act String :=
  match Json.write st v with
  | .ok s => pure s
  | .error e => Act.raise (.typeError e.message)

/-- The block of stations of a document's options. -/
def stationBlocks (opts : Dict) : Act Value :=
  match Dict.field? opts "stations" with
  | some b => pure b
  | none => Act.raise (.missingKey (.str "stations"))

/-- Makes a configuration document the configuration and derives the station tables
from it. -/
def loadDocument (doc : Value) : Act Unit := do
  let opts ← entriesOf doc "pop"
  change fun c => { c with opts := opts }
  let blocks ← stationBlocks opts
  change fun c => { c with opts := Dict.putField (Dict.without opts (.str "stations")) "stations" (.dict []) }
  let blockEntries ← entriesOf blocks "keys"
  for (key, block) in blockEntries do
    let sid ← Act.lift (Value.toInt key)
    change fun c =>
      let current := match Dict.field? c.opts "stations" with
        | some (.dict d) => d
        | _ => []
      { c with opts := Dict.putField c.opts "stations" (.dict (Dict.put current sid block)) }
  require (.str "stations")
  setStationIds (← get "song_dirs") (← get "station_id_friendly")
  if Value.equals (← get "test_mode") (.bool true) then
    change fun c => { c with testMode := .bool true }
  change fun c => { c with publicRelays := .dict [] }
  let put (v : Value) (k x : Value) : Value := match v with
    | .dict d => .dict (Dict.put d k x)
    | _ => .dict [(k, x)]
  for sid in ← stationIdList do
    let random := Value.record [("name", .str "Random"), ("protocol", .str "http://"),
      ("hostname", ← stationGet sid "round_robin_relay_host"),
      ("port", ← stationGet sid "round_robin_relay_port")]
    let mut list : List Value := [random]
    change fun c => { c with publicRelays := put c.publicRelays sid (.list list) }
    let relayEntries ← entriesOf (← get "relays") "iteritems"
    for (name, relay) in relayEntries do
      let sids ← itemOf relay (.str "sids")
      if ← Act.lift (Value.contains sids sid) then
        let protocol ← itemOf relay (.str "protocol")
        let hostname ← itemOf relay (.str "hostname")
        let port ← itemOf relay (.str "port")
        list := list ++ [Value.record [("name", name), ("protocol", protocol),
          ("hostname", hostname), ("port", port)]]
        change fun c => { c with publicRelays := put c.publicRelays sid (.list list) }
    let text ← jsonText (.list list)
    change fun c => { c with publicRelaysJson := put c.publicRelaysJson sid (.str text) }
    let host ← stationGet sid "host"
    Act.lift (Value.requireHashable host)
    change fun c => { c with stationHostnames := put c.stationHostnames host sid }
    let stream ← stationGet sid "stream_filename"
    change fun c => { c with stationMountFilenames := put c.stationMountFilenames sid stream }
  change fun c => { c with stationList := .dict [] }
  let mut stationList : Dict := []
  for sid in ← stationIdList do
    let friendly := match (← current).stationIdFriendly with
      | .dict d => Dict.lookup? d sid
      | _ => none
    let name ← match friendly with
      | some n => pure n
      | none => Act.raise (.missingKey sid)
    let host ← stationGet sid "host"
    stationList := Dict.put stationList sid
      (Value.record [("id", sid), ("name", name), ("url", .str ("//" ++ host.display))])
    let entries := stationList
    change fun c => { c with stationList := .dict entries }
    let stream ← stationGet sid "stream_filename"
    let mp3 ← Act.lift (Value.add stream (.str ".mp3"))
    Act.lift (Value.requireHashable mp3)
    change fun c => { c with stationMounts := put c.stationMounts mp3 sid }
    let ogg ← Act.lift (Value.add stream (.str ".ogg"))
    change fun c => { c with stationMounts := put c.stationMounts ogg sid }
  let listText ← jsonText (.dict stationList) .spacedUnicode
  change fun c => { c with stationListJson := .str listText, buildNumber := .int 1 }

/-- Looks for a configuration file; the service runs where there is none, so the search
fails, naming the test file when looking for a test configuration. -/
def configFile (testMode : Value) : Act Value :=
  if testMode.truthy then
    Act.raise (.of .runtime "Could not find a configuration file at etc/rainwave_test.conf.")
  else
    Act.raise (.of .runtime "Could not find a configuration file at etc/rainwave.conf or /etc/rainwave.conf")

/-- Reads a configuration text and loads it. -/
def load (text : String) : Act Unit := do
  match Json.read text with
  | .ok doc => loadDocument doc
  | .error e => Act.raise (.of .jsonDecode (e.message text))

/-- Reads the configuration file of a name and loads it; without a name the file is looked
for first. The file is read as UTF-8 text. -/
def loadFile (filename testMode : Value) : Act Unit := do
  let name ← if filename.truthy then pure filename else configFile testMode
  match name with
  | .str n =>
    match (← getThe World).files.lookup n with
    | some f =>
      match String.fromUTF8? ⟨f.bytes.toArray⟩ with
      | some text => load text
      | none => Act.raise (.of .unicodeDecode "'utf-8' codec can't decode the file")
    | none => Act.raise (.of .fileNotFound ("[Errno 2] No such file or directory: " ++ name.quote))
  | _ => Act.raise (.typeError ("expected str, bytes or os.PathLike object, not " ++ name.kindName))

end Airwaves.Config
