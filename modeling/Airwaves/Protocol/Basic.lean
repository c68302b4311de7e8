import Airwaves.Script.Run
import Airwaves.Config.Starting
import Airwaves.Cache.Basic
import Airwaves.Media.File
import Airwaves.Spelling.Letters
/-!
# Requests to the service

Each request names an operation and starts the world afresh from the clock, seed,
configuration and database script it gives.
-/
namespace Airwaves.Protocol

open Script

/-- Merges an override document into a base one. Objects merge key by key, a key
`-name` removes `name`, and anything else replaces. Under `stations`, each station merges
over the base station of the same id (or the first station for a new id), and `null`
removes the station. -/
def mergeDocument : Nat → Value → Value → Value
  | 0, _, patch => patch
  | fuel + 1, base, patch =>
    match base, patch with
    | .dict b, .dict o => .dict (o.foldl (fun acc (k, v) => mergeEntry fuel acc k v) b)
    | _, _ => patch
where
  /-- Applies one override entry to a base object. -/
  mergeEntry (fuel : Nat) (acc : Dict) (k v : Value) : Dict :=
    let name := match k with
      | .str s => s
      | _ => ""
    if name.startsWith "-" then Dict.without acc (.str (name.drop 1).toString)
    else if name == "stations" then
      match Dict.field? acc "stations", v with
      | some (.dict stations), .dict changes =>
        let first := (stations.head?.map (·.2)).getD (.dict [])
        let merged := changes.foldl (fun st (sid, block) =>
          match block with
          | .none => Dict.without st sid
          | _ =>
            let start := (Dict.lookup? st sid).getD first
            Dict.put st sid (mergeDocument fuel start block)) stations
        Dict.put acc k (.dict merged)
      | _, _ => Dict.put acc k v
    else
      match Dict.lookup? acc k with
      | some old => Dict.put acc k (mergeDocument fuel old v)
      | Option.none => Dict.put acc k v

/-- The starting configuration document. -/
def startingDocument : Value :=
  match Json.read Config.startingText with
  | .ok v => v
  | .error _ => .dict []

/-- A member of a request object. -/
def member (request : Dict) (key : String) : Value := (Dict.field? request key).getD .none

/-- The clock reading a request gives, in seconds. -/
def clockOf (request : Dict) : Double :=
  match (member request "now").number? with
  | some n => n.toDouble
  | Option.none => 1500000000.0

/-- The frames a file description gives: lists of an id and its fields. -/
def framesOf (tags : List Value) : List Media.Frame :=
  tags.filterMap fun t =>
    match t with
    | .list (.str id :: fields) => Media.Frame.ofFields id (fields.filterMap Value.str?)
    | _ => none

/-- How a file description says the file is made: from hexadecimal bytes, or from a
numbered sample song (the first when none is named), retagged when tags are given. -/
def recipeOf (spec : Dict) : Media.FileRecipe :=
  match Dict.field? spec "hex" with
  | some (.str h) => .bytes (Media.bytesOfHex h)
  | _ =>
    let n := match member spec "base" with
      | .str b => ((b.drop 4).toString.toNat?).getD 1
      | _ => 1
    match member spec "tags" with
    | .list tags =>
      let version := match member spec "id3" with
        | .int v => v.toNat
        | _ => 4
      .retagged n (framesOf tags) version
    | _ => .sample n

/-- Makes the files a request describes, changed now. -/
def makeFiles (request : Dict) : Act Unit := do
  let specs := match member request "files" with
    | .list xs => xs
    | _ => []
  let now ← clockSeconds
  for spec in specs do
    match spec with
    | .dict d =>
      let name := match member d "name" with
        | .str n => n
        | other => other.display
      let bytes := (recipeOf d).build
      modify fun w => { w with files := (w.files.filter (·.1 != name)) ++ [(name, { bytes := bytes, mtime := now })] }
    | _ => pure ()

/-- The whole number a seed stands for: a whole number is itself, a truth value its number,
and a double its hash as an unsigned word. -/
def seedNumber : Value → Int
  | .int n => n
  | .bool b => if b then 1 else 0
  | .float x => match SetOrder.hashFloat? x with
    | some h => SetOrder.word h
    | none => 0
  | _ => 0

/-- The libraries the runs are given: the spelling tables for `unidecode` and the song file
reader for the MP3 reader. -/
def runLibraries : Libraries := { unidecode := Spelling.spell, readMp3 := Media.SongFile.read }

/-- Starts the world for a request: clock, seed, libraries, configuration, cache and database. -/
def reset (request : Dict) : Act Unit := do
  let seed := match member request "seed" with | .none => .int 0 | s => s
  let draws := Chance.Twister.seed (seedNumber seed)
  set ({ now := clockOf request, seed := seed, rng := draws, libraries := runLibraries } : World)
  let doc := match member request "config" with
    | .dict changes => mergeDocument 64 startingDocument (.dict changes)
    | _ => startingDocument
  let doc := match doc with
    | .dict d => .dict (Dict.putField (Dict.putField d "test_mode" (.bool true)) "memcache_fake" (.bool true))
    | d => d
  Config.loadDocument doc
  let sids ← Config.stationIdList
  modify fun w => { w with globals := { w.globals with updatedAlbumIds := .dict (sids.map fun s => (s, .dict [])) } }
  Cache.change fun _ => { connected := false }
  Cache.connect
  makeFiles request
  match member request "db" with
  | .dict script =>
    let decoded ← decodeEntries script
    modify fun w => { w with db := w.db.extend decoded }
  | _ => pure ()

/-- The steps of a request. -/
def stepsOf (request : Dict) (key : String) : List Value :=
  match member request key with
  | .list xs => xs
  | _ => []

/-- Answers a failure as an object's entries. -/
def faultEntries (f : Fault) : Act Dict := do
  match ← encodeFault f with
  | .dict es => return es
  | _ => return []

/-- Runs a script of steps. -/
def runOp (reg : Registry) (request : Dict) : Act Value := do
  let answers ← runSteps reg (stepsOf request "steps")
  return .dict [(.str "steps", .list answers)]

/-- The configuration state, written out. -/
def configState : Act Value := do
  let c := (← get).config
  let fields : List (String × Value) :=
    [("opts", .dict c.opts), ("test_mode", c.testMode), ("station_ids", .set c.stationIds),
     ("station_id_friendly", c.stationIdFriendly), ("station_hostnames", c.stationHostnames),
     ("public_relays", c.publicRelays), ("public_relays_json", c.publicRelaysJson),
     ("station_list", c.stationList), ("station_list_json", c.stationListJson),
     ("station_mounts", c.stationMounts), ("station_mount_filenames", c.stationMountFilenames)]
  let written ← fields.mapM fun (k, v) => do return (Value.str k, ← encode v)
  return .dict written

/-- Loads a configuration text into empty configuration state, then runs the steps. -/
def configLoadOp (reg : Registry) (request : Dict) : Act Value := do
  modify fun w => { w with config := {} }
  let text := match member request "text" with
    | .str s => s
    | _ => ""
  let head ← match ← Act.attempt (Config.load text) with
    | .ok () => pure [(Value.str "ok", Value.bool true)]
    | .error f => faultEntries f
  let state ← configState
  let answers ← runSteps reg (stepsOf request "steps")
  return .dict (head ++ [(.str "state", state), (.str "steps", .list answers)])

/-- The answer to a request whose operation is unknown. -/
def badInput (message : String) : Value :=
  .dict [(.str "error", .str "BadInput"), (.str "message", .str message)]

/-- The JSON text of an answer. -/
def written (v : Value) : String :=
  match Json.write .compact v with
  | .ok s => s
  | .error e =>
    match Json.write .compact (.dict [(.str "error", .str "DriverFailure"), (.str "message", .str e.message)]) with
    | .ok s => s
    | .error _ => ""

end Airwaves.Protocol
