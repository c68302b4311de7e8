import Airwaves.Api.Handler
import Airwaves.Schedule.Slot
import Airwaves.Catalog.Pool
/-!
# What is on now

What a listener needs to follow a station: the listener's record, the request line, the events
playing, coming and played, the votes, and a summary of every station.
-/
namespace Airwaves.Api.Now

open Catalog

/-- The stream file name of a station for a player format: plain for anonymous callers,
and carrying the listener's id and listen key otherwise. -/
def streamFilename (sid : Value) (format : String) (user : Value) : Act String := do
  let base := (← Config.stationGet sid "stream_filename").display
  if user matches .none then return base ++ "." ++ format
  if ← anonymous user then return base ++ "." ++ format
  let u ← Listeners.userOf user
  return base ++ "." ++ format ++ "?" ++ u.id.display ++ ":" ++ (← Listeners.dataOf u "listen_key").display

/-- The address that picks a relay of a station at random. -/
def relayUrl (sid : Value) (format : String) (user : Value) : Act String := do
  return "http://" ++ (← Config.stationGet sid "round_robin_relay_host").display ++ ":" ++
    (← Config.stationGet sid "round_robin_relay_port").display ++ "/" ++ (← streamFilename sid format user)

/-- Adds the DJ controls of the station. -/
def attachDjInfo (v : Value) : Act Unit := do
  let sid ← stationOf v
  put v "dj_info" (Value.record [
    ("pause_requested", ← Cache.readStation sid "backend_paused"),
    ("pause_active", ← Cache.readStation sid "backend_paused_playing"),
    ("pause_title", ← Cache.readStation sid "pause_title"),
    ("dj_password", ← Cache.readStation sid "dj_password"),
    ("mount_host", ← Config.stationGet sid "liquidsoap_harbor_host"),
    ("mount_port", ← Config.stationGet sid "liquidsoap_harbor_port"),
    ("mount_url", ← Config.stationGet sid "liquidsoap_harbor_mount")])

/-- The album list for a caller: the cached list for anonymous callers, the caller's own
otherwise. -/
def albumsFor (sid user : Value) : Act Value := do
  if !user.truthy then return ← Cache.readStation sid "all_albums"
  if ← anonymous user then return ← Cache.readStation sid "all_albums"
  Pool.albumsList sid user

/-- Whether the request asked for a list by name. -/
def asked (v : Value) (name : String) : Act Bool := isGiven v name

/-- Opens the first election to voting when it has more than one song. -/
def openVoting (events : List Value) (i : Nat) : Act (List Value) := do
  match events[i]? with
  | some e => return events.set i (withField e "voting_allowed" (.bool true))
  | none => return events

/-- Whether a cached event is an election with more than one song. -/
def isContest (evt : Value) : Act Bool := do
  if !(← attributeOf evt "is_election").truthy then return false
  return (← lengthOf (← attributeOf evt "songs")) > 1

/-- The schedule parts rendered for a registered listener. -/
def registeredSchedule (v user sid : Value) : Act (Value × Value × Value) := do
  let current ← Cache.readStation sid "sched_current"
  if !current.truthy then
    Act.raise (refuseWith "server_just_started" "Rainwave is Rebooting, Please Try Again in a Few Minutes" 500)
  if ← tunedIn user then
    Songs.setData (← Schedule.eventSong current) "rating_allowed" (.bool true)
  let currentView ← Schedule.eventView current user false
  let upcoming ← itemsOf (← Cache.readStation sid "sched_next")
  let mut next : List Value := []
  for evt in upcoming do next := next ++ [← Schedule.eventView evt user false]
  if !next.isEmpty then
    if ← tunedIn user then
      if ← isContest (upcoming.headD .none) then next ← openVoting next 0
  if ← tunedIn user then
    if (← Listeners.perks user).truthy then
      for i in List.range next.length do
        if i ≥ 1 then
          if ← isContest (upcoming.getD i .none) then next ← openVoting next i
  let mut past : List Value := []
  for evt in ← itemsOf (← Cache.readStation sid "sched_history") do
    past := past ++ [← Schedule.eventView evt user true]
  let _ := v
  return (currentView, .list next, .list past)

/-- The cached schedule renderings, for callers who are not registered. -/
def cachedSchedule (user sid : Value) : Act (Value × Value × Value) := do
  let current ← Cache.readStation sid "sched_current_dict"
  if !current.truthy then
    Act.raise (refuseWith "server_just_started" "Rainwave is Rebooting, Please Try Again in a Few Minutes" 500)
  let next ← Cache.readStation sid "sched_next_dict"
  let history ← Cache.readStation sid "sched_history_dict"
  if (← lengthOf next) == 0 then return (current, next, history)
  if !(← tunedIn user) then return (current, next, history)
  let first ← itemOf next (.int 0)
  if !Value.equals (← col first "type") (.str "Election") then return (current, next, history)
  if (← lengthOf (← col first "songs")) ≤ 1 then return (current, next, history)
  match next with
  | .list (e :: rest) => return (current, .list (withField e "voting_allowed" (.bool true) :: rest), history)
  | _ => return (current, next, history)

/-- Adds everything a listener needs to follow the station: the listener's record, the
lists, the request line, the schedule, the listener's votes and the summary of all
stations (with the live votes when asked for). `extra` names a list to include. -/
def attachInfo (v : Value) (extra : String := "") (allLists : Bool := false)
    (liveVoting : Bool := false) : Act Unit := do
  let user ← userOf v
  let sid ← stationOf v
  if user.truthy then
    put v "user" (← Listeners.privateView user)
    if ← Listeners.isDj user then attachDjInfo v
  if !(← handlerOf v).mobile.truthy then
    if allLists || extra == "all_albums" || extra == "album" || (← asked v "all_albums") then
      put v "all_albums" (← albumsFor sid user)
    else put v "album_diff" (← Cache.readStation sid "album_diff")
    if allLists || extra == "all_artists" || extra == "artist" || (← asked v "all_artists") then
      put v "all_artists" (← Cache.readStation sid "all_artists")
    if allLists || extra == "all_groups" || extra == "group" || (← asked v "all_groups") then
      put v "all_groups" (← Cache.readStation sid "all_groups")
    let listeners ← do
      if allLists || extra == "current_listeners" then pure true
      else if ← asked v "current_listeners" then pure true
      else pure (Value.equals (← cookie v "r4_active_list") (.str "current_listeners"))
    if listeners then put v "current_listeners" (← Cache.readStation sid "current_listeners")
    put v "request_line" (← Cache.readStation sid "request_line")
  let registered ← do
    if !user.truthy then pure false else pure !(← anonymous user)
  let (current, next, history) ← do
    if registered then
      put v "requests" (← Listeners.requestsOn user sid)
      registeredSchedule v user sid
    else if user.truthy then cachedSchedule user sid
    else pure (Value.none, Value.none, Value.none)
  put v "sched_current" current
  put v "sched_next" next
  put v "sched_history" history
  if user.truthy then
    if registered then
      let votes ← Cache.readUser user "vote_history"
      if votes.truthy then put v "already_voted" votes
    else
      if (← lengthOf next) > 0 then
        let u ← Listeners.userOf user
        let voted ← Listeners.dataOf u "voted_entry"
        if ← isGreater voted (.int 0) then
          if Value.equals (← Listeners.dataOf u "lock_sid") sid then
            put v "already_voted" (.list [.tuple [← col (← itemOf next (.int 0)) "id", voted]])
  put v "all_stations_info" (← Cache.read "all_stations_info")
  if liveVoting then put v "live_voting" (← Cache.readStation sid "live_voting")

/-- Refuses when the station is offline or paused, unless the caller acknowledged it. -/
def checkSync (sid : Value) (acknowledged : Bool := false) : Act Unit := do
  if !(← Cache.readStation sid "backend_ok").truthy && !acknowledged then
    Act.raise (refuse "station_offline")
  if (← Cache.readStation sid "backend_paused").truthy && !acknowledged then
    Act.raise (refuse "station_paused")

/-- The station information, checking first that the station is up when asked. -/
def info : Endpoint where
  url := "/api4/info"
  gates := { keyed := false }
  fields := [accepts "all_albums" .boolean, accepts "current_listeners" .boolean,
    tolerates "status" .boolean]
  allowGet := true
  allowCors := true
  serve v := do
    if (← argument v "status").truthy then checkSync (← stationOf v)
    attachInfo v

/-- The summary of what every station plays. -/
def infoAll : Endpoint where
  url := "/api4/info_all"
  gates := { keyed := false }
  allowGet := true
  allowCors := true
  serve v := do put v "all_stations_info" (← Cache.read "all_stations_info")

/-- The stations: id, name, translated description and stream address. -/
def stations : Endpoint where
  url := "/api4/stations"
  gates := { keyed := false, station := false }
  returnName := some "stations"
  allowGet := true
  allowCors := true
  serve v := do
    let user ← userOf v
    let names := (← Config.current).stationIdFriendly
    let mut list : List Value := []
    for sid in ← Config.stationIdList do
      list := list ++ [Value.record [("id", sid), ("name", ← itemOf names sid),
        ("description", ← translate v ("station_description_id_" ++ sid.display)),
        ("stream", .str (← relayUrl sid "mp3" user))]]
    put v "stations" (.list list)

end Airwaves.Api.Now
