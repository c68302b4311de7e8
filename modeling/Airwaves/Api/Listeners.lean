import Airwaves.Api.Handler
import Airwaves.Catalog.Searchable
/-!
# Listeners and search

Listener profiles, the station's listeners, and searching names by their folded form.
-/
namespace Airwaves.Api.People

open Catalog

/-- A listener's public profile. -/
def listener : Endpoint where
  url := "/api4/listener"
  gates := { station := false }
  fields := [needs "id" .userId]
  serve v := do
    let id ← argument v "id"
    let sid ← stationOf v
    let row ← fetchRow [id]
    let avatar := Listeners.solveAvatar (← col row "avatar_type") (← col row "avatar")
    let mut profile := withField row "avatar" avatar
    profile := match profile with
      | .dict es => .dict (Dict.without es (.str "avatar_type"))
      | other => other
    profile := withField profile "top_albums" (← fetchAll [id, sid])
    if Value.equals sid (.int 5) then
      profile := withField profile "top_request_albums" (← fetchAll [id])
    else profile := withField profile "top_request_albums" (← fetchAll [sid, id, sid])
    profile := withField profile "votes_by_station" (← fetchAll [id])
    profile := withField profile "requests_by_station" (← fetchAll [id])
    profile := withField profile "requests_by_source_station" (← fetchAll [id])
    let byStation ← fetchAll [id]
    profile := withField profile "ratings_by_station" byStation
    let mut completion : Dict := []
    let counts := (← get).globals.originSongCounts
    for r in ← itemsOf byStation do
      let station ← col r "sid"
      let rated ← asFloat (← col r "ratings")
      let total ← asFloat (← itemOf counts station)
      let share ← times (← divide rated total) (.int 100)
      completion := Dict.put completion station (← Act.lift (Value.floor share))
    profile := withField profile "rating_completion" (.dict completion)
    profile := withField profile "rating_spread" (← fetchAll [id])
    put v "listener" profile

/-- The station's current listeners, as cached. -/
def currentListeners : Endpoint where
  url := "/api4/current_listeners"
  serve v := do put v "current_listeners" (← Cache.readStation (← stationOf v) "current_listeners")

/-- The caller's own record. -/
def userInfo : Endpoint where
  url := "/api4/user_info"
  gates := { station := false }
  serve v := do put v "user_info" (← Listeners.privateView (← userOf v))

/-- A listener found by name, with the station the listener is tuned to. -/
def userSearch : Endpoint where
  url := "/api4/user_search"
  gates := { keyed := false, station := false }
  fields := [needs "username" .text]
  serve v := do
    let found ← fetchVar [← argument v "username"]
    if found.truthy then
      let sid ← fetchVar [found]
      put v "user" (Value.record [("user_id", found), ("sid", sid)])
    else put v "user" (Value.record [("user_id", .none), ("sid", .none)])

/-- Artists, albums and songs of the station matching a text. -/
def search : Endpoint where
  url := "/api4/search"
  returnName := some "search_results"
  fields := [needs "search" .text]
  serve v := do
    let folded ← Searchable.foldIn (← argument v "search")
    if folded.length < 3 then Act.raise (refuse "search_string_too_short")
    let pattern := Value.str (Searchable.likePattern folded)
    let sid ← stationOf v
    let user ← userOf v
    let artists ← fetchAll [sid, pattern]
    let albums ← do
      if ← anonymous user then fetchAll [sid, pattern]
      else fetchAll [← userIdOf v, sid, sid, pattern]
    let songs ← do
      if ← anonymous user then fetchAll [pattern, sid]
      else fetchAll [pattern, ← userIdOf v, sid]
    put v "artists" artists
    put v "albums" albums
    put v "songs" songs

end Airwaves.Api.People
