import Airwaves.Api.Now
/-!
# Starting a client

A client starts from everything a listener needs to follow the station (with the live
votes), the station's stream file name, the list of stations and the station's relays.
DJs start from the same with the DJ gate.

Two endpoints serve only trusted addresses, for testing: a greeting, and the caller's
own record.
-/
namespace Airwaves.Api.Boot

/-- Adds the start-up information for a client. -/
def attachBootstrap (v : Value) : Act Unit := do
  let extra := match ← cookie v "r5_list" with
    | .str s => s
    | _ => ""
  Now.attachInfo v extra false true
  let sid ← stationOf v
  let c ← Config.current
  put v "stream_filename" (← Config.stationGet sid "stream_filename")
  put v "station_list" c.stationList
  put v "relays" (← itemOf c.publicRelays sid)

/-- The start-up information for a client. -/
def bootstrap : Endpoint where
  url := "/api4/bootstrap"
  gates := { keyed := false, station := false }
  forumAuth := true
  serve := attachBootstrap

/-- The start-up information for a DJ's client. -/
def bootstrapDj : Endpoint where
  url := "/api4/bootstrap_dj"
  gates := { keyed := false, station := false, dj := true }
  forumAuth := true
  serve := attachBootstrap

/-- A greeting, to test the connection. -/
def helloWorld : Endpoint where
  url := "/api4/test/hello_world"
  gates := { keyed := false, station := false, trustedOnly := true }
  serve v := do put v "hello_world" (Value.record [("hello", .str "world")])

/-- The caller's own record, to test signing in. -/
def testUser : Endpoint where
  url := "/api4/test/user"
  gates := { station := false, trustedOnly := true }
  forumAuth := true
  serve v := do put v "user" (← Listeners.privateView (← userOf v))

end Airwaves.Api.Boot
