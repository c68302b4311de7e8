import Airwaves.Script.Encode
/-!
# What a script can name

A name of a script stands for an operation, a kind of object, a piece of station-wide state, or
a constant; methods are looked up by name alone.
-/
namespace Airwaves.Script

/-- An operation called with positional and named arguments. -/
abbrev Operation := List Value → List (String × Value) → Act Value

/-- A method: receiver, positional and named arguments. It returns its result and the
receiver as it stands after the call, so that a plain value changed by the call can be
put back where it came from. -/
abbrev Method := Value → List Value → List (String × Value) → Act (Value × Value)

/-- A piece of station-wide state. -/
inductive Slot where
  | options
  | testMode
  | stationIds
  | stationNames
  | stationHosts
  | publicRelays
  | publicRelaysText
  | stationList
  | stationListText
  | stationMounts
  | stationStreams
  | buildNumber
  | cacheLocal
  | cacheClient
  | cooldownConfig
  | updatedAlbums
  | albumCounts
  | songCounts
  | originSongCounts
  | requestInterval
  | requestSequence
  | current
  | upnext
  | history
  | singleSongCounter
  | sessions
  | delayedLiveVote
  | delayedLiveVoteTimers
  | socketOrigin
  | votesBy
  | lastVoteBy
  deriving Repr, BEq, Inhabited

namespace Slot

/-- Reads a slot. -/
def read (s : Slot) (w : World) : Value :=
  let c := w.config
  let g := w.globals
  match s with
  | .options => .dict c.opts
  | .testMode => c.testMode
  | .stationIds => .set c.stationIds
  | .stationNames => c.stationIdFriendly
  | .stationHosts => c.stationHostnames
  | .publicRelays => c.publicRelays
  | .publicRelaysText => c.publicRelaysJson
  | .stationList => c.stationList
  | .stationListText => c.stationListJson
  | .stationMounts => c.stationMounts
  | .stationStreams => c.stationMountFilenames
  | .buildNumber => c.buildNumber
  | .cacheLocal => .dict w.cache.localEntries
  | .cacheClient => if w.cache.connected then .record [] else .none
  | .cooldownConfig => g.cooldownConfig
  | .updatedAlbums => g.updatedAlbumIds
  | .albumCounts => g.albumCounts
  | .songCounts => g.songCounts
  | .originSongCounts => g.originSongCounts
  | .requestInterval => g.requestInterval
  | .requestSequence => g.requestSequence
  | .current => g.current
  | .upnext => g.upnext
  | .history => g.history
  | .singleSongCounter => g.singleSongCounter
  | .sessions => g.sessions
  | .delayedLiveVote => g.delayedLiveVote
  | .delayedLiveVoteTimers => g.delayedLiveVoteTimers
  | .socketOrigin => g.websocketAllowFrom
  | .votesBy => g.votesBy
  | .lastVoteBy => g.lastVoteBy

/-- Replaces a slot. -/
def write (s : Slot) (v : Value) (w : World) : World :=
  let c := w.config
  let g := w.globals
  let entries := (v.entries?).getD []
  match s with
  | .options => { w with config := { c with opts := entries } }
  | .testMode => { w with config := { c with testMode := v } }
  | .stationIds => { w with config := { c with stationIds := (v.items?).getD (match v with | .set xs => xs | _ => []) } }
  | .stationNames => { w with config := { c with stationIdFriendly := v } }
  | .stationHosts => { w with config := { c with stationHostnames := v } }
  | .publicRelays => { w with config := { c with publicRelays := v } }
  | .publicRelaysText => { w with config := { c with publicRelaysJson := v } }
  | .stationList => { w with config := { c with stationList := v } }
  | .stationListText => { w with config := { c with stationListJson := v } }
  | .stationMounts => { w with config := { c with stationMounts := v } }
  | .stationStreams => { w with config := { c with stationMountFilenames := v } }
  | .buildNumber => { w with config := { c with buildNumber := v } }
  | .cacheLocal => { w with cache := { w.cache with localEntries := entries } }
  | .cacheClient => { w with cache := { w.cache with connected := !v.isNone } }
  | .cooldownConfig => { w with globals := { g with cooldownConfig := v } }
  | .updatedAlbums => { w with globals := { g with updatedAlbumIds := v } }
  | .albumCounts => { w with globals := { g with albumCounts := v } }
  | .songCounts => { w with globals := { g with songCounts := v } }
  | .originSongCounts => { w with globals := { g with originSongCounts := v } }
  | .requestInterval => { w with globals := { g with requestInterval := v } }
  | .requestSequence => { w with globals := { g with requestSequence := v } }
  | .current => { w with globals := { g with current := v } }
  | .upnext => { w with globals := { g with upnext := v } }
  | .history => { w with globals := { g with history := v } }
  | .singleSongCounter => { w with globals := { g with singleSongCounter := v } }
  | .sessions => { w with globals := { g with sessions := v } }
  | .delayedLiveVote => { w with globals := { g with delayedLiveVote := v } }
  | .delayedLiveVoteTimers => { w with globals := { g with delayedLiveVoteTimers := v } }
  | .socketOrigin => { w with globals := { g with websocketAllowFrom := v } }
  | .votesBy => { w with globals := { g with votesBy := v } }
  | .lastVoteBy => { w with globals := { g with lastVoteBy := v } }

end Slot

/-- What a dotted name stands for. -/
inductive Target where
  | operation (name : String) (run : Operation)
  | kind (name : String) (make : Operation)
  | slot (s : Slot)
  | constant (v : Value)

/-- The names a script may use. -/
structure Registry where
  target : String → Option Target
  method : String → Option Method

end Airwaves.Script
