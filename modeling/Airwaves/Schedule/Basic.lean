import Airwaves.Catalog.Basic
/-!
# Events and producers

An event is one slot of a station's schedule (an election, a single song, one song of a power
hour); a producer is a scheduled block that hands out events.
-/
namespace Airwaves

/-- What kind of event a slot holds. -/
inductive EventKind where
  | base
  | election
  | pvpElection
  | shortestElection
  | oneUp
  | singleSong
  deriving Repr, BEq, Inhabited, DecidableEq

/-- The kind name of an event kind. -/
def EventKind.kindName : EventKind → String
  | .base => "BaseEvent"
  | .election => "Election"
  | .pvpElection => "PVPElection"
  | .shortestElection => "ShortestElection"
  | .oneUp => "OneUp"
  | .singleSong => "SingleSong"

/-- Whether the kind is one of the elections. -/
def EventKind.isElection : EventKind → Bool
  | .election | .pvpElection | .shortestElection => true
  | _ => false

/-- One slot of a schedule. -/
structure Event where
  kind : EventKind
  id : Value := .none
  type : Value := .none
  start : Value := .none
  startActual : Value := .none
  useCrossfade : Value := .bool true
  useTagSuffix : Value := .bool true
  «end» : Value := .none
  endActual : Value := .none
  used : Value := .bool false
  url : Value := .none
  inProgress : Value := .bool false
  isElection : Value := .bool false
  replayGain : Value := .none
  name : Value := .none
  sid : Value := .none
  songs : Value := .none
  coreEventId : Value := .none
  numRequests : Option Value := none
  numSongs : Option Value := none
  hasPriority : Option Value := none
  isPublic : Option Value := none
  timed : Option Value := none
  schedId : Option Value := none
  djUserId : Option Value := none
  extra : List (String × Value) := []
  deriving Inhabited

namespace Event

/-- Optional field as a list of at most one entry. -/
def optional (name : String) : Option Value → List (String × Value)
  | some v => [(name, v)]
  | none => []

/-- The fields under their client names. -/
def attributes (e : Event) : List (String × Value) :=
  [("id", e.id), ("type", e.type), ("start", e.start), ("start_actual", e.startActual),
   ("use_crossfade", e.useCrossfade), ("use_tag_suffix", e.useTagSuffix), ("end", e.«end»),
   ("end_actual", e.endActual), ("used", e.used), ("url", e.url), ("in_progress", e.inProgress),
   ("is_election", e.isElection), ("replay_gain", e.replayGain), ("name", e.name),
   ("sid", e.sid), ("songs", e.songs), ("core_event_id", e.coreEventId)] ++
  optional "_num_requests" e.numRequests ++ optional "_num_songs" e.numSongs ++
  optional "has_priority" e.hasPriority ++ optional "public" e.isPublic ++
  optional "timed" e.timed ++ optional "sched_id" e.schedId ++
  optional "dj_user_id" e.djUserId ++ e.extra

/-- Sets a field by its client name. -/
def setAttribute (e : Event) (name : String) (v : Value) : Event :=
  match name with
  | "id" => { e with id := v }
  | "type" => { e with type := v }
  | "start" => { e with start := v }
  | "start_actual" => { e with startActual := v }
  | "use_crossfade" => { e with useCrossfade := v }
  | "use_tag_suffix" => { e with useTagSuffix := v }
  | "end" => { e with «end» := v }
  | "end_actual" => { e with endActual := v }
  | "used" => { e with used := v }
  | "url" => { e with url := v }
  | "in_progress" => { e with inProgress := v }
  | "is_election" => { e with isElection := v }
  | "replay_gain" => { e with replayGain := v }
  | "name" => { e with name := v }
  | "sid" => { e with sid := v }
  | "songs" => { e with songs := v }
  | "core_event_id" => { e with coreEventId := v }
  | "_num_requests" => { e with numRequests := some v }
  | "_num_songs" => { e with numSongs := some v }
  | "has_priority" => { e with hasPriority := some v }
  | "public" => { e with isPublic := some v }
  | "timed" => { e with timed := some v }
  | "sched_id" => { e with schedId := some v }
  | "dj_user_id" => { e with djUserId := some v }
  | _ => { e with extra := setNamed e.extra name v }

end Event

/-- What kind of block a producer is. -/
inductive ProducerKind where
  | base
  | election
  | pvpElection
  | shortestElection
  | oneUp
  deriving Repr, BEq, Inhabited, DecidableEq

/-- The kind name of a producer kind. -/
def ProducerKind.kindName : ProducerKind → String
  | .base => "BaseProducer"
  | .election => "ElectionProducer"
  | .pvpElection => "PVPElectionProducer"
  | .shortestElection => "ShortestElectionProducer"
  | .oneUp => "OneUpProducer"

/-- The producer kinds registered for scheduling, in registration order. -/
def ProducerKind.registered : List ProducerKind :=
  [.election, .oneUp, .pvpElection, .shortestElection]

/-- The event kind an election producer hands out. -/
def ProducerKind.electionKind : ProducerKind → Option EventKind
  | .election => some .election
  | .pvpElection => some .pvpElection
  | .shortestElection => some .shortestElection
  | _ => none

/-- A scheduled block of a station. -/
structure Producer where
  kind : ProducerKind
  sid : Value := .none
  id : Value := .none
  start : Value := .int 0
  startActual : Value := .none
  «end» : Value := .none
  endActual : Value := .none
  type : Value := .none
  name : Value := .none
  isPublic : Value := .bool true
  timed : Value := .bool true
  url : Value := .none
  inProgress : Value := .bool false
  used : Value := .bool false
  useCrossfade : Value := .bool true
  useTagSuffix : Value := .bool true
  planAheadLimit : Value := .int 1
  songs : Value := .none
  djUserId : Value := .none
  elecType : Option Value := none
  elecClass : Option Value := none
  extra : List (String × Value) := []
  deriving Inhabited

namespace Producer

/-- The fields under their client names. -/
def attributes (p : Producer) : List (String × Value) :=
  [("sid", p.sid), ("id", p.id), ("start", p.start), ("start_actual", p.startActual),
   ("end", p.«end»), ("end_actual", p.endActual), ("type", p.type), ("name", p.name),
   ("public", p.isPublic), ("timed", p.timed), ("url", p.url), ("in_progress", p.inProgress),
   ("used", p.used), ("use_crossfade", p.useCrossfade), ("use_tag_suffix", p.useTagSuffix),
   ("plan_ahead_limit", p.planAheadLimit), ("songs", p.songs), ("dj_user_id", p.djUserId)] ++
  Event.optional "elec_type" p.elecType ++ Event.optional "elec_class" p.elecClass ++ p.extra

/-- Sets a field by its client name. -/
def setAttribute (p : Producer) (name : String) (v : Value) : Producer :=
  match name with
  | "sid" => { p with sid := v }
  | "id" => { p with id := v }
  | "start" => { p with start := v }
  | "start_actual" => { p with startActual := v }
  | "end" => { p with «end» := v }
  | "end_actual" => { p with endActual := v }
  | "type" => { p with type := v }
  | "name" => { p with name := v }
  | "public" => { p with isPublic := v }
  | "timed" => { p with timed := v }
  | "url" => { p with url := v }
  | "in_progress" => { p with inProgress := v }
  | "used" => { p with used := v }
  | "use_crossfade" => { p with useCrossfade := v }
  | "use_tag_suffix" => { p with useTagSuffix := v }
  | "plan_ahead_limit" => { p with planAheadLimit := v }
  | "songs" => { p with songs := v }
  | "dj_user_id" => { p with djUserId := v }
  | "elec_type" => { p with elecType := some v }
  | "elec_class" => { p with elecClass := some v }
  | _ => { p with extra := setNamed p.extra name v }

end Producer

end Airwaves
