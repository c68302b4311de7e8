import Airwaves.Live.Inbox
import Airwaves.Live.Broadcast
import Airwaves.Catalog.Pool
import Airwaves.Catalog.Cooldown
/-!
# Messages between processes

The JSON messages the service's processes send each other over the bus (`result_sync`,
`live_voting`, `delayed_live_voting`, `update_all`, `update_ip`, `update_user`, `update_dj`,
`vote_by`) and how each is handled.
-/
namespace Airwaves.Live

/-- A mapping value with one entry set. -/
def putIn (d key x : Value) : Value :=
  match d with
  | .dict es => .dict (Dict.put es key x)
  | other => other

/-- The counts waiting to be passed on for a station. -/
def waitingVote (sid : Value) : Act Value := do itemOf (← get).globals.delayedLiveVote sid

/-- The timer of the counts waiting for a station. -/
def waitingTimer (sid : Value) : Act Value := do itemOf (← get).globals.delayedLiveVoteTimers sid

/-- Sets the counts waiting for a station. -/
def setWaitingVote (sid x : Value) : Act Unit :=
  modify fun w => { w with globals := { w.globals with delayedLiveVote := putIn w.globals.delayedLiveVote sid x } }

/-- Sets the timer of the counts waiting for a station. -/
def setWaitingTimer (sid x : Value) : Act Unit :=
  modify fun w => { w with globals :=
    { w.globals with delayedLiveVoteTimers := putIn w.globals.delayedLiveVoteTimers sid x } }

/-- Drops the counts waiting for a station, with their timer. -/
def dropWaitingVote (sid : Value) : Act Unit := do
  let timer ← waitingTimer sid
  if timer.truthy then
    removeTimer timer
    setWaitingVote sid .none
    setWaitingTimer sid .none

/-- Starts the wait before a station's counts are passed on. -/
def startWaiting (message : Value) : Act Unit := do
  let sid ← itemOf message (.str "sid")
  setWaitingTimer sid (← addTimer 5.0 "<lambda>" (.passVote sid))

/-- Passes a station's waiting counts on to every connection. -/
def passWaitingVote (sid : Value) : Act Unit := do
  setWaitingTimer sid .none
  let waiting ← waitingVote sid
  if !waiting.truthy then return
  sendToAll (← bankOf sid) .none (← itemOf waiting (.str "data"))
  setWaitingVote sid .none

/-- The banks of every station, in the order they were set up. -/
def everyBank : Act (List Value) := do
  let sessions := (← get).globals.sessions
  (← itemsOf sessions).mapM fun sid => itemOf sessions sid

/-- Handles one message from the bus. -/
def handle (message : Value) : Act Unit := do
  let action ← itemOf message (.str "action")
  let is (name : String) := Value.equals action (.str name)
  let part (key : String) : Act Value := itemOf message (.str key)
  if is "result_sync" then
    let bank ← bankOf (← part "sid")
    sendToUser bank (← part "user_id") (← part "uuid_exclusion") (← part "data")
  else if is "live_voting" then
    let bank ← bankOf (← part "sid")
    sendToAll bank (← part "uuid_exclusion") (← part "data")
    dropWaitingVote (← part "sid")
  else if is "delayed_live_voting" then
    if !(← waitingTimer (← part "sid")).truthy then startWaiting message
    setWaitingVote (← part "sid") message
  else if is "update_all" then
    let sid ← part "sid"
    dropWaitingVote sid
    Pool.updateCounts
    Cooldown.prepare sid
    Cache.refreshStation sid
    updateAll (← bankOf sid)
    modify fun w => { w with globals := { w.globals with votesBy := .dict [], lastVoteBy := .dict [] } }
  else if is "update_ip" then
    for bank in ← everyBank do updateAddress bank (← part "ip")
  else if is "update_user" then
    for bank in ← everyBank do updateUser bank (← part "user_id")
  else if is "update_dj" then
    updateDj (← bankOf (← part "sid"))
  else if is "vote_by" then
    let voter ← part "by"
    let g := (← get).globals
    let count ← if ← isIn voter g.votesBy then plus (← itemOf g.votesBy voter) (.int 1) else pure (.int 1)
    modify fun w => { w with globals := { w.globals with votesBy := putIn w.globals.votesBy voter count } }
    let now ← timestamp
    modify fun w => { w with globals := { w.globals with lastVoteBy := putIn w.globals.lastVoteBy voter now } }

/-- Handles messages from the bus in order, stopping at one that is not JSON or fails. -/
def dispatch (texts : Value) : Act Unit := do
  for text in ← itemsOf texts do
    let message ← match text with
      | .str s => match Json.read s with
        | .ok v => pure v
        | .error _ => return
      | _ => return
    let _ ← isIn (.str "action") message
    if let .error _ ← Act.attempt (handle message) then return

end Airwaves.Live
