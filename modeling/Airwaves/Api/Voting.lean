import Airwaves.Api.Handler
import Airwaves.Schedule.Election
/-!
# Voting

A tuned-in listener votes for an entry of an election coming up; the vote takes back the
previous one, locks the listener to the station, and is recorded in a transaction.
-/
namespace Airwaves.Api.Voting

open Catalog

/-- Records the listener's vote in the cached list of recent votes: the election's entry
is replaced when the election is listed, the list is cut to five, and a new election is
added at the end. -/
def cacheVote (user elecId entryId : Value) : Act Unit := do
  let cached ← Cache.readUser user "vote_history"
  let votes ← if cached.truthy then itemsOf cached else pure []
  let mut found := false
  let mut updated : List Value := []
  for voted in votes do
    if Value.equals (← itemOf voted (.int 0)) elecId then
      found := true
      match voted with
      | .list (first :: _ :: rest) => updated := updated ++ [.list (first :: entryId :: rest)]
      | other => Act.raise (.typeError ("'" ++ other.kindName ++ "' object does not support item assignment"))
    else updated := updated ++ [voted]
  let kept := updated.drop (updated.length - 5)
  let final := if found then kept else kept ++ [.list [elecId, entryId]]
  Cache.putUser user "vote_history" (.list final)

/-- The raised form of an internal failure. -/
def internalError : Fault := refuse "internal_error"

/-- The listener's earlier vote in the election: `none` when it is already for the entry, or
the entry to take a vote back from (false when there is none). An anonymous listener's vote is
kept on the listener record, a registered one's in the vote history. -/
def previousVote (u : User) (isAnon : Bool) (entryId eventId : Value) : Act (Option Value) := do
  if isAnon then
    let voted ← Listeners.dataOf u "voted_entry"
    if voted.truthy then
      if Value.equals voted entryId then return none
      return some voted
    return some (.bool false)
  else
    let previous ← fetchRow [u.id, eventId]
    if previous.truthy then
      let previousEntry ← col previous "entry_id"
      if Value.equals previousEntry entryId then return none
      return some previousEntry
    return some (.bool false)

/-- Takes back an earlier vote; without one, refuses a listener locked to another station. -/
def release (user sid already : Value) : Act Unit := do
  if already.truthy then
    if !(← Elections.addVote already (.int (-1))).truthy then Act.raise internalError
  if !already.truthy then
    let u ← Listeners.userOf user
    if (← Listeners.dataOf u "lock").truthy then
      let lockSid ← Listeners.dataOf u "lock_sid"
      if !Value.equals lockSid sid then
        let station ← itemOf (← Config.current).stationIdFriendly lockSid
        let counter ← Listeners.dataOf u "lock_counter"
        Act.raise (refuseWith "user_locked"
          ("User locked to " ++ station.display ++ " for " ++ counter.display ++ " more songs."))

/-- Records the vote of a listener already locked to the station: for an anonymous listener on
the listener record, for a registered one in the vote history and the cached recent votes; then
adds it to the entry. -/
def register (user : Value) (u : User) (isAnon : Bool) (already entryId event eventId : Value) :
    Act Unit := do
  if isAnon then
    let listenerId ← Listeners.dataOf (← Listeners.userOf user) "listener_id"
    if !(← dbUpdate [entryId, listenerId]).truthy then Act.raise internalError
    Listeners.mergeData user (Value.record [("voted_entry", entryId)])
  else
    if already.truthy then
      let song ← Elections.entry event entryId
      let _ ← dbUpdate [← attributeOf song "id", entryId, u.id, already]
    else
      let window ← minus (← timestampInt) (.int 1209600)
      let count ← fetchVar [window, u.id]
      let others ← query .execute [window, count]
      let rank ← plus others (.int 1)
      let song ← Elections.entry event entryId
      let _ ← dbUpdate [eventId, entryId, u.id, ← attributeOf song "id", rank, count,
        ← attributeOf event "sid"]
      let _ ← dbUpdate [← timestamp, count, u.id]
      let own ← Elections.requestBy event u.id
      if own.truthy then
        let _ ← Elections.addVote (← Elections.entryOf own "entry_id") (.int (-1))
    cacheVote user eventId entryId
  if !(← Elections.addVote entryId (.int 1)).truthy then Act.raise internalError

/-- The vote's transaction: the earlier vote taken back, the listener locked to the station
until the election plays, and the vote registered. -/
def castVote (user sid : Value) (u : User) (isAnon : Bool) (already entryId event eventId position : Value) :
    Act Unit := do
  release user sid already
  if !(← Listeners.lockToStation user sid position).truthy then
    Act.raise (refuseWith "internal_error"
      ("Internal server error.  User is now locked to station ID " ++ sid.display ++ "."))
  register user u isAnon already entryId event eventId

/-- Records a vote for an entry of an election, the election being the `position`-th
event to come. Answers true when the vote stands; a vote already for the entry stands at once.
Any failure of the transaction rolls it back. -/
def vote (v entryId event position : Value) : Act Bool := do
  let user ← userOf v
  let sid ← stationOf v
  let u ← Listeners.userOf user
  let isAnon ← Listeners.isAnonymous u
  let eventId ← attributeOf event "id"
  let some already ← previousVote u isAnon entryId eventId | return true
  match ← Act.attempt (castVote user sid u isAnon already entryId event eventId position) with
  | .ok () => return true
  | .error f =>
    rollback
    Act.raise f

/-- Votes for an entry of an election coming up. -/
def submitVote : Endpoint where
  url := "/api4/vote"
  returnName := some "vote_result"
  gates := { tunedIn := true }
  fields := [needs "entry_id" .integer]
  syncAcrossSessions := true
  serve v := do
    let entryId ← argument v "entry_id"
    let user ← userOf v
    let mut position : Int := 0
    let mut voted := false
    let mut elecId := Value.none
    for event in ← itemsOf (← Cache.readStation (← stationOf v) "sched_next") do
      position := position + 1
      let eligible ← do
        if !(← attributeOf event "is_election").truthy then pure false
        else if !(← Elections.entry event entryId).truthy then pure false
        else pure ((← lengthOf (← attributeOf event "songs")) > 1)
      if eligible then
        elecId ← attributeOf event "id"
        voted ← vote v entryId event (.int position)
        break
      if !(← Listeners.dataOf (← Listeners.userOf user) "perks").truthy then break
    if voted then
      appendStandard v "vote_submitted" .none true (.str "vote_result")
        [("elec_id", elecId), ("entry_id", entryId)]
    else
      appendStandard v "cannot_vote_for_this_now" .none false .none
        [("elec_id", elecId), ("entry_id", entryId)]

end Airwaves.Api.Voting
