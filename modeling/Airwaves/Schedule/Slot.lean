import Airwaves.Schedule.Election
/-!
# Any slot of a schedule

Operations that take an event of any kind and act as its kind does.
-/
namespace Airwaves.Schedule

open Catalog

/-- Whether an event is an election of any kind. -/
def isElectionEvent (v : Value) : Act Bool := do return (← Events.eventOf v).kind.isElection

/-- The length of an event. -/
def eventLength (v : Value) : Act Value := do
  if ← isElectionEvent v then Elections.length v else Events.length v

/-- Prepares an event to play. -/
def prepareEvent (v : Value) : Act Unit := do
  if ← isElectionEvent v then Elections.prepare v else Events.prepare v

/-- Starts an event. -/
def startEvent (v : Value) : Act Unit := do
  if ← isElectionEvent v then Elections.start v else Events.start v

/-- Finishes an event. -/
def finishEvent (v : Value) : Act Unit := do
  let e ← Events.eventOf v
  if e.kind.isElection then Elections.finish v
  else if e.kind == .oneUp then Events.finishOneUp v
  else Events.finish v

/-- The song an event plays. -/
def eventSong (v : Value) : Act Value := do
  if ← isElectionEvent v then Elections.playedSong v else Events.playedSong v

/-- The file an event plays. -/
def eventFile (v : Value) : Act Value := do
  if ← isElectionEvent v then Elections.playedFile v else Events.playedFile v

/-- The client view of an event. -/
def eventView (v user : Value) (checkAcl : Bool) : Act Value := do
  if ← isElectionEvent v then Elections.view v user checkAcl else Events.view v user checkAcl

/-- Deletes an event. -/
def deleteEvent (v : Value) : Act Value := do
  let e ← Events.eventOf v
  if e.kind.isElection then Elections.delete v
  else if e.kind == .oneUp then Events.deleteOneUp v
  else return .none

end Airwaves.Schedule
