import Airwaves.Live.Bus
/-!
# The event loop

Timers wait in the loop until they come due or are cancelled; one that comes due leaves the loop
and runs what it was set for, and what that changed before a failure stays changed.
-/
namespace Airwaves

/-- What a timer runs when it comes due. -/
def Callback.run : Callback → Act Unit
  | .heldUpdate bank s byAddress => Live.heldUpdate bank s byAddress
  | .passVote sid => Live.passWaitingVote sid
  | .serveBacklog ws => Live.serveBacklog ws
  | .postProcess sid => Timeline.postProcess sid

/-- The timer with a handle comes due. -/
def fire (handle : Nat) : Act Unit := do
  match (← get).loop.find? (·.1 == handle) with
  | none => pure ()
  | some (_, callback) =>
    modify fun w => { w with loop := w.loop.filter (·.1 != handle) }
    callback.run

end Airwaves
