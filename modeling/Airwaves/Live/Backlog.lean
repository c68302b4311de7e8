import Airwaves.Ops
import Airwaves.Value.RunSort
/-!
# The backlog of held messages

Messages held back from a busy connection, served one a turn after a sort that puts song
requests last. The relation is not an order, so the result is the one `RunSort.sort` gives.
-/
namespace Airwaves.Live

/-! ## Messages -/

/-- The action a message asks for. -/
def actionOf (m : Value) : Act Value := itemOf m (.str "action")

/-- Whether a message asks for a song request. -/
def isRequest (m : Value) : Act Bool := do
  return Value.equals (← actionOf m) (.str "request")

/-- Whether an action goes before another in the backlog: unless it is a request and the
other is not. -/
def actionBefore (a b : Value) : Bool :=
  !(Value.equals a (.str "request") && !Value.equals b (.str "request"))

/-- Whether a message goes before another in the backlog. -/
def goesBefore (m other : Value) : Act Bool := do
  if ← isRequest m then isRequest other
  else return true

/-- Sorts the backlog, reading each message's action once. -/
def sortBacklog (ms : List Value) : Act (List Value) := do
  let keyed ← ms.mapM fun m => do return (m, ← actionOf m)
  return (RunSort.sort (fun x y => actionBefore x.2 y.2) keyed).map (·.1)

/-- Whether a message goes after another: it is a request and the other is not. -/
def goesAfter (m other : Value) : Act Bool := do
  if ← isRequest m then return !(← isRequest other)
  return false

/-- Whether two messages count as equal: both are requests. -/
def sameRank (m other : Value) : Act Bool := do
  if ← isRequest m then isRequest other
  else return false

end Airwaves.Live
