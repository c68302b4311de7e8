import Airwaves.Protocol.Basic
import Airwaves.Protocol.Api
import Airwaves.Protocol.Http
/-!
# Answering requests

A request line is read as a JSON object and answered by the operation it names: `run`,
`config_load`, `api` or `http`. A line that is not JSON, or names no known operation, is answered
as bad input. The answer is one JSON line.
-/
namespace Airwaves.Protocol

open Script

/-- Answers one request object. -/
def answer (reg : Registry) (request : Dict) : Act Value := do
  match member request "op" with
  | .str "run" => reset request; runOp reg request
  | .str "config_load" => reset request; configLoadOp reg request
  | .str "api" => reset request; apiOp reg request
  | .str "http" => reset request; httpOp reg request
  | _ => return badInput "unknown op"

/-- Answers one request line with one answer line. -/
def answerLine (reg : Registry) (line : String) : String :=
  match Json.read line with
  | .ok (.dict request) =>
    let outcome := (do
      match ← Act.attempt (answer reg request) with
      | .ok v => pure v
      | .error f => do return .dict (← faultEntries f)) |>.run ({} : World)
    let v := match outcome with
      | .ok v _ => v
      | .error f _ => .dict [(.str "error", .str "DriverFailure"), (.str "message", .str f.message)]
    written v
  | .ok _ => written (badInput "unknown op")
  | .error _ => written (badInput "invalid JSON")

end Airwaves.Protocol
