import Airwaves.Protocol.Api
import Airwaves.Web.Site
/-!
# One request over HTTP

The `http` operation: the route looked up by its pattern, the request made and served, and the
responses, failures and calls it gave.
-/
namespace Airwaves.Protocol

open Script

/-- A member of a request that must be an object, empty when absent. -/
def objectMember (request : Dict) (key : String) : Value :=
  match member request key with
  | .dict es => .dict es
  | _ => .dict []

/-- Serves one request over HTTP. -/
def httpOp (reg : Registry) (request : Dict) : Act Value := do
  let pre ← runSteps reg (stepsOf request "pre")
  let pattern := (member request "url").display
  match Web.routeAt? pattern with
  | none =>
    return .dict ([(.str "error", .str "NotFound"), (.str "message", .str pattern)] ++ listEntry "pre" pre)
  | some route =>
    let m ← marks
    let arguments ← decode (objectMember request "args")
    let headers ← decode (objectMember request "headers")
    let cookies ← decode (objectMember request "cookies")
    let address := match member request "ip" with
      | .none => .str "127.0.0.1"
      | a => a
    let req ← Web.newRequest arguments headers cookies address
    let handler ← route.start req
    bindName "handler" handler
    let method := match member request "method" with
      | .str s => s
      | _ => "post"
    let captured := match member request "path_args" with
      | .list xs => xs
      | _ => []
    let (raised, failed) ← route.respond handler method captured
    let w ← get
    let sent ← (w.outbox.responses.toList.drop m.responses).mapM encode
    let raisedEntry ← match raised with
      | some f => pure [(Value.str "raised", ← encodeFault f)]
      | none => pure []
    let failedEntry ← match failed with
      | some f => pure [(Value.str "send_error_failed", ← encodeFault f)]
      | none => pure []
    let calls ← gained "db" w.db.log m.db
    let published ← gained "pub" w.outbox.published m.published
    let timers ← gained "io" w.outbox.timers m.timers
    let user ← Api.userOf handler
    let userEntry ← if user matches .none then pure []
      else pure [(Value.str "user", ← encode (← Listeners.privateView user))]
    let post ← runSteps reg (stepsOf request "post")
    return .dict ([(.str "responses", .list sent)] ++ raisedEntry ++ failedEntry ++ calls ++
      published ++ timers ++ userEntry ++ listEntry "pre" pre ++ listEntry "post" post)

end Airwaves.Protocol
