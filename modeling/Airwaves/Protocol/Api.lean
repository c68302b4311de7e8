import Airwaves.Protocol.Basic
import Airwaves.Api.Directory
/-!
# One API request, as a websocket message runs it

The `api` operation: the endpoint looked up, a handler opened with the locale, the user made,
and the request prepared and served; refusals are reported in their client form.
-/
namespace Airwaves.Protocol

open Script

/-- Makes the user of an API request: the given id, address and data, accepted. -/
def makeUser (spec : Value) (address : Value) : Act Value := do
  match spec with
  | .none => return .none
  | .dict d =>
    let user ← Listeners.create ((Dict.field? d "id").getD (.int 1))
    Listeners.changeUser user fun u => { u with ipAddress := address, authorized := .bool true }
    match Dict.field? d "data" with
    | some data => Listeners.mergeData user (← decode data)
    | none => pure ()
    return user
  | other => Listeners.create other

/-- A named entry when the list is not empty. -/
def listEntry (key : String) (xs : List Value) : Dict :=
  if xs.isEmpty then [] else [(.str key, .list xs)]

/-- Whether a failure rewrites the answer: a refusal or a missing song. -/
def rewritesAnswer (f : Fault) : Bool :=
  match f with
  | .api _ => true
  | other => other.isKind .songNonExistent

/-- Serves one API request. -/
def apiOp (reg : Registry) (request : Dict) : Act Value := do
  let pre ← runSteps reg (stepsOf request "pre")
  let url := (member request "url").display
  match Api.endpointAt? url with
  | none => return .dict ([(.str "error", .str "NotFound"), (.str "message", .str url)] ++ listEntry "pre" pre)
  | some e =>
    let m ← marks
    let handler ← Api.openHandler e
    let code := match member request "locale" with
      | .none => .str "en_CA"
      | c => c
    match ← Act.attempt (Locale.obtain code) with
    | .error f => return .dict ((← faultEntries f) ++ listEntry "pre" pre)
    | .ok locale =>
      let args ← decode (match member request "args" with | .none => .dict [] | a => a)
      let req ← allocRef (.record "FakeRequestObject" [("arguments", args), ("cookies", .dict [])])
      let address := match member request "ip" with
        | .none => .str "127.0.0.1"
        | a => a
      let user ← makeUser (member request "user") address
      Api.changeHandler handler fun h =>
        { h with locale := locale, request := req, sid := member request "sid", user := user }
      if user.truthy then bindName "user" user
      bindName "handler" handler
      let served ← Act.attempt do
        Api.prepareStandalone e handler (member request "message_id")
        e.serve handler
      let (raised, beside) ← match served with
        | .ok () => pure ([], [])
        | .error f =>
          if rewritesAnswer f then do
            let f ← Api.writeError handler f
            pure ([(Value.str "raised", ← encodeFault f)], [])
          else do pure ([], ← faultEntries f)
      let w ← get
      let calls ← gained "db" w.db.log m.db
      let published ← gained "pub" w.outbox.published m.published
      let post ← runSteps reg (stepsOf request "post")
      let output ← encode (← Api.handlerOf handler).output
      return .dict ([(.str "output", output)] ++ calls ++ published ++ raised ++ beside ++
        listEntry "pre" pre ++ listEntry "post" post)

end Airwaves.Protocol
