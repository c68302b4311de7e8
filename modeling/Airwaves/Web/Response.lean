import Airwaves.Web.Request
/-!
# HTTP responses

The status, headers, body and cookies a handler writes, and sending the response once.
-/
namespace Airwaves.Web

open Api

/-- The headers a fresh response has. -/
def freshHeaders : List (String × String) := [("Content-Type", "text/html; charset=UTF-8")]

/-- The text of a header value: text without control characters, or a whole number. -/
def headerText (v : Value) : Except Fault String :=
  match v with
  | .str s =>
    if s.toList.any (fun c => c.toNat < 0x20) then .error (.raised .valueError [.str "Unsafe header value %r", v])
    else .ok s
  | .int n => .ok (toString n)
  | .bool b => .ok (if b then "True" else "False")
  | other => .error (.typeError ("Unsupported header value " ++ other.quote))

/-- Whether the response has been sent. -/
def isFinished (v : Value) : Act Bool := do return (← handlerOf v).finished

/-- Sets the status. -/
def setStatus (v : Value) (code : Nat) : Act Unit :=
  changeHandler v fun h => { h with status := code }

/-- Sets a header, replacing one of the same name. -/
def setHeader (v : Value) (name : String) (value : Value) : Act Unit := do
  let text ← Act.lift (headerText value)
  let key := canonicalHeader name
  changeHandler v fun h => { h with headers := (h.headers.filter (·.1 != key)) ++ [(key, text)] }

/-- Starts the response afresh: status 200, the fresh headers and no body. Cookies set
stay. -/
def clearResponse (v : Value) : Act Unit :=
  changeHandler v fun h => { h with status := 200, headers := freshHeaders, body := "" }

/-- Adds text to the body. -/
def write (v : Value) (text : String) : Act Unit := do
  if ← isFinished v then Act.raise (.of .runtime "Cannot write() after finish()")
  changeHandler v fun h => { h with body := h.body ++ text }

/-- Sets a cookie; a whole number is set as its digits. -/
def setCookie (v : Value) (name : String) (value : Value) : Act Unit := do
  let text := match value with
    | .str s => s
    | other => other.display
  changeHandler v fun h => { h with cookies := (h.cookies.filter (·.1 != name)) ++ [(name, text)] }

/-- A value shown with the trace of an unexpected failure replaced by a mark. -/
def markTrace (v : Value) : Value :=
  match v with
  | .dict es =>
    if Dict.hasKey es (.str "traceback") then
      .dict (Dict.putField es "traceback" (.record [("$traceback", .bool true)]))
    else v
  | other => other

/-- The body as it is shown: its JSON value when it is JSON, else its text. -/
def shownBody (body : String) : String × Value :=
  match Json.read body with
  | .ok j => ("json", markTrace j)
  | .error _ => ("body", .str body)

/-- The record of a sent response. -/
def responseRecord (h : Handler) : Value :=
  let headers := (h.headers.mergeSort fun a b => a.1 < b.1 || (a.1 == b.1 && a.2 ≤ b.2)).map
    fun (name, value) => Value.list [.str name, .str value]
  let cookies : List (String × Value) :=
    if h.cookies.isEmpty then [] else [("cookies", .record (h.cookies.map fun (k, x) => (k, .str x)))]
  .record ([("status", .nat h.status), ("headers", .list headers), shownBody h.body] ++ cookies)

/-- Sends the response: records it, once. -/
def finishResponse (v : Value) : Act Unit := do
  let h ← handlerOf v
  if h.finished then Act.raise (.of .runtime "finish() called twice")
  recordResponse (responseRecord h)
  changeHandler v fun h => { h with finished := true }

/-- Sends the text written so far ahead of the rest. -/
def flush (v : Value) : Act Unit := do
  let h ← handlerOf v
  recordResponse (.record [("flush", .str h.body)])
  changeHandler v fun h => { h with body := "" }

/-- Sends a JSON answer: the content type, the timing part, and the answer as JSON. -/
def finishAnswer (v : Value) : Act Unit := do
  setHeader v "Content-Type" (.str "application/json")
  let now ← timestamp
  let start ← attributeOf v "_startclock"
  let _ ← append v (.str "api_info") (.record [("exectime", ← minus now start), ("time", ← roundTo now 0)])
  match Json.write .spacedUnicode (← handlerOf v).output with
  | .ok text => write v text
  | .error e => Act.raise (.typeError e.message)
  finishResponse v

end Airwaves.Web
