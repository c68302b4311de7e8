import Airwaves.Listener.Basic
/-!
# Request handlers, sockets and session banks

A `Handler` serves one API request, a `Socket` is one websocket connection, and a `SessionBank`
keeps the connections of a station that wait for updates.
-/
namespace Airwaves

/-- How a handler answers over HTTP. -/
inductive Page where
  /-- A JSON answer built from named parts. -/
  | answer
  /-- A JSON answer held back until the station's next change. -/
  | waiting
  /-- A page of text, such as a playlist file. -/
  | document
  /-- The answer to a relay reporting a listener. -/
  | relay
  deriving Repr, BEq, Inhabited, DecidableEq

/-- The kind name of a handler serving a page of this kind. -/
def Page.kindName : Page → String
  | .answer => "APIHandler"
  | .waiting => "Sync"
  | .document => "HTMLRequest"
  | .relay => "IcecastHandler"

/-- One API request being served. `route` names the endpoint; the plain handler has the
empty route. Over HTTP, the handler also holds the response being written: its status,
headers, body so far, the cookies set, and whether it has been sent. -/
structure Handler where
  route : String
  page : Page := .answer
  cleanedArgs : Dict := []
  sid : Value := .none
  user : Value := .none
  output : Value := .none
  outputArray : Value := .bool false
  mobile : Value := .bool false
  locale : Value := .none
  request : Value := .none
  returnName : Value := .none
  status : Nat := 200
  headers : List (String × String) := []
  cookies : List (String × String) := []
  body : String := ""
  finished : Bool := false
  extra : List (String × Value) := []
  deriving Inhabited

namespace Handler

/-- The fields under their client names. -/
def attributes (h : Handler) : List (String × Value) :=
  [("cleaned_args", .dict h.cleanedArgs), ("sid", h.sid), ("user", h.user),
   ("_output", h.output), ("_output_array", h.outputArray), ("mobile", h.mobile),
   ("locale", h.locale), ("request", h.request), ("return_name", h.returnName)] ++ h.extra

/-- Sets a field by its client name. -/
def setAttribute (h : Handler) (name : String) (v : Value) : Handler :=
  match name with
  | "cleaned_args" => { h with cleanedArgs := (v.entries?).getD h.cleanedArgs }
  | "sid" => { h with sid := v }
  | "user" => { h with user := v }
  | "_output" => { h with output := v }
  | "_output_array" => { h with outputArray := v }
  | "mobile" => { h with mobile := v }
  | "locale" => { h with locale := v }
  | "request" => { h with request := v }
  | "return_name" => { h with returnName := v }
  | _ => { h with extra := setNamed h.extra name v }

end Handler

/-- One websocket connection. Fields are set as the connection opens and authenticates;
before that they are absent. -/
structure Socket where
  fields : List (String × Value) := []
  deriving Inhabited

namespace Socket

/-- Fields every connection has before it opens. -/
def defaults : List (String × Value) :=
  [("locale", .none), ("sid", .none), ("uuid", .none), ("is_websocket", .bool true),
   ("local_only", .bool false), ("help_hidden", .bool false)]

/-- The fields under their client names. -/
def attributes (s : Socket) : List (String × Value) := s.fields

/-- A field, falling back to the defaults every connection has. -/
def get? (s : Socket) (name : String) : Option Value :=
  match s.fields.find? (·.1 == name) with
  | some e => some e.2
  | none => (defaults.find? (·.1 == name)).map (·.2)

/-- A field, `none` when absent. -/
def get (s : Socket) (name : String) : Value := (s.get? name).getD .none

/-- Sets a field by its client name. -/
def setAttribute (s : Socket) (name : String) (v : Value) : Socket :=
  { s with fields := setNamed s.fields name v }

end Socket

/-- The connections of one station that wait for updates. -/
structure SessionBank where
  sessions : List Value := []
  websockets : List Value := []
  throttled : Dict := []
  websocketsByUser : Dict := []
  extra : List (String × Value) := []
  deriving Inhabited

namespace SessionBank

/-- The fields under their client names. -/
def attributes (b : SessionBank) : List (String × Value) :=
  [("sessions", .list b.sessions), ("websockets", .list b.websockets),
   ("throttled", .dict b.throttled), ("websockets_by_user", .dict b.websocketsByUser)] ++ b.extra

/-- Sets a field by its client name. -/
def setAttribute (b : SessionBank) (name : String) (v : Value) : SessionBank :=
  match name, v with
  | "sessions", .list xs => { b with sessions := xs }
  | "websockets", .list xs => { b with websockets := xs }
  | "throttled", .dict d => { b with throttled := d }
  | "websockets_by_user", .dict d => { b with websocketsByUser := d }
  | _, _ => { b with extra := setNamed b.extra name v }

end SessionBank

end Airwaves
