import Airwaves.Catalog.Basic
/-!
# Listeners

A listener as the service sees one: a user id, whether the user's key was accepted, the
address the request came from, the key presented, and the `data` mapping that is sent
back to the listener (tuned-in state, lock, request position and so on).

A user whose id is at most one is anonymous.
-/
namespace Airwaves

/-- The avatar shown for users without one. -/
def defaultAvatar : String := "/static/images4/user.svg"

/-- A user of the service. -/
structure User where
  id : Value
  authorized : Value := .bool false
  ipAddress : Value := .bool false
  apiKey : Value := .bool false
  data : Dict := Dict.ofStrings [
    ("admin", .bool false), ("tuned_in", .bool false), ("perks", .bool false),
    ("request_position", .int 0), ("request_expires_at", .int 0),
    ("rate_anything", .bool false), ("requests_paused", .bool false),
    ("avatar", .str defaultAvatar), ("new_privmsg", .int 0), ("listen_key", .none),
    ("id", .int 1), ("name", .str "Anonymous"), ("sid", .int 0), ("lock", .bool false),
    ("lock_in_effect", .bool false), ("lock_sid", .none), ("lock_counter", .int 0),
    ("voted_entry", .int 0), ("listener_id", .int 0), ("_group_id", .none)]
  extra : List (String × Value) := []
  deriving Inhabited

namespace User

/-- The fields under their client names. -/
def attributes (u : User) : List (String × Value) :=
  [("id", u.id), ("authorized", u.authorized), ("ip_address", u.ipAddress),
   ("api_key", u.apiKey), ("data", .dict u.data)] ++ u.extra

/-- Sets a field by its client name. -/
def setAttribute (u : User) (name : String) (v : Value) : User :=
  match name with
  | "id" => { u with id := v }
  | "authorized" => { u with authorized := v }
  | "ip_address" => { u with ipAddress := v }
  | "api_key" => { u with apiKey := v }
  | "data" => { u with data := (v.entries?).getD u.data }
  | _ => { u with extra := setNamed u.extra name v }

/-- A data entry, `none` when absent. -/
def get (u : User) (key : String) : Value := (Dict.field? u.data key).getD .none

end User

end Airwaves
