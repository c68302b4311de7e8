import Airwaves.Web.Request
import Airwaves.Digest.Md5
/-!
# Signing in over HTTP

A request names its listener by a user id and key, or by forum cookies.
-/
namespace Airwaves.Web

open Api

/-- Marks a forum session as used by the service just now. -/
def touchForumSession (session : Value) : Act Unit := do
  let _ ← dbUpdate [← timestampInt, .str "rainwave", session]

/-- The newest forum session of a user. -/
def latestForumSession (id : Value) : Act Value := fetchVar [id]

/-- Makes the request's listener: the user with the given id, at the request's address. -/
def takeUser (v id : Value) : Act Value := do
  let user ← Listeners.create id
  let address ← remoteAddress v
  Listeners.changeUser user fun u => { u with ipAddress := address }
  changeHandler v fun h => { h with user := user }
  return user

/-- Signs the request in by the key in its arguments. -/
def keySignIn (e : Endpoint) (v : Value) : Act Unit := do
  let present ← isGiven v "user_id"
  if e.gates.keyed && !present then
    Act.raise (refuse "missing_argument" 400 [("argument", .str "user_id")])
  if present && !(Fields.numeric (← argument v "user_id")).truthy then
    Act.raise (refuse "invalid_argument" 400 [("argument", .str "user_id"), ("reason", .str "not numeric.")])
  if (e.gates.keyed || present) && !(← isGiven v "key") then
    Act.raise (refuse "missing_argument" 400 [("argument", .str "key")])
  if present then
    let user ← takeUser v (← asInt (← argument v "user_id"))
    Listeners.authorize user (← argument v "key") false
    let u ← Listeners.userOf user
    if !u.authorized.truthy then Act.raise (refuse "auth_failed" 403)
    touchForumSession (← latestForumSession u.id)

/-- Whether the forum session cookie names a live session of the user; a live session is
marked as used. -/
def liveForumSession (v id : Value) (cookiePrefix : String) : Act Bool := do
  let session ← cookie v (cookiePrefix ++ "sid")
  if !session.truthy then return false
  if !Value.equals session (← fetchVar [id, session]) then return false
  touchForumSession session
  return true

/-- Signs the request in by forum cookies, when they name a user. -/
def forumSignIn (v : Value) : Act Unit := do
  let cookiePrefix := (← plus (← Config.get "phpbb_cookie_name") (.str "_")).display
  let id := Fields.integer (← cookie v (cookiePrefix ++ "u"))
  if !id.truthy then return
  if ← liveForumSession v id cookiePrefix then
    Listeners.authorize (← takeUser v id) .none true
    return
  let remembered ← cookie v (cookiePrefix ++ "k")
  if !remembered.truthy then return
  let allowed ← fetchVar [.str (Digest.md5Hex remembered.display), id]
  if Value.equals allowed (.int 1) then
    touchForumSession (← latestForumSession id)
    Listeners.authorize (← takeUser v id) .none true

end Airwaves.Web
