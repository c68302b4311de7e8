import Airwaves.Live.Poll
/-!
# Serving the sessions of a bank

Keeping sessions alive, updating them when the station moves on, and the listener updates held
back for two seconds so that a burst of changes makes one.
-/
namespace Airwaves.Live

/-! ## Asking sessions -/

/-- What a bank asks a session to do. -/
inductive Ask where
  | update
  | keepAlive
  | finish
  | refreshUser
  | sendUser
  | warnMixup
  | updateDj
  deriving Repr, BEq

/-- The name a session answers an ask under. -/
def Ask.memberName : Ask → String
  | .update => "update"
  | .keepAlive => "keep_alive"
  | .finish => "rw_finish"
  | .refreshUser => "refresh_user"
  | .sendUser => "update_user"
  | .warnMixup => "login_mixup_warn"
  | .updateDj => "update_dj_only"

/-- Asks a session to do something. A connection or a held request does it; other
sessions fail, as they cannot. -/
def ask (s : Value) (a : Ask) : Act Unit := do
  match s with
  | .ref h =>
    match ← deref h with
    | .socket _ =>
      match a with
      | .update => update s
      | .keepAlive => keepAlive
      | .finish => close
      | .refreshUser => refreshUser s
      | .sendUser => sendUser s
      | .warnMixup => warnMixup s
      | .updateDj => noMember s a.memberName
    | .handler hd =>
      if hd.page != .waiting then noMember s a.memberName
      match a with
      | .update => Poll.update s
      | .keepAlive => Poll.keepAlive s
      | .finish => Poll.finish s
      | .refreshUser => Poll.refreshUser s
      | .sendUser => Poll.sendUser s
      | .warnMixup => Poll.warnMixup s
      | .updateDj => noMember s a.memberName
    | o =>
      match o.attribute? a.memberName with
      | some x => Act.raise (.typeError ("'" ++ (← kindNameOf x) ++ "' object is not callable"))
      | none => noMember s a.memberName
  | _ => noMember s a.memberName

/-- Finishes a session, ignoring a failure to do so. -/
def finishQuietly (s : Value) : Act Unit := do let _ ← Act.attempt (ask s .finish)

/-! ## Serving sessions -/

/-- Keeps every session alive, finishing those that fail. -/
def keepAliveAll (bank : Value) : Act Unit := do
  for s in ← everyone bank do
    if let .error _ ← Act.attempt (ask s .keepAlive) then ask s .finish

/-- Updates every session, finishing those that fail, then lets the waiting ones go. -/
def updateAll (bank : Value) : Act Unit := do
  for s in ← everyone bank do
    if let .error _ ← Act.attempt (ask s .update) then finishQuietly s
  clear bank

/-- Updates the DJ's connections. -/
def updateDj (bank : Value) : Act Unit := do
  let (_, b) ← bankAt bank
  for s in b.websockets do
    let dj ← Listeners.isDj (← userOfSession s)
    if dj then
      if let .error _ ← Act.attempt (ask s .updateDj) then finishQuietly s

/-- Updates a session's listener: refreshes the listener and sends the listener's data, or
warns of a playlist mix-up when an address change finds a logged-in listener not tuned in. A
session that fails is finished. -/
def updateListener (s byAddress : Value) : Act Unit := do
  let served ← Act.attempt do
    let user ← userOfSession s
    let mut warn := byAddress.truthy
    if warn then warn := !(← anonymous user)
    if warn then warn := !(← tunedIn user)
    ask s .refreshUser
    if warn && !(← tunedIn (← userOfSession s)) then ask s .warnMixup
    else ask s .sendUser
  if let .error _ := served then finishQuietly s

/-- Serves a held update of a session, if it is still held: it is no longer held, and the
session's listener is updated. -/
def heldUpdate (bank s byAddress : Value) : Act Unit := do
  let key ← sessionKey s
  let (_, b) ← bankAt bank
  if !Dict.hasKey b.throttled key then return
  changeBank bank fun b => { b with throttled := Dict.without b.throttled key }
  updateListener s byAddress

/-- Holds back an update for a session for two seconds, unless one is held already; the update
says whether a change of address caused it. -/
def holdUpdate (bank s : Value) (byAddress : Value := .bool false) : Act Unit := do
  let key ← sessionKey s
  let (_, b) ← bankAt bank
  if Dict.hasKey b.throttled key then return
  let timer ← addTimer 2.0 "<lambda>" (.heldUpdate bank s byAddress)
  changeBank bank fun b => { b with throttled := Dict.put b.throttled key timer }

/-- Holds back updates for a listener's sessions. -/
def updateUser (bank id : Value) : Act Unit := do
  for s in ← findUser bank id do holdUpdate bank s

/-- Holds back updates for the sessions from an address. -/
def updateAddress (bank address : Value) : Act Unit := do
  for s in ← findAddress bank address do holdUpdate bank s (.bool true)

end Airwaves.Live
