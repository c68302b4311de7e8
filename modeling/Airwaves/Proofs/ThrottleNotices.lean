import Airwaves.Proofs.BacklogTurns
import Airwaves.Proofs.SignIn
/-!
# Which dropped messages are told to slow down

A dropped message is told so only when its id is truthy, so a message with id zero is dropped
without a word.
-/
namespace Airwaves.Live

/-! ## The notices of a turn -/

section Notices

variable (act : Value → Value) (ident : Value → Option Value)

/-- The messages a turn drops from the sorted backlog: for an action that may not repeat, every
message of it but the last; none otherwise. -/
def droppedFrom (sorted : List Value) : List Value :=
  let a := act (sorted.headD .none)
  if mayRepeat a then [] else (sorted.filter fun m => Value.equals (act m) a).dropLast

/-- The id a dropped message is told about: its message id, read as a whole number that is not
negative, when that reading is truthy. -/
def noticedId (m : Value) : Option Value :=
  (ident m).bind fun x =>
    let id := Fields.zeroOrGreaterInteger x
    if id.truthy then some id else none

/-- The ids a turn sends throttle notices for, in order. -/
def throttledIds (sorted : List Value) : List Value :=
  (droppedFrom act sorted).filterMap (noticedId ident)

end Notices

/-- The notice a dropped message with an id is sent. -/
def throttleNotice (text id : Value) : Value :=
  .record [("wsthrottle", .record [("tl_key", .str "websocket_throttle"), ("text", text)]),
    ("message_id", .record [("message_id", id), ("success", .bool false),
      ("tl_key", .str "websocket_throttle")])]

/-- One pass of the loop of notices: a notice for an id, nothing without one. -/
def noticeStep (ws : Value) : Option Value → Act (ForInStep PUnit)
  | none => pure (.yield PUnit.unit)
  | some id => do
    let text ← say ws "websocket_throttle"
    send (throttleNotice text id)
    pure (.yield PUnit.unit)

/-- Tells each id in turn that its message was dropped. -/
def sendNotices (ws : Value) (ids : List Value) : Act Unit :=
  forIn ids PUnit.unit fun id _ => noticeStep ws (some id)

/-- Each held message is a message in the store whose `message_id` entry, if it has one, is
what `ident` gives. -/
def IdsIn (store : Array Obj) (ident : Value → Option Value) (ms : List Value) : Prop :=
  ∀ m ∈ ms, ∃ h d, m = .ref h ∧ store[h]? = some (.message d) ∧
    Dict.lookup? d (.str "message_id") = ident m

section Loop

variable (ident : Value → Option Value)

theorem noticeStep_keepsStore (ws : Value) (o : Option Value) : KeepsStore (noticeStep ws o) := by
  cases o with
  | none => exact KeepsStore.of_readOnly (ReadOnly.pure _)
  | some id =>
    exact KeepsStore.bind (KeepsStore.of_readOnly (say_readOnly _ _)) fun _ =>
      KeepsStore.bind (send_keepsStore _) fun _ => KeepsStore.of_readOnly (ReadOnly.pure _)

/-- A loop whose every pass, on the store it starts from, is the notice for the message's id, is
the loop of notices for the ids alone. -/
theorem forIn_notices_run (ws : Value) {store : Array Obj} {ms : List Value}
    {body : Value → PUnit → Act (ForInStep PUnit)}
    (step : ∀ m ∈ ms, ∀ w : World, w.store = store →
      (body m PUnit.unit).run w = (noticeStep ws (noticedId ident m)).run w) :
    ∀ w : World, w.store = store →
      (forIn ms PUnit.unit body).run w = (sendNotices ws (ms.filterMap (noticedId ident))).run w := by
  -- induction on the messages; every pass leaves the store as it was
  induction ms with
  | nil => intro w _; rfl
  | cons m rest ih =>
    intro w same
    have later := ih fun m' mem => step m' (List.mem_cons_of_mem _ mem)
    rw [List.forIn_cons, EStateM.run_bind, step m List.mem_cons_self w same]
    cases named : noticedId ident m with
    | none =>
      rw [List.filterMap_cons_none named]
      exact later w same
    | some id =>
      rw [List.filterMap_cons_some named]
      unfold sendNotices
      rw [List.forIn_cons, EStateM.run_bind]
      cases sent : (noticeStep ws (some id)).run w with
      | ok r w1 =>
        have kept : w1.store = store := (noticeStep_keepsStore ws _ w r w1 sent).trans same
        cases r with
        | done => rfl
        | yield => exact later w1 kept
      | error e w1 => rfl

end Loop

/-! ## A turn -/

theorem hasEntry_message_run {w : World} {h : Nat} {d : Dict} (stored : w.store[h]? = some (.message d))
    (key : String) : (hasEntry (.ref h) key).run w = .ok (Dict.hasKey d (.str key)) w := by
  simp [hasEntry, entriesOf, deref, stored]

theorem entry_message_run {w : World} {h : Nat} {d : Dict} {key : String} {x : Value}
    (stored : w.store[h]? = some (.message d)) (found : Dict.lookup? d (.str key) = some x) :
    (entry (.ref h) key).run w = .ok x w := by
  simp [entry, itemOf, deref, stored, found]

section Turn

variable (act : Value → Value) (ident : Value → Option Value)

theorem takeNext_notices {w : World} {hw : Nat} {sorted : List Value} (nonempty : sorted ≠ [])
    (held : HeldIn w.store hw act sorted) (ids : IdsIn w.store ident sorted) :
    (takeNext (.ref hw) sorted).run w =
      (do
        sendNotices (.ref hw) (throttledIds act ident sorted)
        setField (.ref hw) "throttled_msgs" (.list (takeFrom act sorted).2)
        return (takeFrom act sorted).1).run w := by
  obtain ⟨first, rest, rfl⟩ := List.exists_cons_of_ne_nil nonempty
  unfold takeNext
  rw [List.headD_cons, run_bind_ok (actionOf_run held List.mem_cons_self)]
  unfold throttledIds droppedFrom takeFrom
  simp only [List.headD_cons]
  by_cases again : mayRepeat (act first) = true
  · have again' : (repeatable.any fun a => Value.equals (act first) (.str a)) = true := again
    simp only [again, again', ↓reduceIte, Bool.not_true, Bool.false_eq_true]
    -- the head is served and nothing is dropped
    rfl
  · have unique : (repeatable.any fun a => Value.equals (act first) (.str a)) = false := by
      simpa [mayRepeat] using again
    simp only [again, unique, ↓reduceIte, Bool.not_false, Bool.false_eq_true]
    rw [run_bind_ok (filterByAction_run held _), EStateM.run_bind, EStateM.run_bind,
      forIn_notices_run ident _ ?step w rfl]
    · cases looped : (sendNotices (.ref hw) _).run w with
      | ok u w1 =>
        -- the notices leave the store, so the held messages read the same afterwards
        have kept : w1.store = w.store :=
          KeepsStore.forIn _ _ (fun _ _ => noticeStep_keepsStore _ _) w u w1 looped
        have held1 : HeldIn w1.store hw act (first :: rest) := by rw [kept]; exact held
        dsimp only
        rw [run_bind_ok (filterByAction_run held1 _)]
      | error e w1 => rfl
    case step =>
      intro m mem w' same
      obtain ⟨h, d, rfl, stored, found⟩ := ids m (List.mem_of_mem_filter (List.dropLast_subset _ mem))
      rw [← same] at stored
      rw [run_bind_ok (hasEntry_message_run stored _), Dict.hasKey, found]
      rw [noticedId]
      cases named : ident (.ref h) with
      | none => rfl
      | some x =>
        rw [Option.isSome_some, if_pos rfl, run_bind_ok (entry_message_run stored (found.trans named)),
          Option.bind_some]
        dsimp only
        -- a notice goes out exactly when the id reads as truthy
        cases (Fields.zeroOrGreaterInteger x).truthy <;> rfl

end Turn

/-- A connection holding back two requests for the station list, carrying the message ids
`first` and `second` in the order they came, with a locale that says how to slow down. -/
def stationRequests (first second : Value) : World :=
  { store := #[
      .socket { fields := [("throttled_msgs", .list [.ref 1, .ref 2]), ("locale", .ref 3)] },
      .message [(.str "action", .str "stations"), (.str "message_id", first)],
      .message [(.str "action", .str "stations"), (.str "message_id", second)],
      .locale { code := .str "en_CA", dict := [(.str "websocket_throttle", .str "Slow down!")], missing := [] }] }

/-- The message ids of `stationRequests (.int 1) (.int 0)`. -/
def stationRequestIds : Value → Option Value
  | .ref 2 => some (.int 0)
  | _ => some (.int 1)

/-- Sorted, the backlog puts the later request first; a turn then drops it, and its id of zero
earns no notice. -/
theorem stationRequests_turn :
    (takeNext (.ref 0) [.ref 2, .ref 1]).run (stationRequests (.int 1) (.int 0)) =
      (do
        sendNotices (.ref 0) (throttledIds (fun _ => .str "stations") stationRequestIds [.ref 2, .ref 1])
        setField (.ref 0) "throttled_msgs" (.list (takeFrom (fun _ => .str "stations") [.ref 2, .ref 1]).2)
        return (takeFrom (fun _ => .str "stations") [.ref 2, .ref 1]).1).run (stationRequests (.int 1) (.int 0)) := by
  have held : HeldIn (stationRequests (.int 1) (.int 0)).store 0 (fun _ => .str "stations") [.ref 2, .ref 1] := by
    intro m mem
    simp only [List.mem_cons, List.not_mem_nil, or_false] at mem
    rcases mem with rfl | rfl
    · exact ⟨⟨2, _, rfl, by decide, rfl, rfl⟩, by decide⟩
    · exact ⟨⟨1, _, rfl, by decide, rfl, rfl⟩, by decide⟩
  have ids : IdsIn (stationRequests (.int 1) (.int 0)).store stationRequestIds [.ref 2, .ref 1] := by
    intro m mem
    simp only [List.mem_cons, List.not_mem_nil, or_false] at mem
    rcases mem with rfl | rfl
    · exact ⟨2, _, rfl, rfl, rfl⟩
    · exact ⟨1, _, rfl, rfl, rfl⟩
  exact takeNext_notices _ _ (List.cons_ne_nil _ _) held ids

/-- One turn of a backlog, whatever it serves. -/
def backlogTurn (ws : Value) : Act Unit := do
  let _ ← nextHeld ws
  pure ()

/-- An id of zero is a valid message id. Held after a request with id 0, a request with id 1 is
dropped by the turn and told so; held after a request with id 1, a request with id 0 is dropped
without a notice, and nothing stays held to answer it later. -/
theorem zero_id_dropped_unanswered :
    Value.equals (Fields.zeroOrGreaterInteger (.int 0)) (.int 0) = true ∧
      (worldAfter (backlogTurn (.ref 0)) (stationRequests (.int 0) (.int 1))).outbox.socketMessages.size = 1 ∧
      succeeds (backlogTurn (.ref 0)) (stationRequests (.int 1) (.int 0)) = true ∧
      (worldAfter (backlogTurn (.ref 0)) (stationRequests (.int 1) (.int 0))).outbox.socketMessages.size = 0 ∧
      ((heldAt (worldAfter (backlogTurn (.ref 0)) (stationRequests (.int 1) (.int 0))) 0).getD .none).equals
        (.list []) = true :=
  ⟨by decide, by decide +kernel, by decide +kernel, by decide +kernel, by decide +kernel⟩

end Airwaves.Live
