import Airwaves.Proofs.Actions
import Airwaves.Proofs.BacklogSort
import Airwaves.Live.Inbox
import Mathlib.Tactic.Common
/-!
# Which held message a backlog turn serves

Each turn serves the message its sort puts first, or the last one of a one-at-a-time action,
so the held order flips from turn to turn (`backlogRun_serves`).
-/
namespace Airwaves.Value

theorem equals_str_right {v : Value} {s : String} : Value.equals v (.str s) = true ↔ v = .str s := by
  cases v <;> simp [Value.equals]

theorem equals_str_left {v : Value} {s : String} : Value.equals (.str s) v = true ↔ v = .str s := by
  cases v with
  | str a => simp only [Value.equals, beq_iff_eq, Value.str.injEq]; exact eq_comm
  | _ => simp [Value.equals]

end Airwaves.Value

namespace Airwaves.Live

open RunSort

/-! ## One turn, on lists -/

section Turns

variable (act : Value → Value)

/-- Whether a held message asks for a song request, by its action. -/
def heldRequest (m : Value) : Bool := Value.equals (act m) (.str "request")

/-- Whether an action is served one message at a time, the other messages of it staying held. -/
def mayRepeat (a : Value) : Bool := repeatable.any fun r => Value.equals a (.str r)

/-- What a turn takes from the sorted backlog: the message it serves and what stays held. -/
def takeFrom (sorted : List Value) : Value × List Value :=
  let a := act (sorted.headD .none)
  if mayRepeat a then (sorted.headD .none, sorted.tail)
  else ((sorted.filter fun m => Value.equals (act m) a).getLastD .none,
    sorted.filter fun m => !Value.equals (act m) a)

/-- What stays held after a turn, in the order the turn leaves it. -/
def leftAfter (ms : List Value) : List Value :=
  (takeFrom act (latestFirst (heldRequest act) ms)).2

/-- The message a turn serves, read off the held messages in the order they came: the latest
one that is not a request picks the action. An action that may repeat serves that message;
any other action serves the earliest held message of it. With only requests held, the latest
request. -/
def served (ms : List Value) : Option Value :=
  match (ms.filter fun m => !heldRequest act m).getLast? with
  | none => ms.getLast?
  | some latest =>
    if mayRepeat (act latest) then some latest
    else ms.find? fun m => Value.equals (act m) (act latest)

/-- The messages the first `n` turns serve from a backlog, fewer when it runs out. -/
def turns : Nat → List Value → List Value
  | 0, _ => []
  | n + 1, ms =>
    match served act ms with
    | none => []
    | some m => m :: turns n (leftAfter act ms)

end Turns

/-- Three ratings held: each turn sorts the rest again, so they are not served in order. -/
example : turns (fun _ => .str "rate") 3 [.ref 1, .ref 2, .ref 3] = [.ref 3, .ref 1, .ref 2] := rfl

variable {act : Value → Value}

theorem mayRepeat_request : mayRepeat (.str "request") = true := by decide

/-- A request never shares its action with a message that is not one. -/
theorem request_action_differs {r m : Value} (hr : heldRequest act r = true)
    (hm : heldRequest act m = false) : Value.equals (act r) (act m) = false := by
  unfold heldRequest at hr hm
  rw [Value.equals_str_right] at hr
  rw [hr, Bool.eq_false_iff]
  intro same
  rw [Value.equals_str_left] at same
  rw [same] at hm
  exact absurd hm (by decide)

theorem leftAfter_nil : leftAfter act [] = [] := by
  unfold leftAfter takeFrom
  dsimp only
  split <;> rfl

theorem mem_takeFrom_snd {sorted : List Value} {m : Value} (mem : m ∈ (takeFrom act sorted).2) :
    m ∈ sorted := by
  unfold takeFrom at mem
  dsimp only at mem
  split at mem
  · exact List.mem_of_mem_tail mem
  · exact List.mem_of_mem_filter mem

theorem mem_leftAfter {ms : List Value} {m : Value} (mem : m ∈ leftAfter act ms) : m ∈ ms :=
  mem_latestFirst.mp (mem_takeFrom_snd mem)

/-- The sorted form of a turn agrees with `served`: sorting puts the latest message that is
not a request first, and the messages of its action in reverse, so the last of them is the
earliest held. -/
theorem takeFrom_latestFirst {ms : List Value} (ne : ms ≠ [])
    (selfEq : ∀ m ∈ ms, Value.equals (act m) (act m) = true) :
    served act ms = some (takeFrom act (latestFirst (heldRequest act) ms)).1 := by
  unfold served takeFrom
  dsimp only
  cases hN : (ms.filter fun m => !heldRequest act m).getLast? with
  | none =>
    -- only requests are held: the latest request comes first, and requests may repeat
    have all : ∀ m ∈ ms, heldRequest act m = true := by
      intro m mem
      have gone := List.getLast?_eq_none_iff.mp hN
      simpa using List.filter_eq_nil_iff.mp gone m mem
    obtain ⟨last, hlast⟩ := Option.isSome_iff_exists.mp (List.getLast?_isSome.mpr ne)
    have head : (latestFirst (heldRequest act) ms).headD .none = last := by
      rw [latestFirst_of_all_late all, List.headD_eq_head?_getD, List.head?_reverse, hlast]
      rfl
    have request : act last = .str "request" :=
      Value.equals_str_right.mp (all last (List.mem_of_getLast? hlast))
    simp only [head, request, mayRepeat_request, ↓reduceIte, hlast]
  | some latest =>
    have head := headD_latestFirst Value.none hN
    simp only [head]
    by_cases again : mayRepeat (act latest) = true
    · simp [again]
    · -- the messages of that action are none of them requests, so sorting only reverses them
      have early : heldRequest act latest = false := by
        simpa using (List.mem_filter.mp (List.mem_of_getLast? hN)).2
      have none : ∀ m ∈ ms.filter (fun m => Value.equals (act m) (act latest)),
          heldRequest act m = false := by
        intro m mem
        rw [Bool.eq_false_iff]
        intro hm
        have same := (List.mem_filter.mp mem).2
        rw [request_action_differs hm early] at same
        exact Bool.false_ne_true same
      have kept : latest ∈ ms.filter (fun m => Value.equals (act m) (act latest)) :=
        List.mem_filter.mpr ⟨List.mem_of_mem_filter (List.mem_of_getLast? hN),
          selfEq latest (List.mem_of_mem_filter (List.mem_of_getLast? hN))⟩
      obtain ⟨first, rest, hfl⟩ := List.exists_cons_of_ne_nil (List.ne_nil_of_mem kept)
      simp only [again]
      rw [latestFirst_filter, latestFirst_of_none_late none, List.getLastD_eq_getLast?,
        List.getLast?_reverse, ← List.head?_filter, hfl]
      rfl

/-! ## The connection and its held messages -/

/-- Setting a named field replaces every entry of that name, or adds one: the first entry of
the name is then the new one, and entries of other names are found as before. -/
theorem find?_setNamed_self (fs : List (String × Value)) (name : String) (v : Value) :
    (setNamed fs name v).find? (·.1 == name) = some (name, v) := by
  unfold setNamed
  split
  next found =>
    have pred : ((fun e : String × Value => e.1 == name) ∘
        fun e => if e.1 == name then (name, v) else e) = fun e => e.1 == name := by
      funext e
      by_cases h : e.1 = name <;> simp [h]
    obtain ⟨e, he⟩ := Option.isSome_iff_exists.mp (List.find?_isSome.mpr (List.any_eq_true.mp found))
    have named : e.1 = name := by simpa using List.find?_some he
    rw [List.find?_map, pred, he]
    simp [named]
  next absent =>
    have miss : fs.find? (·.1 == name) = none := by
      rw [List.find?_eq_none]
      exact List.any_eq_false.mp (Bool.not_eq_true _ ▸ absent)
    simp [List.find?_append, miss]

theorem find?_setNamed_other (fs : List (String × Value)) {name other : String} (v : Value)
    (ne : other ≠ name) : (setNamed fs name v).find? (·.1 == other) = fs.find? (·.1 == other) := by
  unfold setNamed
  split
  next found =>
    have pred : ((fun e : String × Value => e.1 == other) ∘
        fun e => if e.1 == name then (name, v) else e) = fun e => e.1 == other := by
      funext e
      by_cases h : e.1 = name <;> simp [h]
    rw [List.find?_map, pred]
    cases hf : fs.find? (·.1 == other) with
    | none => rfl
    | some e =>
      have named : e.1 = other := by simpa using List.find?_some hf
      simp [named, ne]
  next absent => simp [List.find?_append, Ne.symm ne]

theorem get?_setAttribute_self (s : Socket) (name : String) (v : Value) :
    (s.setAttribute name v).get? name = some v := by
  simp [Socket.get?, Socket.setAttribute, find?_setNamed_self]

theorem get?_setAttribute_other (s : Socket) {name other : String} (v : Value)
    (ne : other ≠ name) : (s.setAttribute name v).get? other = s.get? other := by
  simp only [Socket.get?, Socket.setAttribute, find?_setNamed_other _ v ne]

theorem field_run {w : World} {hw : Nat} {s : Socket} {name : String} {v : Value}
    (socket : w.store[hw]? = some (.socket s)) (named : s.get? name = some v) :
    (field (.ref hw) name).run w = .ok v w := by
  simp [field, socketAt, deref, socket, named]

theorem setField_run {w : World} {hw : Nat} {s : Socket} (name : String) (v : Value)
    (socket : w.store[hw]? = some (.socket s)) :
    (setField (.ref hw) name v).run w =
      .ok () { w with store := w.store.set! hw (.socket (s.setAttribute name v)) } := by
  simp [setField, socketAt, deref, socket]
  rfl

theorem setField_result {w w' : World} {hw : Nat} {s : Socket} {name : String} {v : Value}
    {u : Unit} (socket : w.store[hw]? = some (.socket s))
    (run : (setField (.ref hw) name v).run w = .ok u w') :
    w' = { w with store := w.store.set! hw (.socket (s.setAttribute name v)) } := by
  rw [setField_run _ _ socket] at run
  exact (EStateM.Result.ok.inj run).2.symm

theorem set_frame (store : Array Obj) {hw : Nat} (o : Obj) :
    ∀ h ≠ hw, (store.set! hw o)[h]? = store[h]? := by
  intro h away
  simp [Array.set!_eq_setIfInBounds, Array.getElem?_setIfInBounds_ne (Ne.symm away)]

theorem set_self {store : Array Obj} {hw : Nat} {o : Obj} (o' : Obj)
    (inside : store[hw]? = some o) : (store.set! hw o')[hw]? = some o' := by
  have bound : hw < store.size := (Array.getElem?_eq_some_iff.mp inside).1
  simp [Array.set!_eq_setIfInBounds, bound]

/-- The messages a connection holds back, as its field reads. -/
def heldAt (w : World) (hw : Nat) : Option Value :=
  match w.store[hw]? with
  | some (.socket s) => s.get? "throttled_msgs"
  | _ => none

theorem heldAt_set {w : World} {hw : Nat} {o : Obj} (s : Socket)
    (inside : w.store[hw]? = some o) :
    heldAt { w with store := w.store.set! hw (.socket s) } hw = s.get? "throttled_msgs" := by
  have bound : hw < w.store.size := (Array.getElem?_eq_some_iff.mp inside).1
  simp [heldAt, Array.set!_eq_setIfInBounds, bound]

theorem socket_of_heldAt {w : World} {hw : Nat} {v : Value} (held : heldAt w hw = some v) :
    ∃ s, w.store[hw]? = some (.socket s) ∧ s.get? "throttled_msgs" = some v := by
  unfold heldAt at held
  split at held
  next s stored => exact ⟨s, stored, held⟩
  next => cases held

/-- Each held message is a message in the store, apart from the connection, whose action is
`act`, and that action equals itself (as every action but a float NaN does). -/
def HeldIn (store : Array Obj) (hw : Nat) (act : Value → Value) (ms : List Value) : Prop :=
  ∀ m ∈ ms, (∃ h d, m = .ref h ∧ h ≠ hw ∧ store[h]? = some (.message d) ∧
    Dict.lookup? d (.str "action") = some (act m)) ∧ Value.equals (act m) (act m) = true

theorem HeldIn.mono {store : Array Obj} {hw : Nat} {ms ms' : List Value}
    (held : HeldIn store hw act ms) (sub : ∀ m ∈ ms', m ∈ ms) : HeldIn store hw act ms' :=
  fun m mem => held m (sub m mem)

/-- Held messages stay readable while only the connection's own object changes. -/
theorem HeldIn.frame {store store' : Array Obj} {hw : Nat} {ms : List Value}
    (held : HeldIn store hw act ms) (same : ∀ h ≠ hw, store'[h]? = store[h]?) :
    HeldIn store' hw act ms := by
  intro m mem
  obtain ⟨⟨h, d, rfl, away, stored, action⟩, selfEq⟩ := held m mem
  exact ⟨⟨h, d, rfl, away, (same h away).trans stored, action⟩, selfEq⟩

/-- Held messages stay readable while every message object stays as it is. -/
theorem HeldIn.of_messages {store store' : Array Obj} {hw : Nat} {ms : List Value}
    (held : HeldIn store hw act ms)
    (messages : ∀ (h : Nat) d, store[h]? = some (Obj.message d) → store'[h]? = some (Obj.message d)) :
    HeldIn store' hw act ms := by
  intro m mem
  obtain ⟨⟨h, d, rfl, away, stored, action⟩, selfEq⟩ := held m mem
  exact ⟨⟨h, d, rfl, away, messages h d stored, action⟩, selfEq⟩

theorem actionOf_run {w : World} {hw : Nat} {ms : List Value} {m : Value}
    (held : HeldIn w.store hw act ms) (mem : m ∈ ms) : (actionOf m).run w = .ok (act m) w := by
  obtain ⟨⟨h, d, rfl, -, stored, action⟩, -⟩ := held _ mem
  simp [actionOf, itemOf, deref, stored, action]

/-- Sorting the backlog reads each held message's action and orders them by `latestFirst`. -/
theorem sortBacklog_run {w : World} {hw : Nat} {ms : List Value} (held : HeldIn w.store hw act ms) :
    (sortBacklog ms).run w = .ok (latestFirst (heldRequest act) ms) w := by
  have keyed : (ms.mapM fun m => do return (m, ← actionOf m)).run w =
      .ok (ms.map fun m => (m, act m)) w :=
    mapM_run fun m mem => by rw [run_bind_ok (actionOf_run held mem)]; rfl
  have order : (fun x y : Value × Value => actionBefore x.2 y.2) =
      lastOrder fun x => Value.equals x.2 (.str "request") := rfl
  unfold sortBacklog
  rw [run_bind_ok keyed, order, sort_lastOrder, latestFirst_map, List.map_map]
  simp only [Function.comp_def, List.map_id']
  rfl

/-! ## A turn keeps the held messages -/

/-- An action that, whenever it succeeds, leaves the store of objects as it found it. -/
def KeepsStore {α : Type} (x : Act α) : Prop := ∀ w v w', x.run w = .ok v w' → w'.store = w.store

namespace KeepsStore

theorem of_readOnly {α : Type} {x : Act α} (h : ReadOnly x) : KeepsStore x := by
  intro w v w' run
  rw [h w v w' run]

theorem bind {α β : Type} {x : Act α} {f : α → Act β} (hx : KeepsStore x)
    (hf : ∀ a, KeepsStore (f a)) : KeepsStore (x >>= f) := by
  intro w v w' run
  obtain ⟨a, w1, first, rest⟩ := run_bind_eq_ok run
  rw [hf a w1 v w' rest, hx w a w1 first]

theorem forIn {α β : Type} (xs : List α) (b : β) {f : α → β → Act (ForInStep β)}
    (hf : ∀ x b, KeepsStore (f x b)) : KeepsStore (forIn xs b f) := by
  intro w r w' run
  exact forIn_run_invariant (fun _ w1 => w1.store = w.store) f
    (fun x b _ w1 w2 same pass => (hf x b w1 _ w2 pass).trans same) xs b r w w' rfl run

end KeepsStore

/-- Sending only adds to the outbox. -/
theorem send_keepsStore (msg : Value) : KeepsStore (send msg) := by
  intro w u w' run
  obtain ⟨v, w1, wire, sent⟩ := run_bind_eq_ok run
  have same : w1 = w := by
    unfold wireForm at wire
    split at wire
    · cases wire
    · exact (run_pure_eq_ok wire).2
  have pushed : (sendSocket v).run w1 = .ok ()
      { w1 with outbox := { w1.outbox with socketMessages := w1.outbox.socketMessages.push v } } := rfl
  rw [pushed] at sent
  cases sent
  rw [same]

theorem socketAt_readOnly (v : Value) : ReadOnly (socketAt v) := by
  unfold socketAt
  repeat' first
    | split
    | with_reducible exact ReadOnly.pure _
    | with_reducible exact deref_readOnly _
    | with_reducible exact noMember_readOnly _ _
    | with_reducible apply ReadOnly.bind
    | intro _

theorem translateWith_readOnly (locale key : Value) (args : List (String × Value)) :
    ReadOnly (Locale.translateWith locale key args) := by
  unfold Locale.translateWith
  refine ReadOnly.bind ?_ fun l => ?_
  · unfold localeAt
    repeat' first
      | split
      | with_reducible exact ReadOnly.pure _
      | with_reducible exact deref_readOnly _
      | with_reducible exact noMember_readOnly _ _
      | with_reducible apply ReadOnly.bind
      | intro _
  · -- the key is checked, then the catalogue answers or fails; nothing is written
    dsimp only
    split
    all_goals refine ReadOnly.bind ?_ fun k => ?_
    all_goals first
      | exact ReadOnly.pure _
      | exact ReadOnly.raise _
      | cases l.translate k args with
        | ok text => exact ReadOnly.pure _
        | error e => exact ReadOnly.raise _

theorem say_readOnly (ws : Value) (key : String) (args : List (String × Value) := []) :
    ReadOnly (say ws key args) := by
  unfold say field
  refine ReadOnly.bind (ReadOnly.bind (socketAt_readOnly ws) fun p => ?_) fun locale =>
    translateWith_readOnly _ _ _
  split
  · exact ReadOnly.pure _
  · exact noMember_readOnly _ _

theorem hasEntry_readOnly (m : Value) (key : String) : ReadOnly (hasEntry m key) := by
  unfold hasEntry entriesOf
  repeat' first
    | split
    | with_reducible exact ReadOnly.pure _
    | with_reducible exact deref_readOnly _
    | with_reducible exact noMember_readOnly _ _
    | with_reducible apply ReadOnly.bind
    | intro _

/-- Filtering held messages by their action reads each action and changes nothing. -/
theorem filterByAction_run {w : World} {hw : Nat} {ms : List Value}
    (held : HeldIn w.store hw act ms) (keep : Value → Bool) :
    (ms.filterM fun m => do return keep (← actionOf m)).run w =
      .ok (ms.filter fun m => keep (act m)) w :=
  filterM_run fun m mem => by rw [run_bind_ok (actionOf_run held mem)]; rfl

/-- The notices for dropped messages only send; the store stays as it is. -/
theorem throttleNotices_keepsStore (ws : Value) (dropped : List Value) :
    KeepsStore (forIn dropped PUnit.unit fun m _ => do
      if ← hasEntry m "message_id" then
        let id := Fields.zeroOrGreaterInteger (← entry m "message_id")
        if id.truthy then
          let text ← say ws "websocket_throttle"
          send (.record [("wsthrottle", .record [("tl_key", .str "websocket_throttle"), ("text", text)]),
            ("message_id", .record [("message_id", id), ("success", .bool false),
              ("tl_key", .str "websocket_throttle")])])
      return ForInStep.yield PUnit.unit) := by
  refine KeepsStore.forIn _ _ fun m _ => ?_
  dsimp only [entry]
  repeat' first
    | split
    | with_reducible exact KeepsStore.of_readOnly (ReadOnly.pure _)
    | with_reducible exact KeepsStore.of_readOnly (hasEntry_readOnly _ _)
    | with_reducible exact KeepsStore.of_readOnly (itemOf_readOnly _ _)
    | with_reducible exact KeepsStore.of_readOnly (say_readOnly _ _)
    | with_reducible exact send_keepsStore _
    | with_reducible apply KeepsStore.bind
    | intro _

/-- Taking from the sorted backlog serves and stores what `takeFrom` says, and changes the
store only at the connection. -/
theorem takeNext_run {w w' : World} {hw : Nat} {s : Socket} {sorted : List Value} {next : Value}
    (socket : w.store[hw]? = some (.socket s)) (held : HeldIn w.store hw act sorted)
    (run : (takeNext (.ref hw) sorted).run w = .ok next w') :
    next = (takeFrom act sorted).1 ∧ heldAt w' hw = some (.list (takeFrom act sorted).2) ∧
      ∀ h ≠ hw, w'.store[h]? = w.store[h]? := by
  unfold takeNext at run
  obtain ⟨a, w1, runA, afterA⟩ := run_bind_eq_ok run
  -- the head's action is read, so the backlog is not empty
  obtain ⟨first, rest, rfl⟩ : ∃ first rest, sorted = first :: rest := by
    cases sorted with
    | nil => simp [actionOf, itemOf] at runA
    | cons first rest => exact ⟨first, rest, rfl⟩
  rw [List.headD_cons, actionOf_run held List.mem_cons_self] at runA
  obtain ⟨rfl, rfl⟩ : act first = a ∧ w = w1 := by simpa using runA
  unfold takeFrom
  split at afterA
  next unique =>
    have once : mayRepeat (act first) = false := by simpa [mayRepeat] using unique
    obtain ⟨same, w2, runSame, afterSame⟩ := run_bind_eq_ok afterA
    rw [filterByAction_run held] at runSame
    obtain ⟨rfl, rfl⟩ := EStateM.Result.ok.inj runSame
    -- the notices for the dropped messages leave the store, and so the backlog, alone
    obtain ⟨u, w3, runLoop, afterLoop⟩ := run_bind_eq_ok afterSame
    have kept : w3.store = w.store := throttleNotices_keepsStore (.ref hw) _ w u w3 runLoop
    have held3 : HeldIn w3.store hw act (first :: rest) := kept ▸ held
    have socket3 : w3.store[hw]? = some (.socket s) := kept ▸ socket
    obtain ⟨restList, w4, runRest, afterRest⟩ := run_bind_eq_ok afterLoop
    rw [filterByAction_run held3] at runRest
    obtain ⟨rfl, rfl⟩ := EStateM.Result.ok.inj runRest
    obtain ⟨_, w5, runSet, answer⟩ := run_bind_eq_ok afterRest
    obtain rfl := setField_result socket3 runSet
    obtain ⟨rfl, rfl⟩ := run_pure_eq_ok answer
    refine ⟨by simp [once], ?_, ?_⟩
    · rw [heldAt_set _ socket3, get?_setAttribute_self]
      simp [once]
    · intro h away
      rw [set_frame _ _ h away, kept]
  next again =>
    have twice : mayRepeat (act first) = true := by simpa [mayRepeat] using again
    obtain ⟨_, w2, runSet, answer⟩ := run_bind_eq_ok afterA
    obtain rfl := setField_result socket runSet
    obtain ⟨rfl, rfl⟩ := run_pure_eq_ok answer
    refine ⟨by simp [twice], ?_, set_frame _ _⟩
    rw [heldAt_set _ socket, get?_setAttribute_self]
    simp [twice]

/-- One turn of the backlog serves what `served` names and leaves `leftAfter` held; the store
changes only at the connection. -/
theorem nextHeld_run {w w' : World} {hw : Nat} {ms : List Value} {next : Option Value}
    (held : heldAt w hw = some (.list ms)) (actions : HeldIn w.store hw act ms)
    (run : (nextHeld (.ref hw)).run w = .ok next w') :
    next = served act ms ∧ heldAt w' hw = some (.list (leftAfter act ms)) ∧
      ∀ h ≠ hw, w'.store[h]? = w.store[h]? := by
  obtain ⟨s, socket, field⟩ := socket_of_heldAt held
  unfold nextHeld at run
  obtain ⟨v, w1, runField, afterField⟩ := run_bind_eq_ok run
  rw [field_run socket field] at runField
  obtain ⟨rfl, rfl⟩ := EStateM.Result.ok.inj runField
  obtain ⟨items, w2, runItems, afterItems⟩ := run_bind_eq_ok afterField
  have listed : (itemsOf (.list ms)).run w = .ok ms w := rfl
  rw [listed] at runItems
  obtain ⟨rfl, rfl⟩ := EStateM.Result.ok.inj runItems
  split at afterItems
  next empty =>
    -- nothing held: the slow-down ends and nothing is served
    obtain rfl : ms = [] := List.isEmpty_iff.mp empty
    obtain ⟨_, w3, runSet, answer⟩ := run_bind_eq_ok afterItems
    obtain rfl := setField_result socket runSet
    obtain ⟨rfl, rfl⟩ := run_pure_eq_ok answer
    refine ⟨rfl, ?_, set_frame _ _⟩
    rw [heldAt_set _ socket, get?_setAttribute_other _ _ (by decide), field, leftAfter_nil]
  next nonempty =>
    have ne : ms ≠ [] := by simpa using nonempty
    obtain ⟨sorted, w3, runSort, afterSort⟩ := run_bind_eq_ok afterItems
    rw [sortBacklog_run actions] at runSort
    obtain ⟨rfl, rfl⟩ := EStateM.Result.ok.inj runSort
    obtain ⟨_, w4, runSet, afterSet⟩ := run_bind_eq_ok afterSort
    obtain rfl := setField_result socket runSet
    obtain ⟨taken, w5, runTake, answer⟩ := run_bind_eq_ok afterSet
    obtain ⟨rfl, rfl⟩ := run_pure_eq_ok answer
    -- the sorted backlog is stored first; the turn then takes from it
    have held4 : HeldIn (w.store.set! hw (.socket (s.setAttribute "throttled_msgs"
        (.list (latestFirst (heldRequest act) ms))))) hw act (latestFirst (heldRequest act) ms) :=
      (actions.mono fun m mem => mem_latestFirst.mp mem).frame (set_frame _ _)
    obtain ⟨isTaken, heldAfter, frame⟩ := takeNext_run (set_self _ socket) held4 runTake
    refine ⟨?_, heldAfter, ?_⟩
    · rw [isTaken, takeFrom_latestFirst ne fun m mem => (actions m mem).2]
    · intro h away
      rw [frame h away, set_frame _ _ h away]

/-! ## Turn after turn -/

/-- Turns of the backlog of the connection under handle `hw`, with the message each serves.
Between turns anything may happen that leaves the connection's backlog and every message as they
are: other connections, users, banks, the database and the outbox may change. -/
inductive BacklogRun (hw : Nat) : World → List Value → World → Prop
  | stop (w : World) : BacklogRun hw w [] w
  | turn {w w1 w' : World} {m : Value} {later : List Value}
      (run : (nextHeld (.ref hw)).run w = .ok (some m) w1) (rest : BacklogRun hw w1 later w') :
      BacklogRun hw w (m :: later) w'
  | other {w w1 w' : World} {later : List Value} (held : heldAt w1 hw = heldAt w hw)
      (messages : ∀ (h : Nat) d, w.store[h]? = some (Obj.message d) → w1.store[h]? = some (Obj.message d))
      (rest : BacklogRun hw w1 later w') : BacklogRun hw w later w'

/-- The messages a backlog serves, turn after turn, are those `turns` reads off the messages
held at the start: each turn serves what `served` names, which for a one-at-a-time action is
the earliest held message of it, and leaves the rest in the order the sort gave them. -/
theorem backlogRun_serves {hw : Nat} {w w' : World} {servedList ms : List Value}
    (run : BacklogRun hw w servedList w') (held : heldAt w hw = some (.list ms))
    (actions : HeldIn w.store hw act ms) : servedList = turns act servedList.length ms := by
  -- induction on the run; the held messages and their actions are carried along
  induction run generalizing ms with
  | stop w => rfl
  | @turn w w1 w' m later step rest ih =>
    obtain ⟨isServed, heldAfter, frame⟩ := nextHeld_run held actions step
    have kept := ih heldAfter ((actions.mono fun m mem => mem_leftAfter mem).frame frame)
    rw [List.length_cons, turns, ← isServed, ← kept]
  | @other w w1 w' later same messages rest ih =>
    exact ih (same.trans held) (actions.of_messages messages)

/-- A connection holding back two votes. -/
def twoVotes : World :=
  { store := #[.socket { fields := [("throttled_msgs", .list [.ref 1, .ref 2])] },
      .message [(.str "action", .str "vote")], .message [(.str "action", .str "vote")]] }

theorem twoVotes_held : HeldIn twoVotes.store 0 (fun _ => .str "vote") [.ref 1, .ref 2] := by
  intro m mem
  simp only [List.mem_cons, List.not_mem_nil, or_false] at mem
  rcases mem with rfl | rfl
  · exact ⟨⟨1, _, rfl, by decide, rfl, rfl⟩, by decide⟩
  · exact ⟨⟨2, _, rfl, by decide, rfl, rfl⟩, by decide⟩

/-- Of two held votes, a turn serves the first and drops the second. -/
theorem twoVotes_serves_first : ∃ w', BacklogRun 0 twoVotes [.ref 1] w' ∧
    [Value.ref 1] = turns (fun _ => .str "vote") 1 [.ref 1, .ref 2] :=
  have run : BacklogRun 0 twoVotes [.ref 1] _ := .turn rfl (.stop _)
  ⟨_, run, backlogRun_serves run rfl twoVotes_held⟩

end Airwaves.Live
