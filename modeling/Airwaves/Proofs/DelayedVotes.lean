import Airwaves.Proofs.HeldUpdates
/-!
# Waiting vote counts

Along every interleaving of live-voting messages and timers, a station's timer entry and the loop
agree (`VotesSound`), and the timer passes on the counts of the last delayed message. While every
broadcast goes through, counts wait only under their timer (`WaitTimed`).
-/

namespace Airwaves

open KeepsLoop (ok_kept error_kept of_modify)
open Live

/-! ## Timers that serve no held update -/

/-- Whether a timer passes a station's waiting counts on. -/
def Callback.passesOn (s : Int) : Callback → Bool
  | .passVote sid => Value.equals sid (.int s)
  | _ => false

theorem Callback.isHeld_of_passesOn {s : Int} {c : Callback} (passes : c.passesOn s = true) :
    c.isHeld = false := by
  cases c with
  | heldUpdate => cases passes
  | _ => rfl

/-- Taking timers that serve no held update out of the loop, and leaving the store, keeps the held
updates sound. -/
theorem HeldSound.unheld_removed {w w' : World} (sound : HeldSound w) (loop : w'.loop.Sublist w.loop)
    (unheld : ∀ e ∈ w.loop, e ∉ w'.loop → e.2.isHeld = false) (count : w'.timerCount = w.timerCount)
    (store : w'.store = w.store) : HeldSound w' where
  toLoopIssued := sound.toLoopIssued.of_sublist loop count
  keys found := sound.keys (throttledAt_of_store store ▸ found)
  keyed found mem := keyable_of_store store (sound.keyed (throttledAt_of_store store ▸ found) mem)
  timed found mem := by
    obtain ⟨n, a, rfl, entry⟩ := sound.timed (throttledAt_of_store store ▸ found) mem
    refine ⟨n, a, rfl, ?_⟩
    -- the timer of a held update is not among those taken out
    by_contra gone
    cases unheld _ entry gone
  held entry := by
    rw [throttledAt_of_store store]
    exact sound.held (loop.subset entry)

/-- Setting a timer that serves no held update under the next handle, and leaving the store, keeps
the held updates sound. -/
theorem HeldSound.unheld_added {w w' : World} (sound : HeldSound w) {c : Callback}
    (unheld : c.isHeld = false) (count : w'.timerCount = w.timerCount + 1)
    (loop : w'.loop = w.loop ++ [(w.timerCount + 1, c)]) (store : w'.store = w.store) : HeldSound w' where
  toLoopIssued := sound.toLoopIssued.push_next count loop
  keys found := sound.keys (throttledAt_of_store store ▸ found)
  keyed found mem := keyable_of_store store (sound.keyed (throttledAt_of_store store ▸ found) mem)
  timed found mem := by
    obtain ⟨n, a, rfl, entry⟩ := sound.timed (throttledAt_of_store store ▸ found) mem
    exact ⟨n, a, rfl, loop ▸ List.mem_append_left _ entry⟩
  held entry := by
    rw [loop, List.mem_append, List.mem_singleton] at entry
    rcases entry with old | new
    · rw [throttledAt_of_store store]
      exact sound.held old
    · rw [Prod.mk.injEq] at new
      rw [← new.2] at unheld
      cases unheld

/-- What a call that keeps the loop leaves of a timer that serves no held update. -/
theorem LoopKept.keeps_unheld {w w' : World} (kept : LoopKept w w') (sound : HeldSound w)
    {e : Nat × Callback} (entry : e ∈ w.loop) (unheld : e.2.isHeld = false) : e ∈ w'.loop := by
  by_contra gone
  rw [kept.cancels sound e entry gone] at unheld
  cases unheld

theorem Value.truthy_nat {n : Nat} : (Value.nat n).truthy = true ↔ 0 < n := by
  simp only [Value.nat, Value.truthy, bne_iff_ne, ne_eq]
  omega

/-! ## The tables of waiting counts -/

/-- What a table of the station-wide state holds for a station: the entry under its id, when the
table is a mapping. -/
def entryFor (table : Value) (s : Int) : Option Value :=
  match table with
  | .dict d => Dict.lookup? d (.int s)
  | _ => none

/-- The counts waiting to be passed on for a station. -/
def waitingOf (s : Int) (w : World) : Option Value := entryFor w.globals.delayedLiveVote s

/-- The entry of the timer of a station's waiting counts. -/
def timerOf (s : Int) (w : World) : Option Value := entryFor w.globals.delayedLiveVoteTimers s

theorem entryFor_putIn {table : Value} {s : Int} (has : (entryFor table s).isSome) (x : Value) :
    entryFor (putIn table (.int s) x) s = some x := by
  cases table with
  | dict d => exact Dict.lookup?_put_self d x (Value.equals_int_self s)
  | _ => cases has

theorem entryFor_putIn_isSome {table : Value} {s : Int} (has : (entryFor table s).isSome) (x : Value) :
    (entryFor (putIn table (.int s) x) s).isSome := by
  rw [entryFor_putIn has]
  rfl

theorem itemOf_entryFor {table : Value} {s : Int} {x : Value} (found : entryFor table s = some x)
    (w : World) : (itemOf table (.int s)).run w = .ok x w := by
  cases table with
  | dict d =>
    rw [entryFor] at found
    simp [itemOf, found]
  | _ => cases found

theorem waitingVote_run {s : Int} {w : World} {m : Value} (found : waitingOf s w = some m) :
    (waitingVote (.int s)).run w = .ok m w :=
  itemOf_entryFor found w

theorem waitingTimer_run {s : Int} {w : World} {t : Value} (found : timerOf s w = some t) :
    (waitingTimer (.int s)).run w = .ok t w :=
  itemOf_entryFor found w

theorem setWaitingVote_run (sid x : Value) (w : World) :
    (setWaitingVote sid x).run w = .ok () { w with globals :=
      { w.globals with delayedLiveVote := putIn w.globals.delayedLiveVote sid x } } :=
  rfl

theorem setWaitingTimer_run (sid x : Value) (w : World) :
    (setWaitingTimer sid x).run w = .ok () { w with globals :=
      { w.globals with delayedLiveVoteTimers := putIn w.globals.delayedLiveVoteTimers sid x } } :=
  rfl

theorem waitingOf_kept {s : Int} {w w' : World} (kept : LoopKept w w') : waitingOf s w' = waitingOf s w := by
  rw [waitingOf, waitingOf, kept.votes]

theorem timerOf_kept {s : Int} {w w' : World} (kept : LoopKept w w') : timerOf s w' = timerOf s w := by
  rw [timerOf, timerOf, kept.voteTimers]

/-! ## Sound waiting counts -/

/-- The waiting counts of station `s` and their timer agree with the loop. Both tables have an
entry for the station. While the timer entry is truthy, it is the handle of a timer that passes
the station's counts on, the only one, and truthy counts wait; while it is not, no timer passes
them on. The held updates are sound too: the calls that keep the loop cancel only their timers. -/
structure VotesSound (s : Int) (w : World) : Prop extends HeldSound w where
  waiting : (waitingOf s w).isSome
  timer : (timerOf s w).isSome
  running : ∀ {t}, timerOf s w = some t → t.truthy = true →
    ∃ n m, t = .nat n ∧ waitingOf s w = some m ∧ m.truthy = true ∧
      (n, .passVote (.int s)) ∈ w.loop ∧ ∀ e ∈ w.loop, e.2.passesOn s = true → e.1 = n
  stopped : ∀ {t}, timerOf s w = some t → t.truthy = false → ∀ e ∈ w.loop, e.2.passesOn s = false

section Sound

variable {s : Int}

theorem VotesSound.of_stopped {w : World} (held : HeldSound w) (waiting : (waitingOf s w).isSome)
    {t : Value} (timer : timerOf s w = some t) (falsy : t.truthy = false)
    (none : ∀ e ∈ w.loop, e.2.passesOn s = false) : VotesSound s w where
  toHeldSound := held
  waiting := waiting
  timer := Option.isSome_iff_exists.mpr ⟨t, timer⟩
  running found truthy := by
    rw [timer, Option.some.injEq] at found
    rw [← found, falsy] at truthy
    cases truthy
  stopped _ _ := none

theorem VotesSound.of_running {w : World} (held : HeldSound w) {n : Nat} {m : Value}
    (timer : timerOf s w = some (.nat n)) (waiting : waitingOf s w = some m) (truthy : m.truthy = true)
    (entry : (n, .passVote (.int s)) ∈ w.loop) (only : ∀ e ∈ w.loop, e.2.passesOn s = true → e.1 = n) :
    VotesSound s w where
  toHeldSound := held
  waiting := Option.isSome_iff_exists.mpr ⟨m, waiting⟩
  timer := Option.isSome_iff_exists.mpr ⟨_, timer⟩
  running found _ := by
    rw [timer, Option.some.injEq] at found
    exact ⟨n, m, found.symm, waiting, truthy, entry, only⟩
  stopped found falsy := by
    rw [timer, Option.some.injEq] at found
    -- the handle is positive, so the entry is truthy
    rw [← found, Value.truthy_nat.mpr (held.positive _ entry)] at falsy
    cases falsy

/-- A call that keeps the loop keeps the station's timer, and its waiting counts sound. -/
theorem VotesSound.kept {w w' : World} (sound : VotesSound s w) (kept : LoopKept w w') : VotesSound s w' where
  toHeldSound := kept.held sound.toHeldSound
  waiting := waitingOf_kept kept ▸ sound.waiting
  timer := timerOf_kept kept ▸ sound.timer
  running found truthy := by
    obtain ⟨n, m, rfl, waiting, truthy', entry, only⟩ := sound.running (timerOf_kept kept ▸ found) truthy
    exact ⟨n, m, rfl, waitingOf_kept kept ▸ waiting, truthy',
      kept.keeps_unheld sound.toHeldSound entry rfl, fun e mem => only e (kept.loop.subset mem)⟩
  stopped found falsy e mem := sound.stopped (timerOf_kept kept ▸ found) falsy e (kept.loop.subset mem)

/-- With the station's timer under handle `n`, the loop's timers under `n` are those that pass
the station's counts on. -/
theorem VotesSound.handle_iff {w : World} (sound : VotesSound s w) {n : Nat}
    (entry : (n, .passVote (.int s)) ∈ w.loop) (only : ∀ e ∈ w.loop, e.2.passesOn s = true → e.1 = n) :
    ∀ e ∈ w.loop, e.1 = n ↔ e.2.passesOn s = true := by
  intro e mem
  constructor
  · intro same
    -- the handles are distinct, so the timer under `n` is the station's
    rw [List.inj_on_of_nodup_map sound.handles mem entry same]
    exact Value.equals_int_self s
  · exact only e mem

/-- Taking the station's timer out of the loop, keeping every other timer, and clearing its entry
leaves the waiting counts sound. -/
theorem VotesSound.stop {w w' : World} (sound : VotesSound s w) {keep : Nat × Callback → Bool}
    (loop : w'.loop = w.loop.filter keep) (keeps : ∀ e ∈ w.loop, keep e = !e.2.passesOn s)
    (count : w'.timerCount = w.timerCount) (store : w'.store = w.store)
    (waiting : (waitingOf s w').isSome) (cleared : timerOf s w' = some .none) : VotesSound s w' := by
  have held : HeldSound w' := by
    refine sound.unheld_removed (loop ▸ List.filter_sublist) (fun e mem gone => ?_) count store
    have dropped : keep e = false := by
      by_contra kept
      exact gone (loop ▸ List.mem_filter.mpr ⟨mem, by simpa using kept⟩)
    rw [keeps e mem, Bool.not_eq_false'] at dropped
    exact Callback.isHeld_of_passesOn dropped
  refine .of_stopped held waiting cleared rfl fun e mem => ?_
  rw [loop] at mem
  obtain ⟨old, kept⟩ := List.mem_filter.mp mem
  rw [keeps e old, Bool.not_eq_true'] at kept
  exact kept

/-- Forgetting the counts while no timer is set keeps them sound. -/
theorem VotesSound.forget {w : World} (sound : VotesSound s w) {t : Value} (timer : timerOf s w = some t)
    (falsy : t.truthy = false) :
    VotesSound s { w with globals := { w.globals with delayedLiveVote := putIn w.globals.delayedLiveVote (.int s) .none } } :=
  .of_stopped (sound.congr rfl rfl rfl fun _ => id) (entryFor_putIn_isSome sound.waiting _) timer falsy
    (sound.stopped timer falsy)

end Sound

/-! ## The counts pending -/

/-- The counts a station's timer will pass on: the waiting counts, while the timer entry is set. -/
def pendingOf (s : Int) (w : World) : Option Value :=
  if ((timerOf s w).getD .none).truthy then waitingOf s w else none

theorem pendingOf_stopped {s : Int} {w : World} {t : Value} (timer : timerOf s w = some t)
    (falsy : t.truthy = false) : pendingOf s w = none := by
  simp [pendingOf, timer, falsy]

theorem pendingOf_running {s : Int} {w : World} {t : Value} (timer : timerOf s w = some t)
    (truthy : t.truthy = true) : pendingOf s w = waitingOf s w := by
  simp [pendingOf, timer, truthy]

theorem pendingOf_kept {s : Int} {w w' : World} (kept : LoopKept w w') : pendingOf s w' = pendingOf s w := by
  rw [pendingOf, pendingOf, timerOf_kept kept, waitingOf_kept kept]

/-! ## Dropping the waiting counts -/

/-- Dropping a station's waiting counts never fails: it cancels their timer if one is set, and
leaves nothing pending. -/
theorem dropWaitingVote_run {s : Int} {w : World} (sound : VotesSound s w) :
    ∃ w', (dropWaitingVote (.int s)).run w = .ok () w' ∧ VotesSound s w' ∧ pendingOf s w' = none := by
  obtain ⟨t, timer⟩ := Option.isSome_iff_exists.mp sound.timer
  unfold dropWaitingVote
  rw [run_bind_ok (waitingTimer_run timer)]
  cases truthy : t.truthy with
  | false =>
    -- no timer is set, and nothing changes
    exact ⟨w, by simp, sound, pendingOf_stopped timer truthy⟩
  | true =>
    obtain ⟨n, m, rfl, -, -, entry, only⟩ := sound.running timer truthy
    rw [if_pos rfl, run_bind_ok (Live.removeTimer_run _ _), run_bind_ok (setWaitingVote_run _ _ _),
      setWaitingTimer_run]
    refine ⟨_, rfl, sound.stop rfl (fun e mem => ?_) rfl rfl (entryFor_putIn_isSome sound.waiting _)
      (entryFor_putIn sound.timer _), pendingOf_stopped (entryFor_putIn sound.timer _) rfl⟩
    -- the timer cancelled is the one under the entry's handle
    refine congrArg (!·) ?_
    rw [Bool.eq_iff_iff, Value.equals_nat]
    exact eq_comm.trans (sound.handle_iff entry only e mem)

/-! ## Messages of the bus -/

/-- A bus message for a station: its action, the station, then further entries. -/
def busMessage (action : String) (s : Int) (rest : Dict) : Value :=
  .dict ((.str "action", .str action) :: (.str "sid", .int s) :: rest)

theorem itemOf_busMessage_action {a : String} {s : Int} {rest : Dict} :
    itemOf (busMessage a s rest) (.str "action") = pure (.str a) := by
  simp [itemOf, busMessage, Dict.lookup?, Value.equals]

theorem itemOf_busMessage_sid {a : String} {s : Int} {rest : Dict} :
    itemOf (busMessage a s rest) (.str "sid") = pure (.int s) := by
  simp [itemOf, busMessage, Dict.lookup?, Value.equals]

/-- A `live_voting` message sends its data to every connection of the station, and then drops the
station's waiting counts. -/
theorem handle_live (s : Int) (rest : Dict) :
    handle (busMessage "live_voting" s rest) =
      (do
        let bank ← bankOf (.int s)
        sendToAll bank (← itemOf (busMessage "live_voting" s rest) (.str "uuid_exclusion"))
          (← itemOf (busMessage "live_voting" s rest) (.str "data"))) >>= fun _ =>
      dropWaitingVote (.int s) := by
  simp [handle, itemOf_busMessage_action, itemOf_busMessage_sid, Value.equals]

/-- A `delayed_live_voting` message sets a timer unless one is set, and keeps its counts waiting. -/
theorem handle_delayed (s : Int) (rest : Dict) :
    handle (busMessage "delayed_live_voting" s rest) = (do
      if !(← waitingTimer (.int s)).truthy then startWaiting (busMessage "delayed_live_voting" s rest)
      setWaitingVote (.int s) (busMessage "delayed_live_voting" s rest)) := by
  simp [handle, itemOf_busMessage_action, itemOf_busMessage_sid, Value.equals]

/-- An `update_all` message drops the station's waiting counts before it updates anything. -/
theorem handle_updateAll (s : Int) (rest : Dict) :
    handle (busMessage "update_all" s rest) = (do
      dropWaitingVote (.int s)
      Pool.updateCounts
      Cooldown.prepare (.int s)
      Cache.refreshStation (.int s)
      updateAll (← bankOf (.int s))
      modify fun w => { w with globals := { w.globals with votesBy := .dict [], lastVoteBy := .dict [] } }) := by
  simp [handle, itemOf_busMessage_action, itemOf_busMessage_sid, Value.equals]

instance : KeepsLoop (modify fun w : World =>
    { w with globals := { w.globals with votesBy := .dict [], lastVoteBy := .dict [] } }) :=
  of_modify _ fun _ => .quiet rfl rfl rfl rfl rfl

/-! ## The timer comes due -/

/-- Passes counts' data on to every connection of a station. -/
def broadcastData (s : Int) (m : Value) : Act Unit := do
  sendToAll (← bankOf (.int s)) .none (← itemOf m (.str "data"))

instance {s : Int} {m : Value} : KeepsLoop (broadcastData s m) := by
  unfold broadcastData; infer_instance

/-- The timer of a station's waiting counts comes due, if one is set. -/
def fireVote (s : Int) : Act Unit := do
  match (← get).loop.find? (·.2.passesOn s) with
  | some (n, _) => fire n
  | none => pure ()

/-- The world with a station's timer out of the loop and its entry cleared. -/
def stopTimer (s : Int) (w : World) : World :=
  { w with
    loop := w.loop.filter fun e => !e.2.passesOn s
    globals := { w.globals with delayedLiveVoteTimers := putIn w.globals.delayedLiveVoteTimers (.int s) .none } }

/-- What the timer of a station coming due does with the counts pending: nothing while none are;
otherwise it stops, passes the data of the counts on to every connection of the station, and
forgets them. -/
def passPending (s : Int) : Option Value → Act Unit
  | none => pure ()
  | some m => do
    modify (stopTimer s)
    broadcastData s m
    setWaitingVote (.int s) .none

/-- Truthy counts waiting are passed on, once the timer entry is cleared, and then forgotten. -/
theorem passWaitingVote_run {s : Int} {w : World} {m : Value} (waiting : waitingOf s w = some m)
    (truthy : m.truthy = true) :
    (passWaitingVote (.int s)).run w =
      (broadcastData s m >>= fun _ => setWaitingVote (.int s) .none).run { w with globals :=
        { w.globals with delayedLiveVoteTimers := putIn w.globals.delayedLiveVoteTimers (.int s) .none } } := by
  unfold passWaitingVote
  rw [run_bind_ok (setWaitingTimer_run _ _ _), run_bind_ok (waitingVote_run (m := m) ?found), truthy]
  case found => exact waiting
  simp [broadcastData]

/-- The loop finds the station's timer first among those that pass its counts on. -/
theorem find?_passesOn {s : Int} {w : World} {n : Nat} (issued : LoopIssued w)
    (entry : (n, .passVote (.int s)) ∈ w.loop) (only : ∀ e ∈ w.loop, e.2.passesOn s = true → e.1 = n) :
    w.loop.find? (·.2.passesOn s) = some (n, .passVote (.int s)) := by
  obtain ⟨e, first⟩ := Option.isSome_iff_exists.mp
    (List.find?_isSome (p := fun (x : Nat × Callback) => x.2.passesOn s) |>.mpr
      ⟨_, entry, Value.equals_int_self s⟩)
  have passes : e.2.passesOn s = true := List.find?_some (p := fun (x : Nat × Callback) => x.2.passesOn s) first
  have mem := List.mem_of_find?_eq_some first
  rw [first, List.inj_on_of_nodup_map issued.handles mem entry (only e mem passes)]

/-- The station's timer coming due passes on the counts pending, and does nothing while none
are. -/
theorem fireVote_pending {s : Int} {w : World} (sound : VotesSound s w) :
    (fireVote s).run w = (passPending s (pendingOf s w)).run w := by
  obtain ⟨t, timer⟩ := Option.isSome_iff_exists.mp sound.timer
  unfold fireVote
  rw [run_bind_ok (show (get : Act World).run w = .ok w w from rfl)]
  cases truthy : t.truthy with
  | false =>
    -- no timer passes the counts on
    rw [pendingOf_stopped timer truthy,
      List.find?_eq_none.mpr fun e mem => by simp [sound.stopped timer truthy e mem]]
    rfl
  | true =>
    obtain ⟨n, m, rfl, waiting, counts, entry, only⟩ := sound.running timer truthy
    rw [pendingOf_running timer truthy, waiting, find?_passesOn sound.toLoopIssued entry only]
    dsimp only
    rw [fire_run_of_find (sound.find?_handle entry)]
    -- the timers under the handle are exactly the station's
    have same : w.loop.filter (·.1 != n) = w.loop.filter fun e => !e.2.passesOn s := by
      refine List.filter_congr fun e mem => congrArg (!·) ?_
      rw [Bool.eq_iff_iff, beq_iff_eq]
      exact sound.handle_iff entry only e mem
    rw [same, Callback.run]
    refine (passWaitingVote_run ?waiting counts).trans ?_
    case waiting => exact waiting
    rfl

/-! ## What each event leaves pending -/

/-- Every run of an action from a world, returning or failing, ends with the station's counts
sound, and pending as `after` says of whether it returned. -/
structure VotesStep (s : Int) (x : Act Unit) (w : World) (after : Bool → Option Value) : Prop where
  returned : ∀ w', x.run w = .ok () w' → VotesSound s w' ∧ pendingOf s w' = after true
  failed : ∀ f w', x.run w = .error f w' → VotesSound s w' ∧ pendingOf s w' = after false

namespace VotesStep

variable {s : Int} {w : World} {after : Bool → Option Value}

theorem worldAfter {x : Act Unit} (step : VotesStep s x w after) :
    VotesSound s (Airwaves.worldAfter x w) ∧ pendingOf s (Airwaves.worldAfter x w) = after (succeeds x w) := by
  unfold Airwaves.worldAfter succeeds
  cases ran : x.run w with
  | ok r w' => exact step.returned w' ran
  | error f w' => exact step.failed f w' ran

theorem of_returns {x : Act Unit} {w' : World} (run : x.run w = .ok () w') (sound : VotesSound s w')
    (pending : pendingOf s w' = after true) : VotesStep s x w after where
  returned _ ran := by
    rw [run] at ran
    cases ran
    exact ⟨sound, pending⟩
  failed _ _ ran := by
    rw [run] at ran
    cases ran

theorem of_kept {x : Act Unit} [KeepsLoop x] (sound : VotesSound s w) (stays : ∀ ok, after ok = pendingOf s w) :
    VotesStep s x w after where
  returned _ ran := ⟨sound.kept (ok_kept ran), (pendingOf_kept (ok_kept ran)).trans (stays true).symm⟩
  failed _ _ ran := ⟨sound.kept (error_kept ran), (pendingOf_kept (error_kept ran)).trans (stays false).symm⟩

theorem congr_run {x y : Act Unit} (same : x.run w = y.run w) (step : VotesStep s y w after) :
    VotesStep s x w after where
  returned w' ran := step.returned w' (same ▸ ran)
  failed f w' ran := step.failed f w' (same ▸ ran)

theorem bind_run {α : Type} {x : Act α} {f : α → Act Unit} {a : α} {w1 : World} (run : x.run w = .ok a w1)
    (rest : VotesStep s (f a) w1 after) : VotesStep s (x >>= f) w after where
  returned w' ran := rest.returned w' (by rwa [run_bind_ok run] at ran)
  failed e w' ran := rest.failed e w' (by rwa [run_bind_ok run] at ran)

/-- A first action that keeps the loop, where a failure of it is to leave the counts pending. -/
theorem bind_kept {α : Type} {x : Act α} [KeepsLoop x] {f : α → Act Unit} (sound : VotesSound s w)
    (failed : after false = pendingOf s w) (rest : ∀ a w1, LoopKept w w1 → VotesStep s (f a) w1 after) :
    VotesStep s (x >>= f) w after := by
  cases ran : x.run w with
  | ok a w1 => exact bind_run ran (rest a w1 (ok_kept ran))
  | error e w1 =>
    have stopped : (x >>= f).run w = .error e w1 := by rw [EStateM.run_bind, ran]
    refine ⟨fun w' run => ?_, fun e' w' run => ?_⟩
    · rw [stopped] at run
      cases run
    · rw [stopped] at run
      cases run
      rw [failed]
      exact ⟨sound.kept (error_kept ran), pendingOf_kept (error_kept ran)⟩

end VotesStep

section Steps

variable {s : Int} {w : World}

theorem live_step (sound : VotesSound s w) (rest : Dict) :
    VotesStep s (handle (busMessage "live_voting" s rest)) w fun ok => if ok then none else pendingOf s w := by
  rw [handle_live]
  -- a failure comes before the counts are dropped
  refine .bind_kept sound rfl fun _ w1 kept => ?_
  obtain ⟨w', run, sound', cleared⟩ := dropWaitingVote_run (sound.kept kept)
  exact .of_returns run sound' cleared

/-- A delayed message never fails: it keeps its counts waiting, under the timer set already or a
new one. -/
theorem handle_delayed_run (sound : VotesSound s w) (rest : Dict) :
    ∃ w', (handle (busMessage "delayed_live_voting" s rest)).run w = .ok () w' ∧ VotesSound s w' ∧
      pendingOf s w' = some (busMessage "delayed_live_voting" s rest) := by
  obtain ⟨t, timer⟩ := Option.isSome_iff_exists.mp sound.timer
  rw [handle_delayed, run_bind_ok (waitingTimer_run timer)]
  cases truthy : t.truthy with
  | true =>
    -- a timer is set already: only the counts are replaced
    obtain ⟨n, -, rfl, -, -, entry, only⟩ := sound.running timer truthy
    simp only [Bool.not_true, Bool.false_eq_true, if_false]
    rw [setWaitingVote_run]
    exact ⟨_, rfl, .of_running (sound.congr rfl rfl rfl fun _ => id) timer (entryFor_putIn sound.waiting _) rfl
      entry only, Eq.trans (pendingOf_running timer truthy) (entryFor_putIn sound.waiting _)⟩
  | false =>
    -- a timer is set under the next handle, and the counts wait under it
    simp only [Bool.not_false, if_true, startWaiting, itemOf_busMessage_sid, pure_bind, bind_assoc]
    rw [run_bind_ok (addTimer_run _ _ _ _), run_bind_ok (setWaitingTimer_run _ _ _), setWaitingVote_run]
    have timer' := entryFor_putIn sound.timer (.nat (w.timerCount + 1))
    refine ⟨_, rfl, .of_running (sound.unheld_added rfl rfl rfl rfl) timer' (entryFor_putIn sound.waiting _) rfl
      (List.mem_append_right _ (List.mem_singleton_self _)) fun e mem passes => ?_,
      Eq.trans (pendingOf_running timer' (Value.truthy_nat.mpr (Nat.succ_pos _))) (entryFor_putIn sound.waiting _)⟩
    rcases List.mem_append.mp mem with old | new
    · rw [sound.stopped timer truthy e old] at passes
      cases passes
    · rw [List.mem_singleton.mp new]

theorem updateAll_step (sound : VotesSound s w) (rest : Dict) :
    VotesStep s (handle (busMessage "update_all" s rest)) w fun _ => none := by
  obtain ⟨w1, run, sound1, cleared⟩ := dropWaitingVote_run sound
  rw [handle_updateAll]
  -- the counts are dropped first; what follows keeps the loop
  exact .bind_run run (.of_kept sound1 fun _ => cleared.symm)

theorem fireVote_step (sound : VotesSound s w) : VotesStep s (fireVote s) w fun _ => none := by
  refine .congr_run (fireVote_pending sound) ?_
  obtain ⟨t, timer⟩ := Option.isSome_iff_exists.mp sound.timer
  cases truthy : t.truthy with
  | false =>
    rw [pendingOf_stopped timer truthy]
    exact .of_returns rfl sound (pendingOf_stopped timer truthy)
  | true =>
    obtain ⟨n, m, rfl, waiting, -, entry, only⟩ := sound.running timer truthy
    rw [pendingOf_running timer truthy, waiting]
    -- the timer stops first, so nothing is pending from there on, whether the counts go out or not
    have cleared : timerOf s (stopTimer s w) = some .none := entryFor_putIn sound.timer _
    have stopped : VotesSound s (stopTimer s w) :=
      sound.stop rfl (fun _ _ => rfl) rfl rfl (Option.isSome_iff_exists.mpr ⟨m, waiting⟩) cleared
    refine .bind_run rfl (.bind_kept stopped (pendingOf_stopped cleared rfl).symm fun _ w1 kept => ?_)
    have cleared1 : timerOf s w1 = some .none := (timerOf_kept kept).trans cleared
    exact .of_returns (setWaitingVote_run _ _ _) ((stopped.kept kept).forget cleared1 rfl)
      (pendingOf_stopped cleared1 rfl)

end Steps

/-! ## Interleavings -/

/-- What happens to a station's waiting counts: a bus message for the station of one of the three
kinds, with further entries, or the station's timer coming due. -/
inductive VoteEvent where
  | live (rest : Dict)
  | delayed (rest : Dict)
  | updateAll (rest : Dict)
  | due

/-- What an event runs for a station. -/
def VoteEvent.run (s : Int) : VoteEvent → Act Unit
  | .live rest => handle (busMessage "live_voting" s rest)
  | .delayed rest => handle (busMessage "delayed_live_voting" s rest)
  | .updateAll rest => handle (busMessage "update_all" s rest)
  | .due => fireVote s

/-- The counts pending after an event, from those pending before and whether it went through: a
delayed message's own; none after `update_all` or the timer coming due; none after a
`live_voting` message that went through, and those pending before after one that failed. -/
def VoteEvent.pendingAfter (s : Int) : VoteEvent → Bool → Option Value → Option Value
  | .live _, ok, p => if ok then none else p
  | .delayed rest, _, _ => some (busMessage "delayed_live_voting" s rest)
  | .updateAll _, _, _ => none
  | .due, _, _ => none

theorem VoteEvent.step (s : Int) : ∀ (e : VoteEvent) {w : World}, VotesSound s w →
    VotesStep s (e.run s) w fun ok => e.pendingAfter s ok (pendingOf s w)
  | .live rest, _, sound => live_step sound rest
  | .delayed rest, _, sound =>
    have ⟨_, run, sound', pending⟩ := handle_delayed_run sound rest
    .of_returns run sound' pending
  | .updateAll rest, _, sound => updateAll_step sound rest
  | .due, _, sound => fireVote_step sound

/-- The world after events for a station, one after another, each from where the one before left
off, whether it returned or failed. -/
def afterVotes (s : Int) : List VoteEvent → World → World
  | [], w => w
  | e :: rest, w => afterVotes s rest (worldAfter (e.run s) w)

/-- The counts pending after events for a station, from those pending before, by what each event
leaves pending. -/
def pendingAlong (s : Int) : List VoteEvent → World → Option Value → Option Value
  | [], _, p => p
  | e :: rest, w, p => pendingAlong s rest (worldAfter (e.run s) w) (e.pendingAfter s (succeeds (e.run s) w) p)

theorem afterVotes_sound (s : Int) (es : List VoteEvent) {w : World} (sound : VotesSound s w) :
    VotesSound s (afterVotes s es w) ∧ pendingOf s (afterVotes s es w) = pendingAlong s es w (pendingOf s w) := by
  -- induction on the events; each keeps the counts sound and leaves pending what it says
  induction es generalizing w with
  | nil => exact ⟨sound, rfl⟩
  | cons e rest ih =>
    obtain ⟨sound', pending'⟩ := (e.step s sound).worldAfter
    rw [afterVotes, pendingAlong, ← pending']
    exact ih sound'

/-! ## Counts wait only under a timer -/

/-- The station's counts wait only while their timer entry is set. -/
def WaitTimed (s : Int) (w : World) : Prop :=
  ((waitingOf s w).getD .none).truthy = true → ((timerOf s w).getD .none).truthy = true

namespace WaitTimed

variable {s : Int}

theorem of_kept {w w' : World} (timed : WaitTimed s w) (kept : LoopKept w w') : WaitTimed s w' := by
  unfold WaitTimed
  rw [waitingOf_kept kept, timerOf_kept kept]
  exact timed

theorem of_cleared {w : World} (cleared : waitingOf s w = some .none) : WaitTimed s w := by
  intro waiting
  rw [cleared] at waiting
  cases waiting

theorem of_pending {w : World} {m : Value} (pending : pendingOf s w = some m) : WaitTimed s w := by
  intro _
  unfold pendingOf at pending
  split at pending
  · assumption
  · cases pending

theorem worldAfter {x : Act Unit} {w : World} (returned : ∀ w', x.run w = .ok () w' → WaitTimed s w')
    (failed : ∀ f w', x.run w = .error f w' → WaitTimed s w') : WaitTimed s (Airwaves.worldAfter x w) := by
  unfold Airwaves.worldAfter
  cases ran : x.run w with
  | ok r w' => exact returned w' ran
  | error f w' => exact failed f w' ran

end WaitTimed

section Timed

variable {s : Int}

/-- Dropping the waiting counts clears them when their timer is set, and changes nothing when it
is not. -/
theorem dropWaitingVote_timed {w w' : World} (sound : VotesSound s w) (timed : WaitTimed s w)
    (run : (dropWaitingVote (.int s)).run w = .ok () w') : WaitTimed s w' := by
  obtain ⟨t, timer⟩ := Option.isSome_iff_exists.mp sound.timer
  unfold dropWaitingVote at run
  rw [run_bind_ok (waitingTimer_run timer)] at run
  cases truthy : t.truthy with
  | false =>
    simp only [truthy, Bool.false_eq_true, if_false, EStateM.run_pure, EStateM.Result.ok.injEq] at run
    exact run.2 ▸ timed
  | true =>
    rw [truthy, if_pos rfl, run_bind_ok (Live.removeTimer_run _ _),
      run_bind_ok (setWaitingVote_run _ _ _), setWaitingTimer_run] at run
    cases run
    exact .of_cleared (entryFor_putIn sound.waiting _)

end Timed

/-- Whether an event that broadcasts goes through: a `live_voting` message, and the station's
timer coming due. -/
def DeliversAt (s : Int) : VoteEvent → World → Prop
  | .live rest, w => succeeds ((VoteEvent.live rest).run s) w = true
  | .due, w => succeeds (fireVote s) w = true
  | _, _ => True

/-- Every event that broadcasts goes through, each from where the one before left off. -/
def Delivered (s : Int) : List VoteEvent → World → Prop
  | [], _ => True
  | e :: rest, w => DeliversAt s e w ∧ Delivered s rest (worldAfter (e.run s) w)

/-- The counts pending after events that all go through: a delayed message's own, and none after
any other event. -/
def latestAlong (s : Int) : List VoteEvent → Option Value → Option Value
  | [], p => p
  | .delayed rest :: es, _ => latestAlong s es (some (busMessage "delayed_live_voting" s rest))
  | _ :: es, _ => latestAlong s es none

theorem VoteEvent.waitTimed (s : Int) : ∀ (e : VoteEvent) {w : World}, VotesSound s w →
    WaitTimed s w → DeliversAt s e w → WaitTimed s (worldAfter (e.run s) w)
  | .live rest, w, sound, timed, _ => by
    refine .worldAfter (fun w' run => ?_) (fun f w' run => ?_)
    · rw [VoteEvent.run, handle_live] at run
      obtain ⟨_, w1, sent, dropped⟩ := run_bind_eq_ok run
      exact dropWaitingVote_timed (sound.kept (ok_kept sent)) (timed.of_kept (ok_kept sent)) dropped
    · rw [VoteEvent.run, handle_live, EStateM.run_bind] at run
      split at run
      · -- the data went out, and dropping the counts never fails
        rename_i w1 sent
        obtain ⟨w2, dropped, -⟩ := dropWaitingVote_run (sound.kept (ok_kept sent))
        rw [dropped] at run
        cases run
      · rename_i w1 sent
        cases run
        exact timed.of_kept (error_kept sent)
  | .delayed rest, w, sound, _, _ => by
    obtain ⟨w', run, -, pending⟩ := handle_delayed_run sound rest
    refine .worldAfter (fun w'' ran => ?_) (fun f w'' ran => ?_)
    · rw [VoteEvent.run, run] at ran
      cases ran
      exact .of_pending pending
    · rw [VoteEvent.run, run] at ran
      cases ran
  | .updateAll rest, w, sound, timed, _ => by
    obtain ⟨w1, dropRun, -, -⟩ := dropWaitingVote_run sound
    have timed1 := dropWaitingVote_timed sound timed dropRun
    rw [VoteEvent.run, handle_updateAll]
    refine .worldAfter (fun w' run => ?_) (fun f w' run => ?_)
    · rw [run_bind_ok dropRun] at run
      exact timed1.of_kept (ok_kept run)
    · rw [run_bind_ok dropRun] at run
      exact timed1.of_kept (error_kept run)
  | .due, w, sound, timed, delivers => by
    refine .worldAfter (fun w' ran => ?_) (fun f w' ran => ?_)
    · rw [VoteEvent.run, fireVote_pending sound] at ran
      cases pending : pendingOf s w with
      | none =>
        rw [pending] at ran
        cases ran
        exact timed
      | some m =>
        rw [pending] at ran
        obtain ⟨_, w1, stopped, rest⟩ := run_bind_eq_ok ran
        cases stopped
        obtain ⟨_, w2, sent, cleared⟩ := run_bind_eq_ok rest
        rw [setWaitingVote_run] at cleared
        cases cleared
        -- the counts went out, and are forgotten
        have waiting : (waitingOf s w2).isSome := (waitingOf_kept (ok_kept sent)).symm ▸ sound.waiting
        exact .of_cleared (entryFor_putIn waiting _)
    · rw [VoteEvent.run, run_eq_ok_of_succeeds delivers] at ran
      cases ran

theorem afterVotes_waitTimed (s : Int) (es : List VoteEvent) {w : World} (sound : VotesSound s w)
    (timed : WaitTimed s w) (delivered : Delivered s es w) : WaitTimed s (afterVotes s es w) := by
  -- induction on the events, carrying the soundness of the counts along
  induction es generalizing w with
  | nil => exact timed
  | cons e rest ih =>
    obtain ⟨delivers, later⟩ := delivered
    exact ih (e.step s sound).worldAfter.1 (e.waitTimed s sound timed delivers) later

/-- When every broadcast goes through, the counts pending are the latest delayed ones. -/
theorem pendingAlong_delivered (s : Int) (es : List VoteEvent) {w : World} (p : Option Value)
    (delivered : Delivered s es w) : pendingAlong s es w p = latestAlong s es p := by
  induction es generalizing w p with
  | nil => rfl
  | cons e rest ih =>
    obtain ⟨delivers, later⟩ := delivered
    rw [pendingAlong, ih _ later]
    cases e with
    | live r =>
      -- a live message that went through leaves nothing pending
      have ok : succeeds ((VoteEvent.live r).run s) w = true := delivers
      rw [ok]
      rfl
    | delayed r => rfl
    | updateAll r => rfl
    | due => rfl

/-- Along every interleaving of bus messages for a station and of its timer coming due in which
each broadcast goes through (the service's publishers send their counts' data, for a station with
a bank), the counts stay sound: they wait only while their timer entry is set, under the one timer
that passes them on; the counts pending are those of the latest delayed message since the last
broadcast or cancellation; and the timer coming due passes those on. -/
theorem delivered_votes_pass_latest (s : Int) (es : List VoteEvent) {w : World}
    (sound : VotesSound s w) (timed : WaitTimed s w) (delivered : Delivered s es w) :
    VotesSound s (afterVotes s es w) ∧ WaitTimed s (afterVotes s es w) ∧
      pendingOf s (afterVotes s es w) = latestAlong s es (pendingOf s w) ∧
      (fireVote s).run (afterVotes s es w) =
        (passPending s (pendingOf s (afterVotes s es w))).run (afterVotes s es w) := by
  obtain ⟨sound', pending'⟩ := afterVotes_sound s es sound
  refine ⟨sound', afterVotes_waitTimed s es sound timed delivered, ?_, fireVote_pending sound'⟩
  rw [pending', pendingAlong_delivered s es _ delivered]

/-- Station 1, with a bank of one connection, and nothing waiting. -/
def votingStation : World :=
  { store := #[.bank { websockets := [.ref 1] }, .socket { fields := [("sid", .int 1), ("uuid", .str "a")] }]
    globals :=
      { sessions := .dict [(.int 1, .ref 0)]
        delayedLiveVote := .dict [(.int 1, .none)]
        delayedLiveVoteTimers := .dict [(.int 1, .none)] } }

theorem votingStation_sound : VotesSound 1 votingStation := by
  refine .of_stopped (.of_idle rfl fun hb T found => ?_) rfl rfl rfl fun _ mem => by cases mem
  rcases hb with _ | _ | hb
  · simp only [throttledAt, votingStation] at found
    exact (Option.some.inj found).symm
  · simp [throttledAt, votingStation, Obj.throttledOf] at found
  · simp [throttledAt, votingStation] at found

/-- The events of a vote's counts on station 1: delayed counts, counts passed on at once, newer
delayed counts, and the timer coming due. -/
def sampleVotes : List VoteEvent :=
  [.delayed [(.str "data", .int 3)], .live [(.str "uuid_exclusion", .none), (.str "data", .int 4)],
    .delayed [(.str "data", .int 5)], .due]

theorem votingStation_passes_latest :
    VotesSound 1 votingStation ∧ WaitTimed 1 votingStation ∧ Delivered 1 sampleVotes votingStation ∧
      VotesSound 1 (afterVotes 1 sampleVotes votingStation) ∧
      WaitTimed 1 (afterVotes 1 sampleVotes votingStation) ∧
      pendingOf 1 (afterVotes 1 sampleVotes votingStation) =
        latestAlong 1 sampleVotes (pendingOf 1 votingStation) ∧
      (fireVote 1).run (afterVotes 1 sampleVotes votingStation) =
        (passPending 1 (pendingOf 1 (afterVotes 1 sampleVotes votingStation))).run
          (afterVotes 1 sampleVotes votingStation) := by
  have timed : WaitTimed 1 votingStation := by unfold WaitTimed; decide
  have delivered : Delivered 1 sampleVotes votingStation :=
    ⟨trivial, by unfold DeliversAt; decide +kernel, trivial, by unfold DeliversAt; decide +kernel, trivial⟩
  exact ⟨votingStation_sound, timed, delivered,
    delivered_votes_pass_latest 1 sampleVotes votingStation_sound timed delivered⟩

-- counts whose message carries no data cannot be passed on: their timer entry is cleared before
-- the failure, and the counts stay waiting with no timer
example : timerOf 1 (afterVotes 1 [.delayed [], .due] votingStation) = some .none ∧
    waitingOf 1 (afterVotes 1 [.delayed [], .due] votingStation) =
      some (busMessage "delayed_live_voting" 1 []) := by
  constructor <;> rfl

-- the timer passes on the data of the last delayed message only
example : (afterVotes 1 [.delayed [(.str "data", .int 3)], .delayed [(.str "data", .int 4)], .due]
    votingStation).outbox.socketMessages = #[.int 4] := by
  rfl

-- a live message that goes through leaves nothing for the timer; one that fails leaves the counts
example : (afterVotes 1 [.delayed [(.str "data", .int 3)], .live [(.str "uuid_exclusion", .none), (.str "data", .int 4)],
    .due] votingStation).outbox.socketMessages = #[.int 4] ∧
    (afterVotes 1 [.delayed [(.str "data", .int 3)], .live [], .due] votingStation).outbox.socketMessages = #[.int 3] :=
  ⟨rfl, rfl⟩

end Airwaves
