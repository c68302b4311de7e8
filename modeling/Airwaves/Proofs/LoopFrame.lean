import Airwaves.Proofs.LoadFrame
import Airwaves.Live.Loop
/-!
# What leaves the event loop alone

Everything that runs while sessions are served keeps the waiting vote counts, sets no timer and
cancels only timers of held updates it drops (`KeepsLoop`).
-/

namespace Airwaves

/-! ## Held updates -/

/-- The updates an object holds back, by session: a bank's; other objects hold none. -/
def Obj.throttledOf : Obj → Option Dict
  | .bank b => some b.throttled
  | _ => none

/-- The updates the bank under a handle holds back, if a bank is there. -/
def throttledAt (w : World) (hb : Nat) : Option Dict := (w.store[hb]?).bind Obj.throttledOf

/-- The timers of the loop were set by the world: their handles are positive, at most the
count of timers set, and distinct. -/
structure LoopIssued (w : World) : Prop where
  positive : ∀ e ∈ w.loop, 0 < e.1
  issued : ∀ e ∈ w.loop, e.1 ≤ w.timerCount
  handles : (w.loop.map Prod.fst).Nodup

/-- Whether an object can be filed under a key: plain records and messages cannot. -/
def Obj.keyable : Obj → Bool
  | .record "SimpleNamespace" _ => false
  | .message _ => false
  | _ => true

/-- A value a session can be filed under: a reference to an object that can be a key. -/
def Keyable (w : World) (k : Value) : Prop :=
  ∃ h o, k = .ref h ∧ w.store[h]? = some o ∧ o.keyable = true

/-- The updates the banks hold back and the timers that serve them match. A bank holds back an
update for a session at most once, for a session that can be a key, under the handle of a timer
of the loop that serves that session's update for that bank; and every timer of a held update
belongs to a bank that holds its session under its handle. -/
structure HeldSound (w : World) : Prop extends LoopIssued w where
  keys : ∀ {hb T}, throttledAt w hb = some T → (T.map Prod.fst).Nodup
  keyed : ∀ {hb T k t}, throttledAt w hb = some T → (k, t) ∈ T → Keyable w k
  timed : ∀ {hb T k t}, throttledAt w hb = some T → (k, t) ∈ T →
    ∃ n a, t = .nat n ∧ (n, .heldUpdate (.ref hb) k a) ∈ w.loop
  held : ∀ {n bank s a}, (n, .heldUpdate bank s a) ∈ w.loop →
    ∃ hb T, bank = .ref hb ∧ throttledAt w hb = some T ∧ (s, .nat n) ∈ T

theorem throttledAt_push {w : World} {o : Obj} (holdsNone : o.throttledOf = none) :
    throttledAt { w with store := w.store.push o } = throttledAt w := by
  funext hb
  unfold throttledAt
  rw [Array.getElem?_push]
  split
  · next fresh =>
    -- the new handle is past the end of the old store
    rw [fresh, Array.getElem?_eq_none (Nat.le_refl _)]
    exact holdsNone
  · rfl

theorem throttledAt_set {w : World} {h : Nat} {o o' : Obj} (found : w.store[h]? = some o)
    (same : o'.throttledOf = o.throttledOf) :
    throttledAt { w with store := w.store.set! h o' } = throttledAt w := by
  funext hb
  unfold throttledAt
  by_cases here : h = hb
  · subst here
    rw [getElem?_set!_self found, found]
    exact same
  · rw [getElem?_set!_of_ne _ here]

theorem keyable_push {w : World} {o : Obj} {k : Value} (keyable : Keyable w k) :
    Keyable { w with store := w.store.push o } k := by
  obtain ⟨h, o', rfl, found, ok⟩ := keyable
  exact ⟨h, o', rfl, by rw [Array.getElem?_push, if_neg (Nat.ne_of_lt (Array.getElem?_eq_some_iff.mp found).1), found], ok⟩

theorem keyable_set {w : World} {h : Nat} {o o' : Obj} (found : w.store[h]? = some o)
    (same : o'.keyable = o.keyable) {k : Value} (keyable : Keyable w k) :
    Keyable { w with store := w.store.set! h o' } k := by
  obtain ⟨h', o'', rfl, found', ok⟩ := keyable
  by_cases here : h = h'
  · subst here
    rw [found, Option.some.injEq] at found'
    subst found'
    exact ⟨h, o', rfl, getElem?_set!_self found _, same.trans ok⟩
  · exact ⟨h', o'', rfl, by rw [getElem?_set!_of_ne _ here, found'], ok⟩

theorem throttledAt_of_store {w w' : World} (store : w'.store = w.store) : throttledAt w' = throttledAt w := by
  unfold throttledAt
  rw [store]

theorem keyable_of_store {w w' : World} (store : w'.store = w.store) {k : Value} (keyable : Keyable w k) :
    Keyable w' k := by
  obtain ⟨h, o, ref, found, ok⟩ := keyable
  exact ⟨h, o, ref, store ▸ found, ok⟩

theorem LoopIssued.of_sublist {w w' : World} (issued : LoopIssued w) (loop : w'.loop.Sublist w.loop)
    (count : w'.timerCount = w.timerCount) : LoopIssued w' where
  positive e mem := issued.positive e (loop.subset mem)
  issued e mem := count ▸ issued.issued e (loop.subset mem)
  handles := issued.handles.sublist (loop.map _)

/-- Held updates stay sound where the loop, the count of timers and the banks' held updates
stay as they were, and every key stays a key. -/
theorem HeldSound.congr {w w' : World} (sound : HeldSound w) (loop : w'.loop = w.loop)
    (count : w'.timerCount = w.timerCount) (throttled : throttledAt w' = throttledAt w)
    (keyable : ∀ k, Keyable w k → Keyable w' k) : HeldSound w' where
  toLoopIssued := sound.toLoopIssued.of_sublist (loop ▸ .refl _) count
  keys found := sound.keys (throttled ▸ found)
  keyed found mem := keyable _ (sound.keyed (throttled ▸ found) mem)
  timed found mem := by
    rw [loop]
    exact sound.timed (throttled ▸ found) mem
  held mem := by
    rw [throttled]
    exact sound.held (loop ▸ mem)

/-! ## What a call keeps -/

/-- Whether a timer serves a held update. -/
def Callback.isHeld : Callback → Bool
  | .heldUpdate _ _ _ => true
  | _ => false

/-- What a call that neither sets timers nor touches the waiting counts keeps: the waiting vote
counts of the stations with their timers, the count of timers set, a loop it has only taken
timers out of, and held updates that stay sound; with sound held updates, the only timers it
takes out are timers of held updates. -/
structure LoopKept (w w' : World) : Prop where
  votes : w'.globals.delayedLiveVote = w.globals.delayedLiveVote
  voteTimers : w'.globals.delayedLiveVoteTimers = w.globals.delayedLiveVoteTimers
  count : w'.timerCount = w.timerCount
  loop : w'.loop.Sublist w.loop
  held : HeldSound w → HeldSound w'
  cancels : HeldSound w → ∀ e ∈ w.loop, e ∉ w'.loop → e.2.isHeld = true

namespace LoopKept

theorem refl (w : World) : LoopKept w w := ⟨rfl, rfl, rfl, .refl _, id, fun _ _ mem gone => absurd mem gone⟩

theorem trans {u v w : World} (first : LoopKept u v) (second : LoopKept v w) : LoopKept u w where
  votes := second.votes.trans first.votes
  voteTimers := second.voteTimers.trans first.voteTimers
  count := second.count.trans first.count
  loop := second.loop.trans first.loop
  held := second.held ∘ first.held
  cancels sound e mem gone := by
    -- a timer taken out was taken out by the first call or by the second
    by_cases between : e ∈ v.loop
    · exact second.cancels (first.held sound) e between gone
    · exact first.cancels sound e mem between

/-- A change that leaves the loop, the count of timers and the waiting counts as they were, and
writes the store only where the loop reads nothing new: every bank holds back the same updates
and every key stays a key. -/
theorem restored {w w' : World} (loop : w'.loop = w.loop) (count : w'.timerCount = w.timerCount)
    (votes : w'.globals.delayedLiveVote = w.globals.delayedLiveVote)
    (voteTimers : w'.globals.delayedLiveVoteTimers = w.globals.delayedLiveVoteTimers)
    (throttled : throttledAt w' = throttledAt w) (keyable : ∀ k, Keyable w k → Keyable w' k) :
    LoopKept w w' :=
  ⟨votes, voteTimers, count, loop ▸ .refl _, fun sound => sound.congr loop count throttled keyable,
    fun _ _ mem gone => absurd (loop ▸ mem) gone⟩

/-- A change that leaves the loop, the count of timers, the waiting counts and the store as they
were. -/
theorem quiet {w w' : World} (loop : w'.loop = w.loop) (count : w'.timerCount = w.timerCount)
    (votes : w'.globals.delayedLiveVote = w.globals.delayedLiveVote)
    (voteTimers : w'.globals.delayedLiveVoteTimers = w.globals.delayedLiveVoteTimers)
    (store : w'.store = w.store) : LoopKept w w' :=
  restored loop count votes voteTimers (throttledAt_of_store store) fun _ => keyable_of_store store

theorem issued {w w' : World} (kept : LoopKept w w') (issued : LoopIssued w) : LoopIssued w' :=
  issued.of_sublist kept.loop kept.count

end LoopKept

/-- An action that keeps the waiting counts, sets no timer and keeps held updates sound, whether
it returns or fails. -/
class KeepsLoop {α : Type} (x : Act α) : Prop where
  guards : Guards LoopKept x

namespace KeepsLoop

variable {α β γ : Type}

theorem ok_kept {x : Act α} [K : KeepsLoop x] {w : World} {a : α} {w' : World}
    (run : x.run w = .ok a w') : LoopKept w w' :=
  (K.guards w).1 a w' run

theorem error_kept {x : Act α} [K : KeepsLoop x] {w : World} {f : Fault} {w' : World}
    (run : x.run w = .error f w') : LoopKept w w' :=
  (K.guards w).2 f w' run

instance pure (a : α) : KeepsLoop (Pure.pure a : Act α) :=
  ⟨fun w => ⟨fun _ _ run => by cases run; exact .refl w, fun _ _ run => (by cases run)⟩⟩

instance throw (f : Fault) : KeepsLoop (MonadExcept.throw f : Act α) :=
  ⟨fun w => ⟨fun _ _ run => (by cases run), fun _ _ run => by cases run; exact .refl w⟩⟩

instance get : KeepsLoop (MonadState.get : Act World) :=
  ⟨fun w => ⟨fun _ _ run => by cases run; exact .refl w, fun _ _ run => (by cases run)⟩⟩

theorem of_modifyGet (f : World → α × World) (kept : ∀ w, LoopKept w (f w).2) :
    KeepsLoop (MonadStateOf.modifyGet f : Act α) :=
  ⟨fun w => ⟨fun _ _ run => by cases run; exact kept w, fun _ _ run => (by cases run)⟩⟩

theorem of_modify (f : World → World) (kept : ∀ w, LoopKept w (f w)) : KeepsLoop (modify f : Act PUnit) :=
  of_modifyGet _ kept

/-- The rest of a bind only needs to keep the loop from the worlds the first action returns in. -/
theorem bind_of_run {x : Act α} {f : α → Act β} (hx : KeepsLoop x)
    (hf : ∀ w a w1, x.run w = .ok a w1 →
      (∀ r w', (f a).run w1 = .ok r w' → LoopKept w1 w') ∧ (∀ e w', (f a).run w1 = .error e w' → LoopKept w1 w')) :
    KeepsLoop (x >>= f) := by
  refine ⟨fun w => ?_⟩
  simp only [EStateM.run_bind]
  cases ran : x.run w with
  | ok a w1 =>
    -- the rest starts where the first action left off
    exact ⟨fun r w' run => (ok_kept ran).trans ((hf w a w1 ran).1 r w' run),
      fun e w' run => (ok_kept ran).trans ((hf w a w1 ran).2 e w' run)⟩
  | error e w1 =>
    refine ⟨fun r w' run => ?_, fun e' w' run => ?_⟩
    · cases run
    · cases run
      exact error_kept ran

theorem bind_of {x : Act α} {f : α → Act β} (hx : KeepsLoop x) (hf : ∀ a, KeepsLoop (f a)) :
    KeepsLoop (x >>= f) :=
  bind_of_run hx fun _ a w1 _ => (hf a).guards w1

instance bind (x : Act α) (f : α → Act β) [hx : KeepsLoop x] [hf : ∀ a, KeepsLoop (f a)] :
    KeepsLoop (x >>= f) :=
  bind_of hx hf

theorem ite_of {c : Prop} [Decidable c] {x y : Act α} (hx : KeepsLoop x) (hy : KeepsLoop y) :
    KeepsLoop (if c then x else y) := by
  split
  · exact hx
  · exact hy

instance ite (c : Prop) [Decidable c] (x y : Act α) [hx : KeepsLoop x] [hy : KeepsLoop y] :
    KeepsLoop (if c then x else y) :=
  ite_of hx hy

theorem tryCatch_of {x : Act α} {h : Fault → Act α} (hx : KeepsLoop x) (hh : ∀ e, KeepsLoop (h e)) :
    KeepsLoop (tryCatch x h) := by
  refine ⟨fun w => ?_⟩
  rw [run_tryCatch]
  cases ran : x.run w with
  | ok a w1 =>
    refine ⟨fun r w' run => ?_, fun e w' run => ?_⟩
    · cases run
      exact ok_kept ran
    · cases run
  | error e w1 =>
    -- the handler starts where the failure left off
    exact ⟨fun r w' run => (error_kept ran).trans (ok_kept run),
      fun e' w' run => (error_kept ran).trans (error_kept run)⟩

instance tryCatch (x : Act α) (h : Fault → Act α) [hx : KeepsLoop x] [hh : ∀ e, KeepsLoop (h e)] :
    KeepsLoop (tryCatch x h) :=
  tryCatch_of hx hh

theorem forIn_of (xs : List γ) (b : β) {f : γ → β → Act (ForInStep β)} (hf : ∀ x b, KeepsLoop (f x b)) :
    KeepsLoop (forIn xs b f) := by
  induction xs generalizing b with
  | nil => exact pure b
  | cons x rest ih =>
    rw [List.forIn_cons]
    refine bind_of (hf x b) fun step => ?_
    cases step with
    | done b' => exact pure b'
    | yield b' => exact ih b'

instance forIn (xs : List γ) (b : β) (f : γ → β → Act (ForInStep β)) [hf : ∀ x b, KeepsLoop (f x b)] :
    KeepsLoop (forIn xs b f) :=
  forIn_of xs b hf

theorem mapM_of {xs : List γ} {f : γ → Act β} (hf : ∀ x, KeepsLoop (f x)) : KeepsLoop (xs.mapM f) := by
  induction xs with
  | nil => exact pure []
  | cons x rest ih =>
    rw [List.mapM_cons]
    exact bind_of (hf x) fun b => bind_of ih fun bs => pure _

instance mapM (xs : List γ) (f : γ → Act β) [hf : ∀ x, KeepsLoop (f x)] : KeepsLoop (xs.mapM f) :=
  mapM_of hf

theorem forM_of {xs : List γ} {f : γ → Act PUnit} (hf : ∀ x, KeepsLoop (f x)) : KeepsLoop (xs.forM f) := by
  induction xs with
  | nil => exact pure _
  | cons x rest ih => exact bind_of (hf x) fun _ => ih

instance forM (xs : List γ) (f : γ → Act PUnit) [hf : ∀ x, KeepsLoop (f x)] : KeepsLoop (xs.forM f) :=
  forM_of hf

theorem anyM_of {xs : List γ} {p : γ → Act Bool} (hp : ∀ x, KeepsLoop (p x)) : KeepsLoop (xs.anyM p) := by
  induction xs with
  | nil => exact pure _
  | cons x rest ih =>
    refine bind_of (hp x) fun found => ?_
    cases found with
    | true => exact pure _
    | false => exact ih

instance anyM (xs : List γ) (p : γ → Act Bool) [hp : ∀ x, KeepsLoop (p x)] : KeepsLoop (xs.anyM p) :=
  anyM_of hp

theorem filterM_of {xs : List γ} {p : γ → Act Bool} (hp : ∀ x, KeepsLoop (p x)) :
    KeepsLoop (xs.filterM p) := by
  -- the filter is a pass over the list that conses the kept items onto an accumulator
  have pass : ∀ (ys acc : List γ), KeepsLoop (List.filterAuxM p ys acc) := by
    intro ys
    induction ys with
    | nil => exact fun acc => pure acc
    | cons y rest ih => exact fun acc => bind_of (hp y) fun kept => ih _
  exact bind_of (pass xs []) fun _ => pure _

instance filterM (xs : List γ) (p : γ → Act Bool) [hp : ∀ x, KeepsLoop (p x)] : KeepsLoop (xs.filterM p) :=
  filterM_of hp

end KeepsLoop

open KeepsLoop

instance {α : Type} {f : Fault} : KeepsLoop (Act.raise f : Act α) := throw f
instance {α : Type} {kind : FaultKind} {message : String} : KeepsLoop (Act.fail kind message : Act α) := throw _
instance {α : Type} {e : Except Fault α} : KeepsLoop (Act.lift e) := by
  unfold Act.lift; split <;> infer_instance
instance {α : Type} {x : Act α} [KeepsLoop x] : KeepsLoop (Act.attempt x) := by
  unfold Act.attempt; infer_instance

/-! ## The world -/

instance : KeepsLoop clock := by unfold clock; infer_instance

instance : KeepsLoop clockValue := by unfold clockValue; infer_instance

instance {k : QueryKind} {params : List Value} : KeepsLoop (query k params) :=
  of_modifyGet _ fun _ => .quiet rfl rfl rfl rfl rfl

instance {k : QueryKind} {sql : String} : KeepsLoop (queryText k sql) :=
  of_modifyGet _ fun _ => .quiet rfl rfl rfl rfl rfl

instance {params : List Value} : KeepsLoop (fetchVar params) := by unfold fetchVar; infer_instance

instance {params : List Value} : KeepsLoop (fetchRow params) := by unfold fetchRow; infer_instance

instance {params : List Value} : KeepsLoop (fetchAll params) := by unfold fetchAll; infer_instance

instance {params : List Value} : KeepsLoop (dbUpdate params) := by unfold dbUpdate; infer_instance

instance : KeepsLoop isPostgres := by unfold isPostgres; infer_instance

/-- Adding an object that holds back no updates. -/
theorem alloc_of (o : Obj) (holdsNone : o.throttledOf = none) : KeepsLoop (alloc o) :=
  of_modifyGet _ fun _ => .restored rfl rfl rfl rfl (throttledAt_push holdsNone) fun _ => keyable_push

instance {h : Handler} : KeepsLoop (alloc (.handler h)) := alloc_of _ rfl

instance {kindName : String} {fields : List (String × Value)} : KeepsLoop (alloc (.record kindName fields)) :=
  alloc_of _ rfl

instance {o : Obj} [KeepsLoop (alloc o)] : KeepsLoop (allocRef o) := by unfold allocRef; infer_instance

instance {h : Nat} : KeepsLoop (deref h) := by
  unfold deref
  refine bind_of inferInstance fun _ => ?_
  split <;> infer_instance

/-- Writing an object over one that holds back the same updates and can be a key as much. -/
theorem store_kept {w : World} {h : Nat} {o o' : Obj} (found : w.store[h]? = some o)
    (same : o'.throttledOf = o.throttledOf) (kind : o'.keyable = o.keyable) :
    LoopKept w { w with store := w.store.set! h o' } :=
  .restored rfl rfl rfl rfl (throttledAt_set found same) fun _ => keyable_set found kind

instance {v : Value} : KeepsLoop (kindNameOf v) := by
  unfold kindNameOf
  split <;> infer_instance

instance {α : Type} {v : Value} {name : String} : KeepsLoop (noMember v name : Act α) := by
  unfold noMember; infer_instance

instance {v : Value} {name : String} : KeepsLoop (attributeOf v name) := by
  unfold attributeOf
  split
  · refine bind_of inferInstance fun _ => ?_
    split <;> infer_instance
  all_goals infer_instance

instance {container key : Value} : KeepsLoop (itemOf container key) := by
  unfold itemOf
  repeat' first | infer_instance | split | with_reducible refine bind_of ?_ fun _ => ?_

instance {v : Value} : KeepsLoop (songAt v) := by
  unfold songAt
  split
  · refine bind_of inferInstance fun _ => ?_
    split <;> infer_instance
  · infer_instance

instance {v : Value} : KeepsLoop (metadataAt v) := by
  unfold metadataAt
  split
  · refine bind_of inferInstance fun _ => ?_
    split <;> infer_instance
  · infer_instance

instance {v : Value} : KeepsLoop (eventAt v) := by
  unfold eventAt
  split
  · refine bind_of inferInstance fun _ => ?_
    split <;> infer_instance
  · infer_instance

instance {v : Value} : KeepsLoop (userAt v) := by
  unfold userAt
  split
  · refine bind_of inferInstance fun _ => ?_
    split <;> infer_instance
  · infer_instance

instance {v : Value} : KeepsLoop (localeAt v) := by
  unfold localeAt
  split
  · refine bind_of inferInstance fun _ => ?_
    split <;> infer_instance
  · infer_instance

instance {h : Nat} {f : Song → Song} : KeepsLoop (updateSong h f) := by
  unfold updateSong
  refine bind_of_run inferInstance fun _ o w1 ran => ?_
  obtain ⟨rfl, found⟩ := deref_run_inv ran
  split
  · rw [store_run]
    exact ⟨fun _ _ run => by cases run; exact store_kept found rfl rfl, fun _ _ run => (by cases run)⟩
  · exact (pure ()).guards w1

instance {h : Nat} {f : User → User} : KeepsLoop (updateUser h f) := by
  unfold updateUser
  refine bind_of_run inferInstance fun _ o w1 ran => ?_
  obtain ⟨rfl, found⟩ := deref_run_inv ran
  split
  · rw [store_run]
    exact ⟨fun _ _ run => by cases run; exact store_kept found rfl rfl, fun _ _ run => (by cases run)⟩
  · exact (pure ()).guards w1

instance {v : Value} : KeepsLoop (sendSocket v) := of_modify _ fun _ => .quiet rfl rfl rfl rfl rfl

instance {v : Value} : KeepsLoop (recordResponse v) := of_modify _ fun _ => .quiet rfl rfl rfl rfl rfl

/-! ## Configuration -/

instance : KeepsLoop Config.current := by unfold Config.current; infer_instance

instance {key : Value} : KeepsLoop (Config.has key) := by unfold Config.has; infer_instance

instance {key : Value} : KeepsLoop (Config.require key) := by unfold Config.require; infer_instance

instance {key : Value} : KeepsLoop (Config.option key) := by unfold Config.option; infer_instance

instance {key : String} : KeepsLoop (Config.get key) := by unfold Config.get; infer_instance

instance : KeepsLoop Config.stations := by
  unfold Config.stations
  refine bind_of inferInstance fun _ => ?_
  split <;> infer_instance

instance {sid key : Value} : KeepsLoop (Config.station sid key) := by
  unfold Config.station
  repeat' first | infer_instance | split | with_reducible refine bind_of ?_ fun _ => ?_

instance {sid : Value} {key : String} : KeepsLoop (Config.stationGet sid key) := by
  unfold Config.stationGet; infer_instance

instance : KeepsLoop Config.stationIdList := by unfold Config.stationIdList; infer_instance

/-! ## Operations on values -/

instance {row : Value} {key : String} : KeepsLoop (col row key) := by unfold col; infer_instance

instance {a b : Value} : KeepsLoop (plus a b) := by unfold plus; infer_instance

instance {a b : Value} : KeepsLoop (plusIn a b) := by unfold plusIn; infer_instance

instance {a b : Value} : KeepsLoop (minus a b) := by unfold minus; infer_instance

instance {a b : Value} : KeepsLoop (times a b) := by unfold times; infer_instance

instance {a b : Value} : KeepsLoop (divide a b) := by unfold divide; infer_instance

instance {v : Value} : KeepsLoop (asFloat v) := by unfold asFloat; infer_instance

instance {v : Value} : KeepsLoop (asInt v) := by unfold asInt; infer_instance

instance {v : Value} {places : Int} : KeepsLoop (roundTo v places) := by unfold roundTo; infer_instance

instance {v : Value} : KeepsLoop (itemsOf v) := by
  unfold itemsOf
  split <;> infer_instance

instance {key container : Value} : KeepsLoop (isIn key container) := by
  unfold isIn
  split <;> infer_instance

instance {v : Value} : KeepsLoop (lengthOf v) := by
  unfold lengthOf
  split
  · refine bind_of inferInstance fun _ => ?_
    split <;> infer_instance
  · infer_instance

instance {a b : Value} : KeepsLoop (isGreater a b) := by unfold isGreater; infer_instance

instance {a b : Value} : KeepsLoop (isAtMost a b) := by unfold isAtMost; infer_instance

instance {a b : Value} : KeepsLoop (larger a b) := by unfold larger; infer_instance

instance {a b : Value} : KeepsLoop (smaller a b) := by unfold smaller; infer_instance

instance : KeepsLoop timestamp := by unfold timestamp; infer_instance

/-! ## The cache -/

instance : KeepsLoop Cache.state := by unfold Cache.state; infer_instance

instance {f : Cache → Cache} : KeepsLoop (Cache.change f) := of_modify _ fun _ => .quiet rfl rfl rfl rfl rfl

instance {op : String} : KeepsLoop (Cache.requireClient op) := by
  unfold Cache.requireClient; infer_instance

instance {key : String} {v : Value} {keepLocal : Bool} : KeepsLoop (Cache.put key v keepLocal) := by
  unfold Cache.put; infer_instance

instance {key : String} : KeepsLoop (Cache.read key) := by
  unfold Cache.read
  refine bind_of inferInstance fun _ => ?_
  split <;> infer_instance

instance {sid : Value} {key : String} : KeepsLoop (Cache.readStation sid key) := by
  unfold Cache.readStation; infer_instance

instance {user : Value} {key : String} : KeepsLoop (Cache.userKey user key) := by
  unfold Cache.userKey
  split <;> infer_instance

instance {user : Value} {key : String} : KeepsLoop (Cache.readUser user key) := by
  unfold Cache.readUser; infer_instance

instance {songId userId rating : Value} : KeepsLoop (Cache.putSongRating songId userId rating) := by
  unfold Cache.putSongRating; infer_instance

instance {songId userId : Value} : KeepsLoop (Cache.readSongRating songId userId) := by
  unfold Cache.readSongRating; infer_instance

instance {sid albumId userId rating : Value} : KeepsLoop (Cache.putAlbumRating sid albumId userId rating) := by
  unfold Cache.putAlbumRating; infer_instance

instance {sid albumId userId : Value} : KeepsLoop (Cache.readAlbumRating sid albumId userId) := by
  unfold Cache.readAlbumRating; infer_instance

instance {key : String} : KeepsLoop (Cache.refreshLocal key) := by
  unfold Cache.refreshLocal; infer_instance

instance {sid : Value} : KeepsLoop (Cache.refreshStation sid) := by
  unfold Cache.refreshStation; infer_instance

end Airwaves
