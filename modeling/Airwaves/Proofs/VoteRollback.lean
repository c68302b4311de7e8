import Airwaves.Proofs.CallerGates
import Airwaves.Proofs.RequestChecks
import Airwaves.Proofs.RequestCounters
import Airwaves.Api.Voting
/-!
# A refused vote

A refused vote rolls the database back, and only the database: the lock taken in memory stays on
the listener when a later step fails.
-/

namespace Airwaves

/-- The world a run ends in, whether it succeeded or failed. -/
def endWorld {α : Type} : EStateM.Result Fault World α → World
  | .ok _ w => w
  | .error _ w => w

/-- Whether a run fails. -/
def failsOn {α : Type} (x : Act α) (w : World) : Bool :=
  match x.run w with
  | .ok _ _ => false
  | .error _ _ => true

theorem run_eq_error_of_failsOn {α : Type} {x : Act α} {w : World} (fails : failsOn x w = true) :
    ∃ f, x.run w = .error f (endWorld (x.run w)) := by
  unfold failsOn at fails
  split at fails
  · cases fails
  · rename_i f u ran
    exact ⟨f, by rw [ran]; rfl⟩

/-- However a run of the action ends, it leaves a view of the world as it found it. -/
def Untouched {α β : Type} (view : World → β) (x : Act α) : Prop :=
  ∀ w, view (endWorld (x.run w)) = view w

namespace Untouched

variable {α β γ : Type} {view : World → γ}

theorem pure (a : α) : Untouched view (pure a : Act α) := fun _ => rfl

theorem raise (f : Fault) : Untouched view (Act.raise f : Act α) := fun _ => rfl

theorem get : Untouched view (get : Act World) := fun _ => rfl

theorem lift (e : Except Fault α) : Untouched view (Act.lift e) := by
  intro w
  cases e <;> rfl

/-- A bind leaves a view untouched when its first step does and the rest does from wherever the
first step leads. -/
theorem bind_of {x : Act α} {f : α → Act β} (hx : Untouched view x)
    (hf : ∀ w a w', x.run w = .ok a w' → view (endWorld ((f a).run w')) = view w') :
    Untouched view (x >>= f) := by
  intro w
  have first := hx w
  rw [EStateM.run_bind]
  cases ran : x.run w with
  | ok a w1 =>
    rw [ran] at first
    exact (hf w a w1 ran).trans first
  | error e w1 =>
    rw [ran] at first
    exact first

theorem bind {x : Act α} {f : α → Act β} (hx : Untouched view x) (hf : ∀ a, Untouched view (f a)) :
    Untouched view (x >>= f) :=
  hx.bind_of fun _ a w' _ => hf a w'

theorem forIn (xs : List α) (b : β) {f : α → β → Act (ForInStep β)}
    (hf : ∀ x b, Untouched view (f x b)) : Untouched view (forIn xs b f) := by
  induction xs generalizing b with
  | nil => exact pure b
  | cons x xs ih =>
    rw [List.forIn_cons]
    refine bind (hf x b) fun step => ?_
    cases step with
    | done b' => exact pure b'
    | yield b' => exact ih b'

/-- A run that succeeds leaves an untouched view as it found it. -/
theorem keeps {x : Act α} (h : Untouched view x) : Keeps view x := by
  intro w r w' ran
  have same := h w
  rw [ran] at same
  exact same

/-- A run that fails leaves an untouched view as it found it. -/
theorem of_error {x : Act α} (h : Untouched view x) {w w' : World} {e : Fault}
    (ran : x.run w = .error e w') : view w' = view w := by
  have same := h w
  rw [ran] at same
  exact same

/-- A database call touches only the database. -/
theorem query (blind : ∀ (w : World) (db : Database), view { w with db := db } = view w)
    (k : QueryKind) (params : List Value) : Untouched view (query k params) := by
  intro w
  rw [Cache.query_run]
  exact blind w _

end Untouched

/-! ### Reads -/

section Reads

variable {γ : Type} {view : World → γ}

theorem deref_untouched (h : Nat) : Untouched view (deref h) := by
  unfold deref Act.fail
  refine Untouched.get.bind fun w => ?_
  split
  · exact Untouched.pure _
  · exact Untouched.raise _

theorem kindNameOf_untouched (v : Value) : Untouched view (kindNameOf v) := by
  unfold kindNameOf
  split
  · exact (deref_untouched _).bind fun _ => Untouched.pure _
  · exact Untouched.pure _

theorem noMember_untouched {α : Type} (v : Value) (name : String) :
    Untouched view (noMember v name : Act α) :=
  (kindNameOf_untouched v).bind fun _ => Untouched.raise _

theorem attributeOf_untouched (v : Value) (name : String) : Untouched view (attributeOf v name) := by
  unfold attributeOf
  repeat' first
    | split
    | with_reducible exact Untouched.pure _
    | with_reducible exact noMember_untouched _ _
    | with_reducible exact deref_untouched _
    | with_reducible apply Untouched.bind
    | intro _

theorem itemOf_untouched (c k : Value) : Untouched view (itemOf c k) := by
  unfold itemOf
  repeat' first
    | split
    | with_reducible exact Untouched.pure _
    | with_reducible exact Untouched.raise _
    | with_reducible exact Untouched.lift _
    | with_reducible exact noMember_untouched _ _
    | with_reducible exact kindNameOf_untouched _
    | with_reducible exact deref_untouched _
    | with_reducible apply Untouched.bind
    | dsimp only
    | intro _

theorem itemsOf_untouched (v : Value) : Untouched view (itemsOf v) := by
  unfold itemsOf
  repeat' first
    | split
    | with_reducible exact Untouched.pure _
    | with_reducible exact Untouched.raise _
    | with_reducible exact kindNameOf_untouched _
    | with_reducible apply Untouched.bind
    | intro _

theorem dataOf_untouched (u : User) (key : String) : Untouched view (Listeners.dataOf u key) := by
  unfold Listeners.dataOf
  split
  · exact Untouched.pure _
  · exact Untouched.raise _

theorem userAt_untouched (v : Value) : Untouched view (userAt v) := by
  unfold userAt
  repeat' first
    | split
    | with_reducible exact Untouched.pure _
    | with_reducible exact noMember_untouched _ _
    | with_reducible exact deref_untouched _
    | with_reducible apply Untouched.bind
    | intro _

theorem userOf_untouched (v : Value) : Untouched view (Listeners.userOf v) :=
  (userAt_untouched v).bind fun _ => Untouched.pure _

theorem eventAt_untouched (v : Value) : Untouched view (eventAt v) := by
  unfold eventAt
  repeat' first
    | split
    | with_reducible exact Untouched.pure _
    | with_reducible exact noMember_untouched _ _
    | with_reducible exact deref_untouched _
    | with_reducible apply Untouched.bind
    | intro _

theorem configCurrent_untouched : Untouched view Config.current :=
  Untouched.get.bind fun _ => Untouched.pure _

theorem clock_untouched : Untouched view clock := Untouched.get.bind fun _ => Untouched.pure _

theorem entryOf_untouched (song : Value) (key : String) : Untouched view (Elections.entryOf song key) :=
  (attributeOf_untouched _ _).bind fun _ => itemOf_untouched _ _

theorem songsOf_untouched (v : Value) : Untouched view (Elections.songsOf v) :=
  ((eventAt_untouched v).bind fun _ => Untouched.pure _).bind fun _ => itemsOf_untouched _

theorem entry_untouched (v entryId : Value) : Untouched view (Elections.entry v entryId) := by
  unfold Elections.entry
  repeat' first
    | split
    | with_reducible exact Untouched.pure _
    | with_reducible exact songsOf_untouched _
    | with_reducible exact entryOf_untouched _ _
    | with_reducible apply Untouched.forIn
    | with_reducible apply Untouched.bind
    | dsimp only
    | intro _

theorem requestBy_untouched (v userId : Value) : Untouched view (Elections.requestBy v userId) := by
  unfold Elections.requestBy
  repeat' first
    | split
    | with_reducible exact Untouched.pure _
    | with_reducible exact songsOf_untouched _
    | with_reducible exact entryOf_untouched _ _
    | with_reducible apply Untouched.forIn
    | with_reducible apply Untouched.bind
    | dsimp only
    | intro _

theorem cacheRead_untouched (key : String) : Untouched view (Cache.read key) := by
  unfold Cache.read Cache.requireClient Cache.state
  repeat' first
    | split
    | with_reducible exact Untouched.pure _
    | with_reducible exact Untouched.raise _
    | with_reducible exact Untouched.get
    | with_reducible apply Untouched.bind
    | intro _

theorem readUser_untouched (user : Value) (key : String) : Untouched view (Cache.readUser user key) := by
  unfold Cache.readUser Cache.userKey
  refine Untouched.bind ?_ fun _ => cacheRead_untouched _
  split
  · exact Untouched.pure _
  · exact (userAt_untouched _).bind fun _ => Untouched.pure _
  · exact Untouched.pure _

theorem col_untouched (row : Value) (key : String) : Untouched view (col row key) :=
  itemOf_untouched _ _

end Reads

/-! ### What the transaction looks at -/

/-- The objects and the cache of a world. -/
def objectsAndCache (w : World) : Array Obj × Cache := (w.store, w.cache)

/-- What a listener's lock holds: whether they are locked, to which station, and for how many
elections. -/
def lockOf (u : User) : Option Value × Option Value × Option Value :=
  (Dict.field? u.data "lock", Dict.field? u.data "lock_sid", Dict.field? u.data "lock_counter")

/-- The lock of the listener under a handle. -/
def lockView (hu : Nat) (w : World) : Option (Option Value × Option Value × Option Value) :=
  (Listeners.userIn w.store hu).map lockOf

/-- The listener under `hu` is locked to station `sid` for `count` elections. -/
def LockedTo (w : World) (hu : Nat) (sid count : Value) : Prop :=
  lockView hu w = some (some (.bool true), some sid, some count)

/-- Changing a stored user in a way that keeps their lock keeps every listener's lock. -/
theorem lockView_set_user {w : World} {h : Nat} {u u' : User} (stored : w.store[h]? = some (.user u))
    (keeps : lockOf u' = lockOf u) (hu : Nat) :
    lockView hu { w with store := w.store.set! h (.user u') } = lockView hu w := by
  by_cases same : h = hu
  · subst same
    simp only [lockView, Listeners.userIn_set stored, Listeners.userIn_of_store stored,
      Option.map_some, keeps]
  · simp only [lockView, Listeners.userIn, Live.set_frame _ _ hu (Ne.symm same)]

/-! ### Writes -/

section Writes

variable {γ : Type} {view : World → γ}

theorem cachePut_untouched (blind : ∀ (w : World) (c : Cache), view { w with cache := c } = view w)
    (key : String) (v : Value) (keepLocal : Bool) : Untouched view (Cache.put key v keepLocal) := by
  have change (f : Cache → Cache) : Untouched view (Cache.change f) := fun w => blind w _
  unfold Cache.put Cache.requireClient Cache.state
  repeat' first
    | split
    | with_reducible exact Untouched.pure _
    | with_reducible exact Untouched.raise _
    | with_reducible exact Untouched.get
    | with_reducible exact change _
    | with_reducible apply Untouched.bind
    | intro _

theorem cacheVote_untouched (blind : ∀ (w : World) (c : Cache), view { w with cache := c } = view w)
    (user elecId entryId : Value) : Untouched view (Api.Voting.cacheVote user elecId entryId) := by
  unfold Api.Voting.cacheVote Cache.putUser Cache.userKey
  repeat' first
    | split
    | with_reducible exact Untouched.pure _
    | with_reducible exact Untouched.raise _
    | with_reducible exact readUser_untouched _ _
    | with_reducible exact itemsOf_untouched _
    | with_reducible exact itemOf_untouched _ _
    | with_reducible exact userAt_untouched _
    | with_reducible exact cachePut_untouched blind _ _ _
    | with_reducible apply Untouched.forIn
    | with_reducible apply Untouched.bind
    | dsimp only
    | intro _

theorem userAt_ref_result {w w' : World} {h h' : Nat} {u : User}
    (ran : (userAt (.ref h)).run w = .ok (h', u) w') : w' = w ∧ h' = h ∧ w.store[h']? = some (.user u) := by
  obtain ⟨o, w0, fetched, matched⟩ := run_bind_eq_ok ran
  obtain ⟨rfl, stored⟩ := deref_run_inv fetched
  cases o with
  | user u' =>
    obtain ⟨same, rfl⟩ := run_pure_eq_ok matched
    cases same
    exact ⟨rfl, rfl, stored⟩
  | _ => exact absurd matched (noMember_fails _ _ _ _ _)

/-- A change to a user that keeps their lock keeps every listener's lock, however it ends. -/
theorem changeUser_untouched (h : Nat) {f : User → User} (keeps : ∀ u, lockOf (f u) = lockOf u)
    (hu : Nat) : Untouched (lockView hu) (Listeners.changeUser (.ref h) f) := by
  unfold Listeners.changeUser
  refine (userAt_untouched _).bind_of fun w ⟨h', u⟩ w' ran => ?_
  obtain ⟨rfl, -, stored⟩ := userAt_ref_result ran
  have changed : (updateUser h' f).run w' = .ok () { w' with store := w'.store.set! h' (.user (f u)) } := by
    simp [updateUser, deref, stored]
    rfl
  rw [changed]
  exact lockView_set_user stored (keeps u) hu

/-- Recording the voted entry on a listener keeps every listener's lock. -/
theorem mergeVoted_untouched (h : Nat) (entryId : Value) (hu : Nat) :
    Untouched (lockView hu) (Listeners.mergeData (.ref h) (Value.record [("voted_entry", entryId)])) := by
  rw [Value.record, Listeners.mergeData_dict]
  refine changeUser_untouched h (fun u => ?_) hu
  simp [lockOf, Dict.merge, Dict.ofStrings, Dict.field?, Cache.lookup?_put_str_other]

end Writes

/-! ### The transaction -/

section Transaction

open Api.Voting

/-- Taking the earlier vote back, or refusing a listener locked elsewhere, touches only the
database. -/
theorem release_untouched (user sid already : Value) :
    Untouched objectsAndCache (release user sid already) := by
  have ask (params : List Value) : Untouched objectsAndCache (dbUpdate params) :=
    Untouched.query (fun _ _ => rfl) _ _
  unfold release Elections.addVote
  repeat' first
    | split
    | with_reducible exact Untouched.pure _
    | with_reducible exact Untouched.raise _
    | with_reducible exact ask _
    | with_reducible exact userOf_untouched _
    | with_reducible exact dataOf_untouched _ _
    | with_reducible exact configCurrent_untouched
    | with_reducible exact itemOf_untouched _ _
    | with_reducible apply Untouched.bind
    | intro _

/-- Registering the vote keeps every listener's lock: it writes the database and the cache, and
records the voted entry on the voter. -/
theorem register_untouched (hu h : Nat) (u : User) (isAnon : Bool) (already entryId event eventId : Value) :
    Untouched (lockView hu) (register (.ref h) u isAnon already entryId event eventId) := by
  have ask (k : QueryKind) (params : List Value) : Untouched (lockView hu) (query k params) :=
    Untouched.query (fun _ _ => rfl) _ _
  unfold register Elections.addVote dbUpdate fetchVar timestampInt timestamp clockValue clockSeconds
    minus plus
  repeat' first
    | split
    | with_reducible exact Untouched.pure _
    | with_reducible exact Untouched.raise _
    | with_reducible exact Untouched.lift _
    | with_reducible exact ask _ _
    | with_reducible exact clock_untouched
    | with_reducible exact userOf_untouched _
    | with_reducible exact dataOf_untouched _ _
    | with_reducible exact attributeOf_untouched _ _
    | with_reducible exact entry_untouched _ _
    | with_reducible exact requestBy_untouched _ _
    | with_reducible exact entryOf_untouched _ _
    | with_reducible exact mergeVoted_untouched _ _ _
    | with_reducible exact cacheVote_untouched (fun _ _ => rfl) _ _ _
    | with_reducible apply Untouched.bind
    | intro _

/-! ### The lock -/

theorem userAt_noRefusal (v : Value) : NoRefusal (userAt v) := by
  unfold userAt
  repeat' first
    | split
    | with_reducible exact NoRefusal.pure _
    | with_reducible exact noMember_noRefusal _ _
    | with_reducible exact deref_noRefusal _
    | with_reducible apply NoRefusal.bind
    | intro _

theorem dataOf_noRefusal (u : User) (key : String) : NoRefusal (Listeners.dataOf u key) := by
  unfold Listeners.dataOf
  split
  · exact .pure _
  · exact .raised _ _

theorem changeUser_noRefusal (v : Value) (f : User → User) : NoRefusal (Listeners.changeUser v f) := by
  have write (h : Nat) (o : Obj) : NoRefusal (store h o) := fun _ _ _ ran => by cases ran
  unfold Listeners.changeUser updateUser
  repeat' first
    | split
    | with_reducible exact NoRefusal.pure _
    | with_reducible exact write _ _
    | with_reducible exact deref_noRefusal _
    | with_reducible exact userAt_noRefusal _
    | with_reducible apply NoRefusal.bind
    | intro _

/-- Locking a listener never refuses: it fails only where the listener or their listener id is
missing. -/
theorem lockToStation_noRefusal (v sid count : Value) : NoRefusal (Listeners.lockToStation v sid count) := by
  unfold Listeners.lockToStation Listeners.setData Listeners.userOf dbUpdate
  repeat' first
    | with_reducible exact NoRefusal.pure _
    | with_reducible exact NoRefusal.query _ _
    | with_reducible exact changeUser_noRefusal _ _
    | with_reducible exact userAt_noRefusal _
    | with_reducible exact dataOf_noRefusal _ _
    | with_reducible apply NoRefusal.bind
    | intro _

/-- A lock that succeeds leaves the listener locked to the station for the given number of
elections. -/
theorem lockToStation_locks {w w' : World} {hu : Nat} {sid count r : Value}
    (ran : (Listeners.lockToStation (.ref hu) sid count).run w = .ok r w') : LockedTo w' hu sid count := by
  obtain ⟨_, w1, lock, ran⟩ := run_bind_eq_ok ran
  obtain ⟨_, w2, lockSid, ran⟩ := run_bind_eq_ok ran
  obtain ⟨_, w3, counter, written⟩ := run_bind_eq_ok ran
  obtain ⟨u1, stored1, rfl⟩ := Listeners.changeUser_result lock
  obtain ⟨u2, stored2, rfl⟩ := Listeners.changeUser_result lockSid
  obtain ⟨u3, stored3, rfl⟩ := Listeners.changeUser_result counter
  -- each change finds the user the one before it wrote
  simp only [Live.set_self _ stored1, Option.some.injEq, Obj.user.injEq] at stored2
  subst stored2
  simp only [Live.set_self _ (Live.set_self _ stored1), Option.some.injEq, Obj.user.injEq] at stored3
  subst stored3
  -- the database write after the three changes keeps the lock they set
  have rest : Untouched (lockView hu) (do
      dbUpdate [sid, count, ← Listeners.dataOf (← Listeners.userOf (.ref hu)) "listener_id"]) :=
    (userOf_untouched _).bind fun _ => (dataOf_untouched _ _).bind fun _ =>
      Untouched.query (fun _ _ => rfl) _ _
  rw [LockedTo, rest.keeps _ _ _ written, lockView,
    Listeners.userIn_set (Live.set_self _ (Live.set_self _ stored1))]
  simp [lockOf, Api.field?_putField]

/-- A refused transaction leaves the objects and the cache as it found them, or, once the lock is
taken, the listener locked to the station. -/
theorem castVote_refused {w w' : World} {hu : Nat} {sid position : Value} {a : ApiError} (u : User)
    (isAnon : Bool) (already entryId event eventId : Value)
    (ran : (castVote (.ref hu) sid u isAnon already entryId event eventId position).run w =
      .error (.api a) w') :
    objectsAndCache w' = objectsAndCache w ∨ LockedTo w' hu sid position := by
  unfold castVote at ran
  rcases run_bind_eq_error ran with released | ⟨_, w1, -, ran⟩
  · exact .inl ((release_untouched _ _ _).of_error released)
  rcases run_bind_eq_error ran with locking | ⟨r, w2, locked, ran⟩
  · exact absurd locking (lockToStation_noRefusal _ _ _ _ _ _)
  right
  have lockedTo := lockToStation_locks locked
  dsimp only at ran
  split at ran
  · -- the lock's database write failed: refused where the lock left the listener
    simp only [EStateM.run_bind, Act.raise_run] at ran
    cases ran
    exact lockedTo
  · -- registering failed, and the lock stays
    rw [LockedTo, (register_untouched _ _ _ _ _ _ _ _).of_error ran]
    exact lockedTo

end Transaction

/-! ### Before the transaction -/

/-- A step before the transaction: it never refuses, and it touches neither the objects nor the
cache (it may ask the database). -/
structure Lookup {α : Type} (x : Act α) : Prop where
  noRefusal : NoRefusal x
  untouched : Untouched objectsAndCache x

namespace Lookup

variable {α β : Type}

theorem of_read {x : Act α} (noRefusal : NoRefusal x) (untouched : ∀ {γ} (view : World → γ), Untouched view x) :
    Lookup x :=
  ⟨noRefusal, untouched _⟩

theorem bind {x : Act α} {f : α → Act β} (hx : Lookup x) (hf : ∀ a, Lookup (f a)) : Lookup (x >>= f) :=
  ⟨hx.noRefusal.bind fun a => (hf a).noRefusal, hx.untouched.bind fun a => (hf a).untouched⟩

/-- A refusal after a lookup is a refusal of the rest, from a world with the same objects and
cache. -/
theorem refused_after {x : Act α} {f : α → Act β} (lookup : Lookup x) {w w' : World} {a : ApiError}
    (ran : (x >>= f).run w = .error (.api a) w') :
    ∃ b w1, objectsAndCache w1 = objectsAndCache w ∧ (f b).run w1 = .error (.api a) w' := by
  rcases run_bind_eq_error ran with refused | ⟨b, w1, looked, ran⟩
  · exact absurd refused (lookup.noRefusal _ _ _)
  · exact ⟨b, w1, lookup.untouched.keeps _ _ _ looked, ran⟩

end Lookup

section Before

open Api.Voting

theorem itemOf_noRefusal (c k : Value) : NoRefusal (itemOf c k) := by
  unfold itemOf
  repeat' first
    | split
    | with_reducible exact NoRefusal.pure _
    | exact NoRefusal.raised _ _
    | with_reducible exact noMember_noRefusal _ _
    | with_reducible exact kindNameOf_noRefusal _
    | with_reducible exact deref_noRefusal _
    | with_reducible apply NoRefusal.bind
    | dsimp only
    | intro _

theorem attributeOf_noRefusal (v : Value) (name : String) : NoRefusal (attributeOf v name) := by
  unfold attributeOf
  repeat' first
    | split
    | with_reducible exact NoRefusal.pure _
    | with_reducible exact noMember_noRefusal _ _
    | with_reducible exact deref_noRefusal _
    | with_reducible apply NoRefusal.bind
    | intro _

theorem userOf_lookup (v : Value) : Lookup (Listeners.userOf v) :=
  .of_read ((userAt_noRefusal v).bind fun _ => .pure _) fun _ => userOf_untouched v

theorem attributeOf_lookup (v : Value) (name : String) : Lookup (attributeOf v name) :=
  .of_read (attributeOf_noRefusal v name) fun _ => attributeOf_untouched v name

/-- Finding the earlier vote only reads the listener or asks the database. -/
theorem previousVote_lookup (u : User) (isAnon : Bool) (entryId eventId : Value) :
    Lookup (previousVote u isAnon entryId eventId) := by
  have dataOf (key : String) : Lookup (Listeners.dataOf u key) :=
    .of_read (dataOf_noRefusal _ _) fun _ => dataOf_untouched _ _
  have row (params : List Value) : Lookup (fetchRow params) :=
    ⟨.query _ _, Untouched.query (fun _ _ => rfl) _ _⟩
  have column (row : Value) (key : String) : Lookup (col row key) :=
    .of_read (itemOf_noRefusal _ _) fun _ => col_untouched _ _
  unfold previousVote
  repeat' first
    | split
    | with_reducible exact .of_read (.pure _) fun _ => Untouched.pure _
    | with_reducible exact dataOf _
    | with_reducible exact row _
    | with_reducible exact column _ _
    | with_reducible apply Lookup.bind
    | intro _

end Before

/-! ### The vote -/

section Vote

open Api.Voting

/-- A handler under 0 serving the registered listener under 1 on station 1, an election under 2,
and a database whose next update changes no row, so that the lock's write fails. -/
def lockWriteFails : World :=
  { store := #[.handler { route := "/api4/vote", user := .ref 1, sid := .int 1 }, .user { id := .int 2 },
      .message (Dict.ofStrings [("id", .int 600)])],
    db := { queues := { update := [.int 0] } } }

end Vote

/-! ### A failed election -/

/-- Station 1, whose cached request interval is one election, with a producer of its elections
under 0 and no songs in the database. -/
def songlessProducer : World :=
  { config := { opts := [(.str "stations", .dict [(.int 1, .dict [(.str "songs_in_election", .int 3)])])] },
    cache := { entries := [(.str "sid1_request_interval", .int 1)] },
    store := #[.producer { kind := .election, sid := .int 1 }],
    rng := { words := #[], index := 0 } }

end Airwaves
