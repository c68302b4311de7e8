import Airwaves.Proofs.ArgumentReading
/-!
# Refreshing a listener

What a refresh leaves of a listener's standing follows the last record the database answered,
except that a lock in effect is never cleared.
-/

namespace Airwaves

theorem ite_bind {α β : Type} (c : Prop) [Decidable c] (x y : Act α) (f : α → Act β) :
    ((if c then x else y) >>= f) = if c then x >>= f else y >>= f := by
  split <;> rfl

theorem Keeps.ite {α β : Type} {view : World → β} {c : Prop} [Decidable c] {x y : Act α}
    (hx : Keeps view x) (hy : Keeps view y) : Keeps view (if c then x else y) := by
  split
  · exact hx
  · exact hy

end Airwaves

namespace Airwaves.Listeners

/-! ### The listener record -/

/-- A listener record as the listener query gives it: the listener's id, the station tuned in
to, the lock, the station locked to, the lock's count and the entry voted for. -/
structure ListenerRecord where
  listenerId : Value
  sid : Value
  lock : Value
  lockSid : Value
  lockCounter : Value
  votedEntry : Value

/-- The row of a record, under the names the listener query gives its columns. -/
def ListenerRecord.row (r : ListenerRecord) : Dict :=
  Dict.ofStrings [("listener_id", r.listenerId), ("sid", r.sid), ("lock", r.lock),
    ("lock_sid", r.lockSid), ("lock_counter", r.lockCounter), ("voted_entry", r.votedEntry)]

/-- What the listener query answers: the record's row, or `None` without a record. -/
def recordAnswer : Option ListenerRecord → Value
  | some r => .dict r.row
  | none => .none

theorem ListenerRecord.truthy_row (r : ListenerRecord) : (Value.dict r.row).truthy = true := by
  simp [Value.truthy, ListenerRecord.row, Dict.ofStrings]

theorem ListenerRecord.row_distinct (r : ListenerRecord) : r.row.Pairwise fun a b => a.1 ≠ b.1 := by
  simp [ListenerRecord.row, Dict.ofStrings]

theorem ListenerRecord.field?_row_sid (r : ListenerRecord) : Dict.field? r.row "sid" = some r.sid := by
  simp [ListenerRecord.row, Dict.ofStrings, Dict.field?, Dict.lookup?_cons, Value.equals]

/-! ### The standing a refresh decides -/

/-- The entries of a listener's data that a refresh decides. -/
structure Standing where
  tunedIn : Value
  sid : Value
  lock : Value
  lockSid : Value
  lockCounter : Value
  votedEntry : Value
  lockInEffect : Value

/-- The keys of the data that make up the standing. -/
def standingKeys : List String :=
  ["tuned_in", "sid", "lock", "lock_sid", "lock_counter", "voted_entry", "lock_in_effect"]

namespace Standing

/-- A listener's standing; an entry that is not there reads as `None`. -/
def of (u : User) : Standing :=
  ⟨u.get "tuned_in", u.get "sid", u.get "lock", u.get "lock_sid", u.get "lock_counter",
    u.get "voted_entry", u.get "lock_in_effect"⟩

/-- The standing of a new listener object: not tuned in, on no station, and not locked. -/
def initial : Standing := ⟨.bool false, .int 0, .bool false, .none, .int 0, .int 0, .bool false⟩

theorem of_new (id : Value) : of { id := id } = initial := rfl

/-- The standing after one entry of the data is set. -/
def put (s : Standing) (key : String) (x : Value) : Standing :=
  if key = "tuned_in" then { s with tunedIn := x }
  else if key = "sid" then { s with sid := x }
  else if key = "lock" then { s with lock := x }
  else if key = "lock_sid" then { s with lockSid := x }
  else if key = "lock_counter" then { s with lockCounter := x }
  else if key = "voted_entry" then { s with votedEntry := x }
  else if key = "lock_in_effect" then { s with lockInEffect := x }
  else s

/-- The standing after a record is merged: the record's station and lock entries. -/
def merge (s : Standing) (r : ListenerRecord) : Standing :=
  { s with sid := r.sid, lock := r.lock, lockSid := r.lockSid, lockCounter := r.lockCounter,
           votedEntry := r.votedEntry }

/-- The station part of a refresh on `sid`: not tuned in, the record merged when there is one,
then tuned in when the record is on `sid` and otherwise moved to `sid`. -/
def station (s : Standing) (sid : Value) : Option ListenerRecord → Standing
  | some r =>
    let merged := { s.merge r with tunedIn := .bool false }
    if Value.equals r.sid sid then { merged with tunedIn := .bool true } else { merged with sid := sid }
  | none => { s with tunedIn := .bool false, sid := sid }

/-- The lock part of a refresh on `sid`: a lock to another station takes effect. -/
def settle (s : Standing) (sid : Value) : Standing :=
  if s.lock.truthy && !Value.equals sid s.lockSid then { s with lockInEffect := .bool true } else s

/-- One refresh on `sid` with the record `r`. -/
def refresh (s : Standing) (sid : Value) (r : Option ListenerRecord) : Standing :=
  (s.station sid r).settle sid

@[simp] theorem put_tunedIn (s : Standing) (x : Value) : s.put "tuned_in" x = { s with tunedIn := x } := rfl

@[simp] theorem put_sid (s : Standing) (x : Value) : s.put "sid" x = { s with sid := x } := rfl

@[simp] theorem put_lockInEffect (s : Standing) (x : Value) :
    s.put "lock_in_effect" x = { s with lockInEffect := x } := rfl

theorem put_other (s : Standing) {key : String} (other : key ∉ standingKeys) (x : Value) :
    s.put key x = s := by
  simp only [standingKeys, List.mem_cons, List.not_mem_nil, or_false, not_or] at other
  simp [put, other]

theorem of_putField (u : User) (key : String) (x : Value) :
    of { u with data := Dict.putField u.data key x } = (of u).put key x := by
  -- one case per key of the standing, and one for every other key; splitting the conditions
  -- of both sides instead would compare the key texts pairwise in every branch
  by_cases named : key ∈ standingKeys
  · simp only [standingKeys, List.mem_cons, List.not_mem_nil, or_false] at named
    rcases named with rfl | rfl | rfl | rfl | rfl | rfl | rfl <;>
      simp [of, put, User.get, Api.field?_putField]
  · rw [put_other _ named]
    simp only [standingKeys, List.mem_cons, List.not_mem_nil, or_false, not_or] at named
    simp [of, User.get, Api.field?_putField, named]

theorem of_merge (u : User) (r : ListenerRecord) :
    of { u with data := Dict.merge u.data r.row } = (of u).merge r := by
  simp [of, merge, User.get, Dict.field?, Dict.lookup?_merge_str, ListenerRecord.row,
    Dict.ofStrings, Dict.lookup?_cons, Dict.lookup?_nil, Value.equals]

@[simp] theorem settle_tunedIn (s : Standing) (sid : Value) : (s.settle sid).tunedIn = s.tunedIn := by
  unfold settle; split <;> rfl

@[simp] theorem settle_sid (s : Standing) (sid : Value) : (s.settle sid).sid = s.sid := by
  unfold settle; split <;> rfl

@[simp] theorem settle_lock (s : Standing) (sid : Value) : (s.settle sid).lock = s.lock := by
  unfold settle; split <;> rfl

@[simp] theorem settle_lockSid (s : Standing) (sid : Value) : (s.settle sid).lockSid = s.lockSid := by
  unfold settle; split <;> rfl

@[simp] theorem settle_lockCounter (s : Standing) (sid : Value) :
    (s.settle sid).lockCounter = s.lockCounter := by
  unfold settle; split <;> rfl

@[simp] theorem settle_votedEntry (s : Standing) (sid : Value) :
    (s.settle sid).votedEntry = s.votedEntry := by
  unfold settle; split <;> rfl

theorem settle_lockInEffect (s : Standing) (sid : Value) :
    (s.settle sid).lockInEffect =
      if s.lock.truthy && !Value.equals sid s.lockSid then .bool true else s.lockInEffect := by
  unfold settle; split <;> rfl

end Standing

end Airwaves.Listeners

namespace Airwaves.Listeners

/-! ### The three parts of a refresh -/

/-- The station part of a refresh: not tuned in, the record read and merged, then tuned in when
the record is on the station and otherwise moved to it. -/
def refreshStation (v sid : Value) : Act Unit := do
  setData v "tuned_in" (.bool false)
  let record ← listenerRecord v
  if record.truthy then
    if Value.equals (← dataOf (← userOf v) "sid") sid then setData v "tuned_in" (.bool true)
    else setData v "sid" sid
  else setData v "sid" sid

/-- The request-line part of a refresh: a registered listener's place in line is read when the
station has a schedule, and a tuned-in listener with requests joins the line. -/
def refreshLine (v sid : Value) : Act Unit := do
  let registered ← isRegistered (← userOf v)
  if registered then
    if (← Cache.readStation sid "sched_current").truthy then
      let here ← dataOf (← userOf v) "sid"
      setData v "request_position" (← linePosition v here)
      setData v "request_expires_at" (← lineExpiry v)
      if (← dataOf (← userOf v) "tuned_in").truthy then
        if !(← inLine v) then
          if (← requestCount v (.bool false)).truthy then
            let _ ← joinLine v (← dataOf (← userOf v) "sid")

/-- The lock part of a refresh: a lock to another station takes effect. -/
def settleLock (v sid : Value) : Act Unit := do
  if (← dataOf (← userOf v) "lock").truthy then
    if !Value.equals sid (← dataOf (← userOf v) "lock_sid") then setData v "lock_in_effect" (.bool true)

theorem refresh_eq (v sid : Value) :
    refresh v sid = (do refreshStation v sid; refreshLine v sid; settleLock v sid) := by
  simp only [refresh, refreshStation, refreshLine, settleLock, bind_assoc, pure_bind, ite_bind]

/-- The standing of the listener under a handle, if the handle holds a listener. -/
def standingIn (h : Nat) (w : World) : Option Standing := (userIn w.store h).map Standing.of

section Parts

variable {h : Nat} {w w' : World} {u : User} {sid : Value}

theorem setData_run (stored : w.store[h]? = some (.user u)) (key : String) (x : Value) :
    (setData (.ref h) key x).run w =
      .ok () { w with store := w.store.set! h (.user { u with data := Dict.putField u.data key x }) } :=
  changeUser_run stored _

theorem fetchRow_run (params : List Value) :
    (fetchRow params).run w = .ok (w.db.take .row).1 { w with db := (w.db.call .row (some params) "").2 } :=
  Cache.query_run w .row params

/-- Reading the listener record of a listener without one gets `None` and changes only the
database. -/
theorem listenerRecord_run_none (stored : w.store[h]? = some (.user u))
    (answers : (w.db.take .row).1 = .none) :
    ∃ db, (listenerRecord (.ref h)).run w = .ok .none { w with db := db } := by
  unfold listenerRecord
  rw [run_bind_ok (Api.Ratings.listener_run stored)]

  -- by user or by address, the query gets no record
  cases registered : Value.greater u.id (.int 1) <;>
    simp [isRegistered, isGreater, registered, EStateM.run_bind, fetchRow_run, answers, Value.truthy]

/-- Reading a listener record that is there gets it and merges it into the listener's data. -/
theorem listenerRecord_run_some (stored : w.store[h]? = some (.user u)) {r : ListenerRecord}
    (answers : (w.db.take .row).1 = .dict r.row) :
    ∃ db, (listenerRecord (.ref h)).run w = .ok (.dict r.row)
      { w with db := db, store := w.store.set! h (.user { u with data := Dict.merge u.data r.row }) } := by
  unfold listenerRecord
  rw [run_bind_ok (Api.Ratings.listener_run stored)]

  cases registered : Value.greater u.id (.int 1) <;>
    simp only [isRegistered, isGreater, registered, EStateM.run_bind, EStateM.run_pure, fetchRow_run,
      answers, r.truthy_row, mergeData_dict, ite_true, ite_false, Bool.false_eq_true] <;>
    exact ⟨_, by simp [changeUser, userAt, updateUser, deref, stored, store]; rfl⟩

/-- Data merged with a listener record answers the record's station. The data is reduced
before the merge lemma applies: left as a projection, unification would unfold the merge. -/
theorem dataOf_merge_sid (w : World) (u : User) (d : Dict) (r : ListenerRecord) :
    (dataOf { u with data := Dict.merge d r.row } "sid").run w = .ok r.sid w :=
  Api.Ratings.dataOf_run w (by dsimp only; exact Dict.field?_merge_row r.row_distinct r.field?_row_sid d)

/-- The station part of a refresh acts on the standing as `Standing.station`. -/
theorem refreshStation_run (stored : w.store[h]? = some (.user u)) {r : Option ListenerRecord}
    (answers : (w.db.take .row).1 = recordAnswer r) (run : (refreshStation (.ref h) sid).run w = .ok () w') :
    ∃ u', w'.store[h]? = some (.user u') ∧ Standing.of u' = (Standing.of u).station sid r := by
  unfold refreshStation at run
  obtain ⟨_, w1, cleared, run⟩ := run_bind_eq_ok run
  rw [setData_run stored] at cleared
  have ⟨stored1, answers1⟩ :
      w1.store[h]? = some (.user { u with data := Dict.putField u.data "tuned_in" (.bool false) }) ∧
        (w1.db.take .row).1 = recordAnswer r := by
    cases cleared
    exact ⟨Live.set_self _ stored, answers⟩
  have cleared1 := Standing.of_putField u "tuned_in" (.bool false)
  obtain ⟨record, w2, fetched, run⟩ := run_bind_eq_ok run
  cases r with
  | none =>
    -- no record: the listener is moved to the station
    obtain ⟨db, found⟩ := listenerRecord_run_none stored1 answers1
    rw [found] at fetched
    cases fetched
    simp only [Value.truthy, Bool.false_eq_true, ite_false] at run
    rw [setData_run (w := { w1 with db := db }) stored1] at run
    cases run
    refine ⟨_, getElem?_set!_self stored1 _, ?_⟩
    rw [Standing.of_putField, cleared1]
    simp [Standing.station]
  | some rec =>
    obtain ⟨db, found⟩ := listenerRecord_run_some stored1 answers1
    rw [found] at fetched
    -- keep the world after the read abstract: only the stored listener matters below
    obtain ⟨rfl, stored2⟩ : record = .dict rec.row ∧ w2.store[h]? =
        some (.user { u with data := Dict.merge (Dict.putField u.data "tuned_in" (.bool false)) rec.row }) := by
      cases fetched
      exact ⟨rfl, Live.set_self _ stored1⟩
    rw [if_pos rec.truthy_row, run_bind_ok (Api.Ratings.listener_run stored2),
      run_bind_ok (dataOf_merge_sid _ _ _ rec)] at run
    have merged : Standing.of { u with data := Dict.merge (Dict.putField u.data "tuned_in" (.bool false)) rec.row } =
        ((Standing.of u).put "tuned_in" (.bool false)).merge rec := by
      rw [← cleared1]
      exact Standing.of_merge { u with data := Dict.putField u.data "tuned_in" (.bool false) } rec
    -- the record is on the station or not
    split at run
    · rename_i here
      rw [setData_run stored2] at run
      cases run
      refine ⟨_, getElem?_set!_self stored2 _, ?_⟩
      rw [Standing.of_putField, merged]
      simp [Standing.station, Standing.merge, here]
    · rename_i elsewhere
      rw [setData_run stored2] at run
      cases run
      refine ⟨_, getElem?_set!_self stored2 _, ?_⟩
      rw [Standing.of_putField, merged]
      simp [Standing.station, Standing.merge, elsewhere]

theorem setData_keeps_standing {key : String} (other : key ∉ standingKeys) (x : Value) :
    Keeps (standingIn h) (setData (.ref h) key x) := by
  intro w r w' run
  obtain ⟨u, stored, rfl⟩ := changeUser_result run
  simp only [standingIn, userIn_set stored, userIn_of_store stored, Option.map_some,
    Standing.of_putField, Standing.put_other _ other]

theorem query_keeps_standing (k : QueryKind) (params : List Value) :
    Keeps (standingIn h) (query k params) := by
  intro w r w' run
  rw [Cache.query_run] at run
  cases run
  rfl

/-- The request-line part reads the standing and writes other entries and the database. -/
theorem refreshLine_keeps (sid : Value) : Keeps (standingIn h) (refreshLine (.ref h) sid) := by
  unfold refreshLine linePosition lineExpiry cachedEntry inLine requestCount joinLine leaveLine
    topRequest isRegistered isAnonymous isAtMost fetchVar fetchRow dbUpdate col Cache.readStation
  repeat' first
    | with_reducible refine Keeps.bind ?_ fun _ => ?_
    | with_reducible refine Keeps.ite ?_ ?_
    | with_reducible exact Keeps.of_readOnly (userOf_readOnly _)
    | with_reducible exact Keeps.of_readOnly (dataOf_readOnly _ _)
    | with_reducible exact Keeps.of_readOnly (isGreater_readOnly _ _)
    | with_reducible exact Keeps.of_readOnly (ReadOnly.pure _)
    | with_reducible exact Keeps.of_readOnly (Cache.read_readOnly _)
    | with_reducible exact Keeps.of_readOnly (isIn_readOnly _ _)
    | with_reducible exact Keeps.of_readOnly (itemOf_readOnly _ _)
    | with_reducible exact query_keeps_standing _ _
    | with_reducible exact setData_keeps_standing (by decide) _

/-- The lock part of a refresh acts on the standing as `Standing.settle`. -/
theorem settleLock_run (stored : w.store[h]? = some (.user u))
    (run : (settleLock (.ref h) sid).run w = .ok () w') :
    ∃ u', w'.store[h]? = some (.user u') ∧ Standing.of u' = (Standing.of u).settle sid := by
  unfold settleLock at run
  rw [run_bind_ok (Api.Ratings.listener_run stored)] at run
  obtain ⟨lock, w1, readLock, afterLock⟩ := run_bind_eq_ok run
  obtain ⟨rfl, hasLock⟩ := dataOf_result readLock
  have lockIs : (Standing.of u).lock = lock := by simp [Standing.of, User.get, hasLock]
  by_cases locked : lock.truthy = true
  · rw [if_pos locked, run_bind_ok (Api.Ratings.listener_run stored)] at afterLock
    obtain ⟨lockSid, w2, readSid, afterSid⟩ := run_bind_eq_ok afterLock
    obtain ⟨rfl, hasSid⟩ := dataOf_result readSid
    have sidIs : (Standing.of u).lockSid = lockSid := by simp [Standing.of, User.get, hasSid]
    -- locked to another station or to this one
    split at afterSid
    · rename_i elsewhere
      rw [setData_run stored] at afterSid
      cases afterSid
      refine ⟨_, getElem?_set!_self stored _, ?_⟩
      rw [Standing.of_putField]
      simp [Standing.settle, lockIs, sidIs, locked, elsewhere]
    · rename_i here
      obtain ⟨-, rfl⟩ := run_pure_eq_ok afterSid
      exact ⟨u, stored, by simp [Standing.settle, lockIs, sidIs, here]⟩
  · rw [if_neg locked] at afterLock
    obtain ⟨-, rfl⟩ := run_pure_eq_ok afterLock
    exact ⟨u, stored, by simp [Standing.settle, lockIs, locked]⟩

/-- A refresh acts on the listener's standing as `Standing.refresh`, with the record the database
answers. -/
theorem refresh_standing (stored : w.store[h]? = some (.user u)) {r : Option ListenerRecord}
    (answers : (w.db.take .row).1 = recordAnswer r) (run : (refresh (.ref h) sid).run w = .ok () w') :
    ∃ u', w'.store[h]? = some (.user u') ∧ Standing.of u' = (Standing.of u).refresh sid r := by
  rw [refresh_eq] at run
  obtain ⟨_, w1, stationDone, run⟩ := run_bind_eq_ok run
  obtain ⟨u1, stored1, station⟩ := refreshStation_run stored answers stationDone
  obtain ⟨_, w2, lineDone, run⟩ := run_bind_eq_ok run
  -- the request-line part leaves the standing, so the lock part starts from the station part's
  have kept := (refreshLine_keeps (h := h) sid).run_eq lineDone
  simp only [standingIn, userIn_of_store stored1, Option.map_some, Option.map_eq_some_iff] at kept
  obtain ⟨u2, found2, same⟩ := kept
  obtain ⟨u3, stored3, settled⟩ := settleLock_run (userIn_eq_some.mp found2) run
  exact ⟨u3, stored3, by rw [settled, same, station]; rfl⟩

end Parts

end Airwaves.Listeners

namespace Airwaves.Listeners

/-! ### What a refresh owes to history -/

namespace Standing

/-- How a standing left by a refresh on `sid` with the record `r` compares with a new listener
object refreshed once the same way: the same tuned-in flag and station; with a record, the same
lock, lock station, lock count and voted entry; and a lock in effect whenever the new listener's
is. -/
structure Follows (now : Standing) (sid : Value) (r : Option ListenerRecord) : Prop where
  tunedIn : now.tunedIn = (initial.refresh sid r).tunedIn
  station : now.sid = (initial.refresh sid r).sid
  lockEntries : r.isSome → now.lock = (initial.refresh sid r).lock ∧
    now.lockSid = (initial.refresh sid r).lockSid ∧
    now.lockCounter = (initial.refresh sid r).lockCounter ∧
    now.votedEntry = (initial.refresh sid r).votedEntry
  lockInEffect : (initial.refresh sid r).lockInEffect = .bool true → now.lockInEffect = .bool true

theorem station_lockInEffect (s : Standing) (sid : Value) (r : Option ListenerRecord) :
    (s.station sid r).lockInEffect = s.lockInEffect := by
  cases r with
  | none => rfl
  | some rec => by_cases here : Value.equals rec.sid sid <;> simp [station, merge, here]

/-- The tuned-in flag and the station the station part leaves depend on the record alone. -/
theorem station_place (s t : Standing) (sid : Value) (r : Option ListenerRecord) :
    (s.station sid r).tunedIn = (t.station sid r).tunedIn ∧ (s.station sid r).sid = (t.station sid r).sid := by
  cases r with
  | none => exact ⟨rfl, rfl⟩
  | some rec => by_cases here : Value.equals rec.sid sid <;> simp [station, merge, here]

/-- Whatever standing a refresh starts from, what it leaves follows the record it read. -/
theorem refresh_follows (s : Standing) (sid : Value) (r : Option ListenerRecord) :
    Follows (s.refresh sid r) sid r := by
  refine ⟨?_, ?_, ?_, ?_⟩
  · simp only [refresh, settle_tunedIn]
    exact (station_place s initial sid r).1
  · simp only [refresh, settle_sid]
    exact (station_place s initial sid r).2
  · intro present
    obtain ⟨rec, rfl⟩ := Option.isSome_iff_exists.mp present
    by_cases here : Value.equals rec.sid sid <;> simp [refresh, station, merge, here]
  · intro effect
    cases r with
    | none =>
      -- a new listener without a record is not locked, so its lock is never in effect
      simp [refresh, settle, station, initial, Value.truthy] at effect
    | some rec =>
      -- with a record, both locks are the record's
      have locks : (initial.station sid (some rec)).lock = (s.station sid (some rec)).lock ∧
          (initial.station sid (some rec)).lockSid = (s.station sid (some rec)).lockSid := by
        by_cases here : Value.equals rec.sid sid <;> simp [station, merge, here]
      simp only [refresh, settle_lockInEffect, locks.1, locks.2] at effect ⊢
      split at effect
      · rename_i takes
        rw [if_pos takes]
      · simp [station_lockInEffect, initial] at effect

/-- A refresh never clears a lock in effect. -/
theorem refresh_keeps_lockInEffect {s : Standing} (held : s.lockInEffect = .bool true) (sid : Value)
    (r : Option ListenerRecord) : (s.refresh sid r).lockInEffect = .bool true := by
  simp only [refresh, settle_lockInEffect, station_lockInEffect, held]
  split <;> rfl

/-- The standing after refreshes on stations, one after another, with the records they read. -/
def afterAll (s : Standing) (calls : List (Value × Option ListenerRecord)) : Standing :=
  calls.foldl (fun s c => s.refresh c.1 c.2) s

theorem afterAll_keeps_lockInEffect {s : Standing} (held : s.lockInEffect = .bool true)
    (calls : List (Value × Option ListenerRecord)) : (s.afterAll calls).lockInEffect = .bool true := by
  induction calls generalizing s with
  | nil => exact held
  | cons c rest ih => exact ih (refresh_keeps_lockInEffect held c.1 c.2)

end Standing

/-! ### Runs of refreshes -/

/-- A run of refreshes of the listener object under handle `h`: each refresh is on a station and
reads the record the database answers at that moment. -/
inductive RefreshRun (h : Nat) : World → List (Value × Option ListenerRecord) → World → Prop
  | stop (w : World) : RefreshRun h w [] w
  | step {w w1 w' : World} {sid : Value} {r : Option ListenerRecord}
      {rest : List (Value × Option ListenerRecord)}
      (answers : (w.db.take .row).1 = recordAnswer r) (run : (refresh (.ref h) sid).run w = .ok () w1)
      (more : RefreshRun h w1 rest w') : RefreshRun h w ((sid, r) :: rest) w'

/-- Along a run, the listener's standing is the refreshes folded over the standing it started
with. -/
theorem refreshRun_standing {h : Nat} {w w' : World} {calls : List (Value × Option ListenerRecord)}
    (run : RefreshRun h w calls w') {u : User} (stored : w.store[h]? = some (.user u)) :
    ∃ u', w'.store[h]? = some (.user u') ∧ Standing.of u' = (Standing.of u).afterAll calls := by
  induction run generalizing u with
  | stop w => exact ⟨u, stored, rfl⟩
  | step answers run _ ih =>
    obtain ⟨u1, stored1, refreshed⟩ := refresh_standing stored answers run
    obtain ⟨u', stored', rest⟩ := ih stored1
    exact ⟨u', stored', by rw [rest, refreshed]; rfl⟩

/-- After every run of refreshes, whatever came before its last refresh, the listener is tuned in
and on a station exactly as a new listener object refreshed once with the same record; with a
record, its lock, lock station, lock count and voted entry are that listener's too; its lock is in
effect when that listener's is; and a lock in effect before the run is still in effect. -/
theorem refreshRun_follows_last {h : Nat} {w w' : World} {calls : List (Value × Option ListenerRecord)}
    (run : RefreshRun h w calls w') {sid : Value} {r : Option ListenerRecord}
    (last : calls.getLast? = some (sid, r)) {u : User} (stored : w.store[h]? = some (.user u)) :
    ∃ u', w'.store[h]? = some (.user u') ∧ (Standing.of u').Follows sid r ∧
      ((Standing.of u).lockInEffect = .bool true → (Standing.of u').lockInEffect = .bool true) := by
  obtain ⟨u', stored', standing⟩ := refreshRun_standing run stored
  obtain ⟨before, rfl⟩ := List.getLast?_eq_some_iff.mp last
  have lastRefresh : Standing.of u' = ((Standing.of u).afterAll before).refresh sid r := by
    rw [standing, Standing.afterAll, List.foldl_append]
    rfl
  refine ⟨u', stored', lastRefresh ▸ Standing.refresh_follows _ sid r, fun held => ?_⟩
  rw [standing]
  exact Standing.afterAll_keeps_lockInEffect held _

/-! ### A lock that outlives its record -/

/-- A record of listener 88 on station 1, locked to station 2 for three more elections. -/
def lockedElsewhere : ListenerRecord := ⟨.int 88, .int 1, .bool true, .int 2, .int 3, .int 0⟩

/-- The same listener's record once the lock has run out. -/
def lockRunOut : ListenerRecord := ⟨.int 88, .int 1, .bool false, .none, .int 0, .int 0⟩

/-- A new object for registered user 2, with nothing cached, and a database that answers the two
records in turn. -/
def lockSession : World :=
  { store := #[.user { id := .int 2 }],
    db := { queues := { row := [recordAnswer (some lockedElsewhere), recordAnswer (some lockRunOut)] } } }

/-- Two refreshes on station 1 of user 2's object, first locked to station 2 and then with the lock
run out: the object is tuned in like a new one refreshed with the second record, and the lock in
effect of the first refresh is still there. -/
theorem lockSession_follows_last :
    ∃ w', RefreshRun 0 lockSession [(.int 1, some lockedElsewhere), (.int 1, some lockRunOut)] w' ∧
      ∃ u', w'.store[0]? = some (.user u') ∧ (Standing.of u').Follows (.int 1) (some lockRunOut) ∧
        ((Standing.of { id := .int 2 }).lockInEffect = .bool true →
          (Standing.of u').lockInEffect = .bool true) := by
  have run : RefreshRun 0 lockSession [(.int 1, some lockedElsewhere), (.int 1, some lockRunOut)] _ :=
    .step rfl rfl (.step rfl rfl (.stop _))
  exact ⟨_, run, refreshRun_follows_last run rfl rfl⟩

/-- After the same two refreshes the lock is still in effect, while a new object refreshed once on
station 1 with the second record has no lock in effect: the first refresh outlives its record. -/
theorem lock_outlives_record :
    ∃ w', RefreshRun 0 lockSession [(.int 1, some lockedElsewhere), (.int 1, some lockRunOut)] w' ∧
      (∃ u', w'.store[0]? = some (.user u') ∧ (Standing.of u').lockInEffect = .bool true) ∧
      ∃ w'', RefreshRun 0 { lockSession with db := { queues := { row := [recordAnswer (some lockRunOut)] } } }
          [(.int 1, some lockRunOut)] w'' ∧
        ∃ u'', w''.store[0]? = some (.user u'') ∧ (Standing.of u'').lockInEffect = .bool false :=
  ⟨_, .step rfl rfl (.step rfl rfl (.stop _)), ⟨_, rfl, rfl⟩,
    _, .step rfl rfl (.stop _), ⟨_, rfl, rfl⟩⟩

end Airwaves.Listeners
