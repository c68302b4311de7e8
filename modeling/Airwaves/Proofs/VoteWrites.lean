import Airwaves.Proofs.VoteTally
import Airwaves.Proofs.VoteRollback
import Airwaves.Proofs.FaveCount
import Airwaves.Proofs.ElectionRecord
import Airwaves.Proofs.ElectionOrder
/-!
# What a vote writes

A successful vote runs the statements its reads fix (`voteStatements`), and run on the tables
they are `Tables.write`.
-/

namespace Airwaves.Tallies

open Api.Voting

/-- A statement of the vote path, with its parameters: a write to the three tables a vote changes,
or a call that changes none of them. -/
inductive Statement where
  /-- Adds `n` to the votes of entry `x`. -/
  | addVotes (x n : Int)
  /-- Sets the entry listener record `l` voted for. -/
  | setRecordVote (l e : Int)
  /-- Moves listener `u`'s history rows on entry `a` to entry `e` and its song. -/
  | moveRows (song : Value) (u a e : Int)
  /-- Adds listener `u`'s history row for entry `e` of election `elec`. -/
  | insertRow (u elec e : Int) (song rank count sid : Value)
  | other (k : QueryKind) (params : List Value)

namespace Statement

/-- The call the statement is made with. -/
def call : Statement → QueryKind × List Value
  | addVotes x n => (.update, [.int n, .int x])
  | setRecordVote l e => (.update, [.int e, .int l])
  | moveRows song u a e => (.update, [song, .int e, .int u, .int a])
  | insertRow u elec e song rank count sid => (.update, [.int elec, .int e, .int u, song, rank, count, sid])
  | other k params => (k, params)

/-- What the statement does to the tables. -/
def apply : Statement → Tables → Tables
  | addVotes x n, T => T.addVotes x n
  | setRecordVote l e, T => T.setRecordVote l e
  | moveRows _ u a e, T => T.moveRows u a e
  | insertRow u elec e .., T => T.insertRow ⟨u, elec, e⟩
  | other .., T => T

end Statement

/-- The tables after statements, run in order. -/
def Tables.run (T : Tables) (ss : List Statement) : Tables := ss.foldl (fun T s => s.apply T) T

/-- The values a registered listener's vote carries that the tables do not decide: the listener
id, the entry's song, the two-week window, the listener's count of votes in it and their rank, the
election's station, and the time. -/
structure Incidentals where
  listenerId : Value
  song : Value
  window : Value
  count : Value
  rank : Value
  electionSid : Value
  now : Value
  deriving Inhabited

/-- The statements a vote for entry `e` runs, the voter locked to station `sid` for `position`
elections. A registered listener's vote first reads their history row; a vote for the entry the
vote stands on runs nothing more. -/
def voteStatements (T : Tables) (E : Ballot) (sid position : Value) (inc : Incidentals) :
    Voter → Int → List Statement
  | .anonymous l, e =>
    let lock := Statement.other .update [sid, position, .int l]
    match T.recordVote l with
    | some a => if a = e then [] else [.addVotes a (-1), lock, .setRecordVote l e, .addVotes e 1]
    | none => [lock, .setRecordVote l e, .addVotes e 1]
  | .registered u, e =>
    let read := Statement.other .row [.int u, .int E.id]
    let lock := Statement.other .update [sid, position, inc.listenerId]
    match T.rowEntry u E.id with
    | some a =>
      if a = e then [read] else [read, .addVotes a (-1), lock, .moveRows inc.song u a e, .addVotes e 1]
    | none =>
      [read, lock, .other .var [inc.window, .int u], .other .execute [inc.window, inc.count],
        .insertRow u E.id e inc.song inc.rank inc.count inc.electionSid,
        .other .update [inc.now, inc.count, .int u]] ++
      (E.requestOf u).elim [] (fun r => [.addVotes r (-1)]) ++ [.addVotes e 1]

@[simp] theorem Tables.run_nil (T : Tables) : T.run [] = T := rfl

@[simp] theorem Tables.run_cons (T : Tables) (s : Statement) (ss : List Statement) :
    T.run (s :: ss) = (s.apply T).run ss := rfl

theorem Tables.run_append (T : Tables) (ss ss' : List Statement) :
    T.run (ss ++ ss') = (T.run ss).run ss' := List.foldl_append

/-- The statements a vote runs write what `Tables.write` says. -/
theorem run_voteStatements (T : Tables) (E : Ballot) (sid position : Value) (inc : Incidentals)
    (v : Voter) (e : Int) : T.run (voteStatements T E sid position inc v e) = T.write E v e := by
  cases v with
  | anonymous l =>
    unfold voteStatements Tables.write
    cases voted : T.recordVote l with
    | some a => by_cases same : a = e <;> simp [voted, same, Statement.apply]
    | none => simp [voted, Statement.apply]
  | registered u =>
    unfold voteStatements Tables.write
    cases found : T.rowEntry u E.id with
    | some a => by_cases same : a = e <;> simp [found, same, Statement.apply]
    | none => cases asked : E.requestOf u <;> simp [found, asked, Statement.apply]

/-! ### The reads -/

/-- How a listener carries their listener record's vote: the entry, or 0 without one. -/
def votedValue : Option Int → Value
  | some a => .int a
  | none => .int 0

/-- The history row the previous-vote query answers: the row's entry, or no row. -/
def rowValue : Option Int → Value
  | some a => .dict (Dict.ofStrings [("entry_id", .int a)])
  | none => .none

/-- The earlier vote a new vote takes back: its entry, or false without one. -/
def alreadyValue : Option Int → Value
  | some a => .int a
  | none => .bool false

/-- What the previous-vote step answers for a voter whose vote stands on `b`: nothing more to do
when it stands on `e`, else the vote to take back. -/
def previousAnswer (b : Option Int) (e : Int) : Option Value :=
  if b = some e then none else some (alreadyValue b)

/-! ### The election -/

/-- Song `song` shows entry `x` of an election: its entry id, whether it was requested, and by
whom. -/
def ShowsEntry (store : Array Obj) (song : Value) (x : Entry) : Prop :=
  ∃ h s, song = .ref h ∧ store[h]? = some (.song s) ∧ Dict.field? s.data "entry_id" = some (.int x.id) ∧
    Dict.field? s.data "entry_type" =
      some (if x.requester.isSome then Elections.requestEntry else Elections.normalEntry) ∧
    ∀ u, x.requester = some u → Dict.field? s.data "elec_request_user_id" = some (.int u)

/-- The election under `he` is election `E`: its id, and songs showing its entries in order. -/
def Shows (store : Array Obj) (he : Nat) (E : Ballot) : Prop :=
  ∃ ev songs, store[he]? = some (.event ev) ∧ ev.id = .int E.id ∧ ev.songs = .list songs ∧
    List.Forall₂ (ShowsEntry store) songs E.entries

/-- The song of the first entry listener `u` requested. -/
def firstRequest (u : Int) : List Value → List Entry → Option Value
  | song :: songs, x :: xs => if x.requester = some u then some song else firstRequest u songs xs
  | _, _ => none

/-- Changing a listener keeps the election and its songs. -/
theorem Shows.set_user {store : Array Obj} {he hu : Nat} {E : Ballot} {u : User}
    (shows : Shows store he E) (stored : store[hu]? = some (.user u)) (u' : User) :
    Shows (store.set! hu (.user u')) he E := by
  have keep {h : Nat} {o : Obj} (found : store[h]? = some o) (other : ∀ v, o ≠ .user v) :
      (store.set! hu (.user u'))[h]? = some o := by
    rw [Live.set_frame _ _ h fun same => other u (by rw [same, stored] at found; cases found; rfl)]
    exact found
  obtain ⟨ev, songs, found, named, listed, shown⟩ := shows
  refine ⟨ev, songs, keep found (by simp), named, listed, shown.imp fun {song x} entry => ?_⟩
  obtain ⟨h, s, rfl, songAt, rest⟩ := entry
  exact ⟨h, s, rfl, keep songAt (by simp), rest⟩

theorem firstRequest_rel {store : Array Obj} {u : Int} :
    ∀ {songs : List Value} {xs : List Entry}, List.Forall₂ (ShowsEntry store) songs xs →
      Option.Rel (ShowsEntry store) (firstRequest u songs xs) (xs.find? (·.requester == some u))
  | [], [], .nil => .none
  | _ :: _, x :: _, .cons shown rest => by
    by_cases mine : x.requester = some u
    · simpa [firstRequest, mine] using Option.Rel.some shown
    · simpa [firstRequest, mine] using firstRequest_rel rest

/-- The voter under handle `hu` as the tables have them. An anonymous listener (an id of at most
one) carries their listener record's id and vote, as loaded from the record; a registered listener
has a listener id, and the database's next row is their history row in the election. -/
def Sees (T : Tables) (E : Ballot) (w : World) (hu : Nat) : Voter → Prop
  | .anonymous l => ∃ u i, w.store[hu]? = some (.user u) ∧ u.id = .int i ∧ i ≤ 1 ∧
      Dict.field? u.data "listener_id" = some (.int l) ∧
      Dict.field? u.data "voted_entry" = some (votedValue (T.recordVote l))
  | .registered uid => ∃ u lid rest, w.store[hu]? = some (.user u) ∧ u.id = .int uid ∧ 1 < uid ∧
      Dict.field? u.data "listener_id" = some lid ∧ w.db.queues.row = rowValue (T.rowEntry uid E.id) :: rest

section Runs

variable {α β : Type} {w w' : World} {b : β}

/-- A search over songs that stops at the first entry `u` requested. -/
theorem forIn_requests_run {u : Int}
    {body : Value → Option Value × Unit → Act (ForInStep (Option Value × Unit))}
    (step : ∀ song x, ShowsEntry w.store song x → (body song (none, ())).run w =
      .ok (if x.requester = some u then .done (some song, ()) else .yield (none, ())) w) :
    ∀ {songs xs}, List.Forall₂ (ShowsEntry w.store) songs xs →
      (forIn songs (none, ()) body).run w = .ok (firstRequest u songs xs, ()) w
  | [], [], .nil => rfl
  | song :: _, x :: _, .cons shown rest => by
    rw [List.forIn_cons, EStateM.run_bind, step song x shown]
    by_cases mine : x.requester = some u
    · simp [mine, firstRequest]
    · simp [mine, firstRequest, forIn_requests_run step rest]

/-- Looking up a listener's request entry finds the song of their first request, or false. -/
theorem requestBy_run {he : Nat} {ev : Event} {songs : List Value} {xs : List Entry}
    (stored : w.store[he]? = some (.event ev)) (listed : ev.songs = .list songs)
    (shown : List.Forall₂ (ShowsEntry w.store) songs xs) (u : Int) :
    (Elections.requestBy (.ref he) (.int u)).run w = .ok ((firstRequest u songs xs).getD (.bool false)) w := by
  unfold Elections.requestBy
  rw [run_bind_ok (Elections.songsOf_run stored listed), EStateM.run_bind, forIn_requests_run ?step shown]
  · cases firstRequest u songs xs <;> rfl
  case step =>
    rintro song x ⟨h, s, same, found, -, typeIs, requesterIs⟩
    subst same
    cases asked : x.requester with
    | none =>
      simp [asked] at typeIs
      simp [entryOf_ref_run found typeIs, Elections.normalEntry, Elections.requestEntry]
    | some v =>
      simp [asked] at typeIs
      by_cases mine : v = u <;>
        simp [entryOf_ref_run found typeIs, entryOf_ref_run found (requesterIs v asked), Elections.requestEntry,
          mine]

theorem previousVote_anonymous_run {u : User} {v : Option Int}
    (voted : Dict.field? u.data "voted_entry" = some (votedValue v)) (nonzero : ∀ a ∈ v, a ≠ 0)
    (e : Int) (eventId : Value) (w : World) :
    (previousVote u true (.int e) eventId).run w = .ok (previousAnswer v e) w := by
  cases v with
  | none => simp [previousVote, Api.Ratings.dataOf_run w voted, votedValue, previousAnswer, alreadyValue,
      Value.truthy]
  | some a =>
    have marked : a ≠ 0 := nonzero a rfl
    by_cases same : a = e
    · subst same
      simp [previousVote, Api.Ratings.dataOf_run w voted, votedValue, previousAnswer, marked, Value.truthy]
    · simp [previousVote, Api.Ratings.dataOf_run w voted, votedValue, previousAnswer, alreadyValue, marked,
        same, Value.truthy]

theorem previousVote_registered_run {u : User} {v : Option Int} {rest : List Value}
    (rows : w.db.queues.row = rowValue v :: rest) (e : Int) (eventId : Value) :
    (previousVote u false (.int e) eventId).run w =
      .ok (previousAnswer v e) { w with db := (w.db.call .row (some [u.id, eventId]) "").2 } := by
  obtain ⟨answer, -⟩ := Database.call_row_of_head rows (some [u.id, eventId]) ""
  cases v with
  | none => simp [previousVote, fetchRow, Cache.query_run, answer, rowValue, previousAnswer, alreadyValue,
      Value.truthy]
  | some a =>
    by_cases same : a = e <;>
      simp [previousVote, fetchRow, Cache.query_run, answer, rowValue, previousAnswer, alreadyValue, same,
        col, itemOf, Dict.ofStrings, Dict.lookup?, Value.truthy, Value.equals]

/-! ### Taking a run apart -/

/-- The objects and the database of a world. -/
def storeAndDb (w : World) : Array Obj × Database := (w.store, w.db)

/-- A successful run past a step that keeps the objects and the database. -/
theorem ok_after_read {x : Act α} {f : α → Act β} (hx : Untouched storeAndDb x)
    (ran : (x >>= f).run w = .ok b w') :
    ∃ a w1, w1.store = w.store ∧ w1.db = w.db ∧ (f a).run w1 = .ok b w' := by
  obtain ⟨a, w1, first, rest⟩ := run_bind_eq_ok ran
  have same := hx.keeps _ _ _ first
  simp only [storeAndDb, Prod.mk.injEq] at same
  exact ⟨a, w1, same.1, same.2, rest⟩

/-- A successful run past a database call. -/
theorem ok_after_query {k : QueryKind} {ps : List Value} {f : Value → Act β}
    (ran : (query k ps >>= f).run w = .ok b w') :
    (f (w.db.call k (some ps) "").1).run { w with db := (w.db.call k (some ps) "").2 } = .ok b w' := by
  rwa [run_bind_ok (Cache.query_run w k ps)] at ran

/-- Taking back an earlier vote is one statement; without one, the release only reads the lock. -/
theorem release_db {user sid : Value} {v : Option Int} (nonzero : ∀ a ∈ v, a ≠ 0)
    (ran : (release user sid (alreadyValue v)).run w = .ok () w') :
    w'.store = w.store ∧ w'.db = w.db.runAll (v.elim [] fun a => [(.update, [.int (-1), .int a])]) := by
  have kept := (release_untouched user sid _).keeps _ _ _ ran
  simp only [objectsAndCache, Prod.mk.injEq] at kept
  refine ⟨kept.1, ?_⟩
  cases v with
  | none =>
    have reads : Untouched (·.db) (release user sid (alreadyValue none)) := by
      have falsy : (Value.bool false).truthy = false := rfl
      unfold release
      simp only [alreadyValue, falsy, Bool.false_eq_true, if_false, Bool.not_false, if_true]
      repeat' first
        | split
        | with_reducible exact Untouched.pure _
        | with_reducible exact Untouched.raise _
        | with_reducible exact userOf_untouched _
        | with_reducible exact dataOf_untouched _ _
        | with_reducible exact configCurrent_untouched
        | with_reducible exact itemOf_untouched _ _
        | with_reducible apply Untouched.bind
        | intro _
    simpa [Database.runAll] using reads.keeps _ _ _ ran
  | some a =>
    have marked : (Value.int a).truthy = true := by simpa [Value.truthy] using nonzero a rfl
    simp only [release, alreadyValue, marked, if_true, Bool.not_true, Bool.false_eq_true, if_false,
      Elections.addVote, dbUpdate] at ran
    have ran := ok_after_query ran
    split at ran
    · simp at ran
    · simp only [EStateM.run_pure, EStateM.Result.ok.injEq] at ran
      rw [← ran.2]
      rfl

theorem setData_result {hu : Nat} {u : User} (stored : w.store[hu]? = some (.user u)) {key : String}
    {x : Value} {r : Unit} (ran : (Listeners.setData (.ref hu) key x).run w = .ok r w') :
    w'.db = w.db ∧ w'.store = w.store.set! hu (.user { u with data := Dict.putField u.data key x }) ∧
      w'.store[hu]? = some (.user { u with data := Dict.putField u.data key x }) := by
  obtain ⟨u', stored', rfl⟩ := Listeners.changeUser_result ran
  rw [stored, Option.some.injEq, Obj.user.injEq] at stored'
  subst stored'
  exact ⟨rfl, rfl, Live.set_self _ stored⟩

/-- Locking the listener is one statement, and changes the listener but not their listener id. -/
theorem lockToStation_db {hu : Nat} {u : User} (stored : w.store[hu]? = some (.user u)) {lid : Value}
    (listed : Dict.field? u.data "listener_id" = some lid) {sid count r : Value}
    (ran : (Listeners.lockToStation (.ref hu) sid count).run w = .ok r w') :
    w'.db = w.db.runAll [(.update, [sid, count, lid])] ∧
      ∃ u', w'.store = w.store.set! hu (.user u') ∧ Dict.field? u'.data "listener_id" = some lid := by
  -- three changes to the listener, each finding the one before it
  obtain ⟨_, w1, lock, ran⟩ := run_bind_eq_ok ran
  obtain ⟨db1, store1, found1⟩ := setData_result stored lock
  obtain ⟨_, w2, lockSid, ran⟩ := run_bind_eq_ok ran
  obtain ⟨db2, store2, found2⟩ := setData_result found1 lockSid
  obtain ⟨_, w3, counter, ran⟩ := run_bind_eq_ok ran
  obtain ⟨db3, store3, found3⟩ := setData_result found2 counter
  rw [run_bind_ok (Api.Ratings.listener_run found3), run_bind_ok (Api.Ratings.dataOf_run (x := lid) _ ?kept),
    dbUpdate, Cache.query_run, EStateM.Result.ok.injEq] at ran
  case kept => simp [Api.field?_putField, listed]
  rw [← ran.2]
  refine ⟨by rw [db3, db2, db1]; rfl, _, by
    dsimp only
    rw [store3, store2, store1]
    simp only [Array.set!_eq_setIfInBounds, Array.setIfInBounds_setIfInBounds]
    rfl, by simp [Api.field?_putField, listed]⟩

/-- The final step of registering a vote: the vote is added to the entry, and must be. -/
theorem addVote_checked_db {e : Int} {r : Unit}
    (ran : (do
      let added ← Elections.addVote (.int e) (.int 1)
      if (!added.truthy) = true then Act.raise internalError else pure () : Act Unit).run w = .ok r w') :
    w'.db = w.db.runAll [(.update, [.int 1, .int e])] := by
  simp only [Elections.addVote, dbUpdate] at ran
  have ran := ok_after_query ran
  split at ran
  · simp at ran
  · simp only [EStateM.run_pure, EStateM.Result.ok.injEq] at ran
    rw [← ran.2]
    rfl

/-- An anonymous listener's vote is recorded on their listener record and added to the entry. -/
theorem register_anonymous_db {hu : Nat} {u u' : User} {l e : Int} {already event eventId : Value}
    (stored : w.store[hu]? = some (.user u')) (listed : Dict.field? u'.data "listener_id" = some (.int l))
    (ran : (register (.ref hu) u true already (.int e) event eventId).run w = .ok () w') :
    w'.db = w.db.runAll [(.update, [.int e, .int l]), (.update, [.int 1, .int e])] := by
  simp only [register, ↓reduceIte] at ran
  rw [run_bind_ok (Api.Ratings.listener_run stored), run_bind_ok (Api.Ratings.dataOf_run _ listed),
    dbUpdate] at ran
  have ran := ok_after_query ran
  split at ran
  · simp at ran
  · obtain ⟨_, w2, merged, ran⟩ := run_bind_eq_ok ran
    rw [Value.record, Listeners.mergeData_dict] at merged
    obtain ⟨_, -, rfl⟩ := Listeners.changeUser_result merged
    exact addVote_checked_db ran

/-- A registered listener's changed vote moves their history row, and is added to the entry. -/
theorem register_moved_db {hu : Nat} {u : User} {uid a e : Int} {event eventId : Value}
    (id : u.id = .int uid) (marked : (Value.int a).truthy = true)
    (ran : (register (.ref hu) u false (.int a) (.int e) event eventId).run w = .ok () w') :
    ∃ song, w'.db = w.db.runAll [(.update, [song, .int e, .int uid, .int a]), (.update, [.int 1, .int e])] := by
  simp only [register, Bool.false_eq_true, ↓reduceIte, marked] at ran
  obtain ⟨_, w1, -, db1, ran⟩ := ok_after_read (entry_untouched _ _) ran
  obtain ⟨song, w2, -, db2, ran⟩ := ok_after_read (attributeOf_untouched _ _) ran
  rw [dbUpdate, id] at ran
  have ran := ok_after_query ran
  obtain ⟨_, w4, cached, ran⟩ := run_bind_eq_ok ran
  have db4 : w4.db = _ := (cacheVote_untouched (fun _ _ => rfl) _ _ _).keeps _ _ _ cached
  refine ⟨song, ?_⟩
  rw [addVote_checked_db ran, db4]
  show (w2.db.call _ _ "").2.runAll _ = _
  rw [db2, db1]
  rfl

/-- A registered listener's first vote reads their vote count and rank, adds their history row,
marks them active, takes the vote back from the entry they requested, and adds the vote to the
entry. -/
theorem register_first_db {hu he : Nat} {E : Ballot} {u : User} {uid e : Int} {eventId : Value}
    (id : u.id = .int uid) (shows : Shows w.store he E)
    (ran : (register (.ref hu) u false (.bool false) (.int e) (.ref he) eventId).run w = .ok () w') :
    ∃ window count rank song sid now, w'.db = w.db.runAll ([(.var, [window, .int uid]),
      (.execute, [window, count]), (.update, [eventId, .int e, .int uid, song, rank, count, sid]),
      (.update, [now, count, .int uid])] ++
      (E.requestOf uid).elim [] (fun r => [(.update, [.int (-1), .int r])]) ++ [(.update, [.int 1, .int e])]) := by
  have falsy : (Value.bool false).truthy = false := rfl
  have stamp : Untouched storeAndDb timestampInt :=
    (clock_untouched.bind fun _ => Untouched.pure _).bind fun _ => Untouched.pure _
  have now : Untouched storeAndDb timestamp := clock_untouched.bind fun _ => Untouched.pure _
  simp only [register, Bool.false_eq_true, ↓reduceIte, falsy, id] at ran
  obtain ⟨_, w1, store1, db1, ran⟩ := ok_after_read stamp ran
  obtain ⟨window, w2, store2, db2, ran⟩ := ok_after_read (Untouched.lift _) ran
  rw [fetchVar] at ran
  have ran := ok_after_query ran
  have ran := ok_after_query ran
  obtain ⟨rank, w5, store5, db5, ran⟩ := ok_after_read (Untouched.lift _) ran
  obtain ⟨_, w6, store6, db6, ran⟩ := ok_after_read (entry_untouched _ _) ran
  obtain ⟨song, w7, store7, db7, ran⟩ := ok_after_read (attributeOf_untouched _ _) ran
  obtain ⟨sid, w8, store8, db8, ran⟩ := ok_after_read (attributeOf_untouched _ _) ran
  rw [dbUpdate] at ran
  have ran := ok_after_query ran
  obtain ⟨time, w10, store10, db10, ran⟩ := ok_after_read now ran
  rw [dbUpdate] at ran
  have ran := ok_after_query ran
  -- the objects are the ones the vote found, so the election still shows its entries
  obtain ⟨ev, songs, stored, -, listed, shown⟩ := shows
  have same : w10.store = w.store := by simp only [store10, store8, store7, store6, store5, store2, store1]
  rw [run_bind_ok (requestBy_run (by rw [same]; exact stored) listed (by rw [same]; exact shown) uid)] at ran
  have rel := firstRequest_rel (u := uid) shown
  unfold Ballot.requestOf
  generalize firstRequest uid songs E.entries = own at rel ran
  generalize E.entries.find? (·.requester == some uid) = found at rel ⊢
  cases rel with
  | none =>
    simp only [Option.getD_none, falsy, Bool.false_eq_true, ↓reduceIte] at ran
    obtain ⟨_, w12, cached, ran⟩ := run_bind_eq_ok ran
    have db12 : w12.db = _ := (cacheVote_untouched (fun _ _ => rfl) _ _ _).keeps _ _ _ cached
    refine ⟨window, (w2.db.call .var (some [window, .int uid]) "").1, rank, song, sid, time, ?_⟩
    rw [addVote_checked_db ran, db12]
    simp only [db10, db8, db7, db6, db5, db2, db1, Option.map_none, Option.elim, List.append_nil,
      Database.runAll, List.foldl_cons, List.foldl_nil, List.cons_append, List.nil_append]
  | some shownEntry =>
    obtain ⟨h, s, rfl, found, entryIs, -, -⟩ := shownEntry
    have truthy : (Value.ref h).truthy = true := rfl
    simp only [Option.getD_some, truthy, ↓reduceIte] at ran
    rw [run_bind_ok (entryOf_ref_run ?found entryIs), Elections.addVote, dbUpdate] at ran
    case found => rw [← same] at found; exact found
    have ran := ok_after_query ran
    obtain ⟨_, w13, cached, ran⟩ := run_bind_eq_ok ran
    have db13 : w13.db = _ := (cacheVote_untouched (fun _ _ => rfl) _ _ _).keeps _ _ _ cached
    refine ⟨window, (w2.db.call .var (some [window, .int uid]) "").1, rank, song, sid, time, ?_⟩
    rw [addVote_checked_db ran, db13]
    simp only [db10, db8, db7, db6, db5, db2, db1, Option.map_some, Option.elim, Database.runAll,
      List.foldl_cons, List.foldl_nil, List.cons_append, List.nil_append]

/-- A successful transaction takes the earlier vote back, locks the listener, and registers the
vote on the objects the lock left. -/
theorem castVote_db {hu : Nat} {u u' : User} {isAnon : Bool} {v : Option Int}
    {lid sid entryId event eventId position : Value} (stored : w.store[hu]? = some (.user u'))
    (listed : Dict.field? u'.data "listener_id" = some lid) (nonzero : ∀ a ∈ v, a ≠ 0)
    (ran : (castVote (.ref hu) sid u isAnon (alreadyValue v) entryId event eventId position).run w = .ok () w') :
    ∃ w1 u1, w1.db = w.db.runAll ((v.elim [] fun a => [(.update, [.int (-1), .int a])]) ++
        [(.update, [sid, position, lid])]) ∧
      w1.store = w.store.set! hu (.user u1) ∧ Dict.field? u1.data "listener_id" = some lid ∧
      (register (.ref hu) u isAnon (alreadyValue v) entryId event eventId).run w1 = .ok () w' := by
  unfold castVote at ran
  obtain ⟨_, w6, released, ran⟩ := run_bind_eq_ok ran
  obtain ⟨store6, db6⟩ := release_db nonzero released
  obtain ⟨answer, w7, locked, ran⟩ := run_bind_eq_ok ran
  obtain ⟨db7, u1, store7, listed1⟩ := lockToStation_db (by rw [store6]; exact stored) listed locked
  refine ⟨w7, u1, by rw [db7, db6, Database.runAll_append], by rw [store7, store6], listed1, ?_⟩
  split at ran
  · simp at ran
  · exact ran

/-- The election's id, as the vote reads it. -/
theorem Shows.id_run {he : Nat} {E : Ballot} (shows : Shows w.store he E) :
    (attributeOf (.ref he) "id").run w = .ok (.int E.id) w := by
  obtain ⟨ev, songs, found, named, -⟩ := shows
  exact Api.attributeOf_ref_run found (by simp [Obj.attribute?, Obj.attributes, Event.attributes, named])

theorem vote_anonymous_db {T : Tables} {E : Ballot} (c : Consistent E T) {hv hu he : Nat} {sid position : Value}
    {l e : Int} {r : Bool} (serving : Api.Serving w hv (.ref hu) sid) (shows : Shows w.store he E)
    (sees : Sees T E w hu (.anonymous l)) (ran : (vote (.ref hv) (.int e) (.ref he) position).run w = .ok r w') :
    w'.db = w.db.runAll ((voteStatements T E sid position default (.anonymous l) e).map Statement.call) := by
  obtain ⟨u, i, stored, named, low, listed, voted⟩ := sees
  have nonzero : ∀ a ∈ T.recordVote l, a ≠ 0 := fun a found =>
    (c.recorded _ (Tables.mem_of_recordVote found) a rfl).ne'
  have anonymous : (Listeners.isAnonymous u).run w = .ok true w := by
    simp [Listeners.isAnonymous, isAtMost, named, Value.lessEq_int, low]
  unfold vote at ran
  rw [run_bind_ok serving.userOf_run, run_bind_ok serving.stationOf_run,
    run_bind_ok (Api.Ratings.listener_run stored), run_bind_ok anonymous, run_bind_ok shows.id_run,
    run_bind_ok (previousVote_anonymous_run voted nonzero e _ w)] at ran
  unfold previousAnswer at ran
  by_cases same : T.recordVote l = some e
  · -- the vote already stands on the entry
    simp only [same, ↓reduceIte] at ran
    cases ran
    simp [voteStatements, same, Database.runAll]
  simp only [same, ↓reduceIte, EStateM.run_bind, attempt_run] at ran
  cases cast : (castVote (.ref hu) sid u true (alreadyValue (T.recordVote l)) (.int e) (.ref he) (.int E.id)
    position).run w with
  | error f w5 =>
    rw [cast] at ran
    simp [rollback] at ran
  | ok _ w5 =>
    rw [cast] at ran
    cases ran
    obtain ⟨w1, u1, db1, store1, listed1, registered⟩ := castVote_db stored listed nonzero cast
    rw [register_anonymous_db (by rw [store1]; exact Live.set_self _ stored) listed1 registered, db1,
      ← Database.runAll_append]
    cases voteRecord : T.recordVote l with
    | none => simp [voteStatements, voteRecord, Statement.call]
    | some a =>
      have moved : a ≠ e := fun back => same (by rw [voteRecord, back])
      simp [voteStatements, voteRecord, moved, Statement.call]

theorem vote_registered_db {T : Tables} {E : Ballot} (wf : E.WellFormed) (c : Consistent E T)
    {hv hu he : Nat} {sid position : Value} {uid e : Int} {r : Bool} (serving : Api.Serving w hv (.ref hu) sid)
    (shows : Shows w.store he E) (sees : Sees T E w hu (.registered uid))
    (ran : (vote (.ref hv) (.int e) (.ref he) position).run w = .ok r w') :
    ∃ inc, w'.db = w.db.runAll ((voteStatements T E sid position inc (.registered uid) e).map Statement.call) := by
  obtain ⟨u, lid, rest, stored, named, high, listed, rows⟩ := sees
  have nonzero : ∀ a ∈ T.rowEntry uid E.id, a ≠ 0 := fun a found =>
    (Tally.pos_of_mem_ids wf (c.rowEntry_mem found)).ne'
  have registered : (Listeners.isAnonymous u).run w = .ok false w := by
    simp [Listeners.isAnonymous, isAtMost, named, Value.lessEq_int]
    omega
  unfold vote at ran
  rw [run_bind_ok serving.userOf_run, run_bind_ok serving.stationOf_run,
    run_bind_ok (Api.Ratings.listener_run stored), run_bind_ok registered, run_bind_ok shows.id_run,
    run_bind_ok (previousVote_registered_run rows e _), named] at ran
  unfold previousAnswer at ran
  by_cases same : T.rowEntry uid E.id = some e
  · -- the vote already stands on the entry: only the history row was read
    simp only [same, ↓reduceIte] at ran
    cases ran
    exact ⟨default, by simp [voteStatements, same, Database.runAll, Statement.call]⟩
  simp only [same, ↓reduceIte, EStateM.run_bind, attempt_run] at ran
  cases cast : (castVote (.ref hu) sid u false (alreadyValue (T.rowEntry uid E.id)) (.int e) (.ref he)
    (.int E.id) position).run { w with db := (w.db.call .row (some [.int uid, .int E.id]) "").2 } with
  | error f w5 =>
    rw [cast] at ran
    simp [rollback] at ran
  | ok _ w5 =>
    rw [cast] at ran
    cases ran
    obtain ⟨w1, u1, db1, store1, -, registered⟩ := castVote_db (by exact stored) listed nonzero cast
    cases standing : T.rowEntry uid E.id with
    | none =>
      rw [standing] at registered
      have shown : Shows w1.store he E := by rw [store1]; exact shows.set_user stored u1
      obtain ⟨window, count, rank, song, sid', now, written⟩ := register_first_db named shown registered
      refine ⟨⟨lid, song, window, count, rank, sid', now⟩, ?_⟩
      rw [written, db1, ← Database.runAll_append]
      cases asked : E.requestOf uid <;> simp [voteStatements, standing, asked, Statement.call, Database.runAll]
    | some a =>
      rw [standing] at registered nonzero
      have moved : a ≠ e := fun back => same (by rw [standing, back])
      have marked : (Value.int a).truthy = true := by simpa [Value.truthy] using nonzero a rfl
      obtain ⟨song, written⟩ := register_moved_db named marked registered
      refine ⟨⟨lid, song, default, default, default, default, default⟩, ?_⟩
      rw [written, db1, ← Database.runAll_append]
      simp [voteStatements, standing, moved, Statement.call, Database.runAll]

/-- A successful vote, by a voter the world shows as the tables have them, in an election the
world shows, runs on the database the statements `voteStatements` lists for the tables. -/
theorem vote_runs_statements {T : Tables} {E : Ballot} (wf : E.WellFormed) (c : Consistent E T)
    {hv hu he : Nat} {sid position : Value} {v : Voter} {e : Int} {r : Bool}
    (serving : Api.Serving w hv (.ref hu) sid) (shows : Shows w.store he E) (sees : Sees T E w hu v)
    (ran : (vote (.ref hv) (.int e) (.ref he) position).run w = .ok r w') :
    ∃ inc, w'.db = w.db.runAll ((voteStatements T E sid position inc v e).map Statement.call) := by
  cases v with
  | anonymous l => exact ⟨default, vote_anonymous_db c serving shows sees ran⟩
  | registered uid => exact vote_registered_db wf c serving shows sees ran

end Runs

/-! ### Votes in turn -/

/-- A successful vote in election `E`: the world it ran in and the one it left, the voter under
handle `hu` served by handler `hv` on station `sid`, the election under `he` at `position` among
the events to come, and the entry voted for. -/
structure VoteRun (E : Ballot) where
  world : World
  result : World
  hv : Nat
  hu : Nat
  he : Nat
  sid : Value
  position : Value
  voter : Voter
  entry : Int
  answer : Bool
  serving : Api.Serving world hv (.ref hu) sid
  shows : Shows world.store he E
  ran : (vote (.ref hv) (.int entry) (.ref he) position).run world = .ok answer result

/-- The vote a run makes. -/
def VoteRun.vote {E : Ballot} (run : VoteRun E) : Voter × Int := (run.voter, run.entry)

/-- Each vote sees the tables the votes before it left, and is for an entry of the election by a
voter the tables know. -/
def SeenInTurn (E : Ballot) : Tables → List (VoteRun E) → Prop
  | _, [] => True
  | T, run :: rest => Sees T E run.world run.hu run.voter ∧ T.Knows run.voter ∧ run.entry ∈ E.ids ∧
      SeenInTurn E (T.write E run.voter run.entry) rest

/-- Votes seen in turn run statements that take the tables where `Tables.after` says. -/
theorem runs_statements {E : Ballot} (wf : E.WellFormed) {T : Tables} (tally : Tally E T) :
    ∀ {runs : List (VoteRun E)}, SeenInTurn E T runs →
      Admits E T (runs.map VoteRun.vote) ∧ ∃ statements : List (List Statement),
        List.Forall₂ (fun (run : VoteRun E) ss => run.result.db = run.world.db.runAll (ss.map Statement.call))
          runs statements ∧ T.run statements.flatten = T.after E (runs.map VoteRun.vote)
  | [], _ => ⟨trivial, [], .nil, rfl⟩
  | run :: _, ⟨sees, knows, joined, later⟩ => by
    obtain ⟨inc, written⟩ := vote_runs_statements wf tally.toConsistent run.serving run.shows sees run.ran
    obtain ⟨admits, statements, each, after⟩ := runs_statements wf (tally.write wf knows joined) later
    refine ⟨⟨knows, joined, admits⟩, _ :: statements, .cons written each, ?_⟩
    rw [List.flatten_cons, Tables.run_append, run_voteStatements]
    exact after

/-- Successful votes, each seeing the tables the votes before it left, for entries of the
election, run statements on the database that leave the counts what the votes say: each entry holds
its requester's vote until the requester votes, and one vote per voter whose last vote was for it;
the counts add up to the request votes held and one per voter, each voter counted once. -/
theorem vote_counts {E : Ballot} (wf : E.WellFormed) {T : Tables} (tally : Tally E T)
    {runs : List (VoteRun E)} (seen : SeenInTurn E T runs) :
    ∃ statements : List (List Statement),
      List.Forall₂ (fun (run : VoteRun E) ss => run.result.db = run.world.db.runAll (ss.map Statement.call))
        runs statements ∧
      CountsVoters E (T.run statements.flatten) ∧
      ∀ v, (T.run statements.flatten).ballotOf E v = (lastVote (runs.map VoteRun.vote) v).or (T.ballotOf E v) := by
  obtain ⟨admits, statements, each, after⟩ := runs_statements wf tally seen
  refine ⟨statements, each, ?_, fun v => ?_⟩
  · rw [after]
    exact (tally.after wf admits).countsVoters wf
  · rw [after, Tables.ballotOf_after admits]

/-- A sample election 5: entry 10, and entry 11 requested by listener 7. -/
def sampleBallot : Ballot := ⟨5, [⟨10, none⟩, ⟨11, some 7⟩]⟩

/-- Its tables before any vote: entry 11 holds its requester's vote, and an anonymous listener's
record 3 has voted for nothing. -/
def sampleTables : Tables := ⟨fun x => if x = 11 then 1 else 0, [], [(3, none)]⟩

/-- The world of a vote by listener `u` under handle 1, served by handler 0 on station 1: the
sample election under 2 with its songs under 3 and 4, and no history row for the listener. -/
def sampleWorld (u : User) : World :=
  { store := #[.handler { route := "/api4/vote", user := .ref 1, sid := .int 1 }, .user u,
      .event { kind := .election, id := .int 5, songs := .list [.ref 3, .ref 4] },
      .song { data := Dict.ofStrings [("entry_id", .int 10), ("entry_type", .int 2)] },
      .song { data := Dict.ofStrings [("entry_id", .int 11), ("entry_type", .int 4),
        ("elec_request_user_id", .int 7)] }],
    db := { queues := { row := [.none] } } }

theorem sampleWorld_shows (u : User) : Shows (sampleWorld u).store 2 sampleBallot :=
  ⟨_, _, rfl, rfl, rfl, .cons ⟨3, _, rfl, rfl, rfl, rfl, by rintro u ⟨⟩⟩
    (.cons ⟨4, _, rfl, rfl, rfl, rfl, by rintro u ⟨⟩; rfl⟩ .nil)⟩

/-- An anonymous listener with listener record 3. -/
def anonymousListener : User :=
  let u : User := { id := .int 1 }
  { u with data := Dict.putField u.data "listener_id" (.int 3) }

/-- The registered listener 7, with listener id 9. -/
def registeredListener : User :=
  let u : User := { id := .int 7 }
  { u with data := Dict.putField u.data "listener_id" (.int 9) }

/-- Whether a run answers true. -/
def answersTrue (x : Act Bool) (w : World) : Bool :=
  match x.run w with
  | .ok b _ => b
  | .error _ _ => false

theorem run_eq_of_answersTrue {x : Act Bool} {w : World} (ok : answersTrue x w = true) :
    x.run w = .ok true (endWorld (x.run w)) := by
  unfold answersTrue at ok
  unfold endWorld
  split at ok
  · rename_i ran
    rw [ran, ok]
  · cases ok

/-- A vote for entry 10 of the sample election by listener `u`, as `voter`. -/
def sampleRun (u : User) (voter : Voter)
    (ok : answersTrue (vote (.ref 0) (.int 10) (.ref 2) (.int 1)) (sampleWorld u) = true) :
    VoteRun sampleBallot where
  world := sampleWorld u
  result := endWorld ((vote (.ref 0) (.int 10) (.ref 2) (.int 1)).run (sampleWorld u))
  hv := 0
  hu := 1
  he := 2
  sid := .int 1
  position := .int 1
  voter := voter
  entry := 10
  answer := true
  serving := ⟨_, rfl, rfl, rfl⟩
  shows := sampleWorld_shows u
  ran := run_eq_of_answersTrue ok

/-- The anonymous listener's vote, then the registered listener's. -/
def sampleRuns : List (VoteRun sampleBallot) :=
  [sampleRun anonymousListener (.anonymous 3) (by decide +kernel),
    sampleRun registeredListener (.registered 7) (by decide +kernel)]

theorem sample_votes_counted :
    sampleBallot.WellFormed ∧ Tally sampleBallot sampleTables ∧
      SeenInTurn sampleBallot sampleTables
        sampleRuns ∧
      ∃ statements : List (List Statement),
        List.Forall₂ (fun (run : VoteRun sampleBallot) ss =>
          run.result.db = run.world.db.runAll (ss.map Statement.call))
          sampleRuns statements ∧
        CountsVoters sampleBallot (sampleTables.run statements.flatten) ∧
        ∀ v, (sampleTables.run statements.flatten).ballotOf sampleBallot v =
          (lastVote (sampleRuns.map VoteRun.vote) v).or
            (sampleTables.ballotOf sampleBallot v) := by
  have wf : sampleBallot.WellFormed := ⟨by decide, by decide, by decide⟩
  have tally : Tally sampleBallot sampleTables :=
    ⟨⟨by simp [sampleTables], by simp [sampleTables], by simp [sampleTables], by simp [sampleTables]⟩,
      by decide⟩
  have seen : SeenInTurn sampleBallot sampleTables sampleRuns :=
    ⟨⟨_, 1, rfl, rfl, by decide, rfl, rfl⟩, by simp [Tables.Knows, sampleTables, sampleRun], by decide,
      ⟨_, _, [], rfl, rfl, by decide, rfl, rfl⟩, trivial, by decide, trivial⟩
  exact ⟨wf, tally, seen, vote_counts wf tally seen⟩

end Airwaves.Tallies
