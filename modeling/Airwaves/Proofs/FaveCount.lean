import Airwaves.Proofs.RatingWindow
import Mathlib.Data.Finset.Card
/-!
# Favourite counts

Along any run of calls on a database answering from earlier writes, an item's favourite count is
the number of listeners marking it; unmarking an unrated item fails.
-/

namespace Airwaves

@[simp] theorem Value.truthy_none : Value.none.truthy = false := rfl

/-! ### Calls on the scripted database -/

namespace Database

variable {db : Database}

/-- The database after calls with parameters, made in order. -/
def runAll (db : Database) (calls : List (QueryKind × List Value)) : Database :=
  calls.foldl (fun db q => (db.call q.1 (some q.2) "").2) db

/-- The log entry of a call with parameters. -/
def entry (q : QueryKind × List Value) : Value := .list [.str q.1.name, .list q.2]

theorem runAll_cons (q : QueryKind × List Value) (qs : List (QueryKind × List Value)) :
    db.runAll (q :: qs) = (db.call q.1 (some q.2) "").2.runAll qs := rfl

theorem runAll_append (qs rs : List (QueryKind × List Value)) :
    db.runAll (qs ++ rs) = (db.runAll qs).runAll rs := by
  simp [runAll, List.foldl_append]

theorem call_log (k : QueryKind) (ps : List Value) (sql : String) :
    (db.call k (some ps) sql).2.log = db.log.push (entry (k, ps)) := by
  simp [call, take, record, entry]

theorem runAll_log (qs : List (QueryKind × List Value)) :
    (db.runAll qs).log = db.log ++ (qs.map entry).toArray := by
  induction qs generalizing db with
  | nil => simp [runAll]
  | cons q qs ih => simp [runAll_cons, ih, call_log]

theorem call_fallbacks (k : QueryKind) (ps : Option (List Value)) (sql : String) :
    (db.call k ps sql).2.fallbacks = db.fallbacks := by
  simp only [call, take, record]

theorem mem_call_update {k : QueryKind} {ps : Option (List Value)} {sql : String} {v : Value}
    (mem : v ∈ (db.call k ps sql).2.queues.update) : v ∈ db.queues.update := by
  simp only [call, take, record] at mem
  split at mem <;> rename_i queue <;> cases k <;> simp_all [Queues.get, Queues.put]

theorem call_row_of_head {v : Value} {rest : List Value} (heads : db.queues.row = v :: rest)
    (ps : Option (List Value)) (sql : String) :
    (db.call .row ps sql).1 = v ∧ (db.call .row ps sql).2.queues.row = rest := by
  simp [call, take, record, Queues.get, Queues.put, heads]

theorem call_update_row (ps : Option (List Value)) (sql : String) :
    (db.call .update ps sql).2.queues.row = db.queues.row := by
  simp [call, take, record, Queues.get, Queues.put]

/-- Every update the database answers reports a changed row: the answers waiting and the
default alike. -/
def Accepts (db : Database) : Prop :=
  (∀ v ∈ db.queues.update, Value.equals v (.int 0) = false) ∧
    Value.equals (db.fallback .update) (.int 0) = false

theorem Accepts.call (accepts : db.Accepts) (k : QueryKind) (ps : Option (List Value)) (sql : String) :
    (db.call k ps sql).2.Accepts := by
  obtain ⟨waiting, fallback⟩ := accepts
  refine ⟨fun v mem => waiting v (mem_call_update mem), ?_⟩
  rw [Database.fallback, call_fallbacks]
  exact fallback

theorem Accepts.runAll (accepts : db.Accepts) (qs : List (QueryKind × List Value)) :
    (db.runAll qs).Accepts := by
  induction qs generalizing db with
  | nil => exact accepts
  | cons q qs ih => exact ih (accepts.call q.1 (some q.2) "")

theorem Accepts.update_answer (accepts : db.Accepts) (ps : Option (List Value)) (sql : String) :
    Value.equals (db.call .update ps sql).1 (.int 0) = false := by
  obtain ⟨waiting, fallback⟩ := accepts
  cases queue : db.queues.update with
  | nil => simpa [Database.call, take, record, Queues.get, queue, Database.fallback] using fallback
  | cons v rest => simpa [Database.call, take, record, Queues.get, queue] using waiting v

end Database

/-! ### The rating cache -/

namespace Cache

variable {w : World}

/-- The cache with a listener's rating entry set. -/
def withRating (c : Cache) (key : String) (entry : Value) : Cache :=
  { c with ratings := Dict.putField c.ratings key entry }

@[simp] theorem withRating_connected (c : Cache) (key : String) (entry : Value) :
    (c.withRating key entry).connected = c.connected := rfl

theorem requireClient_run (connected : w.cache.connected = true) (op : String) :
    (requireClient op).run w = .ok () w := by
  simp [requireClient, state, connected]

/-- The cache key of a listener's rating of a song. -/
def songKey (songId userId : Value) : String := "rating_song_" ++ songId.display ++ "_" ++ userId.display

/-- The cache key of a listener's rating of an album on a station. -/
def albumKey (sid albumId userId : Value) : String :=
  "rating_album_" ++ sid.display ++ "_" ++ albumId.display ++ "_" ++ userId.display

theorem putSongRating_run (connected : w.cache.connected = true) (songId userId entry : Value) :
    (putSongRating songId userId entry).run w =
      .ok () { w with cache := w.cache.withRating (songKey songId userId) entry } := by
  unfold putSongRating
  rw [EStateM.run_bind, requireClient_run connected]
  rfl

theorem putAlbumRating_run (connected : w.cache.connected = true) (sid albumId userId entry : Value) :
    (putAlbumRating sid albumId userId entry).run w =
      .ok () { w with cache := w.cache.withRating (albumKey sid albumId userId) entry } := by
  unfold putAlbumRating
  rw [EStateM.run_bind, requireClient_run connected]
  rfl

end Cache

namespace Rating

open Cache (songKey albumKey)

/-! ### The decision to move a count -/

/-- How a favourite count moves when a listener's marking goes from `old` to `new`: up
(`some true`) or down (`some false`) when it changes, not at all when it stays. -/
def countShift (old new : Bool) : Option Bool := if old = new then none else some new

theorem truthy_dict_of_field {d : Dict} {key : String} {x : Value} (found : Dict.field? d key = some x) :
    (Value.dict d).truthy = true := by
  cases d with
  | nil => simp [Dict.field?, Dict.lookup?] at found
  | cons e rest => rfl

/-- With a row, the decision is read off the row's favourite. -/
theorem faveChange_run_row {d : Dict} {column : String} {old : Value}
    (found : Dict.field? d column = some old) (fave : Value) (w : World) :
    (faveChange (.dict d) fave column).run w = .ok (countShift old.truthy fave.truthy) w := by
  have read : (col (.dict d) column).run w = .ok old w := itemOf_dict_run found
  cases marked : old.truthy <;> cases marks : fave.truthy <;>
    simp [faveChange, truthy_dict_of_field found, read, marked, marks, countShift, run_map]

/-- Without a row, marking counts up. -/
theorem faveChange_run_none {fave : Value} (marks : fave.truthy = true) (column : String) (w : World) :
    (faveChange .none fave column).run w = .ok (some true) w := by
  simp only [faveChange, marks, Value.truthy_none, Bool.not_false, Bool.true_and, ite_true]
  rfl

/-- Without a row, unmarking reads the favourite of no row and fails. -/
theorem faveChange_run_none_unmark {fave : Value} (unmarks : fave.truthy = false) (column : String)
    (w : World) :
    (faveChange .none fave column).run w = .error (.typeError "'NoneType' object is not subscriptable") w := by
  simp only [faveChange, unmarks, Value.truthy_none, Bool.not_false, Bool.true_and, Bool.false_eq_true,
    ite_false]
  rfl

/-! ### One call of each function -/

section Calls

variable {w : World} {later : List Value}

/-- With a row, marking or unmarking a song updates the favourite, counts when the marking
changes, and caches the row's rating with the new favourite. -/
theorem setSongFave_run_row {songId userId fave : Value} {d : Dict} {old rating : Value}
    (rows : w.db.queues.row = .dict d :: later) (faveIs : Dict.field? d "song_fave" = some old)
    (ratingIs : Dict.field? d "song_rating_user" = some rating) (accepts : w.db.Accepts)
    (connected : w.cache.connected = true) :
    (setSongFave songId userId fave).run w = .ok (.bool true)
      { w with
        db := w.db.runAll ([(.row, [songId, userId]), (.update, [fave, songId, userId])] ++
          (if (countShift old.truthy fave.truthy).isSome then [(.update, [songId])] else []))
        cache := w.cache.withRating (songKey songId userId)
          (.dict (Dict.ofStrings [("rating_user", rating), ("fave", fave)])) } := by
  obtain ⟨answer, _⟩ := Database.call_row_of_head rows (some [songId, userId]) ""
  have written := (accepts.call .row (some [songId, userId]) "").update_answer (some [fave, songId, userId]) ""
  simp only [setSongFave, EStateM.run_bind, fetchRow, dbUpdate, Cache.query_run, answer,
    truthy_dict_of_field faveIs, Bool.not_true, Bool.false_eq_true, ite_false,
    col, itemOf_dict_run ratingIs, written, faveChange_run_row faveIs]
  cases countShift old.truthy fave.truthy <;>
    simp [Cache.query_run, run_map, Cache.putSongRating_run, connected, Database.runAll]

/-- Without a row, marking a song inserts the row and counts up. -/
theorem setSongFave_run_none {songId userId fave : Value} (rows : w.db.queues.row = .none :: later)
    (marks : fave.truthy = true) (accepts : w.db.Accepts) (connected : w.cache.connected = true) :
    (setSongFave songId userId fave).run w = .ok (.bool true)
      { w with
        db := w.db.runAll [(.row, [songId, userId]), (.update, [songId, userId, fave]), (.update, [songId])]
        cache := w.cache.withRating (songKey songId userId)
          (.dict (Dict.ofStrings [("rating_user", .none), ("fave", fave)])) } := by
  obtain ⟨answer, _⟩ := Database.call_row_of_head rows (some [songId, userId]) ""
  have written := (accepts.call .row (some [songId, userId]) "").update_answer (some [songId, userId, fave]) ""
  simp [setSongFave, EStateM.run_bind, fetchRow, dbUpdate, Cache.query_run, answer, written,
    faveChange_run_none marks, run_map, Cache.putSongRating_run, connected, Database.runAll]

/-- Without a row, unmarking a song inserts the row and then fails, reading the favourite of no
row. -/
theorem setSongFave_run_none_unmark {songId userId fave : Value} (rows : w.db.queues.row = .none :: later)
    (unmarks : fave.truthy = false) (accepts : w.db.Accepts) :
    (setSongFave songId userId fave).run w = .error (.typeError "'NoneType' object is not subscriptable")
      { w with db := w.db.runAll [(.row, [songId, userId]), (.update, [songId, userId, fave])] } := by
  obtain ⟨answer, _⟩ := Database.call_row_of_head rows (some [songId, userId]) ""
  have written := (accepts.call .row (some [songId, userId]) "").update_answer (some [songId, userId, fave]) ""
  simp [setSongFave, EStateM.run_bind, fetchRow, dbUpdate, Cache.query_run, answer, written,
    faveChange_run_none_unmark unmarks, Database.runAll]

/-- With a row, marking or unmarking an album updates the favourite, counts when the marking
changes, and caches the row's rating and completeness with the new favourite. -/
theorem setAlbumFave_run_row {sid albumId userId fave : Value} {d : Dict} {old rating complete : Value}
    (rows : w.db.queues.row = .dict d :: later) (faveIs : Dict.field? d "album_fave" = some old)
    (ratingIs : Dict.field? d "album_rating_user" = some rating)
    (completeIs : Dict.field? d "album_rating_complete" = some complete) (accepts : w.db.Accepts)
    (connected : w.cache.connected = true) :
    (setAlbumFave sid albumId userId fave).run w = .ok (.bool true)
      { w with
        db := w.db.runAll ([(.row, [albumId, userId, sid]), (.update, [fave, albumId, userId, sid])] ++
          (if (countShift old.truthy fave.truthy).isSome then [(.update, [albumId, sid])] else []))
        cache := w.cache.withRating (albumKey sid albumId userId)
          (.dict (Dict.ofStrings [("rating_user", rating), ("fave", fave), ("rating_complete", complete)])) } := by
  obtain ⟨answer, _⟩ := Database.call_row_of_head rows (some [albumId, userId, sid]) ""
  have written :=
    (accepts.call .row (some [albumId, userId, sid]) "").update_answer (some [fave, albumId, userId, sid]) ""
  simp only [setAlbumFave, EStateM.run_bind, fetchRow, dbUpdate, Cache.query_run, answer,
    truthy_dict_of_field faveIs, Bool.not_true, Bool.false_eq_true, ite_false,
    col, itemOf_dict_run ratingIs, itemOf_dict_run completeIs, written, faveChange_run_row faveIs]
  cases countShift old.truthy fave.truthy <;>
    simp [Cache.query_run, run_map, Cache.putAlbumRating_run, connected, Database.runAll]

/-- Without a row, marking an album inserts the row and counts up. -/
theorem setAlbumFave_run_none {sid albumId userId fave : Value} (rows : w.db.queues.row = .none :: later)
    (marks : fave.truthy = true) (accepts : w.db.Accepts) (connected : w.cache.connected = true) :
    (setAlbumFave sid albumId userId fave).run w = .ok (.bool true)
      { w with
        db := w.db.runAll [(.row, [albumId, userId, sid]), (.update, [albumId, userId, fave, sid]),
          (.update, [albumId, sid])]
        cache := w.cache.withRating (albumKey sid albumId userId)
          (.dict (Dict.ofStrings [("rating_user", .none), ("fave", fave), ("rating_complete", .bool false)])) } := by
  obtain ⟨answer, _⟩ := Database.call_row_of_head rows (some [albumId, userId, sid]) ""
  have written :=
    (accepts.call .row (some [albumId, userId, sid]) "").update_answer (some [albumId, userId, fave, sid]) ""
  simp [setAlbumFave, EStateM.run_bind, fetchRow, dbUpdate, Cache.query_run, answer, written,
    faveChange_run_none marks, run_map, Cache.putAlbumRating_run, connected, Database.runAll]

/-- Without a row, unmarking an album inserts the row and then fails, reading the favourite of
no row. -/
theorem setAlbumFave_run_none_unmark {sid albumId userId fave : Value} (rows : w.db.queues.row = .none :: later)
    (unmarks : fave.truthy = false) (accepts : w.db.Accepts) :
    (setAlbumFave sid albumId userId fave).run w = .error (.typeError "'NoneType' object is not subscriptable")
      { w with db := w.db.runAll [(.row, [albumId, userId, sid]), (.update, [albumId, userId, fave, sid])] } := by
  obtain ⟨answer, _⟩ := Database.call_row_of_head rows (some [albumId, userId, sid]) ""
  have written :=
    (accepts.call .row (some [albumId, userId, sid]) "").update_answer (some [albumId, userId, fave, sid]) ""
  simp [setAlbumFave, EStateM.run_bind, fetchRow, dbUpdate, Cache.query_run, answer, written,
    faveChange_run_none_unmark unmarks, Database.runAll]

end Calls

/-! ### Items, rows and calls -/

/-- What a listener rates and marks: a song, or an album on a station. -/
inductive RatedItem where
  | song (songId : Int)
  | album (sid albumId : Int)
  deriving DecidableEq

/-- A listener's row for an item: the rating, the favourite and, for an album, whether the
rating is complete. -/
structure RatingRow where
  rating : Value
  fave : Value
  complete : Value

/-- The row marking inserts where there was none: the favourite alone. -/
def RatingRow.inserted (fave : Bool) : RatingRow := ⟨.none, .bool fave, .bool false⟩

namespace RatedItem

/-- The listener's row as the favourite calls read it, `None` without one. -/
def rowValue : RatedItem → Option RatingRow → Value
  | _, none => .none
  | song _, some r => .dict (Dict.ofStrings [("song_rating_user", r.rating), ("song_fave", r.fave)])
  | album .., some r => .dict (Dict.ofStrings [("album_rating_user", r.rating),
      ("album_rating_complete", r.complete), ("album_fave", r.fave)])

/-- The cache key of a listener's rating entry of the item. -/
def key : RatedItem → Int → String
  | song s, u => songKey (.int s) (.int u)
  | album sid a, u => albumKey (.int sid) (.int a) (.int u)

/-- The rating entry of a row: the rating and the favourite, and for an album whether the
rating is complete. -/
def entry : RatedItem → RatingRow → Value
  | song _, r => .dict (Dict.ofStrings [("rating_user", r.rating), ("fave", r.fave)])
  | album .., r => .dict (Dict.ofStrings [("rating_user", r.rating), ("fave", r.fave),
      ("rating_complete", r.complete)])

end RatedItem

/-- One call: a listener marks (`fave`) or unmarks an item. -/
structure FaveCall where
  item : RatedItem
  user : Int
  fave : Bool

namespace FaveCall

/-- The call as the service makes it. -/
def act : FaveCall → Act Value
  | ⟨.song s, u, f⟩ => setSongFave (.int s) (.int u) (.bool f)
  | ⟨.album sid a, u, f⟩ => setAlbumFave (.int sid) (.int a) (.int u) (.bool f)

/-- The database calls of a call that finds `row`: the row query, the write (an insert without
a row, an update of the favourite with one) and, when `moved`, the count update. -/
def queries : FaveCall → Option RatingRow → Bool → List (QueryKind × List Value)
  | ⟨.song s, u, f⟩, row, moved =>
    [(.row, [.int s, .int u]),
      (.update, if row.isSome then [.bool f, .int s, .int u] else [.int s, .int u, .bool f])] ++
      (if moved then [(.update, [.int s])] else [])
  | ⟨.album sid a, u, f⟩, row, moved =>
    [(.row, [.int a, .int u, .int sid]),
      (.update, if row.isSome then [.bool f, .int a, .int u, .int sid] else [.int a, .int u, .bool f, .int sid])] ++
      (if moved then [(.update, [.int a, .int sid])] else [])

/-- The row a call leaves: the favourite changed, or a new row. -/
def rowAfter (c : FaveCall) : Option RatingRow → RatingRow
  | some r => { r with fave := .bool c.fave }
  | none => .inserted c.fave

@[simp] theorem rowAfter_fave (c : FaveCall) (row : Option RatingRow) : (c.rowAfter row).fave = .bool c.fave := by
  cases row <;> rfl

/-- What a count update issued by a call adds: the statement a marking call runs adds one, the
one an unmarking call runs takes one away. -/
def countStep (c : FaveCall) : Int := if c.fave then 1 else -1

end FaveCall

/-! ### The table of rows -/

/-- The rows the database holds, with the listeners that mark each item: those whose row's
favourite is true. -/
structure FaveTable where
  rows : RatedItem → Int → Option RatingRow
  favers : RatedItem → Finset Int
  mem_favers : ∀ i u, u ∈ favers i ↔ (rows i u).any (·.fave.truthy) = true

namespace FaveTable

/-- No rows at all. -/
def empty : FaveTable := ⟨fun _ _ => none, fun _ => ∅, by simp⟩

/-- Whether the listener marks the item now. -/
def marks (t : FaveTable) (i : RatedItem) (u : Int) : Bool := (t.rows i u).any (·.fave.truthy)

/-- The table after a call. -/
def write (t : FaveTable) (c : FaveCall) : FaveTable where
  rows i u := if i = c.item ∧ u = c.user then some (c.rowAfter (t.rows i u)) else t.rows i u
  favers i := if i = c.item then (if c.fave then insert c.user (t.favers i) else (t.favers i).erase c.user)
    else t.favers i
  mem_favers i u := by
    by_cases here : i = c.item
    · by_cases same : u = c.user
      · -- the call's own row now holds its favourite
        cases faving : c.fave <;> simp [here, same, faving, Value.truthy]
      · cases c.fave <;> simp [here, same, t.mem_favers]
    · simp [here, t.mem_favers]

/-- How a call moves its item's count. -/
def shift (t : FaveTable) (c : FaveCall) : Option Bool := countShift (t.marks c.item c.user) c.fave

theorem marks_iff (t : FaveTable) (i : RatedItem) (u : Int) : t.marks i u = true ↔ u ∈ t.favers i :=
  (t.mem_favers i u).symm

theorem favers_write_other (t : FaveTable) {c : FaveCall} {i : RatedItem} (other : i ≠ c.item) :
    (t.write c).favers i = t.favers i := by
  simp [write, other]

/-- A count update is issued exactly when the call changes whether the listener marks the item,
and it moves the count by as much as the number of listeners marking it changes. -/
theorem card_write_self (t : FaveTable) (c : FaveCall) :
    (((t.write c).favers c.item).card : Int) =
      (t.favers c.item).card + if (t.shift c).isSome then c.countStep else 0 := by
  have marked := t.marks_iff c.item c.user
  by_cases mem : c.user ∈ t.favers c.item <;> cases faving : c.fave
  · -- unmarking a listener who marks it: one fewer
    have pos : 0 < (t.favers c.item).card := Finset.card_pos.mpr ⟨_, mem⟩
    simp [write, faving, Finset.card_erase_of_mem mem, shift, countShift, marked.mpr mem, FaveCall.countStep]
    omega
  · -- marking again changes nothing
    simp [write, faving, Finset.insert_eq_of_mem mem, shift, countShift, marked.mpr mem]
  · -- unmarking a listener who does not mark it changes nothing
    have unmarked : t.marks c.item c.user = false := Bool.eq_false_iff.mpr fun h => mem (marked.mp h)
    simp [write, faving, Finset.erase_eq_of_notMem mem, shift, countShift, unmarked]
  · -- a new listener marking it: one more
    have unmarked : t.marks c.item c.user = false := Bool.eq_false_iff.mpr fun h => mem (marked.mp h)
    simp [write, faving, Finset.card_insert_of_notMem mem, shift, countShift, unmarked, FaveCall.countStep]

end FaveTable

/-! ### A call against the table -/

namespace FaveCall

variable {w : World} {later : List Value}

/-- The cache after a call: the listener's entry of the row the call leaves. -/
def cached (c : FaveCall) (row : Option RatingRow) (cache : Cache) : Cache :=
  cache.withRating (c.item.key c.user) (c.item.entry (c.rowAfter row))

/-- A call that marks, or that finds a row, writes the row, issues the count update exactly
when the listener's marking changes, and caches the entry of the row it leaves. -/
theorem act_run (t : FaveTable) (c : FaveCall) (allowed : c.fave = true ∨ (t.rows c.item c.user).isSome)
    (rows : w.db.queues.row = c.item.rowValue (t.rows c.item c.user) :: later)
    (accepts : w.db.Accepts) (connected : w.cache.connected = true) :
    c.act.run w = .ok (.bool true)
      { w with
        db := w.db.runAll (c.queries (t.rows c.item c.user) (t.shift c).isSome)
        cache := c.cached (t.rows c.item c.user) w.cache } := by
  obtain ⟨item, u, f⟩ := c
  simp only [FaveTable.shift, FaveTable.marks] at rows allowed ⊢
  cases row : t.rows item u with
  | none =>
    -- without a row only marking is allowed, and it counts up
    obtain rfl : f = true := by simpa [row] using allowed
    rw [row] at rows
    cases item with
    | song s => exact setSongFave_run_none rows rfl accepts connected
    | album sid a => exact setAlbumFave_run_none rows rfl accepts connected
  | some r =>
    rw [row] at rows
    cases item with
    | song s => exact setSongFave_run_row rows rfl rfl accepts connected
    | album sid a => exact setAlbumFave_run_row rows rfl rfl rfl accepts connected

/-- Unmarking an item the listener has no row for inserts the row and then fails, reading the
favourite of no row. -/
theorem act_run_unmark_none (c : FaveCall) (unmarks : c.fave = false)
    (rows : w.db.queues.row = .none :: later) (accepts : w.db.Accepts) :
    c.act.run w = .error (.typeError "'NoneType' object is not subscriptable")
      { w with db := w.db.runAll (c.queries none false) } := by
  obtain ⟨item, u, f⟩ := c
  obtain rfl : f = false := unmarks
  cases item with
  | song s => exact setSongFave_run_none_unmark rows rfl accepts
  | album sid a => exact setAlbumFave_run_none_unmark rows rfl accepts

/-- A call reads one row. -/
theorem runAll_queries_row {db : Database} {v : Value} {rest : List Value} (heads : db.queues.row = v :: rest)
    (c : FaveCall) (row : Option RatingRow) (moved : Bool) :
    (db.runAll (c.queries row moved)).queues.row = rest := by
  obtain ⟨item, u, f⟩ := c
  cases item <;> cases moved <;>
    simp [queries, Database.runAll, Database.call_update_row, (Database.call_row_of_head heads _ _).2]

end FaveCall

/-! ### Runs of calls -/

namespace FaveTable

/-- The rows the database answers along a run of calls, each from the writes before it. -/
def answers (t : FaveTable) : List FaveCall → List Value
  | [] => []
  | c :: rest => c.item.rowValue (t.rows c.item c.user) :: (t.write c).answers rest

/-- The table after a run of calls. -/
def after (t : FaveTable) : List FaveCall → FaveTable
  | [] => t
  | c :: rest => (t.write c).after rest

/-- Every call of the run marks, or finds a row. -/
def Allows (t : FaveTable) : List FaveCall → Prop
  | [] => True
  | c :: rest => (c.fave = true ∨ (t.rows c.item c.user).isSome) ∧ (t.write c).Allows rest

/-- The database calls of a run. -/
def queries (t : FaveTable) : List FaveCall → List (QueryKind × List Value)
  | [] => []
  | c :: rest => c.queries (t.rows c.item c.user) (t.shift c).isSome ++ (t.write c).queries rest

/-- The cache after a run. -/
def cacheAfter (t : FaveTable) (cache : Cache) : List FaveCall → Cache
  | [] => cache
  | c :: rest => (t.write c).cacheAfter (c.cached (t.rows c.item c.user) cache) rest

/-- The favourite counts after a run: each count update issued moves its item's count by the
call's step. -/
def countsAfter (t : FaveTable) (counts : RatedItem → Int) : List FaveCall → RatedItem → Int
  | [] => counts
  | c :: rest => (t.write c).countsAfter
      (if (t.shift c).isSome then Function.update counts c.item (counts c.item + c.countStep) else counts) rest

/-- Counts that start as the numbers of listeners marking each item stay so along any run. -/
theorem countsAfter_favers (t : FaveTable) {counts : RatedItem → Int}
    (consistent : ∀ i, counts i = (t.favers i).card) (calls : List FaveCall) :
    ∀ i, t.countsAfter counts calls i = ((t.after calls).favers i).card := by
  induction calls generalizing t counts with
  | nil => exact consistent
  | cons c rest ih =>
    refine ih (t.write c) fun i => ?_
    by_cases here : i = c.item
    · subst here
      rw [card_write_self]
      split <;> simp [consistent]
    · rw [favers_write_other t here]
      split <;> simp [Function.update_of_ne here, consistent]

end FaveTable

/-- Calls made one after another, with their answers. -/
def faveCalls (calls : List FaveCall) : Act (List Value) := calls.mapM FaveCall.act

/-- Calls that each mark or find a row, against a database that answers each row query from the
writes before it and accepts every write, all complete: each returns true, makes the database
calls its row asks for and caches the entry of the row it leaves. -/
theorem faveCalls_run (t : FaveTable) (calls : List FaveCall) (allowed : t.Allows calls)
    {w : World} {later : List Value} (rows : w.db.queues.row = t.answers calls ++ later)
    (accepts : w.db.Accepts) (connected : w.cache.connected = true) :
    (faveCalls calls).run w = .ok (calls.map fun _ => .bool true)
      { w with db := w.db.runAll (t.queries calls), cache := t.cacheAfter w.cache calls } := by
  induction calls generalizing t w with
  | nil => rfl
  | cons c rest ih =>
    obtain ⟨first, allowedRest⟩ := allowed
    simp only [FaveTable.answers, List.cons_append] at rows
    -- the first call, then the rest from the world it leaves
    have restRun := ih (t.write c) allowedRest
      (w := { w with db := w.db.runAll (c.queries (t.rows c.item c.user) (t.shift c).isSome),
                     cache := c.cached (t.rows c.item c.user) w.cache })
      (FaveCall.runAll_queries_row rows c _ _) (accepts.runAll _) (by simpa [FaveCall.cached] using connected)
    simp only [faveCalls] at restRun ⊢
    rw [List.mapM_cons, run_bind_ok (c.act_run t first rows accepts connected), run_bind_ok restRun]
    simp [FaveTable.queries, FaveTable.cacheAfter, Database.runAll_append]

/-- Favourite counts along any run of calls that each mark or find a row, against a database
that answers every row query from the writes before it and accepts every write: every call
completes and returns true, makes the database calls its row asks for, with the count update
only when the listener's marking changes, and caches the entry of the row it leaves, new
favourite included; and counts that started as the numbers of listeners marking each item,
moved by the count updates issued, end as those numbers. -/
theorem faveCalls_keep_counts {t : FaveTable} {calls : List FaveCall} (allowed : t.Allows calls)
    {w : World} {later : List Value} (rows : w.db.queues.row = t.answers calls ++ later)
    (accepts : w.db.Accepts) (connected : w.cache.connected = true)
    {counts : RatedItem → Int} (consistent : ∀ i, counts i = (t.favers i).card) :
    (faveCalls calls).run w = .ok (calls.map fun _ => .bool true)
        { w with db := w.db.runAll (t.queries calls), cache := t.cacheAfter w.cache calls } ∧
      ∀ i, t.countsAfter counts calls i = ((t.after calls).favers i).card :=
  ⟨faveCalls_run t calls allowed rows accepts connected, t.countsAfter_favers consistent calls⟩

/-- Two listeners mark song 10, and the first unmarks it again. -/
def markingRun : List FaveCall := [⟨.song 10, 2, true⟩, ⟨.song 10, 3, true⟩, ⟨.song 10, 2, false⟩]

/-- A database that answers the rows of `markingRun` from an empty table. -/
def markingWorld : World := { db := { queues := { row := FaveTable.empty.answers markingRun } } }

theorem markingRun_keeps_counts :
    FaveTable.empty.Allows markingRun ∧
      (faveCalls markingRun).run markingWorld = .ok (markingRun.map fun _ => .bool true)
          { markingWorld with
            db := markingWorld.db.runAll (FaveTable.empty.queries markingRun)
            cache := FaveTable.empty.cacheAfter markingWorld.cache markingRun } ∧
        ∀ i, FaveTable.empty.countsAfter (fun _ => 0) markingRun i =
          ((FaveTable.empty.after markingRun).favers i).card := by
  have allowed : FaveTable.empty.Allows markingRun := by
    simp [markingRun, FaveTable.Allows, FaveTable.write, FaveTable.empty]
  have rows : markingWorld.db.queues.row = FaveTable.empty.answers markingRun ++ [] := (List.append_nil _).symm
  exact ⟨allowed, faveCalls_keep_counts allowed rows ⟨by simp [markingWorld], rfl⟩ rfl
    (fun _ => by simp [FaveTable.empty])⟩

example : FaveTable.empty.countsAfter (fun _ => 0) markingRun (.song 10) = 1 := by decide

/-- Unmarking a song the listener has neither rated nor marked fails. -/
theorem unmark_unrated_song_fails :
    ∃ w', (setSongFave (.int 10) (.int 2) (.bool false)).run {} =
      .error (.typeError "'NoneType' object is not subscriptable") w' :=
  ⟨_, rfl⟩

end Rating

end Airwaves
