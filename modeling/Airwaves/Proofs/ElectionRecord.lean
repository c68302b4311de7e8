import Airwaves.Proofs.LoadFrame
import Airwaves.Proofs.SignIn
import Airwaves.Schedule.Election
import Mathlib.Data.List.Forall2
/-!
# An election through its rows

Loading an election rebuilds what its rows keep; its kind, its requesters and its timing are
not kept.
-/

namespace Airwaves

theorem songAt_ref_run_of {m : Nat} {w : World} {s : Song} (stored : w.store[m]? = some (.song s)) :
    (songAt (.ref m)).run w = .ok (m, s) w := by
  simp only [songAt, deref, EStateM.run_bind, EStateM.run_get, stored]
  rfl

theorem changeSong_ref_run_of {m : Nat} {w : World} {s : Song} (stored : w.store[m]? = some (.song s))
    (f : Song → Song) :
    (Songs.changeSong (.ref m) f).run w = .ok () { w with store := w.store.set! m (.song (f s)) } := by
  unfold Songs.changeSong
  rw [run_bind_ok (songAt_ref_run_of stored)]
  exact updateSong_run stored f

theorem eventAt_ref_run_of {e : Nat} {w : World} {ev : Event} (stored : w.store[e]? = some (.event ev)) :
    (eventAt (.ref e)).run w = .ok (e, ev) w := by
  simp only [eventAt, deref, EStateM.run_bind, EStateM.run_get, stored]
  rfl

theorem updateEvent_run {e : Nat} {w : World} {ev : Event} (stored : w.store[e]? = some (.event ev))
    (f : Event → Event) : (updateEvent e f).run w = .ok () { w with store := w.store.set! e (.event (f ev)) } := by
  unfold updateEvent deref
  simp only [EStateM.run_bind, EStateM.run_get, stored]
  rfl

theorem changeEvent_ref_run_of {e : Nat} {w : World} {ev : Event} (stored : w.store[e]? = some (.event ev))
    (f : Event → Event) :
    (Events.changeEvent (.ref e) f).run w = .ok () { w with store := w.store.set! e (.event (f ev)) } := by
  unfold Events.changeEvent
  rw [run_bind_ok (eventAt_ref_run_of stored)]
  exact updateEvent_run stored f

theorem col_dict_run {d : Dict} {key : String} {x : Value} (found : Dict.field? d key = some x) (w : World) :
    (col (.dict d) key).run w = .ok x w :=
  itemOf_dict_run found

theorem entryOf_ref_run {m : Nat} {w : World} {s : Song} (stored : w.store[m]? = some (.song s))
    {key : String} {x : Value} (found : Dict.field? s.data key = some x) :
    (Elections.entryOf (.ref m) key).run w = .ok x w := by
  simp only [Elections.entryOf, Elections.songData, attributeOf, deref, EStateM.run_bind, EStateM.run_get,
    stored]
  exact itemOf_dict_run found

end Airwaves

namespace Airwaves.Elections

/-- An election as the elections table keeps it. -/
structure ElectionRecord where
  id : Value
  used : Value
  inProgress : Value
  startActual : Value
  type : Value
  priority : Value
  sid : Value
  schedId : Value

/-- The row of an election. -/
def ElectionRecord.row (rec : ElectionRecord) : Value :=
  .dict [(.str "elec_id", rec.id), (.str "elec_used", rec.used), (.str "elec_in_progress", rec.inProgress),
    (.str "elec_start_actual", rec.startActual), (.str "elec_type", rec.type),
    (.str "elec_priority", rec.priority), (.str "sid", rec.sid), (.str "sched_id", rec.schedId)]

/-- What inserting an election's id, used flag, type, station and block leaves in the table: the
other columns take the table's defaults, not in progress, not started and without priority. -/
def ElectionRecord.inserted (elecId used type sid schedId : Value) : ElectionRecord :=
  { id := elecId, used := used, inProgress := .bool false, startActual := .none, type := type,
    priority := .bool false, sid := sid, schedId := schedId }

/-- The columns of the elections table that an event fills. -/
def ElectionRecord.ofEvent (e : Event) : ElectionRecord :=
  { id := e.id, used := e.used, inProgress := e.inProgress, startActual := e.startActual, type := e.type,
    priority := e.hasPriority.getD .none, sid := e.sid, schedId := e.schedId.getD .none }

/-- An entry of an election as the entries table keeps it: the columns adding a song writes. -/
structure EntryRecord where
  entryId : Value
  songId : Value
  position : Value
  type : Value
  votes : Value

/-- The row of an entry of an election. -/
def EntryRecord.row (elecId : Value) (rec : EntryRecord) : Value :=
  .dict [(.str "entry_id", rec.entryId), (.str "song_id", rec.songId), (.str "elec_id", elecId),
    (.str "entry_position", rec.position), (.str "entry_type", rec.type), (.str "entry_votes", rec.votes)]

/-- A song restored from an entry: a song with the entry's song id that carries the entry's id,
type, position and votes; unless the entry is a normal one, it names no requester. -/
def EntryRestored (w : World) (rec : EntryRecord) (song : Value) : Prop :=
  ∃ h s, song = .ref h ∧ w.store[h]? = some (.song s) ∧ s.id = rec.songId ∧
    Dict.field? s.data "entry_id" = some rec.entryId ∧ Dict.field? s.data "entry_type" = some rec.type ∧
    Dict.field? s.data "entry_position" = some rec.position ∧
    Dict.field? s.data "entry_votes" = some rec.votes ∧
    (Value.equals rec.type normalEntry = false →
      Dict.field? s.data "elec_request_user_id" = some (.int 0) ∧
      Dict.field? s.data "elec_request_username" = some .none)

theorem entrySong_fresh {songId sid song : Value} {w w' : World} (run : (entrySong songId sid).run w = .ok song w') :
    ∃ m s, song = .ref m ∧ w.store.size ≤ m ∧ w'.store[m]? = some (.song s) ∧ s.id = songId ∧
      SongsKept w.store.size w w' := by
  unfold entrySong at run
  obtain ⟨attempted, w1, ran, rest⟩ := run_bind_eq_ok run
  rw [attempt_run] at ran
  split at ran
  · -- found on the election's station
    rename_i loaded
    cases ran
    obtain ⟨rfl, rfl⟩ := run_pure_eq_ok rest
    obtain ⟨rfl, s, found, named⟩ := Songs.loadFromId_fresh loaded
    exact ⟨_, s, rfl, Nat.le_refl _, found, named, (Songs.loadFromId_keeps songId sid w).1 _ _ loaded⟩
  · -- missing there: loaded on its station of origin, after what the failed load left
    rename_i failed
    cases ran
    dsimp only at rest
    split at rest
    · obtain ⟨origin, w2, asked, rest⟩ := run_bind_eq_ok rest
      have first := (Songs.loadFromId_keeps songId sid w).2 _ _ failed
      have same : w2.store = w1.store := (query_guards storeKept_frame _ _ w1).1 _ _ asked
      have second := (Songs.loadFromId_keeps songId origin w2).1 _ _ rest
      obtain ⟨rfl, s, found, named⟩ := Songs.loadFromId_fresh rest
      refine ⟨_, s, rfl, ?_, found, named, ?_⟩
      · rw [same]
        exact first.1
      · exact songsKept_size_frame.trans first
          (songsKept_size_frame.trans (songsKept_size_frame.same same) second)
    · cases rest

theorem setData_ref_run_of {m : Nat} {w : World} {s : Song} (stored : w.store[m]? = some (.song s))
    (key : String) (x : Value) :
    (Songs.setData (.ref m) key x).run w =
      .ok () { w with store := w.store.set! m (.song { s with data := Dict.putField s.data key x }) } :=
  changeSong_ref_run_of stored _

/-- Setting an entry of a song's data rewrites that song and nothing else. -/
theorem setData_song {m : Nat} {w w' : World} {s : Song} (stored : w.store[m]? = some (.song s))
    {key : String} {x : Value} (run : (Songs.setData (.ref m) key x).run w = .ok () w') :
    w'.store[m]? = some (.song { s with data := Dict.putField s.data key x }) ∧
      ∀ h, m ≠ h → w'.store[h]? = w.store[h]? := by
  rw [setData_ref_run_of stored] at run
  cases run
  exact ⟨getElem?_set!_self stored _, fun _ other => getElem?_set!_of_ne _ other⟩

/-- Changing an event rewrites that event and nothing else. -/
theorem changeEvent_event {e : Nat} {w w' : World} {ev : Event} (stored : w.store[e]? = some (.event ev))
    {f : Event → Event} (run : (Events.changeEvent (.ref e) f).run w = .ok () w') :
    w'.store[e]? = some (.event (f ev)) ∧ ∀ h, e ≠ h → w'.store[h]? = w.store[h]? := by
  rw [changeEvent_ref_run_of stored] at run
  cases run
  exact ⟨getElem?_set!_self stored _, fun _ other => getElem?_set!_of_ne _ other⟩

theorem EntryRestored.of_same {w w' : World} {rec : EntryRecord} {song : Value}
    (restored : EntryRestored w rec song) (same : ∀ h, song = .ref h → w'.store[h]? = w.store[h]?) :
    EntryRestored w' rec song := by
  obtain ⟨h, s, rfl, found, rest⟩ := restored
  exact ⟨h, s, rfl, by rw [same h rfl]; exact found, rest⟩

/-- The last step of restoring an entry: the election lists the restored song last, and nothing
else changes. -/
theorem entry_appended {e m : Nat} {base : Event} {songs : List Value} {rec : EntryRecord}
    {w w' : World} {f : Event → Event}
    (appends : f { base with songs := .list songs } = { base with songs := .list (songs ++ [.ref m]) })
    (fresh : m ≠ e) (event : w.store[e]? = some (.event { base with songs := .list songs }))
    (restored : EntryRestored w rec (.ref m)) (run : (Events.changeEvent (.ref e) f).run w = .ok () w') :
    EntryRestored w' rec (.ref m) ∧
      w'.store[e]? = some (.event { base with songs := .list (songs ++ [.ref m]) }) ∧
      ∀ h, e ≠ h → w'.store[h]? = w.store[h]? := by
  obtain ⟨listed, others⟩ := changeEvent_event event run
  refine ⟨restored.of_same fun h same => ?_, by rw [listed, appends], others⟩
  cases same
  exact others m (Ne.symm fresh)

/-- Restoring an entry adds a fresh song carrying the entry to the end of the election's songs,
and keeps every song stored before. -/
theorem restoreEntry_run {e : Nat} {base : Event} {sid elecId : Value} {rec : EntryRecord}
    {w w' : World} {songs : List Value}
    (stored : w.store[e]? = some (.event { base with songs := .list songs }))
    (run : (restoreEntry (.ref e) sid (rec.row elecId)).run w = .ok () w') :
    ∃ song, EntryRestored w' rec song ∧
      w'.store[e]? = some (.event { base with songs := .list (songs ++ [song]) }) ∧
      ∀ h < w.store.size, e ≠ h → ∀ s, w.store[h]? = some (.song s) → w'.store[h]? = some (.song s) := by
  unfold restoreEntry EntryRecord.row at run
  rw [run_bind_ok (col_dict_run (x := rec.songId) rfl _)] at run
  obtain ⟨song, w1, loaded, run⟩ := run_bind_eq_ok run
  obtain ⟨m, s0, rfl, above, found, named, kept⟩ := entrySong_fresh loaded
  -- the entry's four columns go into the song's data, one after another
  rw [run_bind_ok (col_dict_run (x := rec.entryId) rfl _)] at run
  obtain ⟨_, w2, put, run⟩ := run_bind_eq_ok run
  obtain ⟨found2, others2⟩ := setData_song found put
  rw [run_bind_ok (col_dict_run (x := rec.type) rfl _)] at run
  obtain ⟨_, w3, put, run⟩ := run_bind_eq_ok run
  obtain ⟨found3, others3⟩ := setData_song found2 put
  rw [run_bind_ok (col_dict_run (x := rec.position) rfl _)] at run
  obtain ⟨_, w4, put, run⟩ := run_bind_eq_ok run
  obtain ⟨found4, others4⟩ := setData_song found3 put
  rw [run_bind_ok (col_dict_run (x := rec.votes) rfl _)] at run
  obtain ⟨_, w5, put, run⟩ := run_bind_eq_ok run
  obtain ⟨found5, others5⟩ := setData_song found4 put
  have typeRead : Dict.field? (Dict.putField (Dict.putField (Dict.putField (Dict.putField s0.data "entry_id"
      rec.entryId) "entry_type" rec.type) "entry_position" rec.position) "entry_votes" rec.votes)
      "entry_type" = some rec.type := by
    simp [Dict.field?, Dict.putField, Dict.lookup?_put_str, Value.equals]
  rw [run_bind_ok (entryOf_ref_run found5 typeRead)] at run
  dsimp only at run
  -- the song is new, so it is neither the election nor a song stored before
  have below : e < w.store.size := (Array.getElem?_eq_some_iff.mp stored).1
  have fresh : m ≠ e := by omega
  have untouched : ∀ h, m ≠ h → w5.store[h]? = w1.store[h]? := fun h other => by
    rw [others5 h other, others4 h other, others3 h other, others2 h other]
  have event5 : w5.store[e]? = some (.event { base with songs := .list songs }) := by
    rw [untouched e fresh]
    exact kept.2 e below _ stored rfl
  have earlier : ∀ wX : World, (∀ h, m ≠ h → wX.store[h]? = w1.store[h]?) →
      ∀ h < w.store.size, ∀ s, w.store[h]? = some (.song s) → wX.store[h]? = some (.song s) :=
    fun wX same h small s found => by
      rw [same h (by omega)]
      exact kept.2 h small _ found rfl
  split at run
  · -- not a normal entry: the requester is cleared before the election lists the song
    rename_i request
    obtain ⟨_, w6, put, run⟩ := run_bind_eq_ok run
    obtain ⟨found6, others6⟩ := setData_song found5 put
    obtain ⟨_, w7, put, run⟩ := run_bind_eq_ok run
    obtain ⟨found7, others7⟩ := setData_song found6 put
    have untouched7 : ∀ h, m ≠ h → w7.store[h]? = w1.store[h]? := fun h other => by
      rw [others7 h other, others6 h other, untouched h other]
    have restored : EntryRestored w7 rec (.ref m) := by
      refine ⟨m, _, rfl, found7, named, ?_⟩
      simp [Dict.field?, Dict.putField, Dict.lookup?_put_str, Value.equals]
    obtain ⟨restored', listed, others⟩ := entry_appended rfl fresh
      (by rw [untouched7 e fresh]; exact kept.2 e below _ stored rfl) restored run
    refine ⟨.ref m, restored', listed, fun h small other s found => ?_⟩
    rw [others h other]
    exact earlier w7 untouched7 h small s found
  · -- a normal entry keeps what its song had
    rename_i normal
    have restored : EntryRestored w5 rec (.ref m) := by
      refine ⟨m, _, rfl, found5, named, ?_⟩
      simp only [Bool.not_eq_true'] at normal
      simp [Dict.field?, Dict.putField, Dict.lookup?_put_str, Value.equals, normal]
    obtain ⟨restored', listed, others⟩ := entry_appended rfl fresh event5 restored run
    refine ⟨.ref m, restored', listed, fun h small other s found => ?_⟩
    rw [others h other]
    exact earlier w5 untouched h small s found

/-- After the entries `done` are restored, the election under `e` is `base` with one song for
each entry, carrying that entry. -/
def Restored (w : World) (e : Nat) (base : Event) (done : List EntryRecord) : Prop :=
  ∃ songs, w.store[e]? = some (.event { base with songs := .list songs }) ∧
    List.Forall₂ (EntryRestored w) done songs

theorem Restored.start {w : World} {e : Nat} {base : Event} (stored : w.store[e]? = some (.event base))
    (empty : base.songs = .list []) : Restored w e base [] := by
  refine ⟨[], ?_, .nil⟩
  rw [stored]
  cases base
  cases empty
  rfl

theorem restored_step {e : Nat} {base : Event} {sid elecId : Value} {rec : EntryRecord}
    {done : List EntryRecord} {w w' : World} (restored : Restored w e base done)
    (run : (restoreEntry (.ref e) sid (rec.row elecId)).run w = .ok () w') :
    Restored w' e base (done ++ [rec]) := by
  obtain ⟨songs, stored, entries⟩ := restored
  obtain ⟨song, added, listed, earlier⟩ := restoreEntry_run stored run
  refine ⟨songs ++ [song], listed, List.rel_append (entries.imp fun rec' song' old => ?_) (.cons added .nil)⟩
  -- an entry restored before keeps its song: that song was stored, and it is not the election
  refine old.of_same fun h same => ?_
  obtain ⟨h', s, same', found, -⟩ := old
  rw [same] at same'
  cases same'
  have other : e ≠ h := by
    rintro rfl
    rw [stored] at found
    cases found
  rw [earlier h (Array.getElem?_eq_some_iff.mp found).1 other s found, found]

/-- Restoring the entries one after another restores them all, in order. -/
theorem restoreEntries_run {e : Nat} {base : Event} {sid elecId : Value} (records : List EntryRecord)
    {f : Value → PUnit → Act (ForInStep PUnit)}
    (body : ∀ row u, f row u = (restoreEntry (.ref e) sid row >>= fun _ => pure (.yield PUnit.unit))) :
    ∀ {done : List EntryRecord} {w w' : World} {u : PUnit}, Restored w e base done →
      (forIn (records.map (EntryRecord.row elecId)) PUnit.unit f).run w = .ok u w' →
      Restored w' e base (done ++ records) := by
  induction records with
  | nil =>
    intro done w w' u restored run
    obtain ⟨rfl, rfl⟩ := run_pure_eq_ok run
    simpa using restored
  | cons rec rest ih =>
    intro done w w' u restored run
    rw [List.map_cons, List.forIn_cons] at run
    obtain ⟨step, w1, ran, run⟩ := run_bind_eq_ok run
    rw [body] at ran
    obtain ⟨_, w2, added, yielded⟩ := run_bind_eq_ok ran
    obtain ⟨rfl, rfl⟩ := run_pure_eq_ok yielded
    simpa using ih (restored_step restored added) run

theorem call_row_head {db : Database} {v : Value} {rest : List Value} (heads : db.queues.row = v :: rest)
    (params : Option (List Value)) (sql : String) :
    (db.call .row params sql).1 = v ∧ (db.call .row params sql).2.queues.all = db.queues.all := by
  simp [Database.call, Database.take, Database.record, Queues.get, Queues.put, heads]

theorem call_all_head {db : Database} {xs rest : List Value} (heads : db.queues.all = .list xs :: rest)
    (params : Option (List Value)) (sql : String) : (db.call .all params sql).1 = .list xs := by
  simp [Database.call, Database.take, Database.record, Queues.get, heads]

theorem allocRef_run (o : Obj) (w : World) :
    (allocRef o).run w = .ok (.ref w.store.size) { w with store := w.store.push o } := rfl

/-- Loading an election from its row and its entry rows gives back the row's columns, marks the
election as not timed, and restores every entry, in order. -/
theorem load_run {kind : EventKind} {rec : ElectionRecord} {records : List EntryRecord}
    {laterRows laterEntries : List Value} {w w' : World} {v : Value}
    (rows : w.db.queues.row = rec.row :: laterRows)
    (entries : w.db.queues.all = .list (records.map (EntryRecord.row rec.id)) :: laterEntries)
    (run : (load kind rec.id).run w = .ok v w') :
    ∃ h e songs, v = .ref h ∧ w'.store[h]? = some (.event e) ∧ ElectionRecord.ofEvent e = rec ∧
      e.timed = some (.bool false) ∧ e.songs = .list songs ∧ List.Forall₂ (EntryRestored w') records songs := by
  unfold load at run
  -- with no station, building the blank election reads nothing
  obtain ⟨e0, built⟩ : ∃ e0, (construct kind .none).run w = .ok e0 w := ⟨_, rfl⟩
  rw [run_bind_ok built, fetchRow, run_bind_ok (Cache.query_run _ _ _), (call_row_head rows _ _).1] at run
  dsimp only at run
  split at run
  · obtain ⟨_, _, raised, _⟩ := run_bind_eq_ok run
    cases raised
  unfold ElectionRecord.row at run
  rw [run_bind_ok (col_dict_run (x := rec.type) rfl _), run_bind_ok (col_dict_run (x := rec.used) rfl _),
    run_bind_ok (col_dict_run (x := rec.startActual) rfl _),
    run_bind_ok (col_dict_run (x := rec.inProgress) rfl _), run_bind_ok (col_dict_run (x := rec.sid) rfl _),
    run_bind_ok (col_dict_run (x := rec.priority) rfl _), run_bind_ok (col_dict_run (x := rec.schedId) rfl _),
    run_bind_ok (allocRef_run _ _), fetchAll, run_bind_ok (Cache.query_run _ _ _)] at run
  -- the entries are the next rows the database answers
  have answered := call_all_head (((call_row_head rows (some [rec.id]) "").2).trans entries) (some [rec.id]) ""
  rw [answered] at run
  obtain ⟨items, w3, listed, run⟩ := run_bind_eq_ok run
  cases listed
  obtain ⟨u, w4, looped, run⟩ := run_bind_eq_ok run
  obtain ⟨rfl, rfl⟩ := run_pure_eq_ok run
  obtain ⟨songs, stored, restored⟩ :=
    restoreEntries_run records (fun _ _ => rfl) (Restored.start (by simp; rfl) rfl) looped
  exact ⟨_, _, songs, rfl, stored, rfl, rfl, rfl, restored⟩

theorem nextId_run (table column : String) (w : World) :
    (nextId table column).run w =
      .ok w.db.nextId { w with db := (w.db.nextIdentifier table column).2 } := rfl

/-- Creating an election, of whatever kind, stores a timed election and writes its row: its id,
unused, of type `Election`, with its station and block. -/
theorem create_run {kind : EventKind} {sid schedId v : Value} {w w' : World}
    (run : (create kind sid schedId).run w = .ok v w') :
    ∃ h e, v = .ref h ∧ w'.store[h]? = some (.event e) ∧
      ElectionRecord.ofEvent e =
        ElectionRecord.inserted (.int w.db.nextId) (.bool false) (.str "Election") sid schedId ∧
      e.timed = some (.bool true) ∧
      w'.db.log.back? =
        some (.list [.str "update", .list [.int w.db.nextId, .bool false, .str "Election", sid, schedId]]) := by
  unfold create at run
  rw [run_bind_ok (nextId_run _ _ _)] at run
  dsimp only at run
  obtain ⟨e0, w1, built, run⟩ := run_bind_eq_ok run
  rw [run_bind_ok (allocRef_run _ _), dbUpdate, run_bind_ok (Cache.query_run _ _ _)] at run
  obtain ⟨rfl, rfl⟩ := run_pure_eq_ok run
  refine ⟨_, _, rfl, Array.getElem?_push_size, rfl, rfl, ?_⟩
  simp [Database.call, Database.record, Database.take, Array.back?_push, QueryKind.name]

/-- An election comes back from the rows written for it with every column it was written with,
but as an untimed election of type `Election`, whatever kind it was created as: the type names
the kind only for a plain election. Its entries come back in order, each with its song and its
entry's id, type, position and votes, and an entry other than a normal one comes back without
its requester. -/
theorem reloaded_election_forgets_kind
    {kind kind' : EventKind} {sid schedId v v' : Value} {w w' r r' : World}
    {records : List EntryRecord} {laterRows laterEntries : List Value}
    (created : (create kind sid schedId).run w = .ok v w')
    (rows : r.db.queues.row =
      (ElectionRecord.inserted (.int w.db.nextId) (.bool false) (.str "Election") sid schedId).row :: laterRows)
    (entries : r.db.queues.all = .list (records.map (EntryRecord.row (.int w.db.nextId))) :: laterEntries)
    (loaded : (load kind' (.int w.db.nextId)).run r = .ok v' r') :
    ∃ h e h' e' songs, v = .ref h ∧ w'.store[h]? = some (.event e) ∧
      v' = .ref h' ∧ r'.store[h']? = some (.event e') ∧
      w'.db.log.back? =
        some (.list [.str "update", .list [.int w.db.nextId, .bool false, .str "Election", sid, schedId]]) ∧
      ElectionRecord.ofEvent e' = ElectionRecord.ofEvent e ∧
      (e'.type = .str kind.kindName ↔ kind = .election) ∧
      e.timed = some (.bool true) ∧ e'.timed = some (.bool false) ∧
      e'.songs = .list songs ∧ List.Forall₂ (EntryRestored r') records songs := by
  obtain ⟨h, e, rfl, stored, written, timed, logged⟩ := create_run created
  obtain ⟨h', e', songs, rfl, stored', reloaded, untimed, listed, restored⟩ := load_run rows entries loaded
  refine ⟨h, e, h', e', songs, rfl, stored, rfl, stored', logged, reloaded.trans written.symm, ?_, timed,
    untimed, listed, restored⟩
  -- the type read back is the one written, which names the plain kind only
  have typed : e'.type = .str "Election" := congrArg ElectionRecord.type reloaded
  rw [typed]
  cases kind <;> simp [EventKind.kindName]

theorem returns_of_succeeds {α : Type} {x : Act α} {w : World}
    (ok : succeeds (x >>= fun _ => pure ()) w = true) : ∃ a w', x.run w = .ok a w' := by
  obtain ⟨a, w1, ran, rest⟩ := run_bind_eq_ok (run_eq_ok_of_succeeds ok)
  obtain ⟨-, rfl⟩ := run_pure_eq_ok rest
  exact ⟨a, _, ran⟩

/-- Station 1 with three songs to an election. -/
def pvpStation : World :=
  { config := { opts := [(.str "stations", .dict [(.int 1, .dict [(.str "songs_in_election", .int 3)])])] }
    rng := { words := #[], index := 0 } }

/-- A request entry for song 7. -/
def songSevenRequest : EntryRecord :=
  { entryId := .int 10, songId := .int 7, position := .int 0, type := requestEntry, votes := .int 0 }

/-- The row of song 7 on station 1. -/
def songSeven : Value :=
  .dict [(.str "song_filename", .str "a.mp3"), (.str "song_verified", .bool true), (.str "song_replay_gain", .none)]

/-- The database once election 1 and its request entry are written: the election's row, the
entry's row, and the row of song 7 on station 1. -/
def pvpReload : World :=
  { db := { queues :=
      { row := [(ElectionRecord.inserted (.int 1) (.bool false) (.str "Election") (.int 1) .none).row, songSeven]
        all := [.list [songSevenRequest.row (.int 1)]] } }
    rng := { words := #[], index := 0 } }

/-- A head-to-head election created on station 1 and loaded back from its rows comes back of type
`Election` and untimed, and its request entry names no requester. -/
theorem pvp_election_comes_back_plain :
    ∃ v w' v' r' h' e' song,
      (create .pvpElection (.int 1) .none).run pvpStation = .ok v w' ∧
      (load .pvpElection (.int 1)).run pvpReload = .ok v' r' ∧
      v' = .ref h' ∧ r'.store[h']? = some (.event e') ∧ e'.type ≠ .str EventKind.pvpElection.kindName ∧
      e'.timed = some (.bool false) ∧ e'.songs = .list [song] ∧ EntryRestored r' songSevenRequest song := by
  obtain ⟨v, w', created⟩ := returns_of_succeeds (x := create .pvpElection (.int 1) .none) (w := pvpStation)
    (by decide +kernel)
  obtain ⟨v', r', loaded⟩ := returns_of_succeeds (x := load .pvpElection (.int 1)) (w := pvpReload)
    (by decide +kernel)
  obtain ⟨h, e, h', e', songs, -, -, same, stored', -, -, kinds, -, untimed, listed, restored⟩ :=
    @reloaded_election_forgets_kind _ _ _ _ _ _ _ _ _ _ [songSevenRequest] [songSeven] [] created rfl rfl loaded
  obtain ⟨song, rfl⟩ : ∃ song, songs = [song] := by
    cases restored with
    | cons _ rest => cases rest; exact ⟨_, rfl⟩
  exact ⟨v, w', v', r', h', e', song, created, loaded, same, stored',
    by simpa using kinds, untimed, listed,
    (List.forall₂_cons.mp restored).1⟩

end Airwaves.Elections
