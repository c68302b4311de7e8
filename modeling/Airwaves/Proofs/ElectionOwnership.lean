import Airwaves.Proofs.CallerGates
import Airwaves.Proofs.ElectionRecord
/-!
# Who may delete an election, and who may commit one

Deleting asks for the block's owner; committing names `is_admin` without calling it, so a DJ
can commit an election on another DJ's block.
-/

namespace Airwaves

/-! ## Two frames of loading -/

/-- Whether an object belongs to the catalog or the schedule: a song, an album, artist or group,
or an event. -/
def Obj.isCatalog : Obj → Bool
  | .song _ | .metadata _ | .event _ => true
  | _ => false

/-- Every object stored outside the catalog and the schedule is still there, unchanged. -/
def OthersKept (w w' : World) : Prop :=
  ∀ (h : Nat) (o : Obj), w.store[h]? = some o → o.isCatalog = false → w'.store[h]? = some o

/-- The event under handle `e`, if there is one, is still an event there, on the same block. -/
def BlockKept (e : Nat) (w w' : World) : Prop :=
  ∀ ev, w.store[e]? = some (.event ev) → ∃ ev', w'.store[e]? = some (.event ev') ∧ ev'.schedId = ev.schedId

/-- Rewriting an object of the catalog keeps every other object. -/
theorem othersKept_of_set {w w' : World} {i : Nat} {o : Obj} (stored : w.store[i]? = some o)
    (catalog : o.isCatalog = true) (x : Obj) (rewritten : w'.store = w.store.set! i x) : OthersKept w w' := by
  intro h o' found other
  have differ : i ≠ h := by
    rintro rfl
    rw [stored] at found
    cases found
    rw [catalog] at other
    cases other
  rw [rewritten, getElem?_set!_of_ne _ differ, found]

theorem othersKept_loaderFrame : LoaderFrame OthersKept where
  trans first second h o found other := second h o (first h o found other) other
  same same h o found _ := by rw [same]; exact found
  push x pushed h o found _ := by rw [pushed]; exact getElem?_push_of_some found x
  rewrite m' stored rewritten := othersKept_of_set stored rfl _ rewritten

theorem blockKept_loaderFrame (e : Nat) : LoaderFrame (BlockKept e) where
  trans first second ev found := by
    obtain ⟨ev1, found1, same1⟩ := first ev found
    obtain ⟨ev2, found2, same2⟩ := second ev1 found1
    exact ⟨ev2, found2, same2.trans same1⟩
  same same ev found := ⟨ev, by rw [same]; exact found, rfl⟩
  push x pushed ev found := ⟨ev, by rw [pushed]; exact getElem?_push_of_some found x, rfl⟩
  rewrite {w} {_} {i} {_} m' stored rewritten ev found := by
    -- the handle rewritten holds an album, artist or group, so it is not the event's
    have other : i ≠ e := by
      rintro rfl
      rw [stored] at found
      cases found
    exact ⟨ev, by rw [rewritten, getElem?_set!_of_ne _ other, found], rfl⟩

theorem blockKept_of_set_other {w w' : World} {e i : Nat} {x : Obj} (other : i ≠ e)
    (rewritten : w'.store = w.store.set! i x) : BlockKept e w w' :=
  fun ev found => ⟨ev, by rw [rewritten, getElem?_set!_of_ne _ other, found], rfl⟩

/-- The election `elec` is stored as an event on block `s`. -/
def OnBlock (w : World) (elec s : Value) : Prop :=
  ∃ e ev, elec = .ref e ∧ w.store[e]? = some (.event ev) ∧ ev.schedId = some s

/-! ## Songs and events behind a value -/

theorem songAt_run_ref {v : Value} {w w' : World} {p : Nat × Song} (run : (songAt v).run w = .ok p w') :
    v = .ref p.1 := by
  unfold songAt at run
  split at run
  · obtain ⟨o, w1, found, rest⟩ := run_bind_eq_ok run
    split at rest
    · obtain ⟨rfl, -⟩ := run_pure_eq_ok rest
      rfl
    · exact absurd rest (noMember_fails _ _ _ _ _)
  · exact absurd run (noMember_fails _ _ _ _ _)

theorem eventAt_run_inv {v : Value} {w w' : World} {p : Nat × Event} (run : (eventAt v).run w = .ok p w') :
    w' = w ∧ w.store[p.1]? = some (.event p.2) := by
  unfold eventAt at run
  split at run
  · obtain ⟨o, w1, found, rest⟩ := run_bind_eq_ok run
    obtain ⟨rfl, stored⟩ := deref_run_inv found
    split at rest
    · obtain ⟨rfl, rfl⟩ := run_pure_eq_ok rest
      exact ⟨rfl, stored⟩
    · exact absurd rest (noMember_fails _ _ _ _ _)
  · exact absurd run (noMember_fails _ _ _ _ _)

section Reads

variable {R : World → World → Prop} (F : Frame R)
include F

theorem eventAt_guards (v : Value) : Guards R (eventAt v) := by
  unfold eventAt
  split
  · refine Guards.bind F (deref_guards F _) fun o => ?_
    split
    · exact Guards.pure F _
    · exact noMember_guards F _ _
  · exact noMember_guards F _ _

theorem attributeOf_guards (v : Value) (name : String) : Guards R (attributeOf v name) := by
  unfold attributeOf
  split
  · refine Guards.bind F (deref_guards F _) fun o => ?_
    split
    · exact Guards.pure F _
    · exact noMember_guards F _ _
  · exact noMember_guards F _ _

/-- Changing an event is guarded by every frame that allows that one rewrite. -/
theorem changeEvent_guards {v : Value} {f : Event → Event}
    (step : ∀ w e ev, w.store[e]? = some (.event ev) → R w { w with store := w.store.set! e (.event (f ev)) }) :
    Guards R (Events.changeEvent v f) := by
  unfold Events.changeEvent
  refine Guards.bind_of_run F (eventAt_guards F v) fun w p w1 found => ?_
  obtain ⟨rfl, stored⟩ := eventAt_run_inv found
  obtain ⟨e, ev⟩ := p
  dsimp only at stored ⊢
  rw [updateEvent_run stored]
  exact ⟨fun _ _ run => by cases run; exact step _ e ev stored, fun _ _ run => by cases run⟩

theorem stationGet_guards (sid : Value) (key : String) : Guards R (Config.stationGet sid key) := by
  unfold Config.stationGet Config.station Config.stations
  repeat' first
    | with_reducible refine Guards.bind F ?_ fun _ => ?_
    | split
    | exact Guards.pure F _
    | exact Guards.raise F _
    | exact configCurrent_guards F

theorem construct_guards (kind : EventKind) (sid : Value) : Guards R (Elections.construct kind sid) := by
  unfold Elections.construct
  dsimp only
  repeat' first
    | with_reducible refine Guards.bind F ?_ fun _ => ?_
    | split
    | exact Guards.pure F _
    | exact stationGet_guards F _ _

theorem entryOf_guards (song : Value) (key : String) : Guards R (Elections.entryOf song key) :=
  Guards.bind F (attributeOf_guards F _ _) fun _ => itemOf_guards F _ _

end Reads

/-! ## Loading an election -/

namespace Elections

section Load

variable {R : World → World → Prop} (L : LoaderFrame R)
  (songs : ∀ m f, Guards R (Songs.changeSong (.ref m) f))
include L songs

/-- A song behind anything but a handle is not there to change. -/
theorem changeSong_guards_any (v : Value) (f : Song → Song) : Guards R (Songs.changeSong v f) := by
  cases v
  case ref m => exact songs m f
  all_goals
    unfold Songs.changeSong
    refine Guards.bind_of_run L.toFrame (songAt_guards L.toFrame _) fun w p w1 found => ?_
    cases songAt_run_ref found

theorem loadFromId_guards (songId sid : Value) : Guards R (Songs.loadFromId songId sid) := by
  unfold Songs.loadFromId
  refine Guards.bind L.toFrame (Songs.findRow_guards L.toFrame _ _) fun p => ?_
  dsimp only
  split
  · exact Guards.raise_bind L.toFrame _ _
  · -- the new song is stored past every handle in use, and only it is filled
    refine Guards.bind_of_run L.toFrame (allocRef_guards L _) fun w v w1 allocated => ?_
    rw [Songs.fresh_run] at allocated
    cases allocated
    refine Guards.bind L.toFrame (songs _ _) (fun _ => ?_) _
    refine Guards.bind L.toFrame (Guards.attempt L.toFrame
      (Songs.fill_guards L (fun f _ => songs _ f) _ _ _)) fun filled => ?_
    split
    · exact Guards.pure L.toFrame _
    · exact Guards.bind L.toFrame (disable_guards L.toFrame _) fun _ => Guards.raise L.toFrame _

theorem entrySong_guards (songId sid : Value) : Guards R (entrySong songId sid) := by
  unfold entrySong
  refine Guards.bind L.toFrame (Guards.attempt L.toFrame (loadFromId_guards L songs _ _)) fun loaded => ?_
  split
  · exact Guards.pure L.toFrame _
  · split
    · exact Guards.bind L.toFrame (query_guards L.toFrame _ _) fun _ => loadFromId_guards L songs _ _
    · exact Guards.raise L.toFrame _

variable (events : ∀ v f, (∀ e, (f e).schedId = e.schedId) → Guards R (Events.changeEvent v f))
include events

theorem restoreEntry_guards (v sid songRow : Value) : Guards R (restoreEntry v sid songRow) := by
  unfold restoreEntry
  repeat' first
    | with_reducible refine Guards.bind L.toFrame ?_ fun _ => ?_
    | split
    | exact Guards.pure L.toFrame _
    | exact col_guards L.toFrame _ _
    | exact entrySong_guards L songs _ _
    | exact entryOf_guards L.toFrame _ _
    | exact changeSong_guards_any L songs _ _
    | exact events _ _ fun _ => rfl

/-- Loading an election is guarded by every loader frame that allows rewriting a song in place
and rewriting an event without moving it to another block. -/
theorem load_guards (kind : EventKind) (elecId : Value) : Guards R (load kind elecId) := by
  unfold load
  repeat' first
    | with_reducible refine Guards.bind L.toFrame ?_ fun _ => ?_
    | with_reducible refine Guards.forIn L.toFrame _ _ fun _ _ => ?_
    | split
    | exact Guards.pure L.toFrame _
    | exact Guards.raise L.toFrame _
    | exact construct_guards L.toFrame _ _
    | exact query_guards L.toFrame _ _
    | exact col_guards L.toFrame _ _
    | exact itemsOf_guards L.toFrame _
    | exact allocRef_guards L _
    | exact restoreEntry_guards L songs events _ _ _

end Load

/-- Whatever its outcome, loading an election keeps every object outside the catalog and the
schedule. -/
theorem load_keeps_others (kind : EventKind) (elecId : Value) : Guards OthersKept (load kind elecId) :=
  load_guards othersKept_loaderFrame
    (fun _ _ => Songs.changeSong_guards othersKept_loaderFrame.toFrame fun _ _ stored =>
      othersKept_of_set stored rfl _ rfl)
    (fun _ _ _ => changeEvent_guards othersKept_loaderFrame.toFrame fun _ _ _ stored =>
      othersKept_of_set stored rfl _ rfl)
    kind elecId

/-- Whatever its outcome, restoring an entry keeps the block of an event stored under `e`. -/
theorem restoreEntry_keeps_block (e : Nat) (v sid songRow : Value) :
    Guards (BlockKept e) (restoreEntry v sid songRow) :=
  restoreEntry_guards (blockKept_loaderFrame e)
    (fun m _ => Songs.changeSong_guards (blockKept_loaderFrame e).toFrame fun _ _ stored ev found =>
      -- a song is rewritten, so not the event
      have other : m ≠ e := by
        rintro rfl
        rw [stored] at found
        cases found
      blockKept_of_set_other other rfl ev found)
    (fun _ f keeps => changeEvent_guards (blockKept_loaderFrame e).toFrame fun w i ev0 stored ev found => by
      by_cases same : i = e
      · subst same
        rw [stored] at found
        cases found
        exact ⟨f ev0, getElem?_set!_self stored _, keeps ev0⟩
      · exact blockKept_of_set_other same rfl ev found)
    v sid songRow

/-- A loaded election is stored as an event on the block its row names. -/
theorem load_block {kind : EventKind} {elecId v : Value} {w w' : World}
    (run : (load kind elecId).run w = .ok v w') : ∃ s, OnBlock w' v s := by
  unfold load at run
  obtain ⟨_, _, -, run⟩ := run_bind_eq_ok run
  obtain ⟨row, _, -, run⟩ := run_bind_eq_ok run
  split at run
  · obtain ⟨_, _, raised, -⟩ := run_bind_eq_ok run
    cases raised
  -- the row's columns, the block last
  iterate 6 obtain ⟨_, _, -, run⟩ := run_bind_eq_ok run
  obtain ⟨schedId, w1, -, run⟩ := run_bind_eq_ok run
  obtain ⟨_, _, allocated, run⟩ := run_bind_eq_ok run
  rw [allocRef_run] at allocated
  cases allocated
  obtain ⟨_, w3, fetched, run⟩ := run_bind_eq_ok run
  obtain ⟨items, w4, listed, run⟩ := run_bind_eq_ok run
  obtain ⟨_, w5, looped, run⟩ := run_bind_eq_ok run
  obtain ⟨rfl, rfl⟩ := run_pure_eq_ok run
  -- from its allocation on, the election keeps its block
  have F := (blockKept_loaderFrame w1.store.size).toFrame
  have read := F.trans ((query_guards F _ _ _).1 _ _ fetched) ((itemsOf_guards F _ _).1 _ _ listed)
  have restored := (Guards.forIn F items _ (fun row _ =>
    Guards.bind F (restoreEntry_keeps_block _ _ _ row) fun _ => Guards.pure F _) w4).1 _ _ looped
  obtain ⟨ev, found, same⟩ := F.trans read restored _ Array.getElem?_push_size
  exact ⟨schedId, w1.store.size, ev, rfl, found, same⟩

end Elections

/-! ## Deleting an election -/

theorem Caller.of_store {w w' : World} {user : Value} {u : User} (c : Caller w user u)
    (same : w'.store = w.store) : Caller w' user u := by
  rw [Caller, same]
  exact c

theorem Event.find?_optional_of_ne {name key : String} (differ : name ≠ key) (x : Option Value) :
    (Event.optional name x).find? (fun p => p.1 == key) = none := by
  cases x <;> simp [Event.optional, differ]

/-- The sched_id field of an event is its block. -/
theorem Event.attribute_schedId {ev : Event} {s : Value} (block : ev.schedId = some s) :
    (Obj.event ev).attribute? "sched_id" = some s := by
  have named : Event.optional "sched_id" ev.schedId = [("sched_id", s)] := by rw [block]; rfl
  simp [Obj.attribute?, Obj.attributes, Event.attributes, List.find?_append, named,
    Event.find?_optional_of_ne]

namespace Api

/-- The database's answer to who owns a block, and the world after it was asked. -/
def blockOwner (w : World) (s : Value) : Value × World :=
  let (answer, db) := w.db.call .var (some [s]) ""
  (answer, { w with db := db })

theorem blockOwner_run (w : World) (s : Value) :
    (fetchVar [s]).run w = .ok (blockOwner w s).1 (blockOwner w s).2 ∧ (blockOwner w s).2.store = w.store :=
  ⟨Cache.query_run w _ _, rfl⟩

theorem Serving.of_store {w w' : World} {hv : Nat} {user sid : Value} (serving : Serving w hv user sid)
    (same : w'.store = w.store) : Serving w' hv user sid := by
  rw [Serving, same]
  exact serving

theorem Serving.userIdOf_run {w : World} {hv : Nat} {user sid : Value} {u : User}
    (serving : Serving w hv user sid) (c : Caller w user u) : (userIdOf (.ref hv)).run w = .ok u.id w := by
  obtain ⟨hu, rfl, listener⟩ := c
  simp [userIdOf, someUser, EStateM.run_bind, run_map, serving.userOf_run, Ratings.listener_run listener]

/-- An endpoint's request as its handler serves it: prepared and checked, then served. -/
def serveChecked (e : Endpoint) (v : Value) : Act Unit := do
  prepareStandalone e v
  e.serve v

namespace Blocks

/-- How deleting an election ends once the caller is let through: the election's row is deleted
and the request answers that it succeeded. -/
def deletion (v elec : Value) : Act Unit := do
  let _ ← Elections.delete elec
  answer v (Value.record [("success", .bool true)])

theorem deleteElection_needs_owner {w w1 : World} {hv hu : Nat} {h : Handler} {u : User}
    {elecId elec : Value} (held : w.store[hv]? = some (.handler h)) (caller : h.user = .ref hu)
    (kept : KeptCaller w (.ref hu) u) (named : Dict.field? h.cleanedArgs "elec_id" = some elecId)
    (loaded : (Elections.load .election elecId).run w = .ok elec w1) :
    ∃ s, OnBlock w1 elec s ∧
      (deleteElection.serve (.ref hv)).run w =
        if u.administers then (deletion (.ref hv) elec).run w1
        else if Value.equals u.id (blockOwner w1 s).1 then (deletion (.ref hv) elec).run (blockOwner w1 s).2
        else .error (refuse "auth_required" 403) (blockOwner w1 s).2 := by
  obtain ⟨s, e, ev, rfl, stored, block⟩ := Elections.load_block loaded
  -- the handler and its caller are outside the catalog, so the load keeps them
  have others := (Elections.load_keeps_others .election elecId w).1 _ _ loaded
  obtain ⟨_, same, listener⟩ := kept.caller
  cases same
  have kept1 : KeptCaller w1 (.ref hu) u := ⟨⟨hu, rfl, others _ _ listener rfl⟩, kept.keys⟩
  have serving1 : Serving w1 hv (.ref hu) h.sid := ⟨h, others _ _ held rfl, caller, rfl⟩
  have argument_run : (argument (.ref hv) "elec_id").run w = .ok elecId w := by
    simp [argument, argumentOr, handlerOf, handlerAt, EStateM.run_bind, Ratings.deref_run_of held, named]
  refine ⟨s, ⟨e, ev, rfl, stored, block⟩, ?_⟩
  simp only [deleteElection]
  rw [run_bind_ok argument_run, run_bind_ok loaded, run_bind_ok serving1.userOf_run,
    run_bind_ok kept1.isAdmin_run]
  cases admin : u.administers
  · -- any other caller is asked for by the owner of the election's block
    have asked := blockOwner_run w1 s
    have identified := (serving1.of_store asked.2).userIdOf_run (kept1.caller.of_store asked.2)
    simp only [Bool.not_false, ↓reduceIte, Bool.false_eq_true]
    rw [run_bind_ok (attributeOf_ref_run stored (Event.attribute_schedId block)), run_bind_ok asked.1,
      run_bind_ok identified]
    cases Value.equals u.id (blockOwner w1 s).1 <;> simp [deletion, EStateM.run_bind]
  · rfl

/-- A station where listener 2 asks through handler 0 to delete election 5, whose row puts it on
block 42 and whose block the database gives to listener 9. -/
def foreignDelete : World :=
  { db := { queues :=
      { row := [.dict [(.str "elec_type", .str "Election"), (.str "elec_used", .bool false),
          (.str "elec_start_actual", .none), (.str "elec_in_progress", .bool false), (.str "sid", .int 1),
          (.str "elec_priority", .bool false), (.str "sched_id", .int 42)]]
        all := [.list []]
        var := [.int 9] } }
    store := #[
      .handler { route := "/api4/admin/delete_election", sid := .int 1, user := .ref 1,
                 cleanedArgs := [(.str "elec_id", .int 5)] },
      .user { id := .int 2 }] }

theorem foreign_delete_gated :
    ∃ elec w1, (Elections.load .election (.int 5)).run foreignDelete = .ok elec w1 ∧
      ∃ s, OnBlock w1 elec s ∧
        (deleteElection.serve (.ref 0)).run foreignDelete =
          if ({ id := .int 2 } : User).administers then (deletion (.ref 0) elec).run w1
          else if Value.equals (.int 2) (blockOwner w1 s).1 then (deletion (.ref 0) elec).run (blockOwner w1 s).2
          else .error (refuse "auth_required" 403) (blockOwner w1 s).2 := by
  obtain ⟨elec, w1, loaded⟩ := Elections.returns_of_succeeds (x := Elections.load .election (.int 5))
    (w := foreignDelete) (by decide +kernel)
  have kept : KeptCaller foreignDelete (.ref 1) { id := .int 2 } :=
    ⟨⟨1, rfl, rfl⟩, User.default_has_gateKeys _⟩
  exact ⟨elec, w1, loaded, deleteElection_needs_owner rfl rfl kept rfl loaded⟩

/-- A station where listener 2, who owns an unused block and queued song 7 for a DJ election,
asks through handler 0 to commit it on block 42. The database says that block 42 exists, that
listener 2 owns an unused block, and, asked next, that block 42 belongs to listener 9. -/
def foreignCommit : World :=
  { config := { opts := [(.str "stations", .dict [(.int 1, .dict [(.str "songs_in_election", .int 3),
      (.str "num_planned_elections", .int 2)])])], stationIds := [.int 1] }
    cache := { entries := [(.str "u2_dj_election", .list [.ref 2])] }
    db := { queues := { var := [.int 1, .int 42, .int 9] } }
    store := #[
      .handler { route := "/api4/admin/commit_dj_election", sid := .int 1, user := .ref 1,
                 request := .ref 3 },
      .user { id := .int 2 },
      .song { id := .int 7, albums := .list [], groups := .list [] },
      .record "FakeRequestObject" [("arguments", .dict [(.str "sched_id", .int 42)]), ("cookies", .dict [])]] }

/-- Listener 2 does not administer, yet commits an election on block 42, which the database would
have given to listener 9: the request succeeds, the election's row is written on block 42, and the
owner's answer is left unread. -/
theorem foreign_block_commit_succeeds :
    ({ id := .int 2 } : User).administers = false ∧
      succeeds (serveChecked commitDjElection (.ref 0)) foreignCommit = true ∧
      (worldAfter (serveChecked commitDjElection (.ref 0)) foreignCommit).db.log.any
        (Value.equals · (.list [.str "update", .list [.int 1, .bool false, .str "Election", .int 1, .int 42]])) ∧
      Value.equals (.list (worldAfter (serveChecked commitDjElection (.ref 0)) foreignCommit).db.queues.var)
        (.list [.int 9]) := by
  refine ⟨by decide, by decide +kernel, by decide +kernel, by decide +kernel⟩

end Blocks

end Api

end Airwaves
