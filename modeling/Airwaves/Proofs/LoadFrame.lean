import Airwaves.Proofs.Actions
import Airwaves.Catalog.Song
/-!
# What loading a song leaves alone

Loading a song only adds objects and rewrites albums, artists and groups in place (`Guards`,
`LoaderFrame`), so it touches no song or event stored before.
-/

namespace Airwaves

theorem run_tryCatch {α : Type} (x : Act α) (h : Fault → Act α) (w : World) :
    (tryCatch x h).run w = match x.run w with
      | .ok a w' => .ok a w'
      | .error e w' => (h e).run w' := by
  show EStateM.tryCatch x h w = _
  simp only [EStateM.tryCatch, EStateM.run]
  cases x w <;> rfl

/-- Whatever its outcome, every run of the action relates the world it starts from to the world
it ends in. -/
def Guards {α : Type} (R : World → World → Prop) (x : Act α) : Prop :=
  ∀ w, (∀ r w', x.run w = .ok r w' → R w w') ∧ (∀ f w', x.run w = .error f w' → R w w')

/-- A relation between worlds that composes and holds wherever the store is unchanged. -/
structure Frame (R : World → World → Prop) : Prop where
  trans : ∀ {u v w}, R u v → R v w → R u w
  same : ∀ {w w'}, w'.store = w.store → R w w'

/-- A frame that also holds across adding an object to the store and across rewriting an album,
artist or group in place: the two things loading the catalog does to the store. -/
structure LoaderFrame (R : World → World → Prop) : Prop extends Frame R where
  push : ∀ {w w'} (o : Obj), w'.store = w.store.push o → R w w'
  rewrite : ∀ {w w'} {h : Nat} {m : Metadata} (m' : Metadata), w.store[h]? = some (.metadata m) →
    w'.store = w.store.set! h (.metadata m') → R w w'

namespace Guards

variable {α β : Type} {R : World → World → Prop}

section Frame

variable (F : Frame R)
include F

theorem of_store {x : Act α}
    (ok : ∀ w r w', x.run w = .ok r w' → w'.store = w.store)
    (err : ∀ w f w', x.run w = .error f w' → w'.store = w.store) : Guards R x :=
  fun w => ⟨fun r w' run => F.same (ok w r w' run), fun f w' run => F.same (err w f w' run)⟩

theorem pure (a : α) : Guards R (Pure.pure a : Act α) :=
  of_store F (fun _ _ _ run => by cases run; rfl) (fun _ _ _ run => by cases run)

theorem raise (f : Fault) : Guards R (Act.raise f : Act α) :=
  of_store F (fun _ _ _ run => by cases run) (fun _ _ _ run => by cases run; rfl)

theorem get : Guards R (MonadState.get : Act World) :=
  of_store F (fun _ _ _ run => by cases run; rfl) (fun _ _ _ run => by cases run)

theorem modifyGet (f : World → α × World) (kept : ∀ w, (f w).2.store = w.store) :
    Guards R (MonadStateOf.modifyGet f : Act α) :=
  of_store F (fun w _ _ run => by cases run; exact kept w) (fun _ _ _ run => by cases run)

theorem lift (e : Except Fault α) : Guards R (Act.lift e) := by
  cases e with
  | ok a => exact pure F a
  | error f => exact raise F f

/-- The rest of a bind only needs to be guarded from the worlds the first action returns in. -/
theorem bind_of_run {x : Act α} {f : α → Act β} (hx : Guards R x)
    (hf : ∀ w a w1, x.run w = .ok a w1 →
      (∀ r w', (f a).run w1 = .ok r w' → R w1 w') ∧ (∀ e w', (f a).run w1 = .error e w' → R w1 w')) :
    Guards R (x >>= f) := by
  intro w
  simp only [EStateM.run_bind]
  cases ran : x.run w with
  | ok a w1 =>
    -- the rest starts where the first action left off
    exact ⟨fun r w' run => F.trans ((hx w).1 a w1 ran) ((hf w a w1 ran).1 r w' run),
      fun e w' run => F.trans ((hx w).1 a w1 ran) ((hf w a w1 ran).2 e w' run)⟩
  | error e w1 =>
    refine ⟨fun r w' run => ?_, fun e' w' run => ?_⟩
    · cases run
    · cases run
      exact (hx w).2 e w1 ran

theorem bind {x : Act α} {f : α → Act β} (hx : Guards R x) (hf : ∀ a, Guards R (f a)) :
    Guards R (x >>= f) :=
  bind_of_run F hx fun _ a w1 _ => hf a w1

theorem tryCatch {x : Act α} {h : Fault → Act α} (hx : Guards R x) (hh : ∀ e, Guards R (h e)) :
    Guards R (tryCatch x h) := by
  intro w
  rw [run_tryCatch]
  cases ran : x.run w with
  | ok a w1 =>
    refine ⟨fun r w' run => ?_, fun e w' run => ?_⟩
    · cases run
      exact (hx w).1 a w1 ran
    · cases run
  | error e w1 =>
    -- the handler starts where the failure left off
    exact ⟨fun r w' run => F.trans ((hx w).2 e w1 ran) ((hh e w1).1 r w' run),
      fun e' w' run => F.trans ((hx w).2 e w1 ran) ((hh e w1).2 e' w' run)⟩

/-- An action that fails at once never runs what follows it. -/
theorem raise_bind (f : Fault) (k : α → Act β) : Guards R (Act.raise f >>= k) :=
  of_store F (fun _ _ _ run => by cases run) (fun _ _ _ run => by cases run; rfl)

theorem attempt {x : Act α} (hx : Guards R x) : Guards R (Act.attempt x) :=
  tryCatch F (bind F hx fun _ => pure F _) fun _ => pure F _

theorem forIn (xs : List α) (b : β) {f : α → β → Act (ForInStep β)}
    (hf : ∀ x b, Guards R (f x b)) : Guards R (forIn xs b f) := by
  induction xs generalizing b with
  | nil => exact pure F b
  | cons x rest ih =>
    rw [List.forIn_cons]
    refine bind F (hf x b) fun step => ?_
    cases step with
    | done b' => exact pure F b'
    | yield b' => exact ih b'

theorem mapM {xs : List α} {f : α → Act β} (hf : ∀ x, Guards R (f x)) : Guards R (xs.mapM f) := by
  induction xs with
  | nil => exact pure F []
  | cons x rest ih =>
    rw [List.mapM_cons]
    exact bind F (hf x) fun b => bind F ih fun bs => pure F _

end Frame

end Guards

/-! ## Reading the world -/

section Reads

variable {R : World → World → Prop} (F : Frame R)
include F

theorem deref_guards (h : Nat) : Guards R (deref h) := by
  unfold deref
  refine Guards.bind F (Guards.get F) fun w => ?_
  split
  · exact Guards.pure F _
  · exact Guards.raise F _

theorem kindNameOf_guards (v : Value) : Guards R (kindNameOf v) := by
  unfold kindNameOf
  split
  · exact Guards.bind F (deref_guards F _) fun _ => Guards.pure F _
  · exact Guards.pure F _

theorem noMember_guards {α : Type} (v : Value) (name : String) : Guards R (noMember v name : Act α) :=
  Guards.bind F (kindNameOf_guards F v) fun _ => Guards.raise F _

theorem itemOf_guards (c k : Value) : Guards R (itemOf c k) := by
  unfold itemOf
  dsimp only
  -- one branch per kind of container and key, each a lookup, a return or a failure
  repeat' first
    | with_reducible refine Guards.bind F ?_ fun _ => ?_
    | split
    | exact Guards.pure F _
    | exact Guards.raise F _
    | exact deref_guards F _
    | exact kindNameOf_guards F _

theorem col_guards (row : Value) (key : String) : Guards R (col row key) := itemOf_guards F row _

theorem itemsOf_guards (v : Value) : Guards R (itemsOf v) := by
  unfold itemsOf
  split
  all_goals first
    | exact Guards.pure F _
    | exact Guards.bind F (kindNameOf_guards F _) fun _ => Guards.raise F _

theorem isIn_guards (key container : Value) : Guards R (isIn key container) := by
  unfold isIn
  split
  · exact Guards.raise F _
  · exact Guards.lift F _

theorem roundTo_guards (v : Value) (places : Int) : Guards R (roundTo v places) := Guards.lift F _

theorem metadataAt_guards (v : Value) : Guards R (metadataAt v) := by
  unfold metadataAt
  split
  · refine Guards.bind F (deref_guards F _) fun o => ?_
    split
    · exact Guards.pure F _
    · exact noMember_guards F _ _
  · exact noMember_guards F _ _

theorem songAt_guards (v : Value) : Guards R (songAt v) := by
  unfold songAt
  split
  · refine Guards.bind F (deref_guards F _) fun o => ?_
    split
    · exact Guards.pure F _
    · exact noMember_guards F _ _
  · exact noMember_guards F _ _

theorem query_guards (k : QueryKind) (params : List Value) : Guards R (query k params) :=
  Guards.modifyGet F _ fun _ => rfl

theorem queryText_guards (k : QueryKind) (sql : String) : Guards R (queryText k sql) :=
  Guards.modifyGet F _ fun _ => rfl

theorem queryStatement_guards (k : QueryKind) (sql : String) (params : List Value) :
    Guards R (queryStatement k sql params) :=
  Guards.modifyGet F _ fun _ => rfl

theorem joinsOnUpdate_guards : Guards R joinsOnUpdate :=
  Guards.bind F (Guards.get F) fun _ => Guards.pure F _

theorem configCurrent_guards : Guards R Config.current :=
  Guards.bind F (Guards.get F) fun _ => Guards.pure F _

theorem configGet_guards (key : String) : Guards R (Config.get key) := by
  unfold Config.get Config.option Config.require Config.has
  repeat' first
    | with_reducible refine Guards.bind F ?_ fun _ => ?_
    | split
    | exact Guards.pure F _
    | exact Guards.raise F _
    | exact configCurrent_guards F

theorem stationIdList_guards : Guards R Config.stationIdList :=
  Guards.bind F (configCurrent_guards F) fun _ => Guards.pure F _

theorem metadataOf_guards (v : Value) : Guards R (Catalog.metadataOf v) :=
  Guards.bind F (metadataAt_guards F v) fun _ => Guards.pure F _

theorem songOf_guards (v : Value) : Guards R (Songs.songOf v) :=
  Guards.bind F (songAt_guards F v) fun _ => Guards.pure F _

end Reads

/-! ## Reconciling albums and groups, and disabling a song

These only read the store and write to the database and the list of updated albums. -/

section Reconcile

variable {R : World → World → Prop} (F : Frame R)
include F

theorem markUpdated_guards (sid albumId : Value) : Guards R (Catalog.markUpdated sid albumId) := by
  unfold Catalog.markUpdated
  refine Guards.bind F (Guards.get F) fun _ => Guards.bind F (itemOf_guards F _ _) fun _ => ?_
  exact Guards.modifyGet F _ fun _ => rfl

theorem albumSongCount_guards (v sid : Value) : Guards R (Catalog.albumSongCount v sid) :=
  Guards.bind F (metadataOf_guards F v) fun _ => query_guards F _ _

theorem updateAllUserRatings_guards (v : Value) : Guards R (Catalog.updateAllUserRatings v) := by
  unfold Catalog.updateAllUserRatings
  repeat' first
    | with_reducible refine Guards.bind F ?_ fun _ => ?_
    | with_reducible refine Guards.forIn F _ _ fun _ _ => ?_
    | split
    | exact Guards.pure F _
    | exact joinsOnUpdate_guards F
    | exact metadataOf_guards F _
    | exact stationIdList_guards F
    | exact albumSongCount_guards F _ _
    | exact query_guards F _ _

theorem reconcileAlbum_guards (v : Value) : Guards R (Catalog.reconcileAlbum v) := by
  unfold Catalog.reconcileAlbum
  repeat' first
    | with_reducible refine Guards.bind F ?_ fun _ => ?_
    | with_reducible refine Guards.forIn F _ _ fun _ _ => ?_
    | split
    | exact Guards.pure F _
    | exact metadataOf_guards F _
    | exact itemsOf_guards F _
    | exact isIn_guards F _ _
    | exact markUpdated_guards F _ _
    | exact albumSongCount_guards F _ _
    | exact updateAllUserRatings_guards F _
    | exact query_guards F _ _
    | exact queryText_guards F _ _

theorem reconcileGroup_guards (v : Value) : Guards R (Catalog.reconcileGroup v) := by
  unfold Catalog.reconcileGroup
  dsimp only
  repeat' first
    | with_reducible refine Guards.bind F ?_ fun _ => ?_
    | with_reducible refine Guards.forIn F _ _ fun _ _ => ?_
    | with_reducible refine Guards.mapM F fun _ => ?_
    | split
    | exact Guards.pure F _
    | exact metadataOf_guards F _
    | exact itemsOf_guards F _
    | exact col_guards F _ _
    | exact stationIdList_guards F
    | exact query_guards F _ _
    | exact queryStatement_guards F _ _ _

theorem reconcile_guards (m : Value) : Guards R (Songs.reconcile m) := by
  unfold Songs.reconcile
  refine Guards.bind F (metadataOf_guards F m) fun _ => ?_
  split
  · exact Guards.bind F (reconcileAlbum_guards F m) fun _ => Guards.pure F _
  · exact reconcileGroup_guards F m
  · exact noMember_guards F _ _

theorem disable_guards (v : Value) : Guards R (Songs.disable v) := by
  unfold Songs.disable
  repeat' first
    | with_reducible refine Guards.bind F ?_ fun _ => ?_
    | with_reducible refine Guards.forIn F _ _ fun _ _ => ?_
    | split
    | exact Guards.pure F _
    | exact songOf_guards F _
    | exact itemsOf_guards F _
    | exact reconcile_guards F _
    | exact query_guards F _ _

end Reconcile

/-! ## Loading albums, artists and groups -/

section Loaders

variable {R : World → World → Prop} (L : LoaderFrame R)
include L

theorem alloc_guards (o : Obj) : Guards R (alloc o) := fun _ =>
  ⟨fun _ _ run => by cases run; exact L.push o rfl, fun _ _ run => by cases run⟩

theorem allocRef_guards (o : Obj) : Guards R (allocRef o) :=
  Guards.bind L.toFrame (alloc_guards L o) fun _ => Guards.pure L.toFrame _

theorem updateMetadata_guards (h : Nat) (f : Metadata → Metadata) : Guards R (updateMetadata h f) := by
  intro w
  unfold updateMetadata deref
  simp only [EStateM.run_bind, EStateM.run_get]
  cases stored : w.store[h]? with
  | none =>
    -- a dangling handle fails and changes nothing
    refine ⟨fun r w' run => ?_, fun e w' run => ?_⟩ <;> cases run
    exact L.same rfl
  | some o =>
    cases o
    case metadata m =>
      -- the one object rewritten is an album, artist or group
      refine ⟨fun r w' run => ?_, fun e w' run => ?_⟩ <;> cases run
      exact L.rewrite (f m) stored rfl
    all_goals
      refine ⟨fun r w' run => ?_, fun e w' run => ?_⟩ <;> cases run
      exact L.same rfl

theorem changeMetadata_guards (v : Value) (f : Metadata → Metadata) :
    Guards R (Catalog.changeMetadata v f) :=
  Guards.bind L.toFrame (metadataAt_guards L.toFrame v) fun _ => updateMetadata_guards L _ f

theorem setMetadataData_guards (v : Value) (key : String) (x : Value) :
    Guards R (Catalog.setData v key x) :=
  changeMetadata_guards L v _

theorem freshMetadata_guards (role : MetadataRole) : Guards R (Catalog.fresh role) :=
  allocRef_guards L _

theorem artUrl_guards (albumId sid : Value) : Guards R (Catalog.artUrl albumId sid) := by
  unfold Catalog.artUrl
  refine Guards.bind L.toFrame (configGet_guards L.toFrame _) fun _ => ?_
  split
  · exact Guards.pure L.toFrame _
  · exact Guards.pure L.toFrame _

theorem assignPlain_guards (v row : Value) : Guards R (Catalog.assignPlain v row) :=
  Guards.bind L.toFrame (col_guards L.toFrame row _) fun _ =>
    Guards.bind L.toFrame (col_guards L.toFrame row _) fun _ => changeMetadata_guards L v _

theorem assignAlbum_guards (v row sid : Value) : Guards R (Catalog.assignAlbum v row sid) := by
  unfold Catalog.assignAlbum
  repeat' first
    | with_reducible refine Guards.bind L.toFrame ?_ fun _ => ?_
    | with_reducible refine Guards.forIn L.toFrame _ _ fun _ _ => ?_
    | split
    | exact Guards.pure L.toFrame _
    | exact col_guards L.toFrame _ _
    | exact roundTo_guards L.toFrame _ _
    | exact changeMetadata_guards L _ _
    | exact setMetadataData_guards L _ _ _
    | exact artUrl_guards L _ _

theorem assign_guards (v row sid : Value) : Guards R (Catalog.assign v row sid) := by
  unfold Catalog.assign
  refine Guards.bind L.toFrame (metadataOf_guards L.toFrame v) fun m => ?_
  split
  · exact assignAlbum_guards L v row sid
  · exact assignPlain_guards L v row

theorem fromRows_guards (role : MetadataRole) (rows : Value) : Guards R (Catalog.fromRows role rows) := by
  unfold Catalog.fromRows
  refine Guards.bind L.toFrame (itemsOf_guards L.toFrame rows) fun items => ?_
  refine Guards.bind L.toFrame (Guards.forIn L.toFrame items _ fun row found => ?_) fun _ => ?_
  · exact Guards.bind L.toFrame (freshMetadata_guards L role) fun v =>
      Guards.bind L.toFrame (assign_guards L v row _) fun _ => Guards.pure L.toFrame _
  · exact Guards.pure L.toFrame _

theorem loadListFromSongId_guards (role : MetadataRole) (songId sid : Value) :
    Guards R (Catalog.loadListFromSongId role songId sid) := by
  unfold Catalog.loadListFromSongId
  split
  all_goals exact Guards.bind L.toFrame (query_guards L.toFrame _ _) fun rows => fromRows_guards L role rows

theorem loadFromIdSid_guards (albumId sid : Value) : Guards R (Albums.loadFromIdSid albumId sid) := by
  unfold Albums.loadFromIdSid
  repeat' first
    | with_reducible refine Guards.bind L.toFrame ?_ fun _ => ?_
    | split
    | exact Guards.pure L.toFrame _
    | exact Guards.raise L.toFrame _
    | exact query_guards L.toFrame _ _
    | exact freshMetadata_guards L _
    | exact assign_guards L _ _ _
    | exact changeMetadata_guards L _ _

end Loaders

/-! ## Songs and events kept -/

/-- Whether an object is a song or an event. -/
def Obj.isSongOrEvent : Obj → Bool
  | .song _ | .event _ => true
  | _ => false

/-- The store has not shrunk, and every song and event stored under a handle below `n` is still
there, unchanged. -/
def SongsKept (n : Nat) (w w' : World) : Prop :=
  w.store.size ≤ w'.store.size ∧
    ∀ h < n, ∀ o, w.store[h]? = some o → o.isSongOrEvent = true → w'.store[h]? = some o

/-- The song stored under handle `m`, if there is one, is still a song there, with its id. -/
def SongIdKept (m : Nat) (w w' : World) : Prop :=
  ∀ s, w.store[m]? = some (.song s) → ∃ s', w'.store[m]? = some (.song s') ∧ s'.id = s.id

theorem getElem?_push_of_some {a : Array Obj} {h : Nat} {o : Obj} (found : a[h]? = some o)
    (x : Obj) : (a.push x)[h]? = some o := by
  have below : h < a.size := (Array.getElem?_eq_some_iff.mp found).1
  rw [Array.getElem?_push, if_neg (Nat.ne_of_lt below), found]

theorem getElem?_set!_of_ne {a : Array Obj} {h i : Nat} (x : Obj) (other : i ≠ h) :
    (a.set! i x)[h]? = a[h]? := by
  rw [Array.set!_eq_setIfInBounds, Array.getElem?_setIfInBounds, if_neg other]

theorem getElem?_set!_self {a : Array Obj} {h : Nat} {o : Obj} (found : a[h]? = some o) (x : Obj) :
    (a.set! h x)[h]? = some x := by
  have below : h < a.size := (Array.getElem?_eq_some_iff.mp found).1
  rw [Array.set!_eq_setIfInBounds, Array.getElem?_setIfInBounds, if_pos rfl, if_pos below]

theorem songsKept_loaderFrame (n : Nat) : LoaderFrame (SongsKept n) where
  trans first second :=
    ⟨Nat.le_trans first.1 second.1, fun h below o found kind =>
      second.2 h below o (first.2 h below o found kind) kind⟩
  same same := ⟨Nat.le_of_eq (by rw [same]), fun h _ o found _ => by rw [same]; exact found⟩
  push x pushed :=
    ⟨by rw [pushed, Array.size_push]; omega, fun h _ o found _ => by
      rw [pushed]; exact getElem?_push_of_some found x⟩
  rewrite {w} {_} {i} {m} m' stored rewritten := by
    refine ⟨Nat.le_of_eq (by rw [rewritten, Array.size_set!]), fun h _ o found kind => ?_⟩
    -- the handle rewritten holds an album, artist or group, so it is not `h`
    have other : i ≠ h := by
      rintro rfl
      rw [stored] at found
      cases found
      simp [Obj.isSongOrEvent] at kind
    rw [rewritten, getElem?_set!_of_ne _ other, found]

theorem songIdKept_loaderFrame (m : Nat) : LoaderFrame (SongIdKept m) where
  trans first second s found := by
    obtain ⟨s1, found1, same1⟩ := first s found
    obtain ⟨s2, found2, same2⟩ := second s1 found1
    exact ⟨s2, found2, same2.trans same1⟩
  same same s found := ⟨s, by rw [same]; exact found, rfl⟩
  push x pushed s found := ⟨s, by rw [pushed]; exact getElem?_push_of_some found x, rfl⟩
  rewrite {w} {_} {i} {_} m' stored rewritten s found := by
    -- the handle rewritten holds an album, artist or group, so it is not the song's
    have other : i ≠ m := by
      rintro rfl
      rw [stored] at found
      cases found
    exact ⟨s, by rw [rewritten, getElem?_set!_of_ne _ other, found], rfl⟩

/-- The store itself is kept. -/
theorem storeKept_frame : Frame (fun w w' => w'.store = w.store) where
  trans first second := second.trans first
  same same := same

/-- The store has not shrunk, and every song and event stored when a run starts is still there,
unchanged, when it ends. -/
theorem songsKept_size_frame : Frame (fun w w' => SongsKept w.store.size w w') where
  trans first second :=
    ⟨Nat.le_trans first.1 second.1, fun h below o found kind =>
      second.2 h (Nat.lt_of_lt_of_le below first.1) o (first.2 h below o found kind) kind⟩
  same same := ⟨Nat.le_of_eq (by rw [same]), fun h _ o found _ => by rw [same]; exact found⟩

/-! ## Loading a song -/

theorem songAt_ref_run {m : Nat} {w w' : World} {p : Nat × Song}
    (run : (songAt (.ref m)).run w = .ok p w') : p.1 = m ∧ w' = w ∧ w.store[m]? = some (.song p.2) := by
  unfold songAt at run
  obtain ⟨o, w1, found, rest⟩ := run_bind_eq_ok run
  obtain ⟨rfl, stored⟩ := deref_run_inv found
  split at rest
  · obtain ⟨rfl, rfl⟩ := run_pure_eq_ok rest
    exact ⟨rfl, rfl, stored⟩
  · exact absurd rest (noMember_fails _ _ _ _ _)

theorem updateSong_run {h : Nat} {s : Song} {w : World} (stored : w.store[h]? = some (.song s))
    (f : Song → Song) : (updateSong h f).run w = .ok () { w with store := w.store.set! h (.song (f s)) } := by
  unfold updateSong deref
  simp only [EStateM.run_bind, EStateM.run_get, stored]
  rfl

theorem attempt_run {α : Type} (x : Act α) (w : World) :
    (Act.attempt x).run w = match x.run w with
      | .ok a w' => .ok (.ok a) w'
      | .error e w' => .ok (.error e) w' := by
  unfold Act.attempt
  rw [run_tryCatch, EStateM.run_bind]
  cases x.run w <;> rfl

namespace Songs

variable {R : World → World → Prop}

theorem changeSong_ref_run {m : Nat} {f : Song → Song} {w w' : World}
    (run : (changeSong (.ref m) f).run w = .ok () w') :
    ∃ s, w.store[m]? = some (.song s) ∧ w' = { w with store := w.store.set! m (.song (f s)) } := by
  unfold changeSong at run
  obtain ⟨⟨h, s⟩, w1, found, rest⟩ := run_bind_eq_ok run
  obtain ⟨same, back, stored⟩ := songAt_ref_run found
  dsimp only at same stored rest
  subst same back
  rw [updateSong_run stored] at rest
  cases rest
  exact ⟨s, stored, rfl⟩

/-- Changing the song under a handle is guarded by every frame that allows that one rewrite. -/
theorem changeSong_guards (F : Frame R) {m : Nat} {f : Song → Song}
    (step : ∀ w s, w.store[m]? = some (.song s) → R w { w with store := w.store.set! m (.song (f s)) }) :
    Guards R (changeSong (.ref m) f) := by
  unfold changeSong
  refine Guards.bind_of_run F (songAt_guards F _) fun w p w1 found => ?_
  obtain ⟨same, rfl, stored⟩ := songAt_ref_run found
  obtain ⟨h, s⟩ := p
  dsimp only at same ⊢
  subst same
  rw [updateSong_run stored]
  exact ⟨fun _ _ run => by cases run; exact step _ s stored, fun _ _ run => by cases run⟩

theorem changeSong_songsKept {n m : Nat} (above : n ≤ m) (f : Song → Song) :
    Guards (SongsKept n) (changeSong (.ref m) f) :=
  changeSong_guards (songsKept_loaderFrame n).toFrame fun _ _ _ =>
    ⟨Nat.le_of_eq (Array.size_set! _ _ _).symm, fun h below o found _ => by
      rw [getElem?_set!_of_ne _ (by omega), found]⟩

theorem changeSong_songIdKept (m : Nat) {f : Song → Song} (keepsId : ∀ s, (f s).id = s.id) :
    Guards (SongIdKept m) (changeSong (.ref m) f) :=
  changeSong_guards (songIdKept_loaderFrame m).toFrame fun _ s stored s' found => by
    rw [stored] at found
    cases found
    exact ⟨f s, getElem?_set!_self stored _, keepsId s⟩

section Fill

variable (L : LoaderFrame R) {m : Nat}
  (rewrites : ∀ f : Song → Song, (∀ s, (f s).id = s.id) → Guards R (changeSong (.ref m) f))
include L rewrites

omit L in
theorem setData_guards (key : String) (x : Value) : Guards R (setData (.ref m) key x) :=
  rewrites _ fun _ => rfl

theorem assignRow_guards (row : Value) : Guards R (assignRow (.ref m) row) := by
  unfold assignRow
  dsimp only
  repeat' first
    | with_reducible refine Guards.bind L.toFrame ?_ fun _ => ?_
    | with_reducible refine Guards.forIn L.toFrame _ _ fun _ _ => ?_
    | split
    | exact Guards.pure L.toFrame _
    | exact noMember_guards L.toFrame _ _
    | exact setData_guards rewrites _ _

/-- Filling a song from its row rewrites only that song, keeping its id, and loads its album,
artists and groups. -/
theorem fill_guards (songId sid row : Value) : Guards R (fill (.ref m) songId sid row) := by
  unfold fill
  repeat' first
    | with_reducible refine Guards.bind L.toFrame ?_ fun _ => ?_
    | split
    | exact Guards.pure L.toFrame _
    | exact col_guards L.toFrame _ _
    | exact query_guards L.toFrame _ _
    | exact rewrites _ fun _ => rfl
    | exact setData_guards rewrites _ _
    | exact assignRow_guards L rewrites _
    | exact loadFromIdSid_guards L _ _
    | exact loadListFromSongId_guards L _ _ _

end Fill

theorem findRow_guards (F : Frame R) (songId sid : Value) : Guards R (findRow songId sid) := by
  unfold findRow
  repeat' first
    | with_reducible refine Guards.bind F ?_ fun _ => ?_
    | split
    | exact Guards.pure F _
    | exact col_guards F _ _
    | exact query_guards F _ _

theorem fresh_run (w : World) :
    fresh.run w = .ok (.ref w.store.size) { w with store := w.store.push (.song {}) } := rfl

/-- What follows the allocation of a song may rewrite it: it only has to keep what was stored
below it. -/
theorem fresh_bind_keeps {β : Type} {k : Value → Act β} (rest : ∀ m, Guards (SongsKept m) (k (.ref m))) :
    Guards (fun w w' => SongsKept w.store.size w w') (fresh >>= k) := by
  intro w
  simp only [EStateM.run_bind, fresh_run]
  have pushed : SongsKept w.store.size w { w with store := w.store.push (.song {}) } :=
    ⟨by simp, fun _ _ _ found _ => getElem?_push_of_some found _⟩
  exact ⟨fun r w' run => (songsKept_loaderFrame _).trans pushed ((rest _ _).1 r w' run),
    fun e w' run => (songsKept_loaderFrame _).trans pushed ((rest _ _).2 e w' run)⟩

/-- Whatever its outcome, loading a song keeps every song and event stored when it started. -/
theorem loadFromId_keeps (songId sid : Value) :
    Guards (fun w w' => SongsKept w.store.size w w') (loadFromId songId sid) := by
  unfold loadFromId
  refine Guards.bind songsKept_size_frame (findRow_guards songsKept_size_frame _ _) fun p => ?_
  dsimp only
  split
  · -- a missing row fails before anything is allocated
    exact Guards.raise_bind songsKept_size_frame _ _
  · -- from the allocation on, only the new song under `m` is rewritten
    refine fresh_bind_keeps fun m => ?_
    have L := songsKept_loaderFrame m
    refine Guards.bind L.toFrame (changeSong_songsKept (Nat.le_refl m) _) fun _ => ?_
    refine Guards.bind L.toFrame (Guards.attempt L.toFrame
      (fill_guards L (fun f _ => changeSong_songsKept (Nat.le_refl m) f) _ _ _)) fun filled => ?_
    split
    · exact Guards.pure L.toFrame _
    · exact Guards.bind L.toFrame (disable_guards L.toFrame _) fun _ => Guards.raise L.toFrame _

/-- A loaded song is a new song, stored under the first handle that was free when the load
started, and it carries the id it was loaded by. -/
theorem loadFromId_fresh {songId sid v : Value} {w w' : World}
    (run : (loadFromId songId sid).run w = .ok v w') :
    v = .ref w.store.size ∧ ∃ s, w'.store[w.store.size]? = some (.song s) ∧ s.id = songId := by
  unfold loadFromId at run
  obtain ⟨⟨row, sid'⟩, w1, found, run⟩ := run_bind_eq_ok run
  -- reading the row leaves the store as it was
  have read : w1.store = w.store := (findRow_guards storeKept_frame _ _ w).1 _ _ found
  dsimp only at run
  split at run
  · obtain ⟨_, _, raised, _⟩ := run_bind_eq_ok run
    cases raised
  obtain ⟨v', w2, allocated, run⟩ := run_bind_eq_ok run
  rw [fresh_run] at allocated
  cases allocated
  obtain ⟨_, w3, named, run⟩ := run_bind_eq_ok run
  obtain ⟨blank, stored, rfl⟩ := changeSong_ref_run named
  rw [Array.getElem?_push_size] at stored
  cases stored
  obtain ⟨filled, w4, attempted, run⟩ := run_bind_eq_ok run
  rw [attempt_run] at attempted
  split at attempted
  · -- the song was filled: filling kept its id
    rename_i ran
    cases attempted
    obtain ⟨rfl, rfl⟩ := run_pure_eq_ok run
    have kept := (fill_guards (songIdKept_loaderFrame _) (fun _ keepsId => changeSong_songIdKept _ keepsId)
      _ _ _ _).1 _ _ ran
    obtain ⟨s, found, same⟩ := kept _ (getElem?_set!_self (Array.getElem?_push_size) _)
    exact ⟨by rw [read], s, by rw [← read]; exact found, same⟩
  · -- filling failed: the song is disabled and the load fails
    cases attempted
    obtain ⟨_, _, _, raised⟩ := run_bind_eq_ok run
    cases raised

end Songs

end Airwaves
